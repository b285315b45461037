/-!
# JSON values

The values that documents hold. Whole numbers and floating point numbers are different values;
objects keep their members in order, one for each name.

## Main definitions

* `Json`: values
* `Container`: the values that hold others
* `Members`: the members of an object, in order
* `Members.find?`, `Members.put`: look-up, and insertion that keeps the place of a known name
* `Members.ofPairs`: the members that remain when every pair is put in turn

## Main results

* `Json.same_iff`: equality of values can be decided
* `Members.ofPairs_of_nodup`: pairs of different names stay as they are
-/

namespace PlatformClient

/-- A value of a document. -/
inductive Json where
  | null
  | bool (b : Bool)
  | integer (n : Int)
  | float (x : Float)
  | string (s : String)
  | array (items : List Json)
  | object (members : List (String × Json))

instance : Inhabited Json := ⟨.null⟩

/-- The kinds of values that hold others. -/
inductive Container where
  | array
  | object
deriving DecidableEq

/-- The word for a kind of container. -/
def Container.wording : Container → String
  | array => "array"
  | object => "object"

/-- The text of the refusal of what lies too deep, by what is being done. -/
def depthRefusal (activity : String) : String :=
  "maximum recursion depth exceeded while " ++ activity

/-- Whether a value is null. -/
def Json.isNull : Json → Bool
  | .null => true
  | _ => false

mutual

/-- Whether two values are the same. -/
def Json.same : Json → Json → Bool
  | .null, .null => true
  | .bool a, .bool b => decide (a = b)
  | .integer a, .integer b => decide (a = b)
  | .float a, .float b => decide (a = b)
  | .string a, .string b => decide (a = b)
  | .array a, .array b => Json.sameItems a b
  | .object a, .object b => Json.sameMembers a b
  | _, _ => false

/-- Whether two lists hold the same items. -/
def Json.sameItems : List Json → List Json → Bool
  | [], [] => true
  | a :: as, b :: bs => Json.same a b && Json.sameItems as bs
  | _, _ => false

/-- Whether two lists hold the same members in the same order. -/
def Json.sameMembers : List (String × Json) → List (String × Json) → Bool
  | [], [] => true
  | (name, a) :: as, (other, b) :: bs =>
    decide (name = other) && Json.same a b && Json.sameMembers as bs
  | _, _ => false

end

mutual

/-- Values that are the same are equal, and no others. -/
theorem Json.same_iff (a b : Json) : Json.same a b = true ↔ a = b := by
  cases a <;> cases b <;> simp [Json.same]
  · exact Json.sameItems_iff _ _
  · exact Json.sameMembers_iff _ _

theorem Json.sameItems_iff (as bs : List Json) : Json.sameItems as bs = true ↔ as = bs := by
  match as, bs with
  | [], [] => simp [Json.sameItems]
  | [], _ :: _ => simp [Json.sameItems]
  | _ :: _, [] => simp [Json.sameItems]
  | a :: as, b :: bs =>
    simp [Json.sameItems, Json.same_iff a b, Json.sameItems_iff as bs]

theorem Json.sameMembers_iff (as bs : List (String × Json)) :
    Json.sameMembers as bs = true ↔ as = bs := by
  match as, bs with
  | [], [] => simp [Json.sameMembers]
  | [], _ :: _ => simp [Json.sameMembers]
  | _ :: _, [] => simp [Json.sameMembers]
  | (name, a) :: as, (other, b) :: bs =>
    simp [Json.sameMembers, Json.same_iff a b, Json.sameMembers_iff as bs]

end

instance : DecidableEq Json := fun a b => decidable_of_iff _ (Json.same_iff a b)

/-- The members of an object, in order. -/
abbrev Members := List (String × Json)

namespace Members

/-- The value of the member of that name. -/
def find? : Members → String → Option Json
  | [], _ => none
  | (other, value) :: rest, name => if other = name then some value else find? rest name

/-- The members with that one added at the end, or put in the place of its name. -/
def put (name : String) (value : Json) : Members → Members
  | [] => [(name, value)]
  | (other, old) :: rest =>
    if other = name then (name, value) :: rest else (other, old) :: put name value rest

/-- The members that remain when every pair is put in turn: of two pairs of one name the later
value stays, in the earlier place. -/
def ofPairs (pairs : List (String × Json)) : Members :=
  pairs.foldl (fun members pair => put pair.1 pair.2 members) []

/-- The names of the members. -/
def names (members : Members) : List String := members.map (·.1)

@[simp] theorem find?_nil (name : String) : find? [] name = none := rfl

@[simp] theorem find?_cons (other name : String) (value : Json) (rest : Members) :
    find? ((other, value) :: rest) name = if other = name then some value else find? rest name :=
  rfl

/-- A name is found exactly when a member has it. -/
theorem find?_isSome_iff {members : Members} {name : String} :
    (find? members name).isSome = true ↔ name ∈ members.names := by
  induction members with
  | nil => simp [names]
  | cons member rest ih =>
    obtain ⟨key, value⟩ := member
    rw [names, List.map_cons, List.mem_cons, find?_cons]
    by_cases h : key = name
    · simp [h]
    · rw [if_neg h, ih, names]
      simp [Ne.symm h]

/-- A new name goes to the end. -/
theorem put_of_not_mem {name : String} {members : Members} (h : name ∉ members.names)
    (value : Json) : put name value members = members ++ [(name, value)] := by
  induction members with
  | nil => rfl
  | cons member rest ih =>
    simp only [names, List.map_cons, List.mem_cons, not_or] at h
    rw [put, if_neg (Ne.symm h.1), ih h.2, List.cons_append]

/-- Pairs of different names stay as they are. -/
theorem ofPairs_of_nodup {pairs : List (String × Json)} (h : (pairs.map (·.1)).Nodup) :
    ofPairs pairs = pairs := by
  have key : ∀ (done rest : List (String × Json)), ((done ++ rest).map (·.1)).Nodup →
      rest.foldl (fun members pair => put pair.1 pair.2 members) done = done ++ rest := by
    intro done rest
    induction rest generalizing done with
    | nil => simp
    | cons pair rest ih =>
      intro hn
      have hp : pair.1 ∉ names done := by
        rw [List.map_append, List.nodup_append] at hn
        exact fun hm => hn.2.2 _ hm _ (by simp) rfl
      rw [List.foldl_cons, put_of_not_mem hp, ih] <;> simp_all
  simpa [ofPairs] using key [] pairs (by simpa using h)

end Members

end PlatformClient
