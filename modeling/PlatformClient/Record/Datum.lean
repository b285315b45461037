import PlatformClient.Json.Display

/-!
# Checked values

What remains of a document that has the required form: texts, secrets, whole numbers, lists and
records. A record has a value for every field, and knows which of them the document supplied.

## Main definitions

* `Record.Datum`: checked values
* `Record.Datum.field`, `Record.Datum.asText`, `Record.Datum.asInteger`: access to parts
* `Record.Datum.suppliedNames`: what the document of a record supplied
* `Record.Datum.withoutNulls`: a value without its fields that are null
* `Record.Datum.toJson`: a value as a document
* `Record.Datum.display`: a value in log lines
-/

namespace PlatformClient.Record

/-- The name of a field, and whether the document supplied it. -/
structure Slot where
  name : String
  supplied : Bool
deriving DecidableEq

/-- A checked value. A record holds its fields in order, and members beyond them as they were
read. -/
inductive Datum where
  | null
  | text (s : String)
  | secret (s : String)
  | integer (n : Int)
  | list (items : List Datum)
  | record (title : String) (slots : List (Slot × Datum)) (others : Members)

instance : Inhabited Datum := ⟨.null⟩

namespace Datum

/-! ## Access -/

/-- The value of a field; null where there is none. -/
def field (name : String) : Datum → Datum
  | record _ slots _ => ((slots.find? (·.1.name == name)).map (·.2)).getD null
  | _ => null

/-- The text that a value is; empty for other values. -/
def asText : Datum → String
  | text s | secret s => s
  | _ => ""

/-- The whole number that a value is; zero for other values. -/
def asInteger : Datum → Int
  | integer n => n
  | _ => 0

/-- The text that a value is, unless it is null. -/
def asText? : Datum → Option String
  | text s | secret s => some s
  | _ => none

/-- The whole number that a value is, unless it is null. -/
def asInteger? : Datum → Option Int
  | integer n => some n
  | _ => none

/-- The items of a list; none for other values. -/
def asList : Datum → List Datum
  | list items => items
  | _ => []

/-! ## Documents -/

/-- What stands for a secret that is not shown; nothing stands for an empty one. -/
def hidden (s : String) : String := if s.isEmpty then "" else "**********"

mutual

/-- A value as a document. Secrets stay hidden. -/
def toJson : Datum → Json
  | null => .null
  | text s => .string s
  | secret s => .string (hidden s)
  | integer n => .integer n
  | list items => .array (itemsToJson items)
  | record _ slots others => .object (slotsToJson slots ++ others)

/-- Items as parts of a document. -/
def itemsToJson : List Datum → List Json
  | [] => []
  | item :: rest => toJson item :: itemsToJson rest

/-- Fields as members of a document. -/
def slotsToJson : List (Slot × Datum) → Members
  | [] => []
  | (slot, value) :: rest => (slot.name, toJson value) :: slotsToJson rest

end

mutual

/-- A value without its fields that are null, in all records it contains. Of the members beyond the
fields only those that are null themselves are left out. -/
def withoutNulls : Datum → Datum
  | list items => list (itemsWithoutNulls items)
  | record title slots others =>
    record title (slotsWithoutNulls slots) (others.filter fun member => !member.2.isNull)
  | value => value

/-- `withoutNulls` for all items. -/
def itemsWithoutNulls : List Datum → List Datum
  | [] => []
  | item :: rest => withoutNulls item :: itemsWithoutNulls rest

/-- `withoutNulls` for all fields, less those that are null. -/
def slotsWithoutNulls : List (Slot × Datum) → List (Slot × Datum)
  | [] => []
  | (_, null) :: rest => slotsWithoutNulls rest
  | (slot, value) :: rest => (slot, withoutNulls value) :: slotsWithoutNulls rest

end

/-- The names of the fields and members of a record that its document supplied. -/
def suppliedNames : Datum → List String
  | record _ slots others => (slots.filter (·.1.supplied)).map (·.1.name) ++ others.names
  | _ => []

/-! ## Log lines -/

/-- A member beyond the fields. -/
def displayOther (member : String × Json) : List Char :=
  member.1.toList ++ '=' :: Json.literal member.2

mutual

/-- A value in log lines. -/
def display : Datum → List Char
  | null => Json.literal .null
  | text s => Json.literal (.string s)
  | secret s => "SecretStr(".toList ++ Text.quoted (hidden s).toList ++ [')']
  | integer n => Json.literal (.integer n)
  | list items => '[' :: displayItems items ++ [']']
  | record title slots others =>
    title.toList ++ '(' ::
      [',', ' '].intercalate (displaySlots slots ++ others.map displayOther) ++ [')']

/-- Items, separated. -/
def displayItems : List Datum → List Char
  | [] => []
  | [item] => display item
  | item :: next :: rest => display item ++ ',' :: ' ' :: displayItems (next :: rest)

/-- Fields with their values, one by one. -/
def displaySlots : List (Slot × Datum) → List (List Char)
  | [] => []
  | (slot, value) :: rest => (slot.name.toList ++ '=' :: display value) :: displaySlots rest

end

/-- The title of a record; empty for other values. -/
def title : Datum → String
  | record title _ _ => title
  | _ => ""

@[simp] theorem itemsToJson_eq_map (items : List Datum) : itemsToJson items = items.map toJson := by
  induction items with
  | nil => rfl
  | cons item rest ih => simp [itemsToJson, ih]

@[simp] theorem slotsToJson_eq_map (slots : List (Slot × Datum)) :
    slotsToJson slots = slots.map fun slot => (slot.1.name, slot.2.toJson) := by
  induction slots with
  | nil => rfl
  | cons slot rest ih => simp [slotsToJson, ih]

end Datum

end PlatformClient.Record
