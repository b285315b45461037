import PlatformClient.Json.Reader
import PlatformClient.Json.Writer

/-!
# What is read can be written

Reading and writing have the same limits: whole numbers of too many digits are refused by both, and
so are arrays and objects that lie too deep in one another. So a value that has been read can be
written with the room in which it has been read, and the whole numbers in it have a text.

## Main definitions

* `Json.WrittenWithin`: values in which nothing keeps from writing

## Main results

* `Text.ofDigitChars_lt`: a number is below the power of ten of its count of digits
* `Json.readsWritable`: what is read with some room can be written with it
* `Json.writtenWithin_of_read`: what is read from a text can be written
* `Json.WrittenWithin.find?`: the values of members can be written too
-/

namespace PlatformClient

namespace Text

/-- A number is below the power of ten of its count of digits. -/
theorem ofDigitChars_lt {s : List Char} (h : ∀ c ∈ s, c.isDigit = true) :
    Nat.ofDigitChars 10 s 0 < Nat.pow 10 s.length := by
  induction s with
  | nil => exact Nat.one_pos
  | cons c s ih =>
    have hrest := ih fun d hd => h d (List.mem_cons_of_mem _ hd)
    have hdigit : c.toNat - '0'.toNat ≤ 9 := by
      have hc := h c List.mem_cons_self
      simp only [Char.isDigit, Bool.and_eq_true, decide_eq_true_eq, UInt32.le_iff_toNat_le] at hc
      have hcode : c.val.toNat = c.toNat := rfl
      have hlast : '9'.val.toNat = 57 := rfl
      have hzero : '0'.toNat = 48 := rfl
      omega
    calc Nat.ofDigitChars 10 (c :: s) 0
        = Nat.pow 10 s.length * (c.toNat - '0'.toNat) + Nat.ofDigitChars 10 s 0 := by
          rw [Nat.ofDigitChars_cons, Nat.mul_zero, Nat.zero_add,
            Nat.ofDigitChars_eq_ofDigitChars_zero]
          rfl
      _ < Nat.pow 10 s.length * 9 + Nat.pow 10 s.length :=
          Nat.add_lt_add_of_le_of_lt (Nat.mul_le_mul_left _ hdigit) hrest
      _ = Nat.pow 10 (c :: s).length := (Nat.mul_succ (Nat.pow 10 s.length) 9).symm

theorem ofDigitChars_lt_of_length_le {s : List Char} (h : ∀ c ∈ s, c.isDigit = true) {limit : Nat}
    (hlength : s.length ≤ limit) : Nat.ofDigitChars 10 s 0 < Nat.pow 10 limit :=
  Nat.lt_of_lt_of_le (ofDigitChars_lt h) (Nat.pow_le_pow_right (Nat.succ_pos 9) hlength)

end Text

namespace Json

/-- A value in which nothing keeps from writing, with room for some arrays and objects in one
another. -/
def WrittenWithin (room : Nat) (value : Json) : Prop := writeFault? room value = none

theorem writtenWithin_integer_iff {room : Nat} {n : Int} :
    WrittenWithin room (.integer n) ↔ n.natAbs < Nat.pow 10 Text.digitLimit := by
  unfold WrittenWithin
  cases room <;> simp [writeFault?]

theorem writtenWithin_array_iff {room : Nat} {items : List Json} :
    WrittenWithin (room + 1) (.array items) ↔ ∀ item ∈ items, WrittenWithin room item := by
  unfold WrittenWithin
  rw [writeFault?]
  induction items with
  | nil => simp [itemsFault?]
  | cons item rest ih => simp [itemsFault?, ih]

theorem writtenWithin_object_iff {room : Nat} {members : Members} :
    WrittenWithin (room + 1) (.object members) ↔
      ∀ member ∈ members, WrittenWithin room member.2 := by
  unfold WrittenWithin
  rw [writeFault?]
  induction members with
  | nil => simp [membersFault?]
  | cons member rest ih => simp [membersFault?, ih]

end Json

/-- A member that remains of pairs is one of them. -/
theorem Members.mem_of_mem_put {name : String} {value : Json} {members : Members}
    {member : String × Json} (h : member ∈ members.put name value) :
    member = (name, value) ∨ member ∈ members := by
  induction members with
  | nil => exact .inl (List.mem_singleton.mp h)
  | cons first rest ih =>
    obtain ⟨other, old⟩ := first
    unfold put at h
    split at h
    · rcases List.mem_cons.mp h with hnew | hrest
      · exact .inl hnew
      · exact .inr (List.mem_cons_of_mem _ hrest)
    · rcases List.mem_cons.mp h with hfirst | hrest
      · exact .inr (hfirst ▸ List.mem_cons_self)
      · exact (ih hrest).imp_right (List.mem_cons_of_mem _)

theorem Members.mem_of_mem_ofPairs {pairs : List (String × Json)} {member : String × Json}
    (h : member ∈ Members.ofPairs pairs) : member ∈ pairs := by
  have hfold : ∀ (done : Members), member ∈ pairs.foldl
      (fun members pair => members.put pair.1 pair.2) done → member ∈ done ∨ member ∈ pairs := by
    clear h
    induction pairs with
    | nil => exact fun done h => .inl h
    | cons pair rest ih =>
      intro done h
      rcases ih _ h with hput | hrest
      · rcases Members.mem_of_mem_put hput with rfl | hdone
        · exact .inr List.mem_cons_self
        · exact .inl hdone
      · exact .inr (List.mem_cons_of_mem _ hrest)
  exact (hfold [] h).resolve_left List.not_mem_nil

theorem Members.mem_of_find? {members : Members} {name : String} {value : Json}
    (h : members.find? name = some value) : (name, value) ∈ members := by
  induction members with
  | nil => cases h
  | cons first rest ih =>
    obtain ⟨other, found⟩ := first
    rw [find?_cons] at h
    split at h
    · rename_i hname
      cases h
      exact hname ▸ List.mem_cons_self
    · exact List.mem_cons_of_mem _ (ih h)

namespace Json

/-! ## Numbers -/

theorem isDigit_of_mem_takeWhole {s : List Char} {c : Char} (h : c ∈ (takeWhole s).1) :
    c.isDigit = true := by
  unfold takeWhole at h
  split at h
  · exact List.mem_singleton.mp h ▸ rfl
  · exact List.all_eq_true.mp List.all_takeWhile c h

/-- A number that is read can be written. -/
theorem writtenWithin_of_readNumber {s rest : List Char} {value : Json}
    (h : readNumber s = .ok (value, rest)) (room : Nat) : WrittenWithin room value := by
  unfold readNumber at h
  simp only at h
  split at h
  · cases h
  · rename_i whole afterWhole _ hwhole
    split at h
    · split at h
      · cases h
      · rename_i hlength
        cases h
        have hbound : Nat.ofDigitChars 10 whole 0 < Nat.pow 10 Text.digitLimit := by
          have hdigits : ∀ c ∈ whole, c.isDigit = true := by
            intro c hc
            rw [← show _ = whole from congrArg Prod.fst hwhole] at hc
            exact isDigit_of_mem_takeWhole hc
          exact Text.ofDigitChars_lt_of_length_le hdigits (Nat.le_of_not_lt hlength)
        rw [writtenWithin_integer_iff]
        generalize Nat.pow 10 Text.digitLimit = limit at hbound ⊢
        split <;> omega
    · cases h
      unfold WrittenWithin
      cases room <;> rfl

/-- A word or a number that is read can be written. -/
theorem writtenWithin_of_readScalar {s rest : List Char} {value : Json}
    (h : readScalar s = .ok (value, rest)) (room : Nat) : WrittenWithin room value := by
  unfold readScalar at h
  split at h
  · rename_i word hword
    cases h
    unfold readWord? at hword
    unfold WrittenWithin
    split at hword <;> cases hword <;> cases room <;> rfl
  · exact writtenWithin_of_readNumber h room

/-! ## Values -/

/-- A sequence succeeds only if its first part does. -/
theorem exists_of_bind_eq_ok {ε α β : Type} {first : Except ε α} {next : α → Except ε β} {b : β}
    (h : first >>= next = .ok b) : ∃ a, first = .ok a ∧ next a = .ok b := by
  cases first with
  | error cause => cases h
  | ok a => exact ⟨a, rfl, h⟩

/-- What is read with some fuel can be written with the room in which it is read. -/
structure ReadsWritable (lone : Surrogate → Char) (fuel : Nat) : Prop where
  value : ∀ {room s value rest}, readValue lone fuel room s = .ok (value, rest) →
    WrittenWithin room value
  items : ∀ {room s items rest}, readItems lone fuel room s = .ok (items, rest) →
    ∀ item ∈ items, WrittenWithin room item
  pairs : ∀ {room s pairs rest}, readPairs lone fuel room s = .ok (pairs, rest) →
    ∀ pair ∈ pairs, WrittenWithin room pair.2

variable {lone : Surrogate → Char} {fuel room : Nat} {s rest : List Char}

theorem ReadsWritable.readValue_succ (h : ReadsWritable lone fuel) {value : Json}
    (hread : readValue lone (fuel + 1) room s = .ok (value, rest)) : WrittenWithin room value := by
  unfold readValue at hread
  split at hread
  · obtain ⟨text, -, hread⟩ := exists_of_bind_eq_ok hread
    cases hread
    unfold WrittenWithin
    cases room <;> rfl
  · split at hread
    · cases hread
    · split at hread
      · cases hread
        exact writtenWithin_array_iff.mpr fun item hitem => absurd hitem List.not_mem_nil
      · obtain ⟨items, hitems, hread⟩ := exists_of_bind_eq_ok hread
        cases hread
        exact writtenWithin_array_iff.mpr (h.items hitems)
  · split at hread
    · cases hread
    · split at hread
      · cases hread
        exact writtenWithin_object_iff.mpr fun member hmember => absurd hmember List.not_mem_nil
      · obtain ⟨pairs, hpairs, hread⟩ := exists_of_bind_eq_ok hread
        cases hread
        refine writtenWithin_object_iff.mpr fun member hmember => ?_
        exact h.pairs hpairs member (Members.mem_of_mem_ofPairs hmember)
  · exact writtenWithin_of_readScalar hread room

theorem ReadsWritable.readItems_succ (h : ReadsWritable lone fuel) {items : List Json}
    (hread : readItems lone (fuel + 1) room s = .ok (items, rest)) :
    ∀ item ∈ items, WrittenWithin room item := by
  unfold readItems at hread
  obtain ⟨first, hfirst, hread⟩ := exists_of_bind_eq_ok hread
  simp only at hread
  split at hread
  · cases hread
    intro item hitem
    exact List.mem_singleton.mp hitem ▸ h.value hfirst
  · obtain ⟨others, hothers, hread⟩ := exists_of_bind_eq_ok hread
    cases hread
    intro item hitem
    rcases List.mem_cons.mp hitem with rfl | hitem
    · exact h.value hfirst
    · exact h.items hothers item hitem
  · cases hread

theorem ReadsWritable.readPairs_succ (h : ReadsWritable lone fuel) {pairs : List (String × Json)}
    (hread : readPairs lone (fuel + 1) room s = .ok (pairs, rest)) :
    ∀ pair ∈ pairs, WrittenWithin room pair.2 := by
  unfold readPairs at hread
  split at hread
  · obtain ⟨⟨name, behind⟩, -, hread⟩ := exists_of_bind_eq_ok hread
    simp only at hread
    split at hread
    · obtain ⟨first, hfirst, hread⟩ := exists_of_bind_eq_ok hread
      split at hread
      · cases hread
        intro pair hpair
        exact List.mem_singleton.mp hpair ▸ h.value hfirst
      · obtain ⟨others, hothers, hread⟩ := exists_of_bind_eq_ok hread
        cases hread
        intro pair hpair
        rcases List.mem_cons.mp hpair with rfl | hpair
        · exact h.value hfirst
        · exact h.pairs hothers pair hpair
      · cases hread
    · cases hread
  · cases hread

/-- What is read with any fuel can be written with the room in which it is read. -/
theorem readsWritable (lone : Surrogate → Char) (fuel : Nat) : ReadsWritable lone fuel := by
  induction fuel with
  | zero => exact ⟨nofun, nofun, nofun⟩
  | succ fuel ih => exact ⟨ih.readValue_succ, ih.readItems_succ, ih.readPairs_succ⟩

theorem writtenWithin_of_readText {reading : Reading} {value : Json}
    (h : readText reading s = .ok value) : WrittenWithin reading.room value := by
  unfold readText at h
  split at h
  · cases h
  · obtain ⟨first, hfirst, h⟩ := exists_of_bind_eq_ok h
    simp only at h
    split at h
    · cases h
      exact (readsWritable _ _).value hfirst
    · cases h

/-- What is read from a text can be written. -/
theorem writtenWithin_of_read {reading : Reading} {value : Json} (h : read reading s = .ok value) :
    WrittenWithin reading.room value := by
  unfold read at h
  cases htext : readText reading s with
  | error fault =>
    rw [htext] at h
    cases h
  | ok found =>
    rw [htext] at h
    cases h
    exact writtenWithin_of_readText htext

/-- The values of the members of what can be written are written with less room. -/
theorem WrittenWithin.find? {members : Members} {name : String} {value : Json}
    (h : WrittenWithin (room + 1) (.object members)) (hvalue : members.find? name = some value) :
    WrittenWithin room value :=
  writtenWithin_object_iff.mp h _ (Members.mem_of_find? hvalue)

end Json

end PlatformClient
