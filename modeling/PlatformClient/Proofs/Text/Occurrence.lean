/-!
# Words in texts

Where a word can stand in a text around a separator that it does not hold. The characters may be of
any type; texts and octets are both looked at in this way.

## Main definitions

* `Text.FirstAt`: the place where a word occurs first

## Main results

* `Text.infix_append_cons_iff`: a word lies on one side of a separator
* `Text.prefix_append_word_iff`: a word that does not hold its first character again is not begun in
  front of an occurrence and ended in it
* `Text.firstAt_length_iff`: so it occurs first at the end of a text exactly if not in the text
-/

namespace PlatformClient.Text

variable {α : Type}

/-- A word without a character lies on one side of every place where the character stands. -/
theorem infix_append_cons_iff {word s t : List α} {c : α} (h : c ∉ word) :
    word <:+: s ++ c :: t ↔ word <:+: s ∨ word <:+: t := by
  constructor
  · intro hword
    rcases List.infix_append_iff.mp hword with hs | hct | ⟨front, back, rfl, hfront, hback⟩
    · exact .inl hs
    · rcases List.infix_cons_iff.mp hct with hbegin | ht
      · cases word with
        | nil => exact .inl List.nil_infix
        | cons d word =>
          obtain ⟨rfl, -⟩ := List.cons_prefix_cons.mp hbegin
          exact absurd List.mem_cons_self h
      · exact .inr ht
    · cases back with
      | nil => exact .inl (by simpa using hfront.isInfix)
      | cons d back =>
        obtain ⟨rfl, -⟩ := List.cons_prefix_cons.mp hback
        exact absurd (List.mem_append_right _ List.mem_cons_self) h
  · rintro (hs | ht)
    · exact List.infix_append_of_infix_left hs
    · exact List.infix_append_of_infix_right (List.infix_cons ht)

/-- A text that begins with a word without a character has the word before that character. -/
theorem prefix_of_prefix_append_cons {word s t : List α} {c : α} (h : c ∉ word)
    (hword : word <+: s ++ c :: t) : word <+: s := by
  rcases List.prefix_or_prefix_of_prefix hword (List.prefix_append s (c :: t)) with hs | hs
  · exact hs
  · obtain ⟨rest, rfl⟩ := hs
    cases rest with
    | nil => exact ⟨[], by simp⟩
    | cons d rest =>
      obtain ⟨rfl, -⟩ := List.cons_prefix_cons.mp ((List.prefix_append_right_inj s).mp hword)
      exact absurd (List.mem_append_right _ List.mem_cons_self) h

/-- A word without a character does not extend over copies of it. -/
theorem infix_of_infix_replicate_append {word t : List α} {c : α} (h : c ∉ word)
    {count : Nat} (hword : word <:+: List.replicate count c ++ t) : word <:+: t := by
  induction count with
  | zero => exact hword
  | succ count ih =>
    rw [List.replicate_succ, List.cons_append, ← List.nil_append (c :: _),
      infix_append_cons_iff h] at hword
    rcases hword with hnil | hrest
    · rw [List.infix_nil.mp hnil]
      exact List.nil_infix
    · exact ih hrest

/-! ## First occurrences -/

/-- A word occurs at a place, and at none before. -/
def FirstAt (word : List α) (place : Nat) (s : List α) : Prop :=
  word <+: s.drop place ∧ ∀ earlier < place, ¬ word <+: s.drop earlier

variable {first : α} {word s : List α}

theorem firstAt_zero_iff : FirstAt word 0 s ↔ word <+: s := by
  constructor
  · intro h
    exact h.1
  · intro h
    exact ⟨h, fun earlier hlt => absurd hlt (Nat.not_lt_zero _)⟩

theorem firstAt_succ_cons_iff {c : α} {place : Nat} :
    FirstAt word (place + 1) (c :: s) ↔ ¬ word <+: c :: s ∧ FirstAt word place s := by
  constructor
  · rintro ⟨hplace, hnone⟩
    refine ⟨hnone 0 (Nat.succ_pos place), hplace, fun earlier hlt => ?_⟩
    exact hnone (earlier + 1) (Nat.succ_lt_succ hlt)
  · rintro ⟨hbegin, hplace, hnone⟩
    refine ⟨hplace, fun earlier hlt => ?_⟩
    cases earlier with
    | zero => exact hbegin
    | succ earlier => exact hnone earlier (Nat.lt_of_succ_lt_succ hlt)

/-- In front of an occurrence of a word that does not hold its first character again, the word
begins only if it also ends there. -/
theorem prefix_append_word_iff (h : first ∉ word) (hs : s ≠ []) (rest : List α) :
    first :: word <+: s ++ (first :: word ++ rest) ↔ first :: word <+: s := by
  constructor
  · intro hbegin
    cases s with
    | nil => exact absurd rfl hs
    | cons c s =>
      obtain ⟨rfl, hword⟩ := List.cons_prefix_cons.mp hbegin
      exact List.cons_prefix_cons.mpr ⟨rfl, prefix_of_prefix_append_cons h hword⟩
  · intro hbegin
    exact hbegin.trans (List.prefix_append _ _)

/-- A word occurs in a text exactly if it begins at one of its places. -/
theorem infix_iff_exists_prefix_drop (hword : word ≠ []) :
    word <:+: s ↔ ∃ place < s.length, word <+: s.drop place := by
  constructor
  · rintro ⟨front, back, rfl⟩
    have hpos : 0 < word.length := List.length_pos_iff.mpr hword
    refine ⟨front.length, ?_, ?_⟩
    · rw [List.length_append, List.length_append]
      omega
    · rw [List.append_assoc, List.drop_left]
      exact List.prefix_append _ _
  · rintro ⟨place, -, hbegin⟩
    exact hbegin.isInfix.trans (List.drop_suffix _ _).isInfix

/-- At the end of a text, a word that does not hold its first character again occurs first exactly
if it does not occur in the text. -/
theorem firstAt_length_iff (h : first ∉ word) (s rest : List α) :
    FirstAt (first :: word) s.length (s ++ (first :: word ++ rest)) ↔ ¬ first :: word <:+: s := by
  have hplace : ∀ place < s.length, first :: word <+:
      (s ++ (first :: word ++ rest)).drop place ↔ first :: word <+: s.drop place := by
    intro place hlt
    rw [List.drop_append_of_le_length (Nat.le_of_lt hlt)]
    refine prefix_append_word_iff h (fun hnil => ?_) rest
    have hlength := List.drop_eq_nil_iff.mp hnil
    omega
  rw [infix_iff_exists_prefix_drop (List.cons_ne_nil _ _)]
  constructor
  · rintro ⟨-, hnone⟩ ⟨place, hlt, hbegin⟩
    exact hnone place hlt ((hplace place hlt).mpr hbegin)
  · intro hnone
    refine ⟨?_, fun place hlt hbegin => hnone ⟨place, hlt, (hplace place hlt).mp hbegin⟩⟩
    rw [List.drop_left]
    exact List.prefix_append _ _

end PlatformClient.Text
