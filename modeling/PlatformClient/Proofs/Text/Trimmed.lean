import PlatformClient.Text.Blank

/-!
# Trimmed texts

A text is trimmed to what stands in it between blanks and has no blank ends itself. There is exactly
one such text.

## Main definitions

* `Text.Trimmed`: a text is trimmed to another one

## Main results

* `Text.trimEndBy_append_of_all`, `Text.trimEndBy_eq_self`: what is removed at the end, and what is
  not
* `Text.trim_eq_iff`: the trimmed text
-/

namespace PlatformClient.Text

variable {p : Char → Bool} {s core back : List Char}

/-- Only blanks stand around a text that has no blank ends. -/
structure Trimmed (s core : List Char) : Prop where
  around : ∃ front back, s = front ++ core ++ back ∧ (∀ c ∈ front, isBlank c = true) ∧
    ∀ c ∈ back, isBlank c = true
  first : ∀ c ∈ core.head?, isBlank c = false
  last : ∀ c ∈ core.getLast?, isBlank c = false

/-- Further trailing characters of the class change nothing. -/
theorem trimEndBy_append_of_all (h : ∀ c ∈ back, p c = true) (s : List Char) :
    trimEndBy p (s ++ back) = trimEndBy p s := by
  rw [trimEndBy, List.reverse_append,
    List.dropWhile_append_of_pos fun c hc => h c (List.mem_reverse.mp hc), trimEndBy]

/-- A text that does not end with the class stays. -/
theorem trimEndBy_eq_self (h : ∀ c ∈ s.getLast?, p c = false) : trimEndBy p s = s := by
  rcases List.eq_nil_or_concat s with rfl | ⟨front, last, rfl⟩
  · rfl
  · rw [List.concat_eq_append] at h ⊢
    have hlast : p last = false := h last (by rw [List.getLast?_concat]; rfl)
    rw [trimEndBy, List.reverse_append, List.reverse_singleton, List.singleton_append,
      List.dropWhile_cons_of_neg (by rw [hlast]; exact Bool.false_ne_true), List.reverse_cons,
      List.reverse_reverse]

theorem Trimmed.trim_eq (h : Trimmed s core) : trim s = core := by
  obtain ⟨front, back, rfl, hfront, hback⟩ := h.around
  rw [trim, trimBy, List.append_assoc, List.dropWhile_append_of_pos hfront]
  cases core with
  | nil =>
    rw [List.nil_append, ← List.append_nil back, List.dropWhile_append_of_pos hback]
    rfl
  | cons first rest =>
    have hfirst : isBlank first = false := h.first first rfl
    rw [List.cons_append, List.dropWhile_cons_of_neg (by rw [hfirst]; exact Bool.false_ne_true),
      ← List.cons_append, trimEndBy_append_of_all hback, trimEndBy_eq_self h.last]

theorem trimmed_trim (s : List Char) : Trimmed s (trim s) where
  around := by
    refine ⟨s.takeWhile isBlank, ((s.dropWhile isBlank).reverse.takeWhile isBlank).reverse, ?_, ?_,
      ?_⟩
    · rw [List.append_assoc, trim, trimBy, trimEndBy_append_takeWhile,
        List.takeWhile_append_dropWhile]
    · exact fun c hc => List.all_eq_true.mp List.all_takeWhile c hc
    · exact fun c hc => List.all_eq_true.mp List.all_takeWhile c (List.mem_reverse.mp hc)
  first := by
    intro c hc
    have hbegins := trimEndBy_append_takeWhile isBlank (s.dropWhile isBlank)
    have hnot := List.head?_dropWhile_not isBlank s
    obtain ⟨rest, hrest⟩ := List.head?_eq_some_iff.mp hc
    rw [trim, trimBy] at hrest
    rw [← hbegins, hrest] at hnot
    simpa using hnot
  last := getLast?_trimEndBy isBlank _

/-- The trimmed text is the one without blank ends that stands between blanks. -/
theorem trim_eq_iff : trim s = core ↔ Trimmed s core :=
  ⟨fun h => h ▸ trimmed_trim s, Trimmed.trim_eq⟩

end PlatformClient.Text
