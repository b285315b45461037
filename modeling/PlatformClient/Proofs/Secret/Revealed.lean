import Mathlib.Data.List.TakeDrop
import PlatformClient.Proofs.Secret.Masks

/-!
# What a mask reveals

A mask tells the length of a text of up to eight characters, and of one with more than four also
the first and the last character. Of a longer text it tells the first three and the last three
characters, and nothing else: what stands between them may be any text of three characters or more.
The three kinds of masks have different lengths, so no mask stands for texts of two kinds, whatever
the mark is and whether it occurs in the texts.

## Main definitions

* `Secret.ShownAlike`: texts of which a mask shows the same
* `Secret.Reveals`: what the masks with a mark reveal

## Main results

* `Secret.length_maskWith`: the length of a mask
* `Secret.ends_maskWith_medium`, `Secret.ends_maskWith_long`: a mask has ends of the text
* `Secret.maskWith_eq_iff`: masks are the same exactly if they show the same
* `Secret.masks_reveal`: what masks reveal, for every mark
-/

namespace PlatformClient.Secret

variable {c : Char} {s t : List Char}

/-- Texts of which a mask shows the same. -/
inductive ShownAlike (s t : List Char) : Prop
  | short (hlength : s.length = t.length) (hshort : s.length ≤ 4)
  | medium (hlength : s.length = t.length) (hlower : 5 ≤ s.length) (hupper : s.length ≤ 8)
      (hfirst : s.head? = t.head?) (hlast : s.getLast? = t.getLast?)
  | long (hleft : 8 < s.length) (hright : 8 < t.length) (hfirst : s.take 3 = t.take 3)
      (hlast : s.drop (s.length - 3) = t.drop (t.length - 3))

/-- The length of a mask. -/
theorem length_maskWith (c : Char) (s : List Char) :
    (maskWith [c] s).length = if s.length ≤ 8 then s.length else 11 := by
  unfold maskWith
  split
  · rw [marks_length, if_pos (by omega)]
  · split <;> simp [marks_length] <;> omega

/-- A mask of medium length begins and ends as the text does. -/
theorem ends_maskWith_medium (hlower : 5 ≤ s.length) (hupper : s.length ≤ 8) :
    (maskWith [c] s).head? = s.head? ∧ (maskWith [c] s).getLast? = s.getLast? := by
  obtain ⟨front, inner, back, rfl, hfront, hback⟩ := exists_ends (s := s) (n := 1) (by omega)
  obtain ⟨first, rfl⟩ := List.length_eq_one_iff.mp hfront
  obtain ⟨last, rfl⟩ := List.length_eq_one_iff.mp hback
  simp only [List.length_append, List.length_singleton] at hlower hupper
  rw [maskWith_medium rfl rfl (by omega) (by omega)]
  exact ⟨rfl, by rw [List.getLast?_concat, List.getLast?_concat]⟩

/-- A longer mask begins and ends with the same three characters as the text does. -/
theorem ends_maskWith_long (h : 8 < s.length) :
    (maskWith [c] s).take 3 = s.take 3 ∧
      (maskWith [c] s).drop ((maskWith [c] s).length - 3) = s.drop (s.length - 3) := by
  obtain ⟨front, inner, back, rfl, hfront, hback⟩ := exists_ends (s := s) (n := 3) (by omega)
  rw [List.length_append, List.length_append] at h
  rw [maskWith_long hfront hback (by omega)]
  obtain ⟨hfirst, hlast⟩ := take_drop_ends inner hfront hback
  obtain ⟨hfirst', hlast'⟩ := take_drop_ends (List.replicate 5 c) hfront hback
  exact ⟨hfirst'.trans hfirst.symm, hlast'.trans hlast.symm⟩

/-- Texts with the same mask are of the same kind, and it shows the same of them. -/
theorem ShownAlike.of_maskWith_eq (h : maskWith [c] s = maskWith [c] t) : ShownAlike s t := by
  have hlength := congrArg List.length h
  rw [length_maskWith, length_maskWith] at hlength
  by_cases hlong : 8 < s.length
  · have hother : 8 < t.length := by
      rw [if_neg (by omega)] at hlength
      split at hlength <;> omega
    have hends := ends_maskWith_long (c := c) hlong
    rw [h] at hends
    have hends' := ends_maskWith_long (c := c) hother
    exact .long hlong hother (hends.1.symm.trans hends'.1) (hends.2.symm.trans hends'.2)
  · have hsame : s.length = t.length := by
      rw [if_pos (by omega)] at hlength
      split at hlength <;> omega
    by_cases hshort : s.length ≤ 4
    · exact .short hsame hshort
    · have hends := ends_maskWith_medium (c := c) (s := s) (by omega) (by omega)
      rw [h] at hends
      have hends' := ends_maskWith_medium (c := c) (s := t) (by omega) (by omega)
      exact .medium hsame (by omega) (by omega) (hends.1.symm.trans hends'.1)
        (hends.2.symm.trans hends'.2)

/-- A mask is made of what it shows, and for texts of up to eight characters of their length. -/
theorem ShownAlike.maskWith_eq (h : ShownAlike s t) (c : Char) :
    maskWith [c] s = maskWith [c] t := by
  cases h with
  | short hlength hshort =>
    rw [maskWith_short hshort, maskWith_short (hlength ▸ hshort), hlength]
  | medium hlength hlower hupper hfirst hlast =>
    have hne : s ≠ [] := List.ne_nil_of_length_pos (by omega)
    have hne' : t ≠ [] := List.ne_nil_of_length_pos (by omega)
    have hfront : s.take 1 = t.take 1 := by rw [List.take_one, List.take_one, hfirst]
    have hback : s.drop (s.length - 1) = t.drop (t.length - 1) := by
      rw [List.drop_length_sub_one hne, List.drop_length_sub_one hne']
      rw [List.getLast?_eq_some_getLast hne, List.getLast?_eq_some_getLast hne'] at hlast
      rw [Option.some.inj hlast]
    rw [maskWith, if_neg (by omega), if_pos hupper, maskWith, if_neg (by omega),
      if_pos (by omega), hfront, hback, hlength]
  | long hleft hright hfirst hlast =>
    rw [maskWith, if_neg (by omega), if_neg (by omega), maskWith, if_neg (by omega),
      if_neg (by omega), hfirst, hlast]

/-- Masks are the same exactly if they show the same. -/
theorem maskWith_eq_iff (c : Char) (s t : List Char) :
    maskWith [c] s = maskWith [c] t ↔ ShownAlike s t :=
  ⟨ShownAlike.of_maskWith_eq, fun h => h.maskWith_eq c⟩

/-- The texts of which a mask shows the same as of a long one: anything may stand between the
ends. -/
theorem shownAlike_long_iff (h : 8 < s.length) :
    ShownAlike t s ↔
      ∃ inner, 3 ≤ inner.length ∧ t = s.take 3 ++ inner ++ s.drop (s.length - 3) := by
  have hfront : (s.take 3).length = 3 := by rw [List.length_take]; omega
  have hback : (s.drop (s.length - 3)).length = 3 := by rw [List.length_drop]; omega
  constructor
  · intro halike
    cases halike with
    | short hlength _ => omega
    | medium hlength _ _ _ _ => omega
    | long hlong _ hfirst hlast =>
      obtain ⟨front, inner, back, rfl, hfront', hback'⟩ :=
        exists_ends (s := t) (n := 3) (by omega)
      obtain ⟨htake, hdrop⟩ := take_drop_ends inner hfront' hback'
      rw [List.length_append, List.length_append] at hlong
      exact ⟨inner, by omega, by rw [← hfirst, ← hlast, htake, hdrop]⟩
  · rintro ⟨inner, hinner, rfl⟩
    obtain ⟨htake, hdrop⟩ := take_drop_ends inner hfront hback
    refine .long ?_ h htake hdrop
    rw [List.length_append, List.length_append]
    omega

/-- What the masks with a mark reveal of the texts that they stand for. -/
structure Reveals (mark : Char) : Prop where
  /-- Two texts have the same mask exactly if it shows the same of them. -/
  same : ∀ s t, maskWith [mark] s = maskWith [mark] t ↔ ShownAlike s t
  /-- A mask is its own mask. -/
  stable : ∀ s, maskWith [mark] (maskWith [mark] s) = maskWith [mark] s
  /-- Of a long text, three characters at each end are revealed, and nothing of what stands between
  them. -/
  ends : ∀ s, 8 < s.length → ∀ t, maskWith [mark] t = maskWith [mark] s ↔
    ∃ inner, 3 ≤ inner.length ∧ t = s.take 3 ++ inner ++ s.drop (s.length - 3)
  /-- It may have any length of a long text. -/
  length : ∀ s, 8 < s.length → ∀ length, 8 < length →
    ∃ t, t.length = length ∧ maskWith [mark] t = maskWith [mark] s

/-- **What masks reveal.** This holds for every mark, also for one that occurs in the texts. -/
theorem masks_reveal (mark : Char) : Reveals mark where
  same := maskWith_eq_iff mark
  stable := maskWith_maskWith mark
  ends s h t := by rw [maskWith_eq_iff, shownAlike_long_iff h]
  length s h length hlength := by
    have hinner : (List.replicate (length - 6) mark).length = length - 6 := List.length_replicate
    refine ⟨s.take 3 ++ List.replicate (length - 6) mark ++ s.drop (s.length - 3), ?_, ?_⟩
    · rw [List.length_append, List.length_append, hinner, List.length_take, List.length_drop]
      omega
    · rw [maskWith_eq_iff, shownAlike_long_iff h]
      exact ⟨_, by omega, rfl⟩

end PlatformClient.Secret
