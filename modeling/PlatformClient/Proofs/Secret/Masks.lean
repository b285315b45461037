import PlatformClient.Proofs.Redaction.Masked

/-!
# Masks of masks

A mask is made of the characters of a secret and of asterisks. It has as many characters as it shows
and hides, and what it shows at its ends it would show again: so a mask is its own mask.

## Main results

* `Secret.maskWith_short`, `Secret.maskWith_medium`, `Secret.maskWith_long`: the mask of a secret by
  its length
* `Secret.maskWith_maskWith`: a mask is its own mask
* `Secret.mem_mask`: the characters of a mask
-/

namespace PlatformClient

namespace Secret
variable {c : Char} {s front inner back : List Char}

/-- The ends of a text around an inner part. -/
theorem take_drop_ends (inner : List Char) {n : Nat} (hfront : front.length = n)
    (hback : back.length = n) :
    (front ++ inner ++ back).take n = front ∧
      (front ++ inner ++ back).drop ((front ++ inner ++ back).length - n) = back := by
  constructor
  · rw [List.append_assoc, ← hfront, List.take_left]
  · have hplace : (front ++ inner ++ back).length - n = (front ++ inner).length := by
      rw [List.length_append, hback, Nat.add_sub_cancel]
    rw [hplace, List.drop_left]

/-- A text is its ends around an inner part. -/
theorem exists_ends {n : Nat} (h : 2 * n ≤ s.length) :
    ∃ front inner back, s = front ++ inner ++ back ∧ front.length = n ∧ back.length = n := by
  refine ⟨s.take n, (s.drop n).take (s.length - 2 * n), s.drop (s.length - n), ?_, ?_, ?_⟩
  · have hplace : s.length - n = n + (s.length - 2 * n) := by omega
    rw [hplace, List.append_assoc, ← List.drop_drop, List.take_append_drop, List.take_append_drop]
  · rw [List.length_take]
    omega
  · rw [List.length_drop]
    omega

theorem maskWith_short (h : s.length ≤ 4) : maskWith [c] s = List.replicate s.length c := by
  rw [maskWith, if_pos h, marks_eq_replicate]

/-- The mask of a text of up to eight characters shows one at each end. -/
theorem maskWith_medium (hfront : front.length = 1) (hback : back.length = 1)
    (hlower : 3 ≤ inner.length) (hupper : inner.length ≤ 6) :
    maskWith [c] (front ++ inner ++ back) =
      front ++ List.replicate inner.length c ++ back := by
  obtain ⟨htake, hdrop⟩ := take_drop_ends inner hfront hback
  have hlength : (front ++ inner ++ back).length = inner.length + 2 := by
    rw [List.length_append, List.length_append, hfront, hback]
    omega
  rw [maskWith, if_neg (by omega), if_pos (by omega), htake, hdrop, marks_eq_replicate, hlength,
    Nat.add_sub_cancel]

/-- The mask of a longer text shows three characters at each end. -/
theorem maskWith_long (hfront : front.length = 3) (hback : back.length = 3)
    (hinner : 3 ≤ inner.length) :
    maskWith [c] (front ++ inner ++ back) = front ++ List.replicate 5 c ++ back := by
  obtain ⟨htake, hdrop⟩ := take_drop_ends inner hfront hback
  have hlength : (front ++ inner ++ back).length = inner.length + 6 := by
    rw [List.length_append, List.length_append, hfront, hback]
    omega
  rw [maskWith, if_neg (by omega), if_neg (by omega), htake, hdrop, marks_eq_replicate]

/-- A mask is its own mask. -/
theorem maskWith_maskWith (c : Char) (s : List Char) :
    maskWith [c] (maskWith [c] s) = maskWith [c] s := by
  by_cases hshort : s.length ≤ 4
  · have hmask : (List.replicate s.length c).length ≤ 4 := by rwa [List.length_replicate]
    rw [maskWith_short hshort, maskWith_short hmask, List.length_replicate]
  · by_cases hmedium : s.length ≤ 8
    · obtain ⟨front, inner, back, rfl, hfront, hback⟩ := exists_ends (s := s) (n := 1) (by omega)
      rw [List.length_append, List.length_append] at hshort hmedium
      have hinner : (List.replicate inner.length c).length = inner.length := List.length_replicate
      rw [maskWith_medium hfront hback (by omega) (by omega),
        maskWith_medium hfront hback (by omega) (by omega), hinner]
    · obtain ⟨front, inner, back, rfl, hfront, hback⟩ := exists_ends (s := s) (n := 3) (by omega)
      rw [List.length_append, List.length_append] at hmedium
      rw [maskWith_long hfront hback (by omega),
        maskWith_long hfront hback (by rw [List.length_replicate]; omega)]

theorem mem_mask (h : c ∈ mask s) : c = '*' ∨ c ∈ s := by
  unfold mask maskWith at h
  simp only [marks_eq_replicate] at h
  split at h
  · exact .inl (List.eq_of_mem_replicate h)
  · split at h
    all_goals
      rcases List.mem_append.mp h with hinner | hback
      · rcases List.mem_append.mp hinner with hfront | hmark
        · exact .inr (List.mem_of_mem_take hfront)
        · exact .inl (List.eq_of_mem_replicate hmark)
      · exact .inr (List.mem_of_mem_drop hback)

theorem mask_ne_nil (h : s ≠ []) : mask s ≠ [] := by
  obtain ⟨count, hmask⟩ := exists_mask_eq h
  rw [hmask]
  exact List.append_ne_nil_of_right_ne_nil _ (List.cons_ne_nil _ _)

end Secret

end PlatformClient
