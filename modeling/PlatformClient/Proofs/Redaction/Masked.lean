import PlatformClient.Redaction
import PlatformClient.Proofs.Text.Occurrence

/-!
# What a masked text still shows

A mask hides the inner characters of a secret and may show some at its ends. So a secret that has
been masked everywhere in a text leaves its ends behind, and what stands next to them may complete
them to other words. A word without asterisks that occurs in the masked text consists of an ending
that a mask shows, possibly of nothing, and of a part in which the secret does not occur.

## Main definitions

* `Secret.shownFront`, `Secret.shownEnd`: what a mask shows of a secret
* `Redaction.Survives`: words that masking a secret can leave in a text

## Main results

* `Secret.exists_mask_eq`: a mask is what it shows, with asterisks between
* `Text.exists_first_occurrence`: the first occurrence of a text is replaced first
* `Redaction.survives_of_infix_maskSecret`: what occurs in a masked text can survive masking
* `Redaction.maskSecret_append_cons`, `Redaction.maskTokens_append_cons`: texts are masked part by
  part
-/

namespace PlatformClient

/-! ## Masks -/

namespace Secret

/-- What a mask shows at the front of a secret. -/
def shownFront (s : List Char) : List Char :=
  if s.length ≤ 4 then [] else if s.length ≤ 8 then s.take 1 else s.take 3

/-- What a mask shows at the end of a secret. -/
def shownEnd (s : List Char) : List Char :=
  if s.length ≤ 4 then [] else if s.length ≤ 8 then s.drop (s.length - 1) else s.drop (s.length - 3)

theorem marks_eq_replicate (c : Char) (count : Nat) : marks [c] count = List.replicate count c := by
  unfold marks
  induction count with
  | zero => rfl
  | succ count ih => rw [List.replicate_succ, List.flatten_cons, ih, List.replicate_succ]; rfl

/-- A mask is what it shows, with asterisks between. -/
theorem exists_mask_eq {s : List Char} (h : s ≠ []) :
    ∃ count, mask s = shownFront s ++ '*' :: (List.replicate count '*' ++ shownEnd s) := by
  have hpos : 0 < s.length := List.length_pos_iff.mpr h
  unfold mask maskWith shownFront shownEnd
  simp only [marks_eq_replicate]
  split
  · refine ⟨s.length - 1, ?_⟩
    rw [List.nil_append, List.append_nil, ← List.replicate_succ, Nat.sub_add_cancel hpos]
  · split
    · refine ⟨s.length - 3, ?_⟩
      have hcount : s.length - 2 = s.length - 3 + 1 := by omega
      rw [hcount, List.replicate_succ, List.append_assoc]
      rfl
    · exact ⟨4, by rw [List.append_assoc]; rfl⟩

theorem shownFront_begins (s : List Char) : shownFront s <+: s := by
  unfold shownFront
  split
  · exact List.nil_prefix
  · split <;> exact List.take_prefix _ _

theorem shownFront_length_lt {s : List Char} (h : s ≠ []) : (shownFront s).length < s.length := by
  have hpos : 0 < s.length := List.length_pos_iff.mpr h
  unfold shownFront
  split
  · exact hpos
  · split <;> simp only [List.length_take] <;> omega

theorem shownFront_length_le (s : List Char) : (shownFront s).length ≤ 3 := by
  unfold shownFront
  split
  · exact Nat.zero_le 3
  · split <;> simp only [List.length_take] <;> omega

theorem shownEnd_length_lt {s : List Char} (h : s ≠ []) : (shownEnd s).length < s.length := by
  have hpos : 0 < s.length := List.length_pos_iff.mpr h
  unfold shownEnd
  split
  · exact hpos
  · split <;> simp only [List.length_drop] <;> omega

end Secret

/-! ## Words in texts -/

namespace Text

variable {needle : List Char}

/-- The first occurrence of a text is replaced first: before it, and in it up to its last character,
there is no other. The induction is on the text up to the place where it begins. -/
theorem exists_first_occurrence (hneedle : needle ≠ []) {s : List Char} (h : needle <:+: s)
    (insert : List Char) :
    ∃ front rest, s = front ++ needle ++ rest ∧
      replaceAll needle insert s = front ++ insert ++ replaceAll needle insert rest ∧
      ∀ part, part <+: needle → part.length < needle.length → ¬ needle <:+: front ++ part := by
  induction s with
  | nil => exact absurd (List.infix_nil.mp h) hneedle
  | cons c s ih =>
    by_cases hbegins : needle <+: c :: s
    · obtain ⟨rest, hrest⟩ := hbegins
      refine ⟨[], rest, hrest.symm, ?_, fun part _ hlength hoccurs => ?_⟩
      · rw [← hrest, replaceAll_append_of_ne_nil hneedle]
        rfl
      · have := hoccurs.length_le
        simp only [List.nil_append] at this
        omega
    · have htail : needle <:+: s := (List.infix_cons_iff.mp h).resolve_left hbegins
      obtain ⟨front, rest, rfl, hreplace, hfirst⟩ := ih htail
      refine ⟨c :: front, rest, rfl, ?_, fun part hpart hlength hoccurs => ?_⟩
      · rw [replaceAll_cons_of_not_begins hbegins, hreplace]
        rfl
      · rcases List.infix_cons_iff.mp hoccurs with hbegin | hlater
        · refine hbegins (hbegin.trans ?_)
          obtain ⟨more, rfl⟩ := hpart
          exact ⟨more ++ rest, by simp⟩
        · exact hfirst part hpart hlength hlater

/-- A character that does not occur in what is replaced separates a text into two. -/
theorem replaceAll_append_cons {c : Char} (h : c ∉ needle) (hneedle : needle ≠ [])
    (insert s t : List Char) :
    replaceAll needle insert (s ++ c :: t) =
      replaceAll needle insert s ++ c :: replaceAll needle insert t := by
  induction hlength : s.length using Nat.strongRecOn generalizing s with
  | _ length ih =>
    by_cases hbegins : needle <+: s
    · obtain ⟨rest, rfl⟩ := hbegins
      have hshorter : rest.length < length := by
        have hpos : 0 < needle.length := List.length_pos_iff.mpr hneedle
        rw [← hlength, List.length_append]
        omega
      rw [List.append_assoc, replaceAll_append_of_ne_nil hneedle,
        replaceAll_append_of_ne_nil hneedle, ih _ hshorter rest rfl, List.append_assoc]
    · have hbegins' : ¬ needle <+: s ++ c :: t := fun hbegin =>
        hbegins (prefix_of_prefix_append_cons h hbegin)
      cases s with
      | nil => exact replaceAll_cons_of_not_begins hbegins' insert
      | cons d s =>
        subst hlength
        rw [List.cons_append] at hbegins' ⊢
        rw [replaceAll_cons_of_not_begins hbegins', replaceAll_cons_of_not_begins hbegins,
          ih _ (Nat.lt_succ_self _) s rfl]
        rfl

end Text

/-! ## Masked texts -/

namespace Redaction

/-- A word can survive the masking of a secret: behind an ending that the mask shows, possibly the
empty one, it goes on without an occurrence of the secret. -/
def Survives (secret word : List Char) : Prop :=
  ∃ shown hidden, word = shown ++ hidden ∧ shown <:+ Secret.shownEnd secret ∧ ¬ secret <:+: hidden

variable {secret word : List Char}

/-- What occurs behind the shown end of a mask can survive masking, if no secret follows. -/
theorem survives_of_infix_append (hsecret : secret ≠ []) {kept s : List Char}
    (hkept : kept <:+ Secret.shownEnd secret) (hs : ¬ secret <:+: s) (h : word <:+: kept ++ s) :
    Survives secret word := by
  rcases List.infix_append_iff.mp h with hword | hword | ⟨shown, hidden, rfl, hshown, hhidden⟩
  · refine ⟨[], word, rfl, List.nil_suffix, fun hoccurs => ?_⟩
    have hlength := (hoccurs.trans hword).length_le
    have hend := hkept.length_le
    have hshort := Secret.shownEnd_length_lt hsecret
    omega
  · exact ⟨[], word, rfl, List.nil_suffix, fun hoccurs => hs (hoccurs.trans hword)⟩
  · refine ⟨shown, hidden, rfl, hshown.trans hkept, fun hoccurs => ?_⟩
    exact hs (hoccurs.trans hhidden.isInfix)

/-- Where a secret occurs in a text, the masked text goes on behind the mask of the first
occurrence. Before the asterisks of that mask there is no occurrence. -/
theorem exists_maskSecret_eq (hsecret : secret ≠ []) {s : List Char} (h : secret <:+: s) :
    ∃ front rest count, s = front ++ secret ++ rest ∧
      maskSecret secret s = (front ++ Secret.shownFront secret) ++ '*' ::
        (List.replicate count '*' ++ (Secret.shownEnd secret ++ maskSecret secret rest)) ∧
      ¬ secret <:+: front ++ Secret.shownFront secret := by
  obtain ⟨front, rest, rfl, hreplace, hfirst⟩ :=
    Text.exists_first_occurrence hsecret h (Secret.mask secret)
  obtain ⟨count, hmask⟩ := Secret.exists_mask_eq hsecret
  refine ⟨front, rest, count, rfl, ?_, ?_⟩
  · unfold maskSecret
    rw [hreplace, hmask]
    simp only [List.append_assoc, List.cons_append]
  · exact hfirst _ (Secret.shownFront_begins secret) (Secret.shownFront_length_lt hsecret)

/-- What is left of a text behind an occurrence of a secret is shorter. -/
theorem length_lt_of_occurrence (hsecret : secret ≠ []) (front rest : List Char) :
    rest.length < (front ++ secret ++ rest).length := by
  have hpos : 0 < secret.length := List.length_pos_iff.mpr hsecret
  rw [List.length_append, List.length_append]
  omega

/-- What occurs in a masked text, possibly behind the shown end of a mask, can survive masking. The
induction goes on behind the first occurrence of the secret, so it is on the length. -/
theorem survives_of_infix_append_maskSecret (hsecret : secret ≠ []) (hword : '*' ∉ word)
    {kept : List Char} (hkept : kept <:+ Secret.shownEnd secret) {s : List Char}
    (h : word <:+: kept ++ maskSecret secret s) : Survives secret word := by
  induction hlength : s.length using Nat.strongRecOn generalizing s kept with
  | _ length ih =>
    by_cases hs : secret <:+: s
    · obtain ⟨front, rest, count, rfl, hmasked, hnone⟩ := exists_maskSecret_eq hsecret hs
      rw [hmasked, ← List.append_assoc, Text.infix_append_cons_iff hword] at h
      rcases h with hbefore | hbehind
      · exact survives_of_infix_append hsecret hkept hnone hbefore
      · -- behind the asterisks the text begins with the shown end
        have hrest := Text.infix_of_infix_replicate_append hword hbehind
        have hshorter := length_lt_of_occurrence hsecret front rest
        exact ih _ (hlength ▸ hshorter) List.suffix_rfl hrest rfl
    · have hunchanged : maskSecret secret s = s := Text.replaceAll_of_not_infix hs _
      rw [hunchanged] at h
      exact survives_of_infix_append hsecret hkept hs h

/-- What occurs in a masked text can survive masking. -/
theorem survives_of_infix_maskSecret (hsecret : secret ≠ []) (hword : '*' ∉ word) {s : List Char}
    (h : word <:+: maskSecret secret s) : Survives secret word :=
  survives_of_infix_append_maskSecret hsecret hword List.nil_suffix h

/-- A word behind the end of which nothing is masked is left by masking the secret before it. -/
theorem infix_maskSecret_append (hsecret : secret ≠ []) {shown hidden : List Char}
    (hshown : shown <:+ Secret.shownEnd secret) (hhidden : ¬ secret <:+: hidden) :
    shown ++ hidden <:+: maskSecret secret (secret ++ hidden) := by
  obtain ⟨count, hmask⟩ := Secret.exists_mask_eq hsecret
  obtain ⟨before, hbefore⟩ := hshown
  have hunchanged : maskSecret secret hidden = hidden := Text.replaceAll_of_not_infix hhidden _
  have hreplace : maskSecret secret (secret ++ hidden) = Secret.mask secret ++ hidden := by
    rw [← congrArg (Secret.mask secret ++ ·) hunchanged]
    exact Text.replaceAll_append_of_ne_nil hsecret _ _
  refine ⟨Secret.shownFront secret ++ '*' :: (List.replicate count '*' ++ before), [], ?_⟩
  rw [hreplace, hmask, ← hbefore]
  simp only [List.append_assoc, List.cons_append, List.append_nil]

/-- A character that is not in the secret separates a text into two that are masked by
themselves. -/
theorem maskSecret_append_cons {c : Char} (h : c ∉ secret) (hsecret : secret ≠ [])
    (s t : List Char) :
    maskSecret secret (s ++ c :: t) = maskSecret secret s ++ c :: maskSecret secret t :=
  Text.replaceAll_append_cons h hsecret _ s t

/-! ## Masked tokens -/

/-- A value ends before a character that no value contains. -/
theorem valueAtFront_append_cons {c : Char} (hmarker : c ∉ marker) (hc : isTokenChar c = false)
    (s t : List Char) : valueAtFront (s ++ c :: t) = valueAtFront s := by
  unfold valueAtFront
  by_cases hbegin : marker <+: s
  · have hbegin' : marker <+: s ++ c :: t := hbegin.trans (List.prefix_append _ _)
    rw [if_pos (List.isPrefixOf_iff_prefix.mpr hbegin),
      if_pos (List.isPrefixOf_iff_prefix.mpr hbegin'), List.drop_append_of_le_length
        hbegin.length_le, List.takeWhile_append]
    split
    · rename_i hall
      rw [List.takeWhile_cons_of_neg (by simp [hc]), List.append_nil]
      exact (List.takeWhile_prefix _).eq_of_length hall |>.symm
    · rfl
  · have hbegin' : ¬ marker <+: s ++ c :: t := fun h =>
      hbegin (Text.prefix_of_prefix_append_cons hmarker h)
    rw [if_neg fun h => hbegin' (List.isPrefixOf_iff_prefix.mp h),
      if_neg fun h => hbegin (List.isPrefixOf_iff_prefix.mp h)]

/-- A value at the front of a text stands there behind its marker. -/
theorem marker_append_valueAtFront_begins {s : List Char} (h : valueAtFront s ≠ []) :
    marker ++ valueAtFront s <+: s := by
  unfold valueAtFront at h ⊢
  split at h
  · rename_i hmarker
    obtain ⟨rest, rfl⟩ := List.isPrefixOf_iff_prefix.mp hmarker
    rw [if_pos hmarker, List.drop_left]
    exact (List.prefix_append_right_inj marker).mpr (List.takeWhile_prefix _)
  · exact absurd rfl h

/-- The value at the front of a text is masked, and the search goes on behind it. -/
theorem maskTokens_of_value {s : List Char} (h : valueAtFront s ≠ []) :
    maskTokens s = marker ++ Secret.mask (valueAtFront s) ++
      maskTokens (s.drop (marker.length + (valueAtFront s).length)) := by
  cases s with
  | nil => exact absurd rfl h
  | cons c rest =>
    unfold maskTokens
    rw [maskTokensFrom]
    cases hvalue : valueAtFront (c :: rest) with
    | nil => exact absurd hvalue h
    | cons d more =>
      simp only [maskTokensFrom_eq_drop]
      rfl

/-- Without a value at its front, the first character of a text stays. -/
theorem maskTokens_cons_of_no_value {c : Char} {rest : List Char}
    (h : valueAtFront (c :: rest) = []) : maskTokens (c :: rest) = c :: maskTokens rest := by
  rw [maskTokens, maskTokensFrom, h, maskTokens]

/-- A character that is in no marker and no value separates a text into two whose tokens are masked
by themselves. -/
theorem maskTokens_append_cons {c : Char} (hmarker : c ∉ marker) (hc : isTokenChar c = false)
    (s t : List Char) : maskTokens (s ++ c :: t) = maskTokens s ++ c :: maskTokens t := by
  induction hlength : s.length using Nat.strongRecOn generalizing s with
  | _ length ih =>
    have hvalue := valueAtFront_append_cons hmarker hc s t
    by_cases h : valueAtFront s = []
    · cases s with
      | nil => exact maskTokens_cons_of_no_value hvalue
      | cons d s =>
        subst hlength
        rw [List.cons_append] at hvalue ⊢
        rw [maskTokens_cons_of_no_value h, maskTokens_cons_of_no_value (hvalue.trans h),
          ih _ (Nat.lt_succ_self _) s rfl]
        rfl
    · have hfront := (marker_append_valueAtFront_begins h).length_le
      rw [List.length_append] at hfront
      have hshorter : (s.drop (marker.length + (valueAtFront s).length)).length < length := by
        have hpos : 0 < marker.length := by decide
        rw [List.length_drop]
        omega
      have h' : valueAtFront (s ++ c :: t) ≠ [] := hvalue ▸ h
      rw [maskTokens_of_value h', maskTokens_of_value h, hvalue,
        List.drop_append_of_le_length hfront, ih _ hshorter _ rfl]
      simp only [List.append_assoc]

/-- Without a marker nothing changes. -/
theorem maskTokens_of_not_infix {s : List Char} (h : ¬ marker <:+: s) : maskTokens s = s := by
  induction s with
  | nil => rfl
  | cons c rest ih =>
    rw [maskTokens_cons_of_not_begins fun hbegins => h hbegins.isInfix,
      ih fun hlater => h (List.infix_cons hlater)]

end Redaction

end PlatformClient
