import PlatformClient.Proofs.Redaction.Found
import Mathlib.Data.List.TakeWhile

/-!
# Texts that show no token

A text shows no token if whatever stands behind a marker, up to the end of a value, is its own mask.
These are the texts that redaction leaves as they are: a mask is too short to hold another marker,
and no marker goes on behind the end of a value. A character that is in no value separates a text
into two parts that show a token by themselves or not at all; so what is put in front of a text
with a blank between, and blank ends, make no difference.

## Main definitions

* `Redaction.AllMasked`: texts that show no token

## Main results

* `Redaction.allMasked_maskTokens`: a redacted text shows no token
* `Redaction.allMasked_iff`: the texts that show no token are those that redaction leaves as they
  are
* `Redaction.allMasked_append_iff`, `Redaction.allMasked_announced`, `Redaction.allMasked_trim`:
  parts of texts
-/

namespace PlatformClient

namespace Redaction

/-- Behind every marker the value is its own mask. -/
def AllMasked (s : List Char) : Prop :=
  ∀ back, marker ++ back <:+ s →
    Secret.mask (back.takeWhile isTokenChar) = back.takeWhile isTokenChar

variable {s t front back value : List Char} {c : Char}

theorem AllMasked.of_suffix (h : AllMasked t) (hs : s <:+ t) : AllMasked s :=
  fun back hback => h back (hback.trans hs)

/-! ## Parts of texts -/

/-- A marker can begin inside of another one at its first character only. -/
theorem exists_marker_eq : ∃ tail, marker = 'a' :: tail ∧ 'a' ∉ tail :=
  ⟨marker.tail, by decide, by decide⟩

/-- A value ends where no character of a value follows. -/
theorem takeWhile_append_end (hend : ∀ c ∈ t.head?, isTokenChar c = false) (s : List Char) :
    (s ++ t).takeWhile isTokenChar = s.takeWhile isTokenChar := by
  induction s with
  | nil =>
    cases t with
    | nil => rfl
    | cons c t => exact List.takeWhile_cons_of_neg (by simp [hend c rfl])
  | cons c s ih => rw [List.cons_append, List.takeWhile_cons, ih, ← List.takeWhile_cons]

/-- A marker begins in the one part or in the other: it does not go on behind the end of a value. -/
theorem marker_suffix_append (hend : ∀ c ∈ t.head?, isTokenChar c = false)
    (h : marker ++ back <:+ s ++ t) :
    marker ++ back <:+ t ∨ ∃ inner, back = inner ++ t ∧ marker ++ inner <:+ s := by
  obtain ⟨before, hsplit⟩ := h
  rcases List.append_eq_append_iff.mp hsplit with ⟨piece, rfl, hpiece⟩ | ⟨between, -, hlater⟩
  · rcases List.append_eq_append_iff.mp hpiece with ⟨inner, rfl, hback⟩ | ⟨rest, hmarker, hrest⟩
    · exact .inr ⟨inner, hback, List.suffix_append _ _⟩
    · cases rest with
      | nil =>
        rw [List.append_nil] at hmarker
        exact .inr ⟨[], hrest.symm, by rw [List.append_nil, hmarker]; exact List.suffix_append _ _⟩
      | cons c rest =>
        have htoken : isTokenChar c = true :=
          isTokenChar_of_mem_marker c (hmarker ▸ List.mem_append_right _ List.mem_cons_self)
        have hother : isTokenChar c = false := hend c (by rw [hrest]; rfl)
        exact absurd (htoken.symm.trans hother) (by decide)
  · exact .inl ⟨between, hlater.symm⟩

/-- The end of a value separates a text into two parts. -/
theorem allMasked_append_iff (hend : ∀ c ∈ t.head?, isTokenChar c = false) :
    AllMasked (s ++ t) ↔ AllMasked s ∧ AllMasked t := by
  constructor
  · refine fun h => ⟨fun inner hinner => ?_, h.of_suffix (List.suffix_append _ _)⟩
    obtain ⟨before, rfl⟩ := hinner
    rw [← takeWhile_append_end hend inner]
    exact h _ ⟨before, by simp only [List.append_assoc]⟩
  · rintro ⟨hs, ht⟩ back hback
    rcases marker_suffix_append hend hback with hlater | ⟨inner, rfl, hinner⟩
    · exact ht back hlater
    · rw [takeWhile_append_end hend]
      exact hs inner hinner

theorem allMasked_of_length_lt (h : s.length < 13) : AllMasked s := by
  intro back hback
  have hlength := hback.length_le
  rw [List.length_append, show marker.length = 13 from rfl] at hlength
  omega

theorem allMasked_cons_iff (hc : isTokenChar c = false) : AllMasked (c :: s) ↔ AllMasked s := by
  constructor
  · exact fun h => h.of_suffix (List.suffix_cons c s)
  · intro h back hback
    rcases List.suffix_cons_iff.mp hback with heq | hlater
    · obtain ⟨tail, hmarker, -⟩ := exists_marker_eq
      rw [hmarker, List.cons_append] at heq
      obtain ⟨rfl, -⟩ := List.cons_eq_cons.mp heq
      exact absurd hc (by decide)
    · exact h back hlater

/-- What is put in front of a text with a blank between makes no difference. -/
theorem allMasked_announced (hfront : AllMasked front) (hend : front.getLast? = some ' ') :
    AllMasked (front ++ s) ↔ AllMasked s := by
  obtain ⟨before, rfl⟩ := List.getLast?_eq_some_iff.mp hend
  have hblank : isTokenChar ' ' = false := by decide
  have hstart : ∀ rest, ∀ c ∈ (' ' :: rest).head?, isTokenChar c = false := by
    rintro rest c ⟨⟩
    exact hblank
  rw [List.append_assoc, List.singleton_append, allMasked_append_iff (hstart s),
    allMasked_cons_iff hblank, and_iff_right]
  exact ((allMasked_append_iff (hstart [])).mp hfront).1

theorem isTokenChar_of_isBlank (h : Text.isBlank c = true) : isTokenChar c = false := by
  simp [isTokenChar, h]

theorem allMasked_blanks_append {blanks : List Char} (h : ∀ c ∈ blanks, Text.isBlank c = true) :
    AllMasked (blanks ++ s) ↔ AllMasked s := by
  induction blanks with
  | nil => rfl
  | cons c blanks ih =>
    rw [List.cons_append, allMasked_cons_iff (isTokenChar_of_isBlank (h c List.mem_cons_self)),
      ih fun d hd => h d (List.mem_cons_of_mem c hd)]

theorem allMasked_append_blanks {blanks : List Char} (h : ∀ c ∈ blanks, Text.isBlank c = true) :
    AllMasked (s ++ blanks) ↔ AllMasked s := by
  have hend : ∀ c ∈ blanks.head?, isTokenChar c = false := fun c hc =>
    isTokenChar_of_isBlank (h c (List.mem_of_mem_head? hc))
  have hblanks : AllMasked (blanks ++ []) :=
    (allMasked_blanks_append h).mpr (allMasked_of_length_lt (by decide))
  rw [allMasked_append_iff hend, and_iff_left (List.append_nil blanks ▸ hblanks)]

/-- Blank ends make no difference. -/
theorem allMasked_trim (s : List Char) : AllMasked (Text.trim s) ↔ AllMasked s := by
  have hfront : AllMasked (s.takeWhile Text.isBlank ++ s.dropWhile Text.isBlank) ↔ _ :=
    allMasked_blanks_append fun c hc => List.mem_takeWhile_imp hc
  have hback : AllMasked (Text.trim s ++ ((s.dropWhile Text.isBlank).reverse.takeWhile
      Text.isBlank).reverse) ↔ _ :=
    allMasked_append_blanks fun c hc => List.mem_takeWhile_imp (List.mem_reverse.mp hc)
  rw [List.takeWhile_append_dropWhile] at hfront
  rw [Text.trim, Text.trimBy, Text.trimEndBy_append_takeWhile] at hback
  exact hback.symm.trans hfront.symm

/-! ## Redacted texts -/

theorem Bare.allMasked (h : Bare s) : AllMasked s := by
  intro back hback
  cases back with
  | nil => rfl
  | cons c back =>
    have hc : ¬ isTokenChar c = true := by
      intro hc
      refine h c hc (List.IsInfix.trans ⟨[], back, ?_⟩ hback.isInfix)
      rw [List.nil_append, List.append_assoc, List.singleton_append]
    rw [List.takeWhile_cons_of_neg hc]
    rfl

/-- A marker does not begin in another one. -/
theorem eq_nil_or_eq_marker {piece rest : List Char} (hsplit : marker = piece ++ rest)
    (hsuffix : piece <:+ marker) : piece = [] ∨ rest = [] := by
  obtain ⟨tail, hmarker, hnone⟩ := exists_marker_eq
  cases piece with
  | nil => exact .inl rfl
  | cons c piece =>
    rw [hmarker] at hsplit hsuffix
    obtain ⟨rfl, htail⟩ := List.cons_eq_cons.mp hsplit
    rcases List.suffix_cons_iff.mp hsuffix with heq | hlater
    · obtain ⟨-, rfl⟩ := List.cons_eq_cons.mp heq
      exact .inr (List.self_eq_append_right.mp htail)
    · exact absurd (hlater.subset List.mem_cons_self) hnone

/-- A mask behind a marker is the only value, if there is none before it. -/
theorem allMasked_append_mask (hfront : Bare (front ++ marker))
    (hvalue : ∀ c ∈ value, isTokenChar c = true) (hlength : value.length ≤ 11)
    (hmask : Secret.mask value = value) : AllMasked (front ++ marker ++ value) := by
  have hmarker : marker.length = 13 := rfl
  have hall : value.takeWhile isTokenChar = value := List.takeWhile_eq_self_iff.mpr hvalue
  rintro back ⟨before, hsplit⟩
  obtain ⟨piece, hpiece, heq⟩ : ∃ piece, front ++ marker = before ++ piece ∧
      marker ++ back = piece ++ value := by
    rcases List.append_eq_append_iff.mp hsplit with h | ⟨between, -, hinside⟩
    · exact h
    · have hlengths := congrArg List.length hinside
      simp only [List.length_append] at hlengths
      omega
  rcases List.append_eq_append_iff.mp heq with ⟨inner, rfl, rfl⟩ | ⟨rest, hrest, rfl⟩
  · cases inner with
    | nil => rw [List.nil_append, hall, hmask]
    | cons c inner =>
      have hc : ¬ isTokenChar c = true := by
        intro hc
        refine hfront c hc ⟨before, inner, ?_⟩
        rw [hpiece]
        simp only [List.append_assoc, List.singleton_append]
      rw [List.cons_append, List.takeWhile_cons_of_neg hc]
      rfl
  · have hsuffix : piece <:+ marker := by
      refine List.suffix_of_suffix_length_le ⟨before, hpiece.symm⟩ (List.suffix_append _ _) ?_
      rw [hrest, List.length_append]
      omega
    rcases eq_nil_or_eq_marker hrest hsuffix with rfl | rfl
    · rw [List.nil_append] at hrest
      rw [List.length_append, ← hrest] at hlength
      omega
    · rw [List.nil_append] at hall hmask
      rw [hall, hmask]

/-- The text with masks shows no token. -/
theorem Found.allMasked {text : TokenText} (h : Found text) :
    AllMasked (text.write Secret.mask) := by
  induction h with
  | none hrest => exact hrest.allMasked
  | @token front value tokens rest hfront hne hvalue hend _ ih =>
    rw [TokenText.head?_write id Secret.mask] at hend
    rw [TokenText.write_cons, allMasked_append_iff hend]
    refine ⟨allMasked_append_mask hfront (fun c hc => ?_) (Secret.mask_length_le value)
      (Secret.maskWith_maskWith '*' value), ih⟩
    rcases Secret.mem_mask hc with rfl | hmem
    · decide
    · exact hvalue c hmem

/-- A redacted text shows no token. -/
theorem allMasked_maskTokens (s : List Char) : AllMasked (maskTokens s) := by
  obtain ⟨text, hfound, rfl⟩ := exists_found s
  rw [maskTokens_write hfound]
  exact hfound.allMasked

/-- If the text shows no token, the values that are found in it are masks. -/
theorem Found.write_mask_eq {text : TokenText} (h : Found text)
    (hmasked : AllMasked (text.write id)) : text.write Secret.mask = text.write id := by
  induction h with
  | none hrest => rfl
  | @token front value tokens rest hfront hne hvalue hend _ ih =>
    rw [TokenText.write_cons, id_eq] at hmasked
    have hself := hmasked (value ++ TokenText.write id ⟨tokens, rest⟩)
      ⟨front, by simp only [List.append_assoc]⟩
    rw [takeWhile_append_end hend, List.takeWhile_eq_self_iff.mpr hvalue] at hself
    rw [TokenText.write_cons, TokenText.write_cons, hself,
      ih (hmasked.of_suffix (List.suffix_append _ _)), id_eq]

/-- The texts that show no token are those that redaction leaves as they are. -/
theorem allMasked_iff : AllMasked s ↔ maskTokens s = s := by
  constructor
  · intro h
    obtain ⟨text, hfound, rfl⟩ := exists_found s
    rw [maskTokens_write hfound, hfound.write_mask_eq h]
  · intro h
    rw [← h]
    exact allMasked_maskTokens s

instance (s : List Char) : Decidable (AllMasked s) := decidable_of_iff _ allMasked_iff.symm

end Redaction

end PlatformClient
