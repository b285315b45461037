import PlatformClient.Proofs.Octets.Ascii

/-!
# UTF-8 read back

The octets of a text are well-formed, and what is read from them is the text.

## Main results

* `Utf8.foldl_step_encodeChar`: the octets of a character are read as that character
* `Utf8.scan_encode`, `Utf8.decode?_encode`: the octets of a text are read as that text
-/

namespace PlatformClient.Utf8

/-- The last octet of a sequence completes a character. -/
theorem step_last {bits low high : Nat} {octet : UInt8} (hlow : low ≤ octet.toNat)
    (hhigh : octet.toNat ≤ high) (read : List (Option Char)) :
    Reader.step ⟨some ⟨1, bits, low, high⟩, read⟩ octet =
      ⟨none, some (Char.ofNat (bits * 0x40 + octet.toNat % 0x40)) :: read⟩ := by
  simp [Reader.step, hlow, hhigh]

/-- Another octet of a sequence adds its bits. -/
theorem step_further {missing bits low high : Nat} {octet : UInt8} (hlow : low ≤ octet.toNat)
    (hhigh : octet.toNat ≤ high) (read : List (Option Char)) :
    Reader.step ⟨some ⟨missing + 2, bits, low, high⟩, read⟩ octet =
      ⟨some ⟨missing + 1, bits * 0x40 + octet.toNat % 0x40, 0x80, 0xBF⟩, read⟩ := by
  simp [Reader.step, hlow, hhigh]

theorem lead_two {octet : UInt8} (hlow : 0xC2 ≤ octet.toNat) (hhigh : octet.toNat < 0xE0) :
    lead octet = .sequence ⟨1, octet.toNat - 0xC0, 0x80, 0xBF⟩ := by
  simp only [lead]
  rw [if_neg (by omega), if_neg (by omega), if_pos (by omega)]

theorem lead_three {octet : UInt8} (hlow : 0xE0 ≤ octet.toNat) (hhigh : octet.toNat < 0xF0) :
    lead octet = .sequence ⟨2, octet.toNat - 0xE0, if octet.toNat = 0xE0 then 0xA0 else 0x80,
      if octet.toNat = 0xED then 0x9F else 0xBF⟩ := by
  simp only [lead]
  rw [if_neg (by omega), if_neg (by omega), if_neg (by omega), if_pos (by omega)]

theorem lead_four {octet : UInt8} (hlow : 0xF0 ≤ octet.toNat) (hhigh : octet.toNat < 0xF5) :
    lead octet = .sequence ⟨3, octet.toNat - 0xF0, if octet.toNat = 0xF0 then 0x90 else 0x80,
      if octet.toNat = 0xF4 then 0x8F else 0xBF⟩ := by
  simp only [lead]
  rw [if_neg (by omega), if_neg (by omega), if_neg (by omega), if_neg (by omega),
    if_pos (by omega)]

theorem step_begin {octet : UInt8} {pending : Pending} (h : lead octet = .sequence pending)
    (read : List (Option Char)) : Reader.step ⟨none, read⟩ octet = ⟨some pending, read⟩ := by
  simp [Reader.step, Reader.begin, h]

theorem toNat_ofNat_of_lt {n : Nat} (h : n < 0x100) : (UInt8.ofNat n).toNat = n := by
  rw [UInt8.toNat_ofNat']
  exact Nat.mod_eq_of_lt h

/-- Two octets together have the bits of a number. -/
theorem foldl_step_two {n : Nat} (hlow : 0x80 ≤ n) (hhigh : n < 0x800)
    (read : List (Option Char)) :
    [UInt8.ofNat (0xC0 + n / 0x40), trailing n].foldl Reader.step ⟨none, read⟩ =
      ⟨none, some (Char.ofNat n) :: read⟩ := by
  have hfirst := toNat_ofNat_of_lt (n := 0xC0 + n / 0x40) (by omega)
  have hlast := toNat_trailing n
  have hlead : lead (UInt8.ofNat (0xC0 + n / 0x40)) = _ := lead_two (by omega) (by omega)
  rw [List.foldl_cons, step_begin hlead, List.foldl_cons, step_last (by omega) (by omega),
    List.foldl_nil, hfirst, hlast]
  have hbits : (0xC0 + n / 0x40 - 0xC0) * 0x40 + (0x80 + n % 0x40) % 0x40 = n := by omega
  rw [hbits]

/-- Three octets together have the bits of a number that is no surrogate. -/
theorem foldl_step_three {n : Nat} (hlow : 0x800 ≤ n) (hhigh : n < 0x10000)
    (hvalid : n < 0xD800 ∨ 0xDFFF < n) (read : List (Option Char)) :
    [UInt8.ofNat (0xE0 + n / 0x1000), trailing (n / 0x40), trailing n].foldl Reader.step
        ⟨none, read⟩ =
      ⟨none, some (Char.ofNat n) :: read⟩ := by
  have hfirst := toNat_ofNat_of_lt (n := 0xE0 + n / 0x1000) (by omega)
  have hsecond := toNat_trailing (n / 0x40)
  have hlast := toNat_trailing n
  -- the first octet narrows the range of the second one, so that no shorter sequence would do and
  -- no surrogate is read
  have hlead : lead (UInt8.ofNat (0xE0 + n / 0x1000)) = _ := lead_three (by omega) (by omega)
  rw [List.foldl_cons, step_begin hlead, List.foldl_cons,
    step_further (by split <;> omega) (by split <;> omega), List.foldl_cons,
    step_last (by omega) (by omega), List.foldl_nil, hfirst, hsecond, hlast]
  have hbits : ((0xE0 + n / 0x1000 - 0xE0) * 0x40 + (0x80 + n / 0x40 % 0x40) % 0x40) * 0x40 +
      (0x80 + n % 0x40) % 0x40 = n := by omega
  rw [hbits]

/-- Four octets together have the bits of a number that is a code point. -/
theorem foldl_step_four {n : Nat} (hlow : 0x10000 ≤ n) (hhigh : n < 0x110000)
    (read : List (Option Char)) :
    [UInt8.ofNat (0xF0 + n / 0x40000), trailing (n / 0x1000), trailing (n / 0x40),
        trailing n].foldl Reader.step ⟨none, read⟩ =
      ⟨none, some (Char.ofNat n) :: read⟩ := by
  have hfirst := toNat_ofNat_of_lt (n := 0xF0 + n / 0x40000) (by omega)
  have hsecond := toNat_trailing (n / 0x1000)
  have hthird := toNat_trailing (n / 0x40)
  have hlast := toNat_trailing n
  have hlead : lead (UInt8.ofNat (0xF0 + n / 0x40000)) = _ := lead_four (by omega) (by omega)
  rw [List.foldl_cons, step_begin hlead, List.foldl_cons,
    step_further (by split <;> omega) (by split <;> omega), List.foldl_cons,
    step_further (by omega) (by omega), List.foldl_cons, step_last (by omega) (by omega),
    List.foldl_nil, hfirst, hsecond, hthird, hlast]
  have hbits : (((0xF0 + n / 0x40000 - 0xF0) * 0x40 + (0x80 + n / 0x1000 % 0x40) % 0x40) * 0x40 +
      (0x80 + n / 0x40 % 0x40) % 0x40) * 0x40 + (0x80 + n % 0x40) % 0x40 = n := by omega
  rw [hbits]

/-- The octets of a character are read as that character. -/
theorem foldl_step_encodeChar (c : Char) (read : List (Option Char)) :
    (encodeChar c).foldl Reader.step ⟨none, read⟩ = ⟨none, some c :: read⟩ := by
  have hvalid : c.toNat < 0xD800 ∨ 0xDFFF < c.toNat ∧ c.toNat < 0x110000 := c.valid
  have hc : Char.ofNat c.toNat = c := Char.ofNat_toNat c
  unfold encodeChar
  dsimp only
  split
  · rename_i hascii
    have hoctet : (UInt8.ofNat c.toNat).toNat = c.toNat := toNat_ofNat_of_lt (by omega)
    rw [List.foldl_cons, step_ascii (by omega), List.foldl_nil, hoctet, hc]
  · split
    · rw [foldl_step_two (by omega) (by omega), hc]
    · split
      · rw [foldl_step_three (by omega) (by omega) (by omega), hc]
      · rw [foldl_step_four (by omega) (by omega), hc]

/-- The octets of a text are read as that text. -/
theorem scan_encode (s : List Char) : scan (encode s) = s.map some := by
  have hfold : ∀ read, (encode s).foldl Reader.step ⟨none, read⟩ =
      ⟨none, (s.map some).reverse ++ read⟩ := by
    induction s with
    | nil => exact fun _ => rfl
    | cons c s ih =>
      intro read
      rw [encode_cons, List.foldl_append, foldl_step_encodeChar, ih]
      simp
  unfold scan
  rw [hfold]
  simp [Reader.finish]

theorem decode?_encode (s : List Char) : decode? (encode s) = some s :=
  decode?_eq_some_iff.mpr (scan_encode s)

end PlatformClient.Utf8
