import PlatformClient.Octets.Utf8

/-!
# ASCII octets in UTF-8

An octet below 0x80 stands for the ASCII character of that number wherever it occurs in a text as
UTF-8, and for nothing else: the octets of other characters all lie above.

## Main results

* `le_toNat_of_mem_encodeChar`: the octets of a character beyond ASCII
* `mem_encode_iff`: an ASCII octet occurs in a text as UTF-8 exactly if its character does
-/

namespace PlatformClient.Utf8

theorem toNat_trailing (n : Nat) : (trailing n).toNat = 0x80 + n % 0x40 := by
  unfold trailing
  rw [UInt8.toNat_ofNat']
  omega

/-- The octets of a character beyond ASCII are no ASCII octets. -/
theorem le_toNat_of_mem_encodeChar {c : Char} (h : 0x80 ≤ c.toNat) :
    ∀ octet ∈ encodeChar c, 0x80 ≤ octet.toNat := by
  have hlast : c.toNat < 0x110000 := by
    have hvalid := c.valid
    unfold UInt32.isValidChar Nat.isValidChar at hvalid
    have hval : c.toNat = c.val.toNat := rfl
    omega
  intro octet hoctet
  unfold encodeChar at hoctet
  simp only at hoctet
  rw [if_neg (by omega)] at hoctet
  split at hoctet
  · simp only [List.mem_cons, List.not_mem_nil, or_false] at hoctet
    rcases hoctet with rfl | rfl
    · rw [UInt8.toNat_ofNat']
      omega
    · rw [toNat_trailing]
      omega
  · split at hoctet
    · simp only [List.mem_cons, List.not_mem_nil, or_false] at hoctet
      rcases hoctet with rfl | rfl | rfl
      · rw [UInt8.toNat_ofNat']
        omega
      · rw [toNat_trailing]
        omega
      · rw [toNat_trailing]
        omega
    · simp only [List.mem_cons, List.not_mem_nil, or_false] at hoctet
      rcases hoctet with rfl | rfl | rfl | rfl
      · rw [UInt8.toNat_ofNat']
        omega
      · rw [toNat_trailing]
        omega
      · rw [toNat_trailing]
        omega
      · rw [toNat_trailing]
        omega

theorem mem_encodeChar_iff {ascii : Char} (h : ascii.toNat < 0x80) (c : Char) :
    UInt8.ofNat ascii.toNat ∈ encodeChar c ↔ c = ascii := by
  constructor
  · intro hmem
    by_cases hc : c.toNat < 0x80
    · rw [encodeChar_ascii hc, List.mem_singleton] at hmem
      have hnumber := congrArg UInt8.toNat hmem
      rw [UInt8.toNat_ofNat', UInt8.toNat_ofNat'] at hnumber
      apply Char.toNat_inj.mp
      omega
    · have hlarge := le_toNat_of_mem_encodeChar (Nat.le_of_not_lt hc) _ hmem
      rw [UInt8.toNat_ofNat'] at hlarge
      omega
  · rintro rfl
    rw [encodeChar_ascii h]
    exact List.mem_singleton_self _

/-- An ASCII octet occurs in a text as UTF-8 exactly if its character occurs in the text. -/
theorem mem_encode_iff {ascii : Char} (h : ascii.toNat < 0x80) (s : List Char) :
    UInt8.ofNat ascii.toNat ∈ encode s ↔ ascii ∈ s := by
  unfold encode
  rw [List.mem_flatMap]
  constructor
  · rintro ⟨c, hc, hmem⟩
    obtain rfl := (mem_encodeChar_iff h c).mp hmem
    exact hc
  · intro hmem
    exact ⟨ascii, hmem, (mem_encodeChar_iff h ascii).mpr rfl⟩

end PlatformClient.Utf8
