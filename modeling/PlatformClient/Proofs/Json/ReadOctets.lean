import PlatformClient.Charset.Guess
import PlatformClient.Proofs.Json.ReadBack
import PlatformClient.Proofs.Octets.ReadBack

/-!
# Documents as octets

A reader that is given octets finds out their character set first: a byte order mark tells it, or
else the places of zeros among the first octets do. A document in UTF-8 has no mark, and no zeros at
its begin, since its first two characters are visible. So the octets of a plain value are read as
that value.

## Main definitions

* `Json.charset`: the character set of a document as octets
* `Json.readOctets?`: the value of a document as octets

## Main results

* `Json.charset_encode`: the set of octets that begin with two visible characters
* `Json.Plain.readOctets?_encode`: the octets of a plain value are read as that value
-/

namespace PlatformClient.Json

/-- The character set of a document as octets: what a byte order mark stands for, or else what the
places of zeros tell. -/
def charset (octets : Octets) : Charset :=
  (Charset.ofFrontMark? octets).getD <|
    match octets with
    | 0 :: 0 :: _ :: _ :: _ => .ofScan (Charset.Units.utf32 .big)
    | 0 :: _ :: _ :: _ :: _ => .ofScan (Charset.Units.utf16 .big)
    | _ :: 0 :: 0 :: 0 :: _ => .ofScan (Charset.Units.utf32 .little)
    | _ :: 0 :: _ :: _ :: _ => .ofScan (Charset.Units.utf16 .little)
    | [0, _] => .ofScan (Charset.Units.utf16 .big)
    | [_, 0] => .ofScan (Charset.Units.utf16 .little)
    | _ => .utf8

/-- The value of a document as octets. -/
def readOctets? (reading : Reading) (octets : Octets) : Option Json :=
  (charset octets).strictText? octets >>= fun text => (read reading text).toOption

/-- Octets that begin with a visible character, and with no zero behind it, are UTF-8. -/
theorem charset_of_visible {first : UInt8} {rest : Octets} (hfirst : 0 < first ∧ first < 0x80)
    (hrest : ∀ octet ∈ rest.head?, octet ≠ 0) : charset (first :: rest) = .utf8 := by
  have hmark : Charset.ofFrontMark? (first :: rest) = none := by
    unfold Charset.ofFrontMark?
    split <;> simp_all
  unfold charset
  rw [hmark, Option.getD_none]
  split <;> simp_all

theorem exists_encodeChar_eq (c : Char) : ∃ first rest, Utf8.encodeChar c = first :: rest := by
  unfold Utf8.encodeChar
  dsimp only
  split
  · exact ⟨_, _, rfl⟩
  · split
    · exact ⟨_, _, rfl⟩
    · split <;> exact ⟨_, _, rfl⟩

/-- The first octet of a text is zero only if its first character is the null character. -/
theorem ne_zero_of_head? {s : List Char} (h : ∀ c ∈ s.head?, c ≠ '\x00') :
    ∀ octet ∈ (Utf8.encode s).head?, octet ≠ 0 := by
  cases s with
  | nil => nofun
  | cons c rest =>
    obtain ⟨first, more, hfirst⟩ := exists_encodeChar_eq c
    rw [Utf8.encode_cons, hfirst]
    rintro octet ⟨⟩ hzero
    have hmem : (0 : UInt8) ∈ Utf8.encodeChar c := hfirst ▸ hzero ▸ List.mem_cons_self
    have hnull : c = '\x00' := (Utf8.mem_encodeChar_iff (by decide) c).mp hmem
    exact h c rfl hnull

/-- A text that begins with a visible character, and with no null character behind it, is told to be
UTF-8. -/
theorem charset_encode {c : Char} {rest : List Char} (hc : 0x20 < c.toNat ∧ c.toNat < 0x80)
    (hrest : ∀ d ∈ rest.head?, d ≠ '\x00') : charset (Utf8.encode (c :: rest)) = .utf8 := by
  have hoctet : (UInt8.ofNat c.toNat).toNat = c.toNat := Utf8.toNat_ofNat_of_lt (by omega)
  rw [Utf8.encode_cons, Utf8.encodeChar_ascii hc.2, List.singleton_append]
  refine charset_of_visible ⟨?_, ?_⟩ (ne_zero_of_head? hrest)
  · rw [UInt8.lt_iff_toNat_lt, hoctet]
    exact Nat.lt_of_le_of_lt (Nat.zero_le _) hc.1
  · rw [UInt8.lt_iff_toNat_lt, hoctet]
    exact hc.2

theorem ne_null_of_lt {c : Char} (h : 0 < c.toNat) : c ≠ '\x00' := by
  rintro rfl
  exact absurd h (by decide)

theorem ne_null_of_mem_decimal {n : Int} {c : Char} (h : c ∈ (Text.decimal n).toList) :
    c ≠ '\x00' := by
  rw [toList_decimal] at h
  rcases List.mem_append.mp h with hsign | hdigit
  · split at hsign
    · rw [List.mem_singleton.mp hsign]
      decide
    · cases hsign
  · exact ne_of_isDigit (isDigit_of_mem_toDigits hdigit) rfl

theorem ne_null_of_head?_escape {c d : Char} {rest : List Char} (h : d ∈ (escape c ++ rest).head?) :
    d ≠ '\x00' := by
  rcases escape_cases c with ⟨letter, hescape, -⟩ | ⟨-, hescape⟩ | ⟨-, -, hprint, hescape⟩
  · rw [hescape] at h
    cases h
    decide
  · rw [hescape] at h
    cases h
    decide
  · rw [hescape] at h
    cases h
    exact ne_null_of_lt (Nat.lt_of_lt_of_le (by decide) hprint)

/-- Behind the first character of a plain value comes no null character. -/
theorem Plain.ne_null_of_write_eq {value : Json} (h : Plain value) {c : Char} {rest : List Char}
    (hwrite : value.write = c :: rest) : ∀ d ∈ rest.head?, d ≠ '\x00' := by
  intro d hd
  cases h with
  | null =>
    cases hwrite
    cases hd
    decide
  | bool b =>
    cases b <;> cases hwrite <;> cases hd <;> decide
  | integer h =>
    have hmem : d ∈ c :: rest := List.mem_cons_of_mem _ (List.mem_of_mem_head? hd)
    exact ne_null_of_mem_decimal (hwrite ▸ hmem)
  | string s =>
    rw [write_string] at hwrite
    obtain ⟨-, rfl⟩ := List.cons_eq_cons.mp hwrite
    cases htext : s.toList with
    | nil =>
      rw [htext] at hd
      cases hd
      decide
    | cons e more =>
      rw [htext, List.flatMap_cons] at hd
      have hbegin : d ∈ (escape e ++ (more.flatMap escape ++ ['"'])).head? := by
        rw [← List.append_assoc]
        exact hd
      exact ne_null_of_head?_escape hbegin
  | @array items hplain =>
    rw [write_array] at hwrite
    obtain ⟨-, rfl⟩ := List.cons_eq_cons.mp hwrite
    cases items with
    | nil =>
      cases hd
      decide
    | cons item more =>
      obtain ⟨tail, htail⟩ := exists_writeItems_eq item more
      obtain ⟨e, behind, hitem, hvisible, -⟩ := (hplain item List.mem_cons_self).exists_write_eq
      rw [htail, hitem] at hd
      cases hd
      exact ne_null_of_lt (Nat.lt_trans (by decide) hvisible)
  | @object members hnames hplain =>
    rw [write_object] at hwrite
    obtain ⟨-, rfl⟩ := List.cons_eq_cons.mp hwrite
    cases members with
    | nil =>
      cases hd
      decide
    | cons member more =>
      obtain ⟨tail, htail⟩ := exists_writeMembers_eq member.1 member.2 more
      rw [htail] at hd
      cases hd
      decide

/-- The octets of a plain value are read as that value. -/
theorem Plain.readOctets?_encode {value : Json} (h : Plain value) {reading : Reading}
    (hdepth : value.depth ≤ reading.room) :
    readOctets? reading (Utf8.encode value.write) = some value := by
  obtain ⟨c, rest, hwrite, hlow, hhigh, -⟩ := h.exists_write_eq
  have hset : charset (Utf8.encode value.write) = .utf8 := by
    rw [hwrite]
    exact charset_encode ⟨hlow, hhigh⟩ (h.ne_null_of_write_eq hwrite)
  have htext : Charset.utf8.strictText? (Utf8.encode value.write) = some value.write :=
    Utf8.decode?_encode value.write
  unfold readOctets?
  rw [hset, htext, Option.bind_eq_bind, Option.bind_some, h.read_write hdepth]
  rfl

end PlatformClient.Json
