import PlatformClient.Text.CodePoint
import PlatformClient.Text.Digit

/-!
# Names that end in a number

Some characters, above all ideographs, are only told apart by their code points, which their names
end in. Unified ideographs are named in capital letters alone, and may have a zero in front.

## Main definitions

* `Series`: characters with such names
* `Series.find?`: the character of a name in a series
* `unifiedIdeographs`, `otherSeries`: the series
* `ideograph?`, `numbered?`: the character of a name
-/

namespace PlatformClient.CharacterName

/-- Characters whose names are a common front and the code point. -/
structure Series where
  front : String
  codes : Text.CodeRanges

/-- The number that capital hexadecimal digits stand for. -/
def codeOf? (digits : List Char) : Option Nat :=
  digits.foldlM (fun code digit =>
    if digit.isLower then none else (Text.hexValue? digit).map (code * 0x10 + ·)) 0

/-- The character of a name in a series, if the count of digits is right for it. -/
def Series.find? (series : Series) (isLength : Nat → Nat → Bool) (name : List Char) :
    Option Char := do
  if !series.front.toList.isPrefixOf name then none
  let digits := name.drop series.front.length
  let code ← codeOf? digits
  if isLength digits.length code && series.codes.contains (Char.ofNat code) then
    some (Char.ofNat code)
  else none

/-- The unified ideographs. -/
def unifiedIdeographs : Series :=
  ⟨"CJK UNIFIED IDEOGRAPH-",
    [(0x3400, 0x4DBF), (0x4E00, 0x9FFF), (0x20000, 0x2A6DF), (0x2A700, 0x2B738),
      (0x2B740, 0x2B81D), (0x2B820, 0x2CEA1), (0x2CEB0, 0x2EBE0), (0x30000, 0x3134A)]⟩

/-- The other characters that are named by number. -/
def otherSeries : List Series :=
  [
    ⟨"CJK COMPATIBILITY IDEOGRAPH-", [(0xF900, 0xFA6D), (0xFA70, 0xFAD9), (0x2F800, 0x2FA1D)]⟩,
    ⟨"KHITAN SMALL SCRIPT CHARACTER-", [(0x18B00, 0x18CD5)]⟩,
    ⟨"NUSHU CHARACTER-", [(0x1B170, 0x1B2FB)]⟩
  ]

/-- The unified ideograph of a name. Its number has four or five digits. -/
def ideograph? (name : List Char) : Option Char :=
  unifiedIdeographs.find? (fun length _ => length == 4 || length == 5) name

/-- The character of a name that ends in a number of four digits, or more if it needs them. -/
def numbered? (name : List Char) : Option Char :=
  otherSeries.findSome?
    (·.find? (fun length code => length == if code < 0x10000 then 4 else 5) name)

end PlatformClient.CharacterName
