/-!
# Digits

The decimal digits of every script come in runs of ten, zero first. Whole numbers of more than
4300 digits are refused wherever a text becomes a number or a number a text. Octets and code points
are written by hexadecimal digits.

## Main definitions

* `digitValue?`: the value of a decimal digit of any script
* `digitLimit`: the most digits a whole number may have
* `valueOfDigits`: the number that digit values spell
* `hexDigit`, `upperHexDigit`: the hexadecimal digit of a value below sixteen
* `hexDigits`: a number in a fixed count of small hexadecimal digits
* `hexValue?`: the value of a hexadecimal digit of either case

## Main results

* `hexValue?_hexDigit`, `hexValue?_upperHexDigit`: a hexadecimal digit reads back as its value
-/

namespace PlatformClient.Text

/-- The zeros of all scripts; the digits one to nine follow each of them. -/
def zeros : List Nat :=
  [
    0x0030, 0x0660, 0x06F0, 0x07C0, 0x0966, 0x09E6, 0x0A66, 0x0AE6, 0x0B66, 0x0BE6, 0x0C66,
    0x0CE6, 0x0D66, 0x0DE6, 0x0E50, 0x0ED0, 0x0F20, 0x1040, 0x1090, 0x17E0, 0x1810, 0x1946,
    0x19D0, 0x1A80, 0x1A90, 0x1B50, 0x1BB0, 0x1C40, 0x1C50, 0xA620, 0xA8D0, 0xA900, 0xA9D0,
    0xA9F0, 0xAA50, 0xABF0, 0xFF10, 0x104A0, 0x10D30, 0x11066, 0x110F0, 0x11136, 0x111D0,
    0x112F0, 0x11450, 0x114D0, 0x11650, 0x116C0, 0x11730, 0x118E0, 0x11950, 0x11C50, 0x11D50,
    0x11DA0, 0x16A60, 0x16AC0, 0x16B50, 0x1D7CE, 0x1D7D8, 0x1D7E2, 0x1D7EC, 0x1D7F6, 0x1E140,
    0x1E2F0, 0x1E950, 0x1FBF0
  ]

/-- The value of a decimal digit of any script. -/
def digitValue? (c : Char) : Option Nat :=
  (zeros.find? fun z => z ≤ c.toNat && c.toNat < z + 10).map (c.toNat - ·)

/-- The most digits a whole number may have where it becomes a text or is read from one. -/
def digitLimit : Nat := 4300

/-- The value of a sequence of digit values, most significant first. -/
def valueOfDigits (digits : List Nat) : Nat :=
  digits.foldl (fun value d => 10 * value + d) 0

/-! ## Hexadecimal digits -/

/-- The small hexadecimal digit of a value below sixteen. -/
def hexDigit (n : Nat) : Char :=
  Char.ofNat (if n < 10 then '0'.toNat + n else 'a'.toNat + (n - 10))

/-- The capital hexadecimal digit of a value below sixteen. -/
def upperHexDigit (n : Nat) : Char :=
  Char.ofNat (if n < 10 then '0'.toNat + n else 'A'.toNat + (n - 10))

/-- The last `width` hexadecimal digits of a number. -/
def hexDigits : Nat → Nat → List Char
  | 0, _ => []
  | width + 1, n => hexDigits width (n / 16) ++ [hexDigit (n % 16)]

/-- The value of a hexadecimal digit of either case. -/
def hexValue? (c : Char) : Option Nat :=
  let n := c.toNat
  if 48 ≤ n && n ≤ 57 then some (n - 48)
  else if 97 ≤ n && n ≤ 102 then some (n - 87)
  else if 65 ≤ n && n ≤ 70 then some (n - 55)
  else none

theorem hexValue?_hexDigit : ∀ n < 16, hexValue? (hexDigit n) = some n := by decide

theorem hexValue?_upperHexDigit : ∀ n < 16, hexValue? (upperHexDigit n) = some n := by decide

end PlatformClient.Text
