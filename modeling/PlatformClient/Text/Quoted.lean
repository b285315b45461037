import PlatformClient.Text.Digit
import PlatformClient.Text.UnprintableTable

/-!
# Quoted text

Texts inside log lines and error messages stand in quotes, with unprintable characters written by
number. The quote is single unless the text holds a single quote and no double quote.

## Main definitions

* `isPrintable`: characters that stand for themselves
* `quoteMark`: the quote chosen for a text
* `quoted`: a text in quotes
* `quotedOctets`: octets in quotes, after the letter `b`
-/

namespace PlatformClient.Text

/-- Whether a character stands for itself in a quoted text. -/
def isPrintable (c : Char) : Bool :=
  if c.toNat < 0x7F then 0x20 ≤ c.toNat else !unprintable.contains c

/-- The quote for a text: single, unless the text holds only single ones. -/
def quoteMark (s : List Char) : Char :=
  if s.contains '\'' && !s.contains '"' then '"' else '\''

/-- A character by number, in two, four or eight hexadecimal digits. -/
def numbered (c : Char) : List Char :=
  let n := c.toNat
  if n ≤ 0xFF then '\\' :: 'x' :: hexDigits 2 n
  else if n ≤ 0xFFFF then '\\' :: 'u' :: hexDigits 4 n
  else '\\' :: 'U' :: hexDigits 8 n

/-- One character of a text in the given quotes. -/
def quotedChar (mark c : Char) : List Char :=
  if c == mark || c == '\\' then ['\\', c]
  else if c == '\n' then ['\\', 'n']
  else if c == '\r' then ['\\', 'r']
  else if c == '\t' then ['\\', 't']
  else if isPrintable c then [c]
  else numbered c

/-- A text in quotes. -/
def quoted (s : List Char) : List Char :=
  let mark := quoteMark s
  mark :: s.flatMap (quotedChar mark) ++ [mark]

/-- Octets in quotes: ASCII as characters, all others by number. -/
def quotedOctets (octets : List UInt8) : List Char :=
  let chars := octets.map fun octet => Char.ofNat octet.toNat
  let mark := quoteMark chars
  let written (c : Char) : List Char := if c.toNat < 0x7F then quotedChar mark c else numbered c
  'b' :: mark :: chars.flatMap written ++ [mark]

end PlatformClient.Text
