import PlatformClient.Charset.Scan

/-!
# Pages

A page gives each octet a character of its own, or none.

## Main definitions

* `Page`: the characters of octets
* `Page.char?`: the character of an octet
* `Page.scan`: the marks of octets
-/

namespace PlatformClient.Charset

/-- The characters of octets. Octets below `first` are the code points of their number. From there
on the rows hold the characters in order, with U+FFFD in the place of those that are missing. -/
structure Page where
  first : Nat
  rows : List String

namespace Page

/-- The characters from the first listed octet on. -/
def cells (page : Page) : Array Char := (page.rows.flatMap String.toList).toArray

/-- The mark of an octet under the listed characters. -/
def mark (first : Nat) (cells : Array Char) (octet : UInt8) : Mark :=
  if octet.toNat < first then some (Char.ofNat octet.toNat)
  else (cells[octet.toNat - first]?).filter (· != '\uFFFD')

/-- The character of an octet. -/
def char? (page : Page) (octet : UInt8) : Option Char := mark page.first page.cells octet

/-- The marks of octets. -/
def scan (page : Page) (octets : Octets) : List Mark :=
  let cells := page.cells
  octets.map (mark page.first cells)

/-- The page on which every octet is the code point of its number. -/
def direct : Page := ⟨0x100, []⟩

/-- The page of the characters that every other one but those of mainframes begins with. -/
def ascii : Page := ⟨0x80, []⟩

end Page

end PlatformClient.Charset
