import PlatformClient.Charset.Page
import PlatformClient.Charset.Utf7

/-!
# Punycode

The ASCII characters of a text come first, up to the last minus sign. Behind it numbers in letters
and digits tell, one after another, which further character is inserted and where.

## Main definitions

* `Punycode.Insertion`: the text so far, and what the next number is counted from
* `Punycode.insertAll`: the text after the insertions of all numbers
* `Punycode.scan`: the marks of octets, unless an octet behind the last minus sign is not ASCII
-/

namespace PlatformClient.Charset.Punycode

/-- The value of a digit: a letter of either case, or a digit after them. -/
def digit? (octet : UInt8) : Option Nat :=
  if 0x41 ≤ octet && octet ≤ 0x5A then some (octet.toNat - 0x41)
  else if 0x61 ≤ octet && octet ≤ 0x7A then some (octet.toNat - 0x61)
  else if 0x30 ≤ octet && octet ≤ 0x39 then some (octet.toNat - 0x30 + 26)
  else none

/-- The text so far, the code point and the place from which the next number counts, the bias of its
digits, and whether it is the first one. -/
structure Insertion where
  text : List Mark
  codePoint : Nat
  place : Nat
  bias : Nat
  isFirst : Bool

/-- The text before all insertions. -/
def Insertion.of (text : List Mark) : Insertion := ⟨text, 0x80, 0, 72, true⟩

/-- How often a number is reduced until it is small, and what it is then. -/
def reduced : Nat → Nat → Nat → Nat × Nat
  | 0, count, delta => (count, delta)
  | fuel + 1, count, delta => if 455 < delta then reduced fuel (count + 1) (delta / 35)
      else (count, delta)

/-- The bias for the next number. -/
def adapted (delta : Nat) (isFirst : Bool) (length : Nat) : Nat :=
  let halved := if isFirst then delta / 700 else delta / 2
  let spread := halved + halved / length
  let (count, small) := reduced spread 0 spread
  36 * count + 36 * small / (small + 38)

/-- The insertion that a number asks for. A code point beyond the last one becomes a question mark,
from which the next number counts. -/
def Insertion.insert (insertion : Insertion) (delta : Nat) : Insertion :=
  let places := insertion.text.length + 1
  let total := insertion.place + delta
  let wanted := insertion.codePoint + total / places
  let codePoint := if wanted ≤ 0x10FFFF then wanted else '?'.toNat
  let place := total % places
  {
    text := insertion.text.take place ++ Utf7.unitMark codePoint :: insertion.text.drop place
    codePoint
    place := place + 1
    bias := adapted delta insertion.isFirst places
    isFirst := false
  }

/-- The digits below which a number ends, by the count of digits before. -/
def threshold (bias index : Nat) : Nat := max 1 (min 26 (36 * (index + 1) - bias))

/-- The text after the insertions of all numbers. What is read of the next number is its value, the
weight of its next digit, and the count of digits. An octet that is no digit ends everything. -/
def insertAll : Insertion → Nat → Nat → Nat → Octets → List Mark
  | insertion, _, _, _, [] => insertion.text
  | insertion, value, weight, index, octet :: rest =>
    match digit? octet with
    | none => insertion.text
    | some digit =>
      let limit := threshold insertion.bias index
      let value := value + digit * weight
      if digit < limit then insertAll (insertion.insert value) 0 1 0 rest
      else insertAll insertion value (weight * (36 - limit)) (index + 1) rest

/-- An octet that is not ASCII, at a position. -/
structure Misfit where
  octet : UInt8
  position : Nat
deriving DecidableEq

/-- What stands before the last minus sign and what stands behind it; without one all stands
behind. -/
def parts (octets : Octets) : Octets × Octets :=
  let behind := (octets.reverse.takeWhile (· != 0x2D)).reverse
  (octets.take (octets.length - behind.length - 1), behind)

/-- The marks of octets, unless an octet behind the last minus sign is not ASCII. -/
def scan (octets : Octets) : Except Misfit (List Mark) :=
  let (front, behind) := parts octets
  match behind.findIdx? (0x80 ≤ ·) with
  | some position => .error ⟨behind.getD position 0, position⟩
  | none => .ok (insertAll (.of (Page.ascii.scan front)) 0 1 0 behind)

end PlatformClient.Charset.Punycode
