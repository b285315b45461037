import PlatformClient.Charset.Pair
import PlatformClient.Charset.Plane.Big5
import PlatformClient.Charset.Plane.HongKong

/-!
# Character sets of traditional Chinese

Big5 is a plane of pairs of octets. Windows gives some pairs other characters, and Hong Kong gives
further pairs characters.

## Main definitions

* `Big5.plain`, `Big5.windows`, `Big5.hongKong`: the marks of octets
-/

namespace PlatformClient.Charset.Big5

/-- The marks of octets in Big5. -/
def plain : Octets → List Mark := Pair.scan (Pair.ofChar Plane.big5.find?)

/-- The marks of octets in Big5 on Windows. -/
def windows : Octets → List Mark :=
  Pair.scan (Pair.ofChar fun a b => (Plane.cp950.find? a b).or (Plane.big5.find? a b))

/-- The pairs of octets that are a letter with a mark in Hong Kong. -/
def markedLetters : List ((UInt8 × UInt8) × String) :=
  [
    ((0x88, 0x62), "\u00ca\u0304"), ((0x88, 0x64), "\u00ca\u030c"), ((0x88, 0xA3), "\u00ea\u0304"),
    ((0x88, 0xA5), "\u00ea\u030c")
  ]

/-- Whether a pair of octets is read without regard to Big5 in Hong Kong. -/
def isOwn (a b : UInt8) : Bool := (a == 0xC6 && 0xA1 ≤ b) || a == 0xC7 || a == 0xC8

/-- The character of a pair of octets in Hong Kong, unless it is a letter with a mark. -/
def hongKongChar? (a b : UInt8) : Option Char :=
  (if isOwn a b then none else Plane.big5.find? a b).or (Plane.hongKong.find? a b)

/-- The marks of octets in Big5 with the supplement of Hong Kong. -/
def hongKong : Octets → List Mark :=
  Pair.scan fun a b =>
    (Pair.ofChar hongKongChar? a b).or ((markedLetters.lookup (a, b)).map (·.toList.map some))

end PlatformClient.Charset.Big5
