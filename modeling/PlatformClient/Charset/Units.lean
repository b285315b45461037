import PlatformClient.Charset.Scan

/-!
# Units of two and four octets

UTF-16 writes characters in units of two octets, of which a high and a low surrogate in turn are one
character beyond U+FFFF. UTF-32 writes them in units of four octets. A mark in front may tell the
order of the octets; without it they go from low to high.

## Main definitions

* `ByteOrder`: the order of the octets of a unit
* `Units.utf16`, `Units.utf32`: the marks of octets in a given order
* `Units.marked16`, `Units.marked32`: the marks of octets whose order a mark may tell
-/

namespace PlatformClient.Charset

/-- The order of the octets of a unit: from low to high, or from high to low. -/
inductive ByteOrder where
  | little
  | big
deriving DecidableEq

namespace Units

/-- The unit of two octets. -/
def unit16 : ByteOrder → UInt8 → UInt8 → Nat
  | .little, a, b => b.toNat * 0x100 + a.toNat
  | .big, a, b => a.toNat * 0x100 + b.toNat

/-- The unit of four octets. -/
def unit32 : ByteOrder → UInt8 → UInt8 → UInt8 → UInt8 → Nat
  | .little, a, b, c, d => unit16 .little c d * 0x10000 + unit16 .little a b
  | .big, a, b, c, d => unit16 .big a b * 0x10000 + unit16 .big c d

/-- Whether a unit is the first half of a character. -/
def isHigh (unit : Nat) : Bool := 0xD800 ≤ unit && unit < 0xDC00

/-- Whether a unit is the second half of a character. -/
def isLow (unit : Nat) : Bool := 0xDC00 ≤ unit && unit < 0xE000

/-- The character of two halves. -/
def joined (high low : Nat) : Char :=
  Char.ofNat (0x10000 + (high - 0xD800) * 0x400 + (low - 0xDC00))

/-- How UTF-16 reads the front of octets. Of two units that do not belong together only the first
is ill-formed. -/
def front16 (order : ByteOrder) : Front Unit := fun _ a rest =>
  match rest with
  | [] => .cutShort [] ()
  | b :: behind =>
    let unit := unit16 order a b
    if isHigh unit then
      match behind with
      | c :: d :: _ =>
        let next := unit16 order c d
        if isLow next then .char (joined unit next) 3 () else .illFormed 1 ()
      | _ => .cutShort rest ()
    else if isLow unit then .illFormed 1 ()
    else .char (Char.ofNat unit) 1 ()

/-- How UTF-32 reads the front of octets. -/
def front32 (order : ByteOrder) : Front Unit := fun _ a rest =>
  match rest with
  | b :: c :: d :: _ =>
    let unit := unit32 order a b c d
    if unit.isValidChar then .char (Char.ofNat unit) 3 () else .illFormed 3 ()
  | _ => .cutShort rest ()

/-- The marks of octets in UTF-16. -/
def utf16 (order : ByteOrder) : Octets → List Mark := scan (front16 order) ()

/-- The marks of octets in UTF-32. -/
def utf32 (order : ByteOrder) : Octets → List Mark := scan (front32 order) ()

/-- The marks of octets in UTF-16 behind a mark of their order, if there is one. -/
def marked16 : Octets → List Mark
  | 0xFF :: 0xFE :: rest => utf16 .little rest
  | 0xFE :: 0xFF :: rest => utf16 .big rest
  | octets => utf16 .little octets

/-- The marks of octets in UTF-32 behind a mark of their order, if there is one. -/
def marked32 : Octets → List Mark
  | 0xFF :: 0xFE :: 0x00 :: 0x00 :: rest => utf32 .little rest
  | 0x00 :: 0x00 :: 0xFE :: 0xFF :: rest => utf32 .big rest
  | octets => utf32 .little octets

end Units

end PlatformClient.Charset
