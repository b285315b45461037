import PlatformClient.Charset.Basic
import PlatformClient.Charset.Units

/-!
# Guessing character sets

The first four octets of a document tell its set: by a byte order mark, or else by the places of
zero octets, since a document begins with two ASCII characters. Shorter documents are not guessed.

## Main definitions

* `Charset.ofFrontMark?`: the set that a byte order mark stands for
* `Charset.ofZeros?`: the set that the places of zero octets stand for
* `Charset.guess?`: the set of octets
-/

namespace PlatformClient.Charset

/-- The set that a byte order mark in front of octets stands for. The short mark of UTF-16 is also
the front of the long one of UTF-32, which counts first. -/
def ofFrontMark? : Octets → Option Charset
  | 0xFF :: 0xFE :: 0x00 :: 0x00 :: _ => some (ofScan Units.marked32)
  | 0x00 :: 0x00 :: 0xFE :: 0xFF :: _ => some (ofScan Units.marked32)
  | 0xEF :: 0xBB :: 0xBF :: _ => some utf8Marked
  | 0xFF :: 0xFE :: _ => some (ofScan Units.marked16)
  | 0xFE :: 0xFF :: _ => some (ofScan Units.marked16)
  | _ => none

/-- The set that the places of zero octets among four stand for. -/
def ofZeros? : Bool → Bool → Bool → Bool → Option Charset
  | false, false, false, false => some utf8
  | true, false, true, false => some (ofScan (Units.utf16 .big))
  | false, true, false, true => some (ofScan (Units.utf16 .little))
  | true, true, true, false => some (ofScan (Units.utf32 .big))
  | false, true, true, true => some (ofScan (Units.utf32 .little))
  | _, _, _, _ => none

/-- The set of octets, as far as the first four tell it. -/
def guess? : Octets → Option Charset
  | a :: b :: c :: d :: rest =>
    (ofFrontMark? (a :: b :: c :: d :: rest)).or
      (ofZeros? (a == 0) (b == 0) (c == 0) (d == 0))
  | _ => none

end PlatformClient.Charset
