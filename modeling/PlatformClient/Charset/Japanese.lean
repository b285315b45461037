import PlatformClient.Charset.Pair
import PlatformClient.Charset.Plane.Cp932
import PlatformClient.Charset.Plane.JisX0208
import PlatformClient.Charset.Plane.JisX0212
import PlatformClient.Charset.Plane.JisX0213

/-!
# Character sets of Japanese

JIS X 0208 is a plane of pairs of octets. JIS X 0212 supplements it; JIS X 0213 adds characters to
it and has a second plane. EUC writes the planes with high octets and marks all but the first;
Shift JIS folds two rows into one octet, so that single octets remain for narrow syllables.

## Main definitions

* `Japanese.Edition`: the editions of JIS X 0213
* `Japanese.firstPlane`, `Japanese.secondPlane?`: the cells of JIS X 0213
* `Japanese.packed`, `Japanese.packed0213`: the marks of octets in EUC
* `Japanese.shifted`, `Japanese.shifted0213`, `Japanese.windows`: the marks of octets in Shift JIS
-/

namespace PlatformClient.Charset.Japanese

/-! ## Planes -/

/-- The editions of JIS X 0213 by year. -/
inductive Edition where
  | of2000
  | of2004
deriving DecidableEq

/-- The cells of the first plane that the first edition has closed: they are ill-formed there. -/
def addedIn2004 : List (UInt8 × UInt8) :=
  [
    (0x2E, 0x21), (0x2F, 0x7E), (0x4F, 0x54), (0x4F, 0x7E), (0x74, 0x27), (0x7E, 0x7A),
    (0x7E, 0x7B), (0x7E, 0x7C), (0x7E, 0x7D), (0x7E, 0x7E)
  ]

/-- The character of a cell of the first plane of JIS X 0213, unless it is a letter with a mark. -/
def firstPlaneChar? (row cell : UInt8) : Option Char :=
  (Plane.jisX0208.find? row cell).or (Plane.jisX0213First.find? row cell)

/-- What a cell of the first plane of JIS X 0213 means. -/
def firstPlane (edition : Edition) : Pair.Meaning := fun row cell =>
  if edition = .of2000 ∧ (row, cell) ∈ addedIn2004 then some [none]
  else
    (Pair.ofChar firstPlaneChar? row cell).or
      ((Plane.jisX0213Pairs.lookup (row, cell)).map (·.toList.map some))

/-- The character of a cell of the second plane of JIS X 0213. -/
def secondPlane? (row cell : UInt8) : Option Char := Plane.jisX0213Second.find? row cell

/-- The character of a cell of the second plane, one of which is another one in the first edition
where octets are packed or shifted. -/
def secondPlaneOf? (edition : Edition) (row cell : UInt8) : Option Char :=
  if edition = .of2000 ∧ row = 0x7D ∧ cell = 0x3B then some '\u9b1d' else secondPlane? row cell

/-- The narrow syllable of an octet. -/
def narrow? (octet : UInt8) : Option Char :=
  if 0xA1 ≤ octet && octet ≤ 0xDF then some (Char.ofNat (0xFF61 + (octet.toNat - 0xA1))) else none

/-! ## EUC -/

/-- How EUC reads the front of octets, given what pairs stand for and what pairs behind the mark of
the second plane stand for. -/
def packedFront (first second : Pair.Meaning) : Front Unit := fun state a rest =>
  if a == 0x8F then
    match rest with
    | b :: c :: _ =>
      match second (b ^^^ 0x80) (c ^^^ 0x80) with
      | some marks => ⟨marks, 2, ()⟩
      | none => .illFormed 0 ()
    | _ => .cutShort rest ()
  else
    let meaning : Pair.Meaning := fun a b =>
      if a == 0x8E then (narrow? b).map fun c => [some c] else first (a ^^^ 0x80) (b ^^^ 0x80)
    Pair.front meaning state a rest

/-- The marks of octets in EUC with JIS X 0208 and JIS X 0212. -/
def packed : Octets → List Mark :=
  scan (packedFront (Pair.ofChar Plane.jisX0208.find?) (Pair.ofChar Plane.jisX0212.find?)) ()

/-- What a cell of the first plane means in EUC, where a tilde is wide. -/
def packedFirst (edition : Edition) : Pair.Meaning := fun row cell =>
  if row == 0x22 && cell == 0x32 then some [some '\uff5e'] else firstPlane edition row cell

/-- The character of a cell of the second plane in EUC, where that of JIS X 0212 stands in the cells
that are empty. -/
def packedSecond? (edition : Edition) (row cell : UInt8) : Option Char :=
  (secondPlaneOf? edition row cell).or (Plane.jisX0212.find? row cell)

/-- The marks of octets in EUC with JIS X 0213. -/
def packed0213 (edition : Edition) : Octets → List Mark :=
  scan (packedFront (packedFirst edition) (Pair.ofChar (packedSecond? edition))) ()

/-! ## Shift JIS -/

/-- The row, counted from zero over both planes, and the cell that a pair of octets folds. -/
def unfolded? (a b : UInt8) : Option (Nat × UInt8) :=
  if !((0x81 ≤ a && a ≤ 0x9F) || (0xE0 ≤ a && a ≤ 0xFC)) then none
  else if b < 0x40 || b == 0x7F || 0xFC < b then none
  else
    let half := if a < 0xE0 then a.toNat - 0x81 else a.toNat - 0xC1
    let cell := if b < 0x80 then b.toNat - 0x40 else b.toNat - 0x41
    some (2 * half + cell / 94, UInt8.ofNat (0x21 + cell % 94))

/-- How Shift JIS reads the front of octets, given what single octets stand for and what pairs stand
for. -/
def shiftedFront (single : UInt8 → Option Char) (pair : Pair.Meaning) : Front Unit :=
  fun _ a rest =>
    match single a with
    | some c => .char c 0 ()
    | none =>
      if !((0x81 ≤ a && a ≤ 0x9F) || (0xE0 ≤ a && a ≤ 0xFC)) then .illFormed 0 ()
      else
        match rest with
        | [] => .cutShort [] ()
        | b :: _ =>
          match pair a b with
          | some marks => ⟨marks, 1, ()⟩
          | none => .illFormed 0 ()

/-- The character of an octet that is ASCII or a narrow syllable. -/
def narrowOrAscii? (octet : UInt8) : Option Char :=
  if octet < 0x80 then some (Char.ofNat octet.toNat) else narrow? octet

/-- The character of an ASCII octet in Japan: two of them are a yen sign and a line above. -/
def roman (octet : UInt8) : Char :=
  if octet == 0x5C then '\u00a5'
  else if octet == 0x7E then '\u203e'
  else Char.ofNat octet.toNat

/-- The character of an octet that is ASCII as in Japan, or a narrow syllable. -/
def narrowOrRoman? (octet : UInt8) : Option Char :=
  if octet < 0x80 then some (roman octet) else narrow? octet

/-- The character of a pair of octets that folds a cell of JIS X 0208. -/
def shiftedChar? (a b : UInt8) : Option Char := do
  let (row, cell) ← unfolded? a b
  Plane.jisX0208.find? (UInt8.ofNat (0x21 + row)) cell

/-- The marks of octets in Shift JIS with JIS X 0208. -/
def shifted : Octets → List Mark :=
  scan (shiftedFront narrowOrAscii? (Pair.ofChar shiftedChar?)) ()

/-- The row of the second plane for a row counted from zero over both planes. Only the first rows
and the last ones of that plane have room. -/
def secondRow (row : Nat) : Nat :=
  if 0x67 ≤ row then row + 0x07
  else if 0x63 ≤ row || row == 0x5F then row - 0x37
  else row - 0x3D

/-- What a pair of octets that folds a cell of JIS X 0213 means. One of them is the backslash that
single octets lack. -/
def shiftedPair (edition : Edition) : Pair.Meaning := fun a b => do
  let (row, cell) ← unfolded? a b
  if row = 0 ∧ cell = 0x40 then some [some '\\']
  else if row < 0x5E then firstPlane edition (UInt8.ofNat (0x21 + row)) cell
  else Pair.ofChar (secondPlaneOf? edition) (UInt8.ofNat (secondRow row)) cell

/-- The marks of octets in Shift JIS with JIS X 0213. -/
def shifted0213 (edition : Edition) : Octets → List Mark :=
  scan (shiftedFront narrowOrRoman? (shiftedPair edition)) ()

/-! ## Windows -/

/-- The character of a single octet on Windows: narrow syllables, and octets without a meaning for
private use. -/
def windowsSingle? (octet : UInt8) : Option Char :=
  if octet ≤ 0x80 then some (Char.ofNat octet.toNat)
  else if octet == 0xA0 then some '\uf8f0'
  else if 0xFD ≤ octet then some (Char.ofNat (0xF8F1 + (octet.toNat - 0xFD)))
  else narrow? octet

/-- The character of a pair of octets for private use on Windows. -/
def windowsPrivate? (a b : UInt8) : Option Char :=
  if 0xF0 ≤ a && a ≤ 0xF9 && ((0x40 ≤ b && b ≤ 0x7E) || (0x80 ≤ b && b ≤ 0xFC)) then
    some (Char.ofNat (0xE000 + 188 * (a.toNat - 0xF0) +
      (if b < 0x80 then b.toNat - 0x40 else b.toNat - 0x41)))
  else none

/-- The marks of octets in Shift JIS on Windows. -/
def windows : Octets → List Mark :=
  scan (shiftedFront windowsSingle? (Pair.ofChar fun a b =>
    ((Plane.cp932.find? a b).or (windowsPrivate? a b)).or (shiftedChar? a b))) ()

end PlatformClient.Charset.Japanese
