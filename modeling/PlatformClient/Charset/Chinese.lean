import PlatformClient.Charset.Pair
import PlatformClient.Charset.Plane.Gb2312
import PlatformClient.Charset.Plane.Gbk

/-!
# Character sets of simplified Chinese

GB 2312 is a plane of pairs of octets. GBK fills further pairs, and GB 18030 all of them; all other
code points are sequences of four octets there. HZ switches between ASCII and GB 2312 by sequences
that begin with a tilde.

## Main definitions

* `Chinese.gb2312`, `Chinese.gbk`, `Chinese.gb18030`, `Chinese.hz`: the marks of octets
-/

namespace PlatformClient.Charset.Chinese

open Plane (grid lacking)

/-! ## GB 2312 and GBK -/

/-- The character of a pair of octets in GB 2312. -/
def gb2312Char? (a b : UInt8) : Option Char := Plane.gb2312.find? (a ^^^ 0x80) (b ^^^ 0x80)

/-- All pairs of octets that GB 18030 gives a character. -/
def cells : List (Nat × Nat) :=
  grid (List.range' 0x81 0x7E) (List.range' 0x40 0x3F ++ List.range' 0x80 0x7F)

/-- Whether a pair of octets lies in the areas of GBK for further ideographs. -/
def isIdeographCell (cell : Nat × Nat) : Bool :=
  cell.1 ≤ 0xA0 || (0xAA ≤ cell.1 && cell.2 ≤ 0xA0)

/-- The ideographs of the first Unicode standard that GB 2312 lacks. -/
def furtherIdeographs : List Char :=
  lacking (Plane.gb2312Spans.flatMap (·.chars.toList)) 0x4E00 20902

/-- What GBK has besides GB 2312, or in place of it. -/
def gbkExtra : Plane :=
  Plane.gbkSpans.foldl Plane.write
    (Plane.empty.fill ((cells.filter isIdeographCell).zip furtherIdeographs))

/-- The character of a pair of octets in GBK. -/
def gbkChar? (a b : UInt8) : Option Char := (gbkExtra.find? a b).or (gb2312Char? a b)

/-- The marks of octets in GB 2312. -/
def gb2312 : Octets → List Mark := Pair.scan (Pair.ofChar gb2312Char?)

/-- The marks of octets in GBK. -/
def gbk : Octets → List Mark := Pair.scan (Pair.ofChar gbkChar?)

/-! ## GB 18030 -/

/-- The three areas of pairs of octets for private use, in the order of their code points. -/
def privateAreas : List (Nat × Nat) :=
  grid (List.range' 0xAA 6) (List.range' 0xA1 94) ++
    grid (List.range' 0xF8 7) (List.range' 0xA1 94) ++
    grid (List.range' 0xA1 7) (List.range' 0x40 0x3F ++ List.range' 0x80 0x21)

/-- The pairs of octets that GBK gives no character, those of the three areas first. The others are
for private use too, as far as they have no characters of their own. -/
def openCells : List (Nat × Nat) :=
  let taken := Plane.empty.fill (privateAreas.map (·, ' '))
  let isOpen (cell : Nat × Nat) : Bool :=
    let a := UInt8.ofNat cell.1
    let b := UInt8.ofNat cell.2
    ((gbkChar? a b).or (taken.find? a b)).isNone
  privateAreas ++ cells.filter isOpen

/-- What GB 18030 has besides GBK. -/
def gb18030Extra : Plane :=
  let chars := (List.range' 0xE000 openCells.length).map Char.ofNat
  Plane.gb18030Spans.foldl Plane.write (Plane.empty.fill (openCells.zip chars))

/-- The character of a pair of octets in GB 18030. -/
def gb18030Char? (a b : UInt8) : Option Char := (gb18030Extra.find? a b).or (gbkChar? a b)

/-- The characters below U+10000 that are no pair of octets in GB 18030, in order. They are the
first sequences of four octets. -/
def fourOctetChars : Array Char :=
  (lacking (cells.filterMap fun cell => gb18030Char? (UInt8.ofNat cell.1) (UInt8.ofNat cell.2))
    0x80 (0x10000 - 0x80)).toArray

/-- The number of the sequence of four octets from which on those of U+10000 and beyond follow. -/
def supplementaryStart : Nat := 15 * 12600

/-- The character of a sequence of four octets. -/
def fourOctetChar? (a b c d : UInt8) : Option Char :=
  let isHigh (octet : UInt8) : Bool := 0x81 ≤ octet && octet ≤ 0xFE
  if isHigh a && isHigh c && 0x30 ≤ d && d ≤ 0x39 then
    let index := (((a.toNat - 0x81) * 10 + (b.toNat - 0x30)) * 126 + (c.toNat - 0x81)) * 10 +
      (d.toNat - 0x30)
    if index < supplementaryStart then fourOctetChars[index]?
    else if index - supplementaryStart < 0x100000 then
      some (Char.ofNat (0x10000 + (index - supplementaryStart)))
    else none
  else none

/-- How GB 18030 reads the front of octets. A digit in the second place announces four octets. -/
def gb18030Front : Front Unit := fun state a rest =>
  match rest with
  | b :: more =>
    if 0x80 ≤ a && 0x30 ≤ b && b ≤ 0x39 then
      match more with
      | c :: d :: _ =>
        match fourOctetChar? a b c d with
        | some char => .char char 3 ()
        | none => .illFormed 0 ()
      | _ => .cutShort rest ()
    else Pair.front (Pair.ofChar gb18030Char?) state a rest
  | [] => Pair.front (Pair.ofChar gb18030Char?) state a rest

/-- The marks of octets in GB 18030. -/
def gb18030 : Octets → List Mark := scan gb18030Front ()

/-! ## HZ -/

/-- How HZ reads the front of octets. The state tells whether pairs of octets are read. -/
def hzFront : Front Bool := fun paired a rest =>
  if a == 0x7E then
    match rest with
    | [] => .cutShort [] paired
    | b :: _ =>
      if b == 0x7E && !paired then .char '~' 1 paired
      else if b == 0x7B && !paired then .silent 1 true
      else if b == 0x0A && !paired then .silent 1 paired
      else if b == 0x7D && paired then .silent 1 false
      else .illFormed 0 paired
  else if 0x80 ≤ a then .illFormed 0 paired
  else if paired then
    match rest with
    | [] => .cutShort [] paired
    | b :: _ =>
      match Plane.gb2312.find? a b with
      | some char => .char char 1 paired
      | none => .illFormed 0 paired
  else .char (Char.ofNat a.toNat) 0 paired

/-- The marks of octets in HZ. -/
def hz : Octets → List Mark := scan hzFront false

end PlatformClient.Charset.Chinese
