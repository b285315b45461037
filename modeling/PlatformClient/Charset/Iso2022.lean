import PlatformClient.Charset.Japanese
import PlatformClient.Charset.Page.Iso8859
import PlatformClient.Charset.Plane.Gb2312
import PlatformClient.Charset.Plane.KsX1001

/-!
# Switching by escape sequences

Character sets after ISO 2022 write texts in octets below 0x80. Escape sequences designate graphic
sets to registers; the first register is read, or the second one while it is shifted in, and single
characters of the third one. Every such set has a scheme that says what it provides. A set can be
designated to the third register that no characters can be read of; asking for one is fatal.

## Main definitions

* `Iso2022.GraphicSet`: the sets that can be designated, with their characters
* `Iso2022.Scheme`: what a character set provides
* `Iso2022.Registers`: what is designated and shifted in
* `Iso2022.scan`: the marks of octets
* `Iso2022.isFatal`: whether octets ask for a character that cannot be read
* `Iso2022.Scheme.korean`, `Iso2022.Scheme.japanese`: the schemes
-/

namespace PlatformClient.Charset.Iso2022

open Japanese (Edition)

/-! ## Graphic sets -/

/-- The sets that can be designated. -/
inductive GraphicSet where
  | ascii
  | roman
  | narrow
  | latin
  | greek
  | jisC6226
  | jisX0208
  | jisX0212
  | jisX0213First (edition : Edition)
  | jisX0213Second
  | ksX1001
  | gb2312
deriving DecidableEq

namespace GraphicSet

/-- Whether the characters of a set are two octets wide. -/
def isWide : GraphicSet → Bool
  | ascii | roman | narrow | latin | greek => false
  | _ => true

/-- The octet that ends the escape sequence of a set. -/
def final : GraphicSet → UInt8
  | ascii => 0x42
  | roman => 0x4A
  | narrow => 0x49
  | latin => 0x41
  | greek => 0x46
  | jisC6226 => 0x40
  | jisX0208 => 0x42
  | jisX0212 => 0x44
  | jisX0213First .of2000 => 0x4F
  | jisX0213First .of2004 => 0x51
  | jisX0213Second => 0x50
  | ksX1001 => 0x43
  | gb2312 => 0x41

/-- The character of one octet. Sets that are only meant for the third register have none. -/
def single? : GraphicSet → UInt8 → Option Char
  | ascii, a => some (Char.ofNat a.toNat)
  | roman, a => some (Japanese.roman a)
  | narrow, a => Japanese.narrow? (a ^^^ 0x80)
  | _, _ => none

/-- What two octets mean. -/
def pair : GraphicSet → Pair.Meaning
  | jisC6226 | jisX0208 => Pair.ofChar Plane.jisX0208.find?
  | jisX0212 => Pair.ofChar Plane.jisX0212.find?
  | jisX0213First edition => Japanese.firstPlane edition
  | jisX0213Second => Pair.ofChar Japanese.secondPlane?
  | ksX1001 => Pair.ofChar Plane.ksX1001.find?
  | gb2312 => Pair.ofChar Plane.gb2312.find?
  | _ => fun _ _ => none

/-- Whether characters of the third register can be read. -/
def servesThird : GraphicSet → Bool
  | ascii | latin | greek => true
  | _ => false

/-- The character of one octet in the third register, where letters are those of high octets. The
Greek set has no currency signs and no mark below. -/
def third? : GraphicSet → UInt8 → Option Char
  | ascii, a => if a < 0x80 then some (Char.ofNat a.toNat) else none
  | latin, a => if a < 0x80 then some (Char.ofNat (0x80 + a.toNat)) else none
  | greek, a => if [0x24, 0x25, 0x2A].contains a then none else Page.part7.char? (a ^^^ 0x80)
  | _, _ => none

end GraphicSet

/-! ## Schemes and registers -/

/-- What a character set provides: graphic sets besides ASCII, and whether there are shifts, a third
register, and announcements of a revised set. -/
structure Scheme where
  sets : List GraphicSet
  shifts : Bool
  third : Bool
  announces : Bool

/-- The graphic sets in the registers, and whether the second one is shifted in. Behind an escape
octet that designates nothing, octets pass as they are up to the end of the sequence. The octets are
fatal from where a character of the third register is asked for that cannot be read. -/
structure Registers where
  first : GraphicSet
  second : GraphicSet
  third : GraphicSet
  shifted : Bool
  passing : Bool
  fatal : Bool
deriving DecidableEq

/-- The registers before anything is designated. -/
def Registers.initial : Registers := ⟨.ascii, .ascii, .ascii, false, false, false⟩

/-- The graphic set that is read. -/
def Registers.current (registers : Registers) : GraphicSet :=
  if registers.shifted then registers.second else registers.first

/-- The set of a scheme with the given width and final octet. -/
def Scheme.set? (scheme : Scheme) (wide : Bool) (final : UInt8) : Option GraphicSet :=
  (GraphicSet.ascii :: scheme.sets).find? fun set => set.isWide == wide && set.final == final

/-! ## Escape sequences -/

/-- Whether an octet ends an escape sequence. -/
def isFinal (octet : UInt8) : Bool := 0x40 ≤ octet && octet ≤ 0x5A

/-- How far an escape sequence reaches. -/
inductive Extent where
  /-- The octets end before the sequence does. -/
  | cutShort
  /-- The sequence is longer than any can be. -/
  | endless
  /-- The sequence has that many octets behind the escape octet. -/
  | upTo (length : Nat)

/-- The most octets of an escape sequence. -/
def sequenceLimit : Nat := 16

/-- The extent of an escape sequence from its octet of an index on. An announcement holds an octet
that looks like an end, and the octet behind that is not looked at either. -/
def extentFrom (announces : Bool) : Nat → Nat → Octets → Extent
  | index, skip, [] => if index + skip < sequenceLimit then .cutShort else .endless
  | index, skip + 1, _ :: rest => extentFrom announces (index + 1) skip rest
  | index, 0, octet :: rest =>
    if sequenceLimit ≤ index then .endless
    else if isFinal octet then .upTo index
    else
      extentFrom announces (index + 1)
        (if announces && octet == 0x26 && rest.head? == some 0x40 then 2 else 0) rest

/-- The registers behind an escape sequence, given without its escape octet. -/
def Scheme.designate? (scheme : Scheme) (registers : Registers) : Octets → Option Registers
  | [a, final] =>
    if a == 0x24 then do return { registers with first := ← scheme.set? true final }
    else if a == 0x28 then do return { registers with first := ← scheme.set? false final }
    else if a == 0x29 then do return { registers with second := ← scheme.set? false final }
    else if a == 0x2E && scheme.third then do
      return { registers with third := ← scheme.set? false final }
    else none
  | [a, b, final] =>
    if a == 0x24 && b == 0x28 then do return { registers with first := ← scheme.set? true final }
    else if a == 0x24 && b == 0x29 then do
      return { registers with second := ← scheme.set? true final }
    else none
  | [_, _, escape, a, final] =>
    if scheme.announces && escape == 0x1B && a == 0x24 && final == 0x42 then
      some { registers with first := .jisX0208 }
    else none
  | _ => none

/-- Whether an octet behind an escape octet begins the designation of a set. -/
def beginsDesignation (octet : UInt8) : Bool := [0x24, 0x26, 0x28, 0x29, 0x2E].contains octet

/-- What an escape octet begins. -/
def Scheme.escape (scheme : Scheme) (registers : Registers) (rest : Octets) : Reading Registers :=
  match rest with
  | [] => .cutShort [] registers
  | a :: behind =>
    if beginsDesignation a then
      match extentFrom scheme.announces 1 0 rest with
      | .cutShort => .cutShort rest registers
      | .endless => .illFormed 0 registers
      | .upTo length =>
        match scheme.designate? registers (rest.take length) with
        | some designated => .silent length designated
        | none => .illFormed length registers
    else if scheme.third && a == 0x4E then
      match behind with
      | [] => .cutShort rest registers
      | b :: _ =>
        match registers.third.third? b with
        | some c => .char c 2 registers
        | none =>
          .illFormed 2 { registers with fatal := registers.fatal || !registers.third.servesThird }
    else .char '\x1b' 0 { registers with passing := true }

/-! ## Reading -/

/-- What an octet that is no control begins. -/
def graphic (registers : Registers) (a : UInt8) (rest : Octets) : Reading Registers :=
  if registers.current.isWide then
    match rest with
    | [] => .cutShort [] registers
    | b :: _ =>
      match registers.current.pair a b with
      | some marks => ⟨marks, 1, registers⟩
      | none => .illFormed 1 registers
  else
    match registers.current.single? a with
    | some c => .char c 0 registers
    | none => .illFormed 0 registers

/-- How a scheme reads the front of octets. A line ends with the first register. -/
def Scheme.front (scheme : Scheme) : Front Registers := fun registers a rest =>
  if registers.passing then
    .char (Char.ofNat a.toNat) 0 { registers with passing := !isFinal a }
  else if a == 0x1B then scheme.escape registers rest
  else if scheme.shifts && a == 0x0F then .silent 0 { registers with shifted := false }
  else if scheme.shifts && a == 0x0E then .silent 0 { registers with shifted := true }
  else if a == 0x0A then .char '\n' 0 { registers with shifted := false }
  else if a < 0x20 then .char (Char.ofNat a.toNat) 0 registers
  else if 0x80 ≤ a then .illFormed 0 registers
  else graphic registers a rest

/-- The marks of octets under a scheme. -/
def scan (scheme : Scheme) : Octets → List Mark := Charset.scan scheme.front .initial

/-- Whether octets ask for a character of the third register that cannot be read. -/
def isFatal (scheme : Scheme) (octets : Octets) : Bool :=
  (endState scheme.front .initial octets).fatal

/-! ## The schemes -/

namespace Scheme

/-- The scheme of Korean, with shifts. -/
def korean : Scheme := ⟨[.ksX1001], true, false, false⟩

/-- A scheme of Japanese with the given sets. -/
def ofJapanese (sets : List GraphicSet) : Scheme := ⟨sets, false, false, true⟩

/-- The first scheme of Japanese. -/
def japanese : Scheme := ofJapanese [.jisX0208, .roman, .jisC6226]

/-- The scheme of Japanese with a supplement. -/
def japaneseSupplemented : Scheme := ofJapanese [.jisX0208, .jisX0212, .roman, .jisC6226]

/-- The scheme of Japanese together with other languages. -/
def japaneseMultilingual : Scheme :=
  ⟨[.jisX0208, .jisX0212, .ksX1001, .gb2312, .roman, .jisC6226, .latin, .greek], false, true, true⟩

/-- The scheme of Japanese with JIS X 0213. -/
def japanese0213 (edition : Edition) : Scheme :=
  ofJapanese [.jisX0208, .jisX0213First edition, .jisX0213Second]

/-- The scheme of Japanese with a supplement and narrow syllables. -/
def japaneseExtended : Scheme :=
  ofJapanese [.jisX0208, .jisX0212, .roman, .narrow, .jisC6226]

end Scheme

end PlatformClient.Charset.Iso2022
