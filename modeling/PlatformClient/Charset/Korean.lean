import PlatformClient.Charset.Pair
import PlatformClient.Charset.Plane.KsX1001

/-!
# Character sets of Korean

KS X 1001 is a plane of pairs of octets with 2350 syllables. The others are composed of three
letters in eight octets, or have pairs of their own on Windows. The combining set has pairs for all
syllables, five bits for each letter.

## Main definitions

* `Korean.packed`: the marks of octets in the plane with composed syllables
* `Korean.windows`: the marks of octets in the plane with further pairs
* `Korean.combining`: the marks of octets in the combining set
-/

namespace PlatformClient.Charset.Korean

open Plane (grid lacking)

/-! ## Syllables -/

/-- The letters that can begin a syllable, in order, by their octets in row 0xA4. -/
def initials : List UInt8 :=
  [
    0xA1, 0xA2, 0xA4, 0xA7, 0xA8, 0xA9, 0xB1, 0xB2, 0xB3, 0xB5, 0xB6, 0xB7, 0xB8, 0xB9, 0xBA, 0xBB,
    0xBC, 0xBD, 0xBE
  ]

/-- The letters that can end a syllable, in order, by their octets in row 0xA4. -/
def finals : List UInt8 :=
  [
    0xA1, 0xA2, 0xA3, 0xA4, 0xA5, 0xA6, 0xA7, 0xA9, 0xAA, 0xAB, 0xAC, 0xAD, 0xAE, 0xAF, 0xB0, 0xB1,
    0xB2, 0xB4, 0xB5, 0xB6, 0xB7, 0xB8, 0xBA, 0xBB, 0xBC, 0xBD, 0xBE
  ]

/-- The syllable of an initial, a vowel and a final by their numbers; the final zero is none. -/
def syllable (initial vowel final : Nat) : Char :=
  Char.ofNat (0xAC00 + initial * 588 + vowel * 28 + final)

/-- The letter of an octet in row 0xA4. -/
def letter (octet : UInt8) : Char := Char.ofNat (0x3131 + (octet.toNat - 0xA1))

/-! ## The plane -/

/-- The character of a pair of octets in the plane. -/
def planeChar? (a b : UInt8) : Option Char := Plane.ksX1001.find? (a ^^^ 0x80) (b ^^^ 0x80)

/-- The octet that stands for a missing letter. -/
def filler : UInt8 := 0xD4

/-- The syllable composed of three letters. -/
def composed? (initial vowel final : UInt8) : Option Char := do
  let initial ← initials.idxOf? initial
  let vowel ← if 0xBF ≤ vowel && vowel ≤ 0xD3 then some (vowel.toNat - 0xBF) else none
  let final ← if final == filler then some 0 else (finals.idxOf? final).map (· + 1)
  return syllable initial vowel final

/-- How the plane with composed syllables reads the front of octets. A filler announces three
letters, each in a pair of octets. -/
def packedFront : Front Unit := fun state a rest =>
  match rest with
  | b :: more =>
    if a == 0xA4 && b == filler then
      match more with
      | i :: initial :: v :: vowel :: f :: final :: _ =>
        if i == 0xA4 && v == 0xA4 && f == 0xA4 then
          match composed? initial vowel final with
          | some char => .char char 7 ()
          | none => .illFormed 0 ()
        else .illFormed 0 ()
      | _ => .cutShort rest ()
    else Pair.front (Pair.ofChar planeChar?) state a rest
  | [] => Pair.front (Pair.ofChar planeChar?) state a rest

/-- The marks of octets in the plane with composed syllables. -/
def packed : Octets → List Mark := scan packedFront ()

/-! ## Further pairs -/

/-- The pairs of octets around the plane: the second one is a letter of ASCII or high, but not both
octets may be as high as those of the plane. -/
def outerCells : List (Nat × Nat) :=
  (grid (List.range' 0x81 0x46)
    (List.range' 0x41 26 ++ List.range' 0x61 26 ++ List.range' 0x81 0x7E)).filter fun cell =>
      cell.1 ≤ 0xA0 || cell.2 ≤ 0xA0

/-- The syllables that the plane lacks, in pairs of octets around it. -/
def outer : Plane :=
  Plane.empty.fill
    (outerCells.zip (lacking (Plane.ksX1001Spans.flatMap (·.chars.toList)) 0xAC00 11172))

/-- The marks of octets in the plane with further pairs. -/
def windows : Octets → List Mark :=
  Pair.scan (Pair.ofChar fun a b => (planeChar? a b).or (outer.find? a b))

/-! ## The combining set -/

/-- Five bits of a pair of octets, from the given one on. -/
def fiveBits (a b : UInt8) (shift : Nat) : Nat :=
  (a.toNat * 0x100 + b.toNat) / Nat.pow 2 shift % 0x20

/-- The numbers by which five bits name a letter, those of no letter at all being `none`. -/
inductive Place where
  | missing
  | letter (number : Nat)

/-- The initial that five bits name. -/
def initialPlace? (n : Nat) : Option Place :=
  if n = 1 then some .missing
  else if 2 ≤ n ∧ n ≤ 20 then some (.letter (n - 2))
  else none

/-- The vowel that five bits name. -/
def vowelPlace? (n : Nat) : Option Place :=
  if n = 2 then some .missing
  else if 3 ≤ n ∧ n ≤ 7 then some (.letter (n - 3))
  else if 10 ≤ n ∧ n ≤ 15 then some (.letter (n - 5))
  else if 18 ≤ n ∧ n ≤ 23 then some (.letter (n - 7))
  else if 26 ≤ n ∧ n ≤ 29 then some (.letter (n - 9))
  else none

/-- The final that five bits name. -/
def finalPlace? (n : Nat) : Option Place :=
  if n = 1 then some .missing
  else if 2 ≤ n ∧ n ≤ 17 then some (.letter (n - 1))
  else if 19 ≤ n ∧ n ≤ 29 then some (.letter (n - 2))
  else none

/-- The syllable or the single letter of a pair of octets in the combining set. -/
def combined? (a b : UInt8) : Option Char := do
  let initial ← initialPlace? (fiveBits a b 10)
  let vowel ← vowelPlace? (fiveBits a b 5)
  let final ← finalPlace? (fiveBits a b 0)
  match initial, vowel, final with
  | .missing, .missing, .missing => return '\u3000'
  | .missing, .missing, .letter f => (finals[f - 1]?).map letter
  | .missing, .letter v, .missing => return Char.ofNat (0x314F + v)
  | .letter i, .missing, .missing => (initials[i]?).map letter
  | .letter i, .letter v, .missing => return syllable i v 0
  | .letter i, .letter v, .letter f => return syllable i v f
  | _, _, _ => none

/-- The character of a high pair of octets in the combining set: one of the plane that is neither a
letter nor a syllable. Two rows of the plane share an octet. -/
def symbol? (a b : UInt8) : Option Char :=
  let isLetter := a == 0xDA && 0xA1 ≤ b && b ≤ 0xD3
  if a < 0xD9 || a == 0xDF || 0xF9 < a || isLetter then none
  else if b < 0x31 || (0x80 ≤ b && b < 0x91) || b &&& 0x7F == 0x7F then none
  else
    let row := if a < 0xE0 then 2 * (a.toNat - 0xD9) else 2 * a.toNat - 0x197
    let cell := if b < 0x91 then b.toNat - 0x31 else b.toNat - 0x43
    Plane.ksX1001.find? (UInt8.ofNat (0x21 + row + cell / 94)) (UInt8.ofNat (0x21 + cell % 94))

/-- The marks of octets in the combining set. -/
def combining : Octets → List Mark :=
  Pair.scan (Pair.ofChar fun a b => if a < 0xD8 then combined? a b else symbol? a b)

end PlatformClient.Charset.Korean
