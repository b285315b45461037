import PlatformClient.Decimal.Binary64

/-!
# The shortest digits of a floating point number

A finite number is written with the fewest decimal digits that read back as the same number, and of
those digits the nearest.

## Main definitions

* `Interval`: the numbers that round to a given floating point number
* `Decimal.Digits`: decimal digits and the place of the point
* `shortest`: the fewest digits that read back
-/

namespace PlatformClient.Decimal

/-- A positive number `value / unit` with the ends of the interval that rounds to it. Whether the
ends belong to the interval is `closed`. -/
structure Interval where
  value : Nat
  low : Nat
  high : Nat
  unit : Nat
  closed : Bool

/-- The interval of a significand and an exponent. The gap below a power of two is half as wide. -/
def interval (significand : Nat) (exponent : Int) : Interval :=
  let scale := Nat.pow 2 exponent.toNat
  let narrow := significand = Nat.pow 2 52 ∧ -1074 < exponent
  {
    value := 4 * significand * scale
    low := (4 * significand - (if narrow then 1 else 2)) * scale
    high := (4 * significand + 2) * scale
    unit := 4 * Nat.pow 2 (-exponent).toNat
    closed := significand % 2 = 0
  }

/-- Whether the number `m / n` rounds to the interval's value. -/
def Interval.contains (i : Interval) (m n : Nat) : Bool :=
  if i.closed then i.low * n ≤ m * i.unit && m * i.unit ≤ i.high * n
  else i.low * n < m * i.unit && m * i.unit < i.high * n

/-- The decimal exponent `e` with `10 ^ (e - 1) ≤ value < 10 ^ e`, from the estimate by the binary
logarithm. -/
def pointPlace (i : Interval) : Int :=
  let reaches (e : Int) : Bool := i.unit * Nat.pow 10 e.toNat ≤ i.value * Nat.pow 10 (-e).toNat
  let estimate := Int.fdiv (((i.value.log2 : Int) - i.unit.log2) * 30103) 100000
  let rec search : Nat → Int → Int
    | 0, e => e
    | fuel + 1, e => if reaches e then search fuel (e + 1) else e
  search 6 (estimate - 2)

/-- Decimal digits with a point: the number `0.d₁d₂… * 10 ^ point`. -/
structure Digits where
  digits : List Char
  point : Int
deriving DecidableEq

/-- The digits of `m` in units of the grid with `count` digits, without trailing zeros. -/
def Digits.ofGrid (m count : Nat) (point : Int) : Digits :=
  let written := Nat.toDigits 10 m
  ⟨(written.reverse.dropWhile (· == '0')).reverse, point + (written.length - count : Int)⟩

/-- Of the value's two neighbours on the grid with `count` digits, the one that reads back and is
nearest; an exact tie goes to the even one. -/
def onGrid? (i : Interval) (point : Int) (count : Nat) : Option Digits :=
  let shift := (count : Int) - point
  let up := Nat.pow 10 shift.toNat
  let down := Nat.pow 10 (-shift).toNat
  let below := i.value * up / (i.unit * down)
  let fits (m : Nat) : Bool := i.contains (m * down) up
  let distance (m : Nat) : Nat := ((m * down * i.unit : Int) - i.value * up).natAbs
  match fits below, fits (below + 1) with
  | true, true =>
    let a := distance below
    let b := distance (below + 1)
    some <| Digits.ofGrid (if a < b ∨ (a = b ∧ below % 2 = 0) then below else below + 1) count point
  | true, false => some (Digits.ofGrid below count point)
  | false, true => some (Digits.ofGrid (below + 1) count point)
  | false, false => none

/-- The fewest digits that read back as a positive finite number. Seventeen always do. -/
def shortest (significand : Nat) (exponent : Int) : Digits :=
  let i := interval significand exponent
  let point := pointPlace i
  let rec search : Nat → Nat → Digits
    | 0, count => (onGrid? i point count).getD ⟨['0'], 0⟩
    | fuel + 1, count => (onGrid? i point count).getD (search fuel (count + 1))
  search 17 1

end PlatformClient.Decimal
