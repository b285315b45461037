/-!
# Binary floating point, exactly

Floating point numbers of 64 bits as significands and powers of two, and the rounding of exact
ratios to them. All arithmetic is on whole numbers.

## Main definitions

* `Binary64.Class`, `Binary64.classify`: the value of a floating point number
* `Binary64.nearest`: the number nearest to a ratio, ties to the even significand
* `Binary64.ofDecimal`: the number nearest to decimal digits with an exponent
* `Binary64.ofNat?`: the number nearest to a whole number, unless that is infinite
* `Binary64.toInt?`, `Binary64.truncate?`: the whole number that a floating point number is, or
  that is left when the fraction is dropped
-/

namespace PlatformClient.Binary64

/-- What a floating point number is: `significand * 2 ^ exponent` with a sign, infinite, or no
number. -/
inductive Class where
  | finite (negative : Bool) (significand : Nat) (exponent : Int)
  | infinite (negative : Bool)
  | notANumber
deriving DecidableEq

/-- The value of a floating point number. -/
def classify (x : Float) : Class :=
  let bits := x.toBits.toNat
  let negative := bits / Nat.pow 2 63 == 1
  let exponent : Nat := bits / Nat.pow 2 52 % Nat.pow 2 11
  let fraction : Nat := bits % Nat.pow 2 52
  if exponent = 2047 then if fraction = 0 then .infinite negative else .notANumber
  else if exponent = 0 then .finite negative fraction (-1074)
  else .finite negative (Nat.pow 2 52 + fraction) ((exponent : Int) - 1075)

/-- A ratio rounded to a whole number, ties to even. -/
def roundHalfEven (num den : Nat) : Nat :=
  let quotient := num / den
  let twice := 2 * (num % den)
  if den < twice ∨ (twice = den ∧ quotient % 2 = 1) then quotient + 1 else quotient

/-- The ratio `num / den` in units of `2 ^ exponent`, as a ratio. -/
def inUnits (num den : Nat) (exponent : Int) : Nat × Nat :=
  if 0 ≤ exponent then (num, den * Nat.pow 2 exponent.toNat)
  else (num * Nat.pow 2 (-exponent).toNat, den)

/-- The bits of positive infinity. -/
def infinityBits : Nat := 2047 * Nat.pow 2 52

/-- The bits of the magnitude nearest to a positive ratio, ties to the even significand. The unit
is chosen so that the significand has 53 bits, unless that unit would be below the smallest. -/
def nearestBits (num den : Nat) : Nat :=
  let wide : Int := max (num.log2 - den.log2 - 52 : Int) (-1074)
  let exponent :=
    let (n, d) := inUnits num den wide
    if n / d < Nat.pow 2 52 then max (wide - 1) (-1074) else wide
  let (n, d) := inUnits num den exponent
  min ((exponent + 1074).toNat * Nat.pow 2 52 + roundHalfEven n d) infinityBits

/-- The floating point number of a sign and a magnitude's bits. -/
def ofMagnitude (negative : Bool) (bits : Nat) : Float :=
  Float.ofBits (UInt64.ofNat (if negative then Nat.pow 2 63 + bits else bits))

/-- An infinite number. -/
def infinity (negative : Bool) : Float := ofMagnitude negative infinityBits

/-- What is no number. -/
def notANumber : Float := ofMagnitude false (infinityBits + Nat.pow 2 51)

/-- The floating point number nearest to a signed ratio; a ratio beyond all is infinite. -/
def nearest (negative : Bool) (num den : Nat) : Float :=
  ofMagnitude negative (if num = 0 then 0 else nearestBits num den)

/-- The floating point number nearest to `digits * 10 ^ exponent`. Numbers outside the range of all
exponents are zero or infinite without being computed: `digits` has at least a quarter as many
decimal places as it has bits, and at most a third as many and one more. -/
def ofDecimal (negative : Bool) (digits : Nat) (exponent : Int) : Float :=
  let bits : Int := digits.log2
  if digits = 0 ∨ bits / 3 + 1 + exponent < -330 then ofMagnitude negative 0
  else if 310 < bits / 4 + exponent then infinity negative
  else if 0 ≤ exponent then nearest negative (digits * Nat.pow 10 exponent.toNat) 1
  else nearest negative digits (Nat.pow 10 (-exponent).toNat)

/-- The floating point number nearest to a whole number, unless that is infinite. -/
def ofNat? (n : Nat) : Option Float :=
  let bits := if n = 0 then 0 else nearestBits n 1
  if bits < infinityBits then some (ofMagnitude false bits) else none

/-- A magnitude with its sign. -/
def withSign (negative : Bool) (magnitude : Nat) : Int :=
  if negative then -magnitude else magnitude

/-- The whole number that remains of a finite number when its fraction is dropped. -/
def truncate? (x : Float) : Option Int :=
  match classify x with
  | .finite negative significand exponent =>
    some <| withSign negative <|
      if 0 ≤ exponent then significand * Nat.pow 2 exponent.toNat
      else significand / Nat.pow 2 (-exponent).toNat
  | _ => none

/-- The whole number that a finite number without fraction is. -/
def toInt? (x : Float) : Option Int :=
  match classify x with
  | .finite _ significand exponent =>
    if 0 ≤ exponent ∨ significand % Nat.pow 2 (-exponent).toNat = 0 then truncate? x else none
  | _ => none

end PlatformClient.Binary64
