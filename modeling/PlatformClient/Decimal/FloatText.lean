import PlatformClient.Decimal.Shortest

/-!
# Floating point numbers as text

Numbers are written positionally, with at least one digit on each side of the point, as long as the
first digit stands at most fifteen places before the point and four behind it; beyond that with an
exponent of at least two digits.

## Main definitions

* `SpecialNames`: the words for numbers without digits
* `floatText`: a floating point number as text
* `displayNames`, `documentNames`: the words in log lines and in documents
-/

namespace PlatformClient.Decimal

/-- The words for what has no digits; a minus sign goes before a negative infinity. -/
structure SpecialNames where
  infinity : String
  notANumber : String

/-- The words in log lines. -/
def displayNames : SpecialNames := ⟨"inf", "nan"⟩

/-- The words in documents. -/
def documentNames : SpecialNames := ⟨"Infinity", "NaN"⟩

/-- The decimal exponents that are written positionally lie in this range, the upper end
excluded. -/
def positionalRange : Int × Int := (-4, 16)

/-- The exponent of scientific notation, with a sign and at least two digits. -/
def exponentText (e : Int) : List Char :=
  let magnitude := Nat.toDigits 10 e.natAbs
  'e' :: (if e < 0 then '-' else '+') ::
    (if magnitude.length < 2 then '0' :: magnitude else magnitude)

/-- Digits with a point as text. -/
def Digits.text (d : Digits) : List Char :=
  let e := d.point - 1
  if positionalRange.1 ≤ e ∧ e < positionalRange.2 then
    if d.point ≤ 0 then '0' :: '.' :: List.replicate (-d.point).toNat '0' ++ d.digits
    else
      let place := d.point.toNat
      let whole := d.digits.take place ++ List.replicate (place - d.digits.length) '0'
      let fraction := d.digits.drop place
      whole ++ '.' :: (if fraction.isEmpty then ['0'] else fraction)
  else
    match d.digits with
    | [] => ['0']
    | [digit] => digit :: exponentText e
    | digit :: rest => digit :: '.' :: rest ++ exponentText e

/-- A floating point number as text: the shortest digits that read back. -/
def floatText (names : SpecialNames) (x : Float) : List Char :=
  let sign (negative : Bool) : List Char := if negative then ['-'] else []
  match Binary64.classify x with
  | .notANumber => names.notANumber.toList
  | .infinite negative => sign negative ++ names.infinity.toList
  | .finite negative significand exponent =>
    sign negative ++
      if significand = 0 then ['0', '.', '0'] else (shortest significand exponent).text

end PlatformClient.Decimal
