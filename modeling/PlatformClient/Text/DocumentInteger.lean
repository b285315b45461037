import PlatformClient.Text.Blank
import PlatformClient.Text.IntegerText

/-!
# Whole numbers in a document's texts

A document may hold a whole number as a text. The strict notation is a minus sign or none and ASCII
digits without zeros in front. A text that is not written so is tidied and read once more: white
space, a plus sign, zeros in front, a fraction of zeros and single underscores between digits are
left out.

Zeros in front and the underscores among them are left out up to the first other digit, and also up
to a minus sign, so that `0-5` is the number minus five.

## Main definitions

* `strictInteger`: the number of a text in strict notation
* `withoutLeadingZeros?`, `withoutZeroFraction`, `withoutGrouping`: what is left out of a text
* `tidied?`: the text without all that
* `documentInteger`: the number that a document's text means
-/

namespace PlatformClient.Text

/-- Why a document's text is no whole number. -/
inductive DocumentIntegerFault where
  /-- The text is not written like a whole number. -/
  | malformed
  /-- The text has more digits than a whole number may have. -/
  | tooLong
deriving DecidableEq

/-- The whole number of a text in strict notation. The count of digits is checked before what
follows them. -/
def strictInteger (s : List Char) : Except DocumentIntegerFault Int :=
  let negative := s.head? == some '-'
  let body := if negative then s.tail else s
  let digits := body.takeWhile Char.isDigit
  if body == ['0'] then .ok 0
  else if digits.isEmpty || digits.head? == some '0' then .error .malformed
  else if digitLimit < digits.length then .error .tooLong
  else if digits.length < body.length then .error .malformed
  else .ok (signed negative (Nat.ofDigitChars 10 digits 0))

/-- Whether a character can be the first of a number without zeros in front. -/
def beginsNumber (c : Char) : Bool := c == '-' || ('1' ≤ c && c ≤ '9')

/-- A number without the zeros in front of it, of which `last` is the last character met. A zero
before a point or at the end stays. -/
def skipZeros (last : Char) : List Char → Option (List Char)
  | [] => some [last]
  | c :: rest =>
    if beginsNumber c then some (c :: rest)
    else if c == '.' then some (last :: c :: rest)
    else if c == '0' || c == '_' then skipZeros c rest
    else none

/-- A number without the zeros in front of it, and without the underscores among them. -/
def withoutLeadingZeros? : List Char → Option (List Char)
  | [] => none
  | c :: rest =>
    if beginsNumber c then some (c :: rest) else if c == '0' then skipZeros c rest else none

/-- A number without a point and zeros at its end. -/
def withoutZeroFraction (s : List Char) : List Char :=
  let fraction := (s.dropWhile (· != '.')).tail
  if !fraction.isEmpty && fraction.all (· == '0') then s.takeWhile (· != '.') else s

/-- Whether two underscores stand side by side. -/
def hasDoubleUnderscore (s : List Char) : Bool :=
  (s.zip s.tail).any (· == ('_', '_'))

/-- A text without its underscores, if each of them stands alone between other characters. -/
def withoutGrouping (s : List Char) : List Char :=
  if s.head? == some '_' || s.getLast? == some '_' || hasDoubleUnderscore s then s
  else s.filter (· != '_')

/-- A text in strict notation that means the same, if there is one. -/
def tidied? (s : List Char) : Option (List Char) := do
  let s := trimBy isWhiteSpace s
  let s ← match s with
    | '+' :: '-' :: _ => none
    | '+' :: rest => withoutLeadingZeros? rest
    | '-' :: rest => (withoutLeadingZeros? rest).map ('-' :: ·)
    | s => withoutLeadingZeros? s
  return withoutGrouping (withoutZeroFraction s)

/-- The whole number that a document's text means. Only a text in strict notation is refused for
its count of digits; a tidied one with as many is malformed. -/
def documentInteger (s : List Char) : Except DocumentIntegerFault Int :=
  match strictInteger s with
  | .error .malformed =>
    match tidied? s with
    | some tidy => (strictInteger tidy).mapError fun _ => .malformed
    | none => .error .malformed
  | outcome => outcome

end PlatformClient.Text
