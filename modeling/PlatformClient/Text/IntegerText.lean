import PlatformClient.Text.Blank
import PlatformClient.Text.Digit

/-!
# Whole numbers as text

Whole numbers become text in decimal digits. A setting holds a whole number in the digits of any
script, with single underscores between two digits.

## Main definitions

* `decimal`: a whole number in decimal digits
* `IntegerFault`: why a text is no whole number, or a number has no text
* `decimal?`: a whole number of at most `digitLimit` digits as text
* `groupedDigits?`: digits with single underscores between them
* `readSetting`: the number written in a setting

## Main results

* `decimal?_eq_ok_iff`: exactly the numbers below the limit have a text
-/

namespace PlatformClient.Text

/-- A whole number in decimal digits, negative ones after a minus sign. -/
def decimal : Int → String
  | .ofNat n => n.repr
  | .negSucc n => "-" ++ (n + 1).repr

/-- Why a text is no whole number, or a number has no text. -/
inductive IntegerFault where
  /-- The text is not written like a whole number. -/
  | malformed (text : String)
  /-- The text has more digits than a whole number may have. -/
  | tooManyDigits (count : Nat)
  /-- The number has more digits than a text may have. -/
  | tooLarge
deriving DecidableEq

/-- A whole number as text, if it has at most `digitLimit` digits. -/
def decimal? (n : Int) : Except IntegerFault String :=
  if n.natAbs < Nat.pow 10 digitLimit then .ok (decimal n) else .error .tooLarge

/-- Exactly the numbers below the limit have a text. -/
theorem decimal?_eq_ok_iff {n : Int} {s : String} :
    decimal? n = .ok s ↔ n.natAbs < Nat.pow 10 digitLimit ∧ decimal n = s := by
  unfold decimal?
  split
  · rename_i h
    exact ⟨fun hok => ⟨h, Except.ok.inj hok⟩, fun hboth => congrArg Except.ok hboth.2⟩
  · rename_i h
    exact ⟨nofun, fun hboth => absurd hboth.1 h⟩

/-- The digit values of a non-empty sequence of digits with single underscores between them. -/
def groupedDigits? (value? : Char → Option Nat) : List Char → Option (List Nat)
  | [] => none
  | [c] => (value? c).map ([·])
  | c :: '_' :: rest => do return (← value? c) :: (← groupedDigits? value? rest)
  | c :: d :: rest => do return (← value? c) :: (← groupedDigits? value? (d :: rest))

/-- An optional sign, and the rest of the text. -/
def takeSign : List Char → Bool × List Char
  | '-' :: rest => (true, rest)
  | '+' :: rest => (false, rest)
  | s => (false, s)

/-- A magnitude with its sign. -/
def signed (negative : Bool) (magnitude : Nat) : Int :=
  if negative then -magnitude else magnitude

/-- The whole number written in a setting: white space, a sign, digits of any script with single
underscores between them, white space. The count of digits is checked before what follows them. -/
def readSetting (s : List Char) : Except IntegerFault Int :=
  let isNumeral (c : Char) : Bool := (digitValue? c).isSome || c == '_'
  let (negative, body) := takeSign (s.dropWhile isWhiteSpace)
  match groupedDigits? digitValue? (body.takeWhile isNumeral) with
  | none => .error (.malformed (String.ofList s))
  | some digits =>
    if digitLimit < digits.length then .error (.tooManyDigits digits.length)
    else if (body.dropWhile isNumeral).all isWhiteSpace then
      .ok (signed negative (valueOfDigits digits))
    else .error (.malformed (String.ofList s))

end PlatformClient.Text
