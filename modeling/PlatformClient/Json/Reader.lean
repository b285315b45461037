import PlatformClient.Decimal.Binary64
import PlatformClient.Json.Basic
import PlatformClient.Text.CodePoint
import PlatformClient.Text.Digit

/-!
# Reading documents

A document is one value with blanks around it. Besides the values of the standard, the words for
infinity and for no number are read. The first fault ends the reading and is reported with its
place. How deep arrays and objects may lie in one another depends on where a document is read. A
string may name a surrogate outside of a pair, which is a code point but no character.

While a text is read a fault carries the rest of the text from its place on; the place itself is
computed once, by `ReadFault.ofText`.

## Main definitions

* `ReadProblem`, `ReadFault`: what can be wrong, and where
* `Json.Reading`: what is left open about reading
* `Json.joinUnits`: the code points of a string as written
* `Json.readString`: the characters of a string and the rest of the text
* `Json.readNumber`: a number and the rest of the text
* `Json.readValue`: a value and the rest of the text
* `Json.read`: the value of a document
* `ReadError.message`: the text of a fault
-/

namespace PlatformClient

/-- What can be wrong at a place of a document. -/
inductive ReadProblem where
  | expectingValue
  | extraData
  | expectingName
  | expectingColon
  | expectingComma
  | unterminatedString
  | controlCharacter
  | badEscape
  | badUnicodeEscape
  | byteOrderMark
deriving DecidableEq

/-- The wording of a problem. -/
def ReadProblem.wording : ReadProblem → String
  | expectingValue => "Expecting value"
  | extraData => "Extra data"
  | expectingName => "Expecting property name enclosed in double quotes"
  | expectingColon => "Expecting ':' delimiter"
  | expectingComma => "Expecting ',' delimiter"
  | unterminatedString => "Unterminated string starting at"
  | controlCharacter => "Invalid control character at"
  | badEscape => "Invalid \\escape"
  | badUnicodeEscape => "Invalid \\uXXXX escape"
  | byteOrderMark => "Unexpected UTF-8 BOM (decode using utf-8-sig)"

/-- A fault met while reading: a problem with the rest of the text from its place on, a whole number
of too many digits, or an array or object that lies too deep in others. -/
inductive ReadFault where
  | problem (kind : ReadProblem) (rest : List Char)
  | integerTooLong (digits : Nat)
  | tooDeep (container : Container)
deriving DecidableEq

/-- A place in a text: characters before it, and its line and column, both counted from one. -/
structure Place where
  position : Nat
  line : Nat
  column : Nat
deriving DecidableEq

/-- The place after a text. -/
def Place.after (s : List Char) : Place :=
  ⟨s.length, s.count '\n' + 1, (s.reverse.takeWhile (· != '\n')).length + 1⟩

/-- Why a text is no document. -/
inductive ReadError where
  | malformed (kind : ReadProblem) (place : Place)
  | integerTooLong (digits : Nat)
  | tooDeep (container : Container)
deriving DecidableEq

/-- A fault met while reading the text. -/
def ReadError.ofFault (text : List Char) : ReadFault → ReadError
  | .problem kind rest => .malformed kind (Place.after (text.take (text.length - rest.length)))
  | .integerTooLong digits => .integerTooLong digits
  | .tooDeep container => .tooDeep container

namespace Json

/-- The blanks between the parts of a document. -/
def isGap (c : Char) : Bool := c == ' ' || c == '\t' || c == '\n' || c == '\r'

/-- A text without its leading blanks. -/
def skipGap (s : List Char) : List Char := s.dropWhile isGap

/-! ## Strings -/

/-- A part of a string as written: a character, or a unit of sixteen bits by number. -/
inductive StringUnit where
  | plain (c : Char)
  | numbered (unit : Nat)
deriving DecidableEq

/-- The character of an escape by letter. -/
def letterEscape? : Char → Option Char
  | '"' => some '"'
  | '\\' => some '\\'
  | '/' => some '/'
  | 'b' => some '\x08'
  | 'f' => some '\x0c'
  | 'n' => some '\n'
  | 'r' => some '\r'
  | 't' => some '\t'
  | _ => none

/-- The unit written by four hexadecimal digits. -/
def unitOfHex? (a b c d : Char) : Option Nat := do
  return 0x1000 * (← Text.hexValue? a) + 0x100 * (← Text.hexValue? b) +
    0x10 * (← Text.hexValue? c) + (← Text.hexValue? d)

/-- The units of a string up to its closing quote, and the rest of the text. The string began at
`opening`. A unit by number must be followed by a further character. -/
def readUnits (opening : List Char) :
    List Char → Except ReadFault (List StringUnit × List Char)
  | [] => .error (.problem .unterminatedString opening)
  | '"' :: rest => .ok ([], rest)
  | '\\' :: [] => .error (.problem .unterminatedString opening)
  | '\\' :: 'u' :: a :: b :: c :: d :: next :: rest =>
    match unitOfHex? a b c d with
    | some unit => do
      let (units, after) ← readUnits opening (next :: rest)
      return (.numbered unit :: units, after)
    | none => .error (.problem .badUnicodeEscape ('u' :: a :: b :: c :: d :: next :: rest))
  | '\\' :: letter :: rest =>
    if letter == 'u' then .error (.problem .badUnicodeEscape (letter :: rest))
    else
      match letterEscape? letter with
      | some c => do
        let (units, after) ← readUnits opening rest
        return (.plain c :: units, after)
      | none => .error (.problem .badEscape ('\\' :: letter :: rest))
  | c :: rest =>
    if c.toNat < 0x20 then .error (.problem .controlCharacter (c :: rest))
    else do
      let (units, after) ← readUnits opening rest
      return (.plain c :: units, after)

/-- The code point of a unit alone. -/
def pointOfUnit (unit : Nat) : CodePoint :=
  if h : 0xD800 ≤ unit ∧ unit < 0xE000 then .surrogate ⟨unit, h⟩ else .character (Char.ofNat unit)

/-- The code points of units. A high and a low surrogate in turn are one character; a surrogate
alone stays what it is. -/
def joinUnits : List StringUnit → List CodePoint
  | [] => []
  | .plain c :: rest => .character c :: joinUnits rest
  | .numbered high :: .numbered low :: rest =>
    if 0xD800 ≤ high ∧ high < 0xDC00 ∧ 0xDC00 ≤ low ∧ low < 0xE000 then
      .character (Char.ofNat (0x10000 + (high - 0xD800) * 0x400 + (low - 0xDC00))) :: joinUnits rest
    else pointOfUnit high :: joinUnits (.numbered low :: rest)
  | .numbered unit :: rest => pointOfUnit unit :: joinUnits rest

/-- The text of a string, whose opening quote has been read, and the rest of the text. Texts consist
of characters: `lone` is the one that stands for a surrogate. -/
def readString (lone : Surrogate → Char) (s : List Char) :
    Except ReadFault (String × List Char) := do
  let (units, rest) ← readUnits ('"' :: s) s
  return (String.ofList ((joinUnits units).map (CodePoint.shown lone)), rest)

/-! ## Numbers -/

/-- The digits at the front of a text, and the rest. -/
def takeDigits (s : List Char) : List Char × List Char :=
  (s.takeWhile Char.isDigit, s.dropWhile Char.isDigit)

/-- The whole part of a number: a zero alone, or digits that do not begin with zero. -/
def takeWhole : List Char → List Char × List Char
  | '0' :: rest => (['0'], rest)
  | s => takeDigits s

/-- The digits behind a point, if there are any. -/
def takeFraction (s : List Char) : List Char × List Char :=
  match s with
  | '.' :: rest =>
    match takeDigits rest with
    | ([], _) => ([], s)
    | part => part
  | _ => ([], s)

/-- The exponent, if there is a complete one. -/
def takeExponent (s : List Char) : Option Int × List Char :=
  match s with
  | c :: rest =>
    if c == 'e' || c == 'E' then
      let (negative, body) :=
        match rest with
        | '-' :: body => (true, body)
        | '+' :: body => (false, body)
        | body => (false, body)
      match takeDigits body with
      | ([], _) => (none, s)
      | (digits, after) =>
        let n := Nat.ofDigitChars 10 digits 0
        (some (if negative then -(n : Int) else n), after)
    else (none, s)
  | [] => (none, s)

/-- A number at the front of a text, and the rest. With a fraction or an exponent it is a floating
point number. -/
def readNumber (s : List Char) : Except ReadFault (Json × List Char) :=
  let (negative, body) :=
    match s with
    | '-' :: body => (true, body)
    | body => (false, body)
  match takeWhole body with
  | ([], _) => .error (.problem .expectingValue s)
  | (whole, afterWhole) =>
    match takeFraction afterWhole with
    | (fraction, afterFraction) =>
      match fraction, takeExponent afterFraction with
      | [], (none, rest) =>
        if Text.digitLimit < whole.length then .error (.integerTooLong whole.length)
        else
          let n := Nat.ofDigitChars 10 whole 0
          .ok (.integer (if negative then -(n : Int) else n), rest)
      | fraction, (exponent, rest) =>
        let digits := Nat.ofDigitChars 10 (whole ++ fraction) 0
        .ok (.float (Binary64.ofDecimal negative digits (exponent.getD 0 - fraction.length)), rest)

/-! ## Values -/

/-- A word that is a value at the front of a text, and the rest. -/
def readWord? : List Char → Option (Json × List Char)
  | 'n' :: 'u' :: 'l' :: 'l' :: rest => some (.null, rest)
  | 't' :: 'r' :: 'u' :: 'e' :: rest => some (.bool true, rest)
  | 'f' :: 'a' :: 'l' :: 's' :: 'e' :: rest => some (.bool false, rest)
  | 'N' :: 'a' :: 'N' :: rest => some (.float Binary64.notANumber, rest)
  | 'I' :: 'n' :: 'f' :: 'i' :: 'n' :: 'i' :: 't' :: 'y' :: rest =>
    some (.float (Binary64.infinity false), rest)
  | '-' :: 'I' :: 'n' :: 'f' :: 'i' :: 'n' :: 'i' :: 't' :: 'y' :: rest =>
    some (.float (Binary64.infinity true), rest)
  | _ => none

/-- A word or a number at the front of a text, and the rest. -/
def readScalar (s : List Char) : Except ReadFault (Json × List Char) :=
  match readWord? s with
  | some word => .ok word
  | none => readNumber s

mutual

/-- A value at the front of a text, and the rest. The fuel bounds the parts still to be read, and
`room` is how many more arrays and objects may lie in one another. -/
def readValue (lone : Surrogate → Char) :
    Nat → Nat → List Char → Except ReadFault (Json × List Char)
  | 0, _, s => .error (.problem .expectingValue s)
  | fuel + 1, room, s =>
    match s with
    | '"' :: rest => do
      let (text, after) ← readString lone rest
      return (.string text, after)
    | '[' :: rest =>
      match room with
      | 0 => .error (.tooDeep .array)
      | room + 1 =>
        match skipGap rest with
        | ']' :: after => .ok (.array [], after)
        | rest => do
          let (items, after) ← readItems lone fuel room rest
          return (.array items, after)
    | '{' :: rest =>
      match room with
      | 0 => .error (.tooDeep .object)
      | room + 1 =>
        match skipGap rest with
        | '}' :: after => .ok (.object [], after)
        | rest => do
          let (pairs, after) ← readPairs lone fuel room rest
          return (.object (Members.ofPairs pairs), after)
    | s => readScalar s

/-- The items of an array up to its closing bracket, and the rest. -/
def readItems (lone : Surrogate → Char) :
    Nat → Nat → List Char → Except ReadFault (List Json × List Char)
  | 0, _, s => .error (.problem .expectingValue s)
  | fuel + 1, room, s => do
    let (item, after) ← readValue lone fuel room s
    match skipGap after with
    | ']' :: rest => return ([item], rest)
    | ',' :: rest =>
      let (items, after) ← readItems lone fuel room (skipGap rest)
      return (item :: items, after)
    | rest => .error (.problem .expectingComma rest)

/-- The names and values of an object up to its closing brace, and the rest. -/
def readPairs (lone : Surrogate → Char) :
    Nat → Nat → List Char → Except ReadFault (List (String × Json) × List Char)
  | 0, _, s => .error (.problem .expectingName s)
  | fuel + 1, room, s =>
    match s with
    | '"' :: rest => do
      let (name, after) ← readString lone rest
      match skipGap after with
      | ':' :: rest =>
        let (value, after) ← readValue lone fuel room (skipGap rest)
        match skipGap after with
        | '}' :: rest => return ([(name, value)], rest)
        | ',' :: rest =>
          let (pairs, after) ← readPairs lone fuel room (skipGap rest)
          return ((name, value) :: pairs, after)
        | rest => .error (.problem .expectingComma rest)
      | rest => .error (.problem .expectingColon rest)
    | s => .error (.problem .expectingName s)

end

/-- What is left open about reading: how many arrays and objects may lie in one another, and the
character that stands for a surrogate alone, for which there is none. -/
structure Reading where
  room : Nat
  lone : Surrogate → Char

/-- The value of a text that is one document. Every part takes at least one character for each two
steps, so the fuel does not run out. -/
def readText (reading : Reading) (s : List Char) : Except ReadFault Json :=
  match s with
  | '\uFEFF' :: _ => .error (.problem .byteOrderMark s)
  | _ => do
    let (value, after) ← readValue reading.lone (2 * s.length + 2) reading.room (skipGap s)
    match skipGap after with
    | [] => return value
    | rest => .error (.problem .extraData rest)

/-- The value of a document. -/
def read (reading : Reading) (s : List Char) : Except ReadError Json :=
  (readText reading s).mapError (ReadError.ofFault s)

end Json

/-- The text of the refusal of a whole number by its count of digits. -/
def digitsRefusal (digits : Nat) : String :=
  let limit := Text.digitLimit.repr
  let count := digits.repr
  s!"Exceeds the limit ({limit} digits) for integer string conversion: value has {count} digits" ++
    "; use sys.set_int_max_str_digits() to increase the limit"

/-- The text of an error. -/
def ReadError.message : ReadError → String
  | malformed kind place =>
    let wording := kind.wording
    let line := place.line.repr
    let column := place.column.repr
    let position := place.position.repr
    s!"{wording}: line {line} column {column} (char {position})"
  | integerTooLong digits => digitsRefusal digits
  | tooDeep container =>
    depthRefusal ("decoding a JSON " ++ container.wording ++ " from a unicode string")

end PlatformClient
