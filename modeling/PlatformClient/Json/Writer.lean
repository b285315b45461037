import PlatformClient.Decimal.FloatText
import PlatformClient.Json.Basic
import PlatformClient.Text.Digit
import PlatformClient.Text.IntegerText

/-!
# Writing documents

A value is written on one line, with a blank after each comma and colon. Characters beyond ASCII
stand for themselves; only quotes, backslashes and control characters are escaped.

## Main definitions

* `Json.writeString`: a string in quotes
* `Json.write`: a value as a document
* `WriteFault`, `Json.writeFault?`: what keeps a value from being written
* `Json.Writing`: what is left open about writing
* `Json.text?`: a value as a document, unless something keeps it from being written

## Main results

* `Json.escape_of_plain`: a character without an escape stands for itself
-/

namespace PlatformClient.Json

/-- Why a value is not written. -/
inductive WriteFault where
  /-- A whole number in it has too many digits. -/
  | integerTooLong
  /-- Arrays and objects lie too deep in one another. -/
  | tooDeep
deriving DecidableEq

/-- A character inside a string. -/
def escape (c : Char) : List Char :=
  if c == '"' then ['\\', '"']
  else if c == '\\' then ['\\', '\\']
  else if c == '\n' then ['\\', 'n']
  else if c == '\r' then ['\\', 'r']
  else if c == '\t' then ['\\', 't']
  else if c == '\x08' then ['\\', 'b']
  else if c == '\x0c' then ['\\', 'f']
  else if c.toNat < 0x20 then '\\' :: 'u' :: Text.hexDigits 4 c.toNat
  else [c]

/-- A character without an escape stands for itself. -/
theorem escape_of_plain {c : Char} (hq : c ≠ '"') (hb : c ≠ '\\') (hc : 0x20 ≤ c.toNat) :
    escape c = [c] := by
  have ne_of (d : Char) (hd : d.toNat < 0x20) : c ≠ d := by
    rintro rfl
    omega
  simp [escape, hq, hb, ne_of '\n' (by decide), ne_of '\r' (by decide), ne_of '\t' (by decide),
    ne_of '\x08' (by decide), ne_of '\x0c' (by decide), Nat.not_lt.2 hc]

/-- A string in quotes. -/
def writeString (s : List Char) : List Char := '"' :: s.flatMap escape ++ ['"']

mutual

/-- A value as a document. -/
def write : Json → List Char
  | .null => "null".toList
  | .bool true => "true".toList
  | .bool false => "false".toList
  | .integer n => (Text.decimal n).toList
  | .float x => Decimal.floatText Decimal.documentNames x
  | .string s => writeString s.toList
  | .array items => '[' :: writeItems items ++ [']']
  | .object members => '{' :: writeMembers members ++ ['}']

/-- The items of an array, separated. -/
def writeItems : List Json → List Char
  | [] => []
  | [item] => write item
  | item :: next :: rest => write item ++ ',' :: ' ' :: writeItems (next :: rest)

/-- The members of an object, separated. -/
def writeMembers : List (String × Json) → List Char
  | [] => []
  | [(name, value)] => writeString name.toList ++ ':' :: ' ' :: write value
  | (name, value) :: next :: rest =>
    writeString name.toList ++ ':' :: ' ' :: write value ++ ',' :: ' ' ::
      writeMembers (next :: rest)

end

mutual

/-- What keeps a value from being written, if anything: the first fault in the order of writing.
`room` is how many more arrays and objects may lie in one another. -/
def writeFault? : Nat → Json → Option WriteFault
  | _, .integer n => if n.natAbs < Nat.pow 10 Text.digitLimit then none else some .integerTooLong
  | 0, .array _ | 0, .object _ => some .tooDeep
  | room + 1, .array items => itemsFault? room items
  | room + 1, .object members => membersFault? room members
  | _, _ => none

/-- `writeFault?` for the items of an array. -/
def itemsFault? : Nat → List Json → Option WriteFault
  | _, [] => none
  | room, item :: rest => (writeFault? room item).or (itemsFault? room rest)

/-- `writeFault?` for the values of an object. -/
def membersFault? : Nat → List (String × Json) → Option WriteFault
  | _, [] => none
  | room, (_, value) :: rest => (writeFault? room value).or (membersFault? room rest)

end

/-- What is left open about writing: how many arrays and objects may lie in one another. There is
room for the documents that a client makes itself. -/
structure Writing where
  room : Nat
  three_le_room : 3 ≤ room

/-- A value as a document, unless a whole number in it is too long or a part of it lies too deep. -/
def text? (writing : Writing) (value : Json) : Except WriteFault String :=
  match writeFault? writing.room value with
  | none => .ok (String.ofList value.write)
  | some fault => .error fault

end PlatformClient.Json
