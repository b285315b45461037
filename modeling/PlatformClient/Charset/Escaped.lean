import PlatformClient.CharacterName.Basic
import PlatformClient.Charset.Scan
import PlatformClient.Text.Digit

/-!
# Escapes by backslash

Octets stand for the code points of their number, and a backslash begins an escape. There are two
sets: one knows only characters by number, in four or eight hexadecimal digits; the other knows
those and more, and characters by letter, by octal digits or by name.

## Main definitions

* `Escaped.scan`: the marks of octets with all escapes
* `Escaped.scanRaw`: the marks of octets with characters by number only
-/

namespace PlatformClient.Charset.Escaped

/-- The character whose code point is the number of an octet. -/
def direct (octet : UInt8) : Char := Char.ofNat octet.toNat

/-- A hexadecimal number of some digits, of which the last has `taken` before it. The count of
digits that are there comes with the number, if there are enough. -/
def hexNumber : Nat → Nat → Nat → Octets → Nat × Option Nat
  | 0, taken, value, _ => (taken, some value)
  | _ + 1, taken, _, [] => (taken, none)
  | digits + 1, taken, value, octet :: rest =>
    match Text.hexValue? (direct octet) with
    | some digit => hexNumber digits (taken + 1) (value * 0x10 + digit) rest
    | none => (taken, none)

/-- A character by number behind a backslash and a letter. -/
def byNumber (digits : Nat) (rest : Octets) : Reading Unit :=
  match hexNumber digits 0 0 rest with
  | (taken, some value) =>
    ⟨[if value.isValidChar then some (Char.ofNat value) else none], 1 + taken, ()⟩
  | (taken, none) => .illFormed (1 + taken) ()

/-- The character of an escape by letter. -/
def byLetter? (octet : UInt8) : Option Char :=
  [
    (0x5C, '\\'), (0x27, '\''), (0x22, '"'), (0x62, '\x08'), (0x66, '\x0c'), (0x74, '\t'),
    (0x6E, '\n'), (0x72, '\r'), (0x76, '\x0b'), (0x61, '\x07')
  ].lookup octet

/-- Whether an octet is an octal digit. -/
def isOctal (octet : UInt8) : Bool := 0x30 ≤ octet && octet ≤ 0x37

/-- A character by one to three octal digits. -/
def byOctal (first : UInt8) (rest : Octets) : Reading Unit :=
  let digits := first :: (rest.take 2).takeWhile isOctal
  .char (Char.ofNat (digits.foldl (fun value digit => value * 8 + (digit.toNat - 0x30)) 0))
    digits.length ()

/-- A character by name: behind a letter, a name in braces. An opening brace without the other one
takes all octets. -/
def byName (rest : Octets) : Reading Unit :=
  match rest with
  | 0x7B :: behind =>
    let name := behind.takeWhile (· != 0x7D)
    if name.isEmpty || (behind.drop name.length).isEmpty then .illFormed (2 + name.length) ()
    else ⟨[CharacterName.find? (name.map direct)], 3 + name.length, ()⟩
  | _ => .illFormed 1 ()

/-- How the set with all escapes reads the front of octets. -/
def front : Front Unit := fun _ a rest =>
  if a != 0x5C then .char (direct a) 0 ()
  else
    match rest with
    | [] => .illFormed 0 ()
    | b :: more =>
      match byLetter? b with
      | some c => .char c 1 ()
      | none =>
        if b == 0x0A then .silent 1 ()
        else if isOctal b then byOctal b more
        else if b == 0x78 then byNumber 2 more
        else if b == 0x75 then byNumber 4 more
        else if b == 0x55 then byNumber 8 more
        else if b == 0x4E then byName more
        else ⟨[some '\\', some (direct b)], 1, ()⟩

/-- How the set with characters by number only reads the front of octets. -/
def frontRaw : Front Unit := fun _ a rest =>
  match rest with
  | b :: more =>
    if a != 0x5C then .char (direct a) 0 ()
    else if b == 0x75 then byNumber 4 more
    else if b == 0x55 then byNumber 8 more
    else ⟨[some '\\', some (direct b)], 1, ()⟩
  | [] => .char (direct a) 0 ()

/-- The marks of octets with all escapes. -/
def scan : Octets → List Mark := Charset.scan front ()

/-- The marks of octets with characters by number only. -/
def scanRaw : Octets → List Mark := Charset.scan frontRaw ()

end PlatformClient.Charset.Escaped
