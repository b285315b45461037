import PlatformClient.Charset.Units

/-!
# UTF-7

ASCII stands for itself, and a plus sign begins a section of units of sixteen bits in the digits of
base 64. The section ends at the first octet that is no digit; a minus sign there is left out.

## Main definitions

* `Utf7.Section`: the bits of a section that are not yet characters
* `Utf7.scan`: the marks of octets
-/

namespace PlatformClient.Charset.Utf7

/-- The value of a digit of base 64. -/
def digit? (octet : UInt8) : Option Nat :=
  if 0x41 ≤ octet && octet ≤ 0x5A then some (octet.toNat - 0x41)
  else if 0x61 ≤ octet && octet ≤ 0x7A then some (octet.toNat - 0x61 + 26)
  else if 0x30 ≤ octet && octet ≤ 0x39 then some (octet.toNat - 0x30 + 52)
  else if octet == 0x2B then some 62
  else if octet == 0x2F then some 63
  else none

/-- A section that has begun: how many bits are left over, their value, and the first half of a
character that waits for the second. -/
structure Section where
  count : Nat
  bits : Nat
  high? : Option Nat
deriving DecidableEq

/-- A section without bits. -/
def Section.start : Section := ⟨0, 0, none⟩

/-- Whether the left-over bits may end a section: they fill no digit and are zero. -/
def Section.isPadding (pending : Section) : Bool := pending.count < 6 && pending.bits == 0

/-- The mark of a unit that is no half of a character, or of a half alone. -/
def unitMark (unit : Nat) : Mark :=
  if unit.isValidChar then some (Char.ofNat unit) else none

/-- A unit of a section, given the first half that waits. A half that is not completed is
ill-formed. -/
def takeUnit (high? : Option Nat) (unit : Nat) : List Mark × Option Nat :=
  match high? with
  | some high =>
    if Units.isLow unit then ([some (Units.joined high unit)], none)
    else if Units.isHigh unit then ([none], some unit)
    else ([none, unitMark unit], none)
  | none => if Units.isHigh unit then ([], some unit) else ([unitMark unit], none)

/-- A digit of a section. -/
def Section.take (pending : Section) (digit : Nat) : List Mark × Section :=
  let bits := pending.bits * 0x40 + digit
  let count := pending.count + 6
  if count < 16 then ([], ⟨count, bits, pending.high?⟩)
  else
    let left := count - 16
    let (marks, high?) := takeUnit pending.high? (bits / Nat.pow 2 left)
    (marks, ⟨left, bits % Nat.pow 2 left, high?⟩)

/-- What a section leaves at the end of all octets: one ill-formed part, unless it is complete. -/
def Section.remains (pending : Section) : List Mark :=
  if pending.high?.isSome || !pending.isPadding then [none] else []

/-- How UTF-7 reads the front of octets, within a section or outside. -/
def front : Front (Option Section) := fun state a rest =>
  match state with
  | some pending =>
    match digit? a with
    | some digit =>
      let (marks, next) := pending.take digit
      ⟨if rest.isEmpty then marks ++ next.remains else marks, 0, some next⟩
    | none =>
      if pending.isPadding then
        let half : List Mark := if pending.high?.isSome && a < 0x80 then [none] else []
        if a == 0x2D then ⟨half, 0, none⟩
        else if a < 0x80 then ⟨half ++ [some (Char.ofNat a.toNat)], 0, none⟩
        else ⟨half ++ [none], 0, none⟩
      else .illFormed 0 none
  | none =>
    if a == 0x2B then
      match rest with
      | [] => .silent 0 (some .start)
      | b :: _ =>
        if b == 0x2D then .char '+' 1 none
        else if (digit? b).isSome then .silent 0 (some .start)
        else .illFormed 1 none
    else if a < 0x80 then .char (Char.ofNat a.toNat) 0 none
    else .illFormed 0 none

/-- The marks of octets in UTF-7. -/
def scan : Octets → List Mark := Charset.scan front none

end PlatformClient.Charset.Utf7
