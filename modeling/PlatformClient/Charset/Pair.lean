import PlatformClient.Charset.Scan

/-!
# Pairs of octets

In many character sets ASCII octets stand for themselves, and any other octet stands for characters
together with the next one. A pair without a meaning is ill-formed in its first octet only.

## Main definitions

* `Pair.Meaning`, `Pair.ofChar`: what pairs stand for
* `Pair.front`: how such a set reads the front of octets
* `Pair.scan`: the marks of octets
-/

namespace PlatformClient.Charset.Pair

/-- The marks that pairs of octets stand for. A pair may mean nothing at all, or be ill-formed in
both octets. -/
abbrev Meaning := UInt8 → UInt8 → Option (List Mark)

/-- The meaning of pairs that stand for single characters. -/
def ofChar (char? : UInt8 → UInt8 → Option Char) : Meaning := fun a b =>
  (char? a b).map fun c => [some c]

/-- How a set of pairs reads the front of octets. -/
def front (meaning : Meaning) : Front Unit := fun _ a rest =>
  if a < 0x80 then .char (Char.ofNat a.toNat) 0 ()
  else
    match rest with
    | [] => .cutShort [] ()
    | b :: _ =>
      match meaning a b with
      | some marks => ⟨marks, 1, ()⟩
      | none => .illFormed 0 ()

/-- The marks of octets under a set of pairs. -/
def scan (meaning : Meaning) : Octets → List Mark := Charset.scan (front meaning) ()

end PlatformClient.Charset.Pair
