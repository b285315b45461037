/-!
# Octets and UTF-8

Octets are what bodies, files and buffers hold. Positions among them and counts of them are handed
over as signed numbers of 64 bits. Texts become octets and are read from them in UTF-8; a reader
that meets ill-formed octets goes on behind them: each maximal part of a sequence that cannot be
completed counts as one ill-formed character.

## Main definitions

* `Octets`: sequences of octets
* `isOffset`: the numbers that can be a position or a count
* `encodeChar`, `encode`: the octets of a character and of a text
* `Pending`: a sequence that has begun and is not yet complete
* `Reader.step`: one octet is read
* `scan`: the characters of octets, ill-formed parts marked
* `decode?`: the text of well-formed octets

## Main results

* `encode_append`: octets of a concatenation
* `decode?_eq_some_iff`: strict reading succeeds exactly when nothing is marked
-/

namespace PlatformClient

/-- Octets: what bodies, files and buffers hold. -/
abbrev Octets := List UInt8

/-- The bound of positions and counts. -/
def offsetBound : Nat := Nat.pow 2 63

/-- Whether a number can be handed over as a position or a count. -/
def isOffset (n : Int) : Bool := -(offsetBound : Int) ≤ n && n < offsetBound

namespace Utf8

/-- A continuation octet with the six low bits of a number. -/
def trailing (n : Nat) : UInt8 := UInt8.ofNat (0x80 + n % 0x40)

/-- The octets of a character: one to four, by its code point. -/
def encodeChar (c : Char) : Octets :=
  let n := c.toNat
  if n < 0x80 then [UInt8.ofNat n]
  else if n < 0x800 then [UInt8.ofNat (0xC0 + n / 0x40), trailing n]
  else if n < 0x10000 then [UInt8.ofNat (0xE0 + n / 0x1000), trailing (n / 0x40), trailing n]
  else [UInt8.ofNat (0xF0 + n / 0x40000), trailing (n / 0x1000), trailing (n / 0x40), trailing n]

/-- The octets of a text. -/
def encode (s : List Char) : Octets := s.flatMap encodeChar

@[simp] theorem encode_cons (c : Char) (s : List Char) :
    encode (c :: s) = encodeChar c ++ encode s := rfl

/-- The octets of a concatenation. -/
@[simp] theorem encode_append (s t : List Char) : encode (s ++ t) = encode s ++ encode t :=
  List.flatMap_append

/-- An ASCII character is one octet, its code point. -/
theorem encodeChar_ascii {c : Char} (h : c.toNat < 0x80) :
    encodeChar c = [UInt8.ofNat c.toNat] := by
  simp [encodeChar, h]

/-- A sequence that has begun: how many octets it lacks, the bits so far, and the range that the
next octet must lie in. -/
structure Pending where
  missing : Nat
  bits : Nat
  low : Nat
  high : Nat

/-- What a first octet means: a character, the begin of a sequence, or nothing. -/
inductive Lead where
  | char (c : Char)
  | sequence (pending : Pending)
  | illFormed

/-- The meaning of a first octet. The range of the second excludes overlong forms, surrogates and
code points beyond the last. -/
def lead (octet : UInt8) : Lead :=
  let n := octet.toNat
  if n < 0x80 then .char (Char.ofNat n)
  else if n < 0xC2 then .illFormed
  else if n < 0xE0 then .sequence ⟨1, n - 0xC0, 0x80, 0xBF⟩
  else if n < 0xF0 then
    .sequence ⟨2, n - 0xE0, if n = 0xE0 then 0xA0 else 0x80, if n = 0xED then 0x9F else 0xBF⟩
  else if n < 0xF5 then
    .sequence ⟨3, n - 0xF0, if n = 0xF0 then 0x90 else 0x80, if n = 0xF4 then 0x8F else 0xBF⟩
  else .illFormed

/-- A reader of octets: the sequence that has begun, and the characters so far, the latest first.
Ill-formed parts are `none`. -/
structure Reader where
  pending : Option Pending
  read : List (Option Char)

/-- A first octet is read after a complete character. -/
def Reader.begin (read : List (Option Char)) (octet : UInt8) : Reader :=
  match lead octet with
  | .char c => ⟨none, some c :: read⟩
  | .sequence pending => ⟨some pending, read⟩
  | .illFormed => ⟨none, none :: read⟩

/-- The next octet is read. One that cannot continue the sequence ends it as ill-formed, and is
read again as a first octet. -/
def Reader.step (reader : Reader) (octet : UInt8) : Reader :=
  match reader.pending with
  | none => Reader.begin reader.read octet
  | some pending =>
    if pending.low ≤ octet.toNat ∧ octet.toNat ≤ pending.high then
      let bits := pending.bits * 0x40 + octet.toNat % 0x40
      if pending.missing ≤ 1 then ⟨none, some (Char.ofNat bits) :: reader.read⟩
      else ⟨some ⟨pending.missing - 1, bits, 0x80, 0xBF⟩, reader.read⟩
    else Reader.begin (none :: reader.read) octet

/-- The characters read; a sequence still pending is ill-formed. -/
def Reader.finish (reader : Reader) : List (Option Char) :=
  (if reader.pending.isSome then none :: reader.read else reader.read).reverse

/-- The characters of octets, ill-formed parts marked by `none`. -/
def scan (octets : Octets) : List (Option Char) :=
  (octets.foldl Reader.step ⟨none, []⟩).finish

/-- The text of well-formed octets. -/
def decode? (octets : Octets) : Option (List Char) := (scan octets).mapM id

/-- After a complete character, an ASCII octet is read as a character of its own. -/
theorem step_ascii {octet : UInt8} (h : octet.toNat < 0x80) (read : List (Option Char)) :
    Reader.step ⟨none, read⟩ octet = ⟨none, some (Char.ofNat octet.toNat) :: read⟩ := by
  simp [Reader.step, Reader.begin, lead, h]

/-- Strict reading succeeds exactly when nothing is marked. -/
theorem decode?_eq_some_iff {octets : Octets} {s : List Char} :
    decode? octets = some s ↔ scan octets = s.map some := by
  unfold decode?
  generalize scan octets = marks
  induction marks generalizing s with
  | nil => cases s <;> simp
  | cons mark rest ih =>
    cases mark <;> cases s <;> simp [List.mapM_cons, Option.bind_eq_some_iff, ih]
    exact and_comm

end Utf8

end PlatformClient
