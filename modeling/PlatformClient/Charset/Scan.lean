import PlatformClient.Octets.Utf8

/-!
# Scanning octets

A character set reads octets from left to right. What it reads at each place are marks: characters,
and ill-formed parts between them. Reading never stops at an ill-formed part.

## Main definitions

* `Mark`: a character, or an ill-formed part
* `Reading`: what is read at the front of octets
* `scan`: the marks of all octets
* `endState`: the state behind all octets
* `strict?`: the text of marks, if all are characters
* `replacing`: the text of marks, with U+FFFD for each ill-formed part
-/

namespace PlatformClient.Charset

/-- A character that has been read, or an ill-formed part. -/
abbrev Mark := Option Char

/-- What is read at the front of octets: marks, how many octets are taken besides the first, and the
state in which reading goes on. -/
structure Reading (σ : Type) where
  marks : List Mark
  more : Nat
  state : σ

namespace Reading

variable {σ : Type}

/-- A character of some octets besides the first. -/
def char (c : Char) (more : Nat) (state : σ) : Reading σ := ⟨[some c], more, state⟩

/-- An ill-formed part of some octets besides the first. -/
def illFormed (more : Nat) (state : σ) : Reading σ := ⟨[none], more, state⟩

/-- Octets that only change the state. -/
def silent (more : Nat) (state : σ) : Reading σ := ⟨[], more, state⟩

/-- A sequence that the octets end in: all that is left of them is one ill-formed part. -/
def cutShort (rest : Octets) (state : σ) : Reading σ := ⟨[none], rest.length, state⟩

end Reading

/-- How a character set reads the front of octets, of which the first is given apart. -/
abbrev Front (σ : Type) := σ → UInt8 → Octets → Reading σ

/-- The marks of octets behind marks that were read before, the latest first. Octets that are taken
already are skipped. -/
def scanOn {σ : Type} (front : Front σ) : σ → Nat → List Mark → Octets → List Mark
  | _, _, done, [] => done.reverse
  | state, skip + 1, done, _ :: rest => scanOn front state skip done rest
  | state, 0, done, octet :: rest =>
    let reading := front state octet rest
    scanOn front reading.state reading.more (reading.marks.reverse ++ done) rest

/-- The marks of octets, read from a state on. -/
def scan {σ : Type} (front : Front σ) (state : σ) (octets : Octets) : List Mark :=
  scanOn front state 0 [] octets

/-- The state behind octets. Octets that are taken already are skipped. -/
def stateOn {σ : Type} (front : Front σ) : σ → Nat → Octets → σ
  | state, _, [] => state
  | state, skip + 1, _ :: rest => stateOn front state skip rest
  | state, 0, octet :: rest =>
    let reading := front state octet rest
    stateOn front reading.state reading.more rest

/-- The state behind octets, read from a state on. -/
def endState {σ : Type} (front : Front σ) (state : σ) (octets : Octets) : σ :=
  stateOn front state 0 octets

section Lemmas

variable {σ : Type} (front : Front σ)

end Lemmas

/-- The text of marks, if all are characters. -/
def strict? (marks : List Mark) : Option (List Char) := marks.mapM id

/-- The text of marks, with U+FFFD for each ill-formed part. -/
def replacing (marks : List Mark) : List Char := marks.map (·.getD '\uFFFD')

end PlatformClient.Charset
