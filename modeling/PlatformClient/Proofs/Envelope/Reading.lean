import PlatformClient.Operation.Transport
import PlatformClient.Proofs.Json.Writable

/-!
# What an envelope says

The envelope of an answer is read from two members of an object, the code and the text. Both may be
absent; a code may be written in any of the notations of whole numbers, and a text must be a text.
The code of an answer that was read has a text itself, since it is no longer than what was read.

## Main definitions

* `Envelope.codeOf`, `Envelope.textOf`: the two parts of an envelope
* `Envelope.failure`: how an answer with an error code is reported
* `Json.ReportsError`: answers with an error code

## Main results

* `Record.decodeInteger_lt`: the whole number that a value means is within the limit for digits
* `Envelope.read_object`: an envelope is read from its two parts
* `Envelope.code_lt_of_read`: the code of an answer is within the limit for digits
* `Json.ReportsError.read`: the envelope of an answer with an error code
-/

namespace PlatformClient

/-! ## Whole numbers in documents -/

namespace Text

theorem pow_le_digitLimit {k : Nat} (h : k ≤ digitLimit) :
    Nat.pow 10 k ≤ Nat.pow 10 digitLimit := by
  generalize digitLimit = limit at h ⊢
  exact Nat.pow_le_pow_right (Nat.succ_pos 9) h

theorem natAbs_signed (negative : Bool) (magnitude : Nat) :
    (signed negative magnitude).natAbs = magnitude := by
  unfold signed
  cases negative <;> simp

theorem strictInteger_lt {s : List Char} {n : Int} (h : strictInteger s = .ok n) :
    n.natAbs < Nat.pow 10 digitLimit := by
  unfold strictInteger at h
  simp only at h
  generalize (if (s.head? == some '-') = true then s.tail else s) = body at h
  split at h
  · cases h
    exact Nat.lt_of_lt_of_le Nat.one_pos (pow_le_digitLimit (Nat.zero_le _))
  · split at h
    · cases h
    · split at h
      · cases h
      · rename_i hlength
        split at h
        · cases h
        · cases h
          rw [natAbs_signed]
          have hdigits := List.all_eq_true.mp (List.all_takeWhile (p := Char.isDigit) (l := body))
          exact ofDigitChars_lt_of_length_le hdigits (Nat.le_of_not_lt hlength)

theorem documentInteger_lt {s : List Char} {n : Int} (h : documentInteger s = .ok n) :
    n.natAbs < Nat.pow 10 digitLimit := by
  unfold documentInteger at h
  split at h
  · split at h
    · rename_i tidy _
      cases hstrict : strictInteger tidy with
      | error fault =>
        rw [hstrict] at h
        cases h
      | ok found =>
        rw [hstrict] at h
        cases h
        exact strictInteger_lt hstrict
    · cases h
  · exact strictInteger_lt h

end Text

namespace Record

theorem decodeFloat_lt {x : Float} {n : Int} (h : decodeFloat x = .ok n) :
    n.natAbs < Nat.pow 10 Text.digitLimit := by
  unfold decodeFloat at h
  split at h
  · cases h
  · split at h
    · cases h
    · split at h
      · rename_i hbounds
        cases h
        have hbits : n.natAbs < Nat.pow 2 63 := by
          unfold floatBound at hbounds
          omega
        have hbase : Nat.pow 2 63 ≤ Nat.pow 10 63 := Nat.pow_le_pow_left (by decide) 63
        exact Nat.lt_of_lt_of_le hbits (Nat.le_trans hbase (Text.pow_le_digitLimit (by decide)))
      · cases h

/-- The whole number that a value means is within the limit for digits, if the value can be
written. -/
theorem decodeInteger_lt {room : Nat} {value : Json} {n : Int} (hvalue : value.WrittenWithin room)
    (h : decodeInteger value = .ok n) : n.natAbs < Nat.pow 10 Text.digitLimit := by
  unfold decodeInteger at h
  split at h
  · cases h
    exact Json.writtenWithin_integer_iff.mp hvalue
  · rename_i b
    cases h
    have hlimit : Nat.pow 10 1 ≤ Nat.pow 10 Text.digitLimit := Text.pow_le_digitLimit (by decide)
    cases b
    · exact Nat.lt_of_lt_of_le (by decide) hlimit
    · exact Nat.lt_of_lt_of_le (by decide) hlimit
  · exact decodeFloat_lt h
  · split at h
    · rename_i found hfound
      cases h
      exact Text.documentInteger_lt hfound
    · cases h
    · cases h
  · cases h

end Record

/-! ## The parts of an envelope -/

namespace Envelope

open Record

/-- The code in an object; zero if it is absent. -/
def codeOf (members : Members) : Checked Int :=
  match members.find? "errcode" with
  | none => .ok 0
  | some value => Checked.under (.member "errcode") (decodeInteger value)

/-- The text in an object; empty if it is absent. -/
def textOf (members : Members) : Checked String :=
  match members.find? "errmsg" with
  | none => .ok ""
  | some value => Checked.under (.member "errmsg") (decodeText value)

/-- An envelope is read from its two parts, and refused with the faults of both. -/
theorem read_object (members : Members) :
    Envelope.document.read (.object members) =
      match (codeOf members).both (textOf members) with
      | .ok (code, text) => .ok ⟨code, text⟩
      | .error issues => .error ⟨"ErrorEnvelope", issues⟩ := by
  unfold Document.read
  simp only [Envelope.document, form, Form.decode, Record.decodeFields, Label.withDefault,
    Label.source?, codeOf, textOf, List.findSome?_cons, List.findSome?_nil]
  cases members.find? "errcode" with
  | none =>
    cases members.find? "errmsg" with
    | none => rfl
    | some text =>
      simp only [Option.map]
      cases decodeText text <;> rfl
  | some code =>
    simp only [Option.map]
    cases members.find? "errmsg" with
    | none =>
      simp only
      cases decodeInteger code <;> rfl
    | some text =>
      simp only
      cases decodeInteger code <;> cases decodeText text <;> rfl

theorem codeOf_lt {room : Nat} {members : Members} {code : Int}
    (hmembers : Json.WrittenWithin room (.object members))
    (h : codeOf members = .ok code) : code.natAbs < Nat.pow 10 Text.digitLimit := by
  unfold codeOf at h
  split at h
  · cases h
    exact Nat.lt_of_lt_of_le Nat.one_pos (Text.pow_le_digitLimit (Nat.zero_le _))
  · rename_i value hvalue
    cases room with
    | zero => cases hmembers
    | succ room => exact decodeInteger_lt (hmembers.find? hvalue) (Checked.under_eq_ok_iff.mp h)

/-- The code of an answer that can be written is within the limit for digits. -/
theorem code_lt_of_read {room : Nat} {document : Json} {envelope : Envelope}
    (hdocument : document.WrittenWithin room) (h : Envelope.document.read document = .ok envelope) :
    envelope.code.natAbs < Nat.pow 10 Text.digitLimit := by
  cases document with
  | object members =>
    rw [read_object] at h
    split at h
    · rename_i code text hparts
      cases h
      exact codeOf_lt hdocument (Checked.both_eq_ok_iff.mp hparts).1
    · cases h
  | _ => cases h

/-- How an answer with an error code is reported, by the value of the member for its text: as an
error of the platform, or else, if there is a value that is no text, as the refusal of the
envelope. -/
def failure (code : Int) : Option Json → Failure
  | none => .fault (.api code "")
  | some (.string text) => .fault (.api code text)
  | some value => .refused ⟨"ErrorEnvelope", [⟨[.member "errmsg"], .notText⟩]⟩ [value]

end Envelope

/-! ## Answers with an error code -/

/-- An answer is an object whose error code is a whole number other than zero, and is reported as
the given failure. Whatever other members the object has does not matter. -/
def Json.ReportsError (document : Json) (failure : Failure) : Prop :=
  ∃ (members : Members) (code : Int), document = .object members ∧
    members.find? "errcode" = some (.integer code) ∧ code ≠ 0 ∧
    failure = Envelope.failure code (members.find? "errmsg")

/-- The envelope of an answer with an error code is read and reports the error, or is refused. -/
theorem Json.ReportsError.read {document : Json} {failure : Failure}
    (h : document.ReportsError failure) :
    (∃ envelope, Envelope.document.read document = .ok envelope ∧ envelope.isSuccess = false ∧
      failure = .fault (.api envelope.code envelope.text)) ∨
    ∃ refusal, Envelope.document.read document = .error refusal ∧
      failure = .ofRefusal document refusal := by
  obtain ⟨members, code, rfl, hcode, hne, rfl⟩ := h
  have hcodeOf : Envelope.codeOf members = .ok code := by
    unfold Envelope.codeOf
    rw [hcode]
    rfl
  have herror : ∀ text, (Envelope.mk code text).isSuccess = false := fun text =>
    beq_eq_false_iff_ne.mpr hne
  rw [Envelope.read_object, hcodeOf]
  unfold Envelope.textOf
  cases htext : Members.find? members "errmsg" with
  | none => exact .inl ⟨⟨code, ""⟩, rfl, herror "", rfl⟩
  | some value =>
    have hinput : Record.reached [.member "errmsg"] (.object members) = value := by
      simp only [Record.reached, htext]
    cases value with
    | string text => exact .inl ⟨⟨code, text⟩, rfl, herror text, rfl⟩
    | _ => exact .inr ⟨_, rfl, congrArg (fun input => Failure.refused _ [input]) hinput.symm⟩

end PlatformClient
