import PlatformClient.Record.Form

/-!
# Kinds of documents

A kind of document is a form together with what its checked values mean.

## Main definitions

* `Record.Document`: a kind of document
* `Record.Refusal`: the title of a form, and why a document does not have it
* `Record.reached`: what a path leads to
* `Record.Refusal.inputs`: the values that are refused
* `Record.Document.read`: what a document means

## Main results

* `Document.read_eq_ok_iff`: reading succeeds exactly when the form accepts
-/

namespace PlatformClient.Record

/-- A kind of document: its form, and what a checked value of the form means. -/
structure Document (α : Type) where
  form : Form
  meaning : Datum → α

/-- Why a document does not have a form. -/
structure Refusal where
  title : String
  issues : List Issue
deriving DecidableEq

/-- What a path leads to in a value, as far as it does: the path of a missing field leads to what
the field should be in. -/
def reached : Path → Json → Json
  | .member name :: rest, .object members =>
    match Members.find? members name with
    | some value => reached rest value
    | none => .object members
  | .item index :: rest, .array items =>
    match items[index]? with
    | some value => reached rest value
    | none => .array items
  | _, value => value

/-- The values of a document that are refused, one for each fault. -/
def Refusal.inputs (refusal : Refusal) (document : Json) : List Json :=
  refusal.issues.map fun issue => reached issue.path document

namespace Document

variable {α : Type}

/-- The checked values of a form themselves. -/
def ofForm (form : Form) : Document Datum := ⟨form, id⟩

/-- What a document means. -/
def read (document : Document α) (value : Json) : Except Refusal α :=
  match document.form.decode value with
  | .ok datum => .ok (document.meaning datum)
  | .error issues => .error ⟨document.form.title, issues⟩

/-- Reading succeeds exactly when the form accepts. -/
theorem read_eq_ok_iff {document : Document α} {value : Json} {a : α} :
    document.read value = .ok a ↔
      ∃ datum, document.form.decode value = .ok datum ∧ document.meaning datum = a := by
  unfold read
  cases document.form.decode value <;> simp

end Document

end PlatformClient.Record
