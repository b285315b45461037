/-!
# Faults of documents

A document that does not have the required form is refused with a list of all its faults, each at
its path in the document.

## Main definitions

* `Record.Step`, `Record.Path`: the way from a document to a value in it
* `Record.IssueKind`, `Record.Issue`: what is wrong, and where
* `Record.Checked`: a result, or all faults
* `Record.Checked.both`, `Record.Checked.each`: two results together, and those of all items

## Main results

* `Checked.both_eq_ok_iff`: two checks together succeed exactly when each does
* `Checked.issues_both`: the faults of two checks together are the faults of the first, then those
  of the second
* `Checked.each_eq_ok_iff`: all items pass exactly when each does
-/

namespace PlatformClient.Record

/-- One step into a value: to a member of an object, or to an item of an array. -/
inductive Step where
  | member (name : String)
  | item (index : Nat)
deriving DecidableEq

/-- The way from a document to a value in it. -/
abbrev Path := List Step

/-- What can be wrong with a value. -/
inductive IssueKind where
  | missing
  | notText
  | notInteger
  | fractional
  | notFinite
  | unparsable
  | outOfRange
  | notList
  | notRecord (title : String)
deriving DecidableEq

namespace IssueKind

/-- The code of a fault. -/
def code : IssueKind → String
  | missing => "missing"
  | notText => "string_type"
  | notInteger => "int_type"
  | fractional => "int_from_float"
  | notFinite => "finite_number"
  | unparsable => "int_parsing"
  | outOfRange => "int_parsing_size"
  | notList => "list_type"
  | notRecord _ => "model_type"

/-- The wording of a fault. -/
def message : IssueKind → String
  | missing => "Field required"
  | notText => "Input should be a valid string"
  | notInteger => "Input should be a valid integer"
  | fractional => "Input should be a valid integer, got a number with a fractional part"
  | notFinite => "Input should be a finite number"
  | unparsable => "Input should be a valid integer, unable to parse string as an integer"
  | outOfRange => "Unable to parse input string as an integer, exceeded maximum size"
  | notList => "Input should be a valid list"
  | notRecord title => "Input should be a valid dictionary or instance of " ++ title

end IssueKind

/-- A fault at its path. -/
structure Issue where
  path : Path
  kind : IssueKind
deriving DecidableEq

/-- A fault of a value as a fault of what the value is a part of. -/
def Issue.under (step : Step) (issue : Issue) : Issue := { issue with path := step :: issue.path }

/-- A result, or all faults. -/
abbrev Checked (α : Type) := Except (List Issue) α

namespace Checked

variable {α β : Type}

/-- The single fault of a value itself. -/
def fail (kind : IssueKind) : Checked α := .error [⟨[], kind⟩]

/-- The result of checking a part; its faults are faults of the whole. -/
def under (step : Step) (result : Checked α) : Checked α :=
  result.mapError (·.map (Issue.under step))

/-- Two results together; the faults of both are kept in order. -/
def both : Checked α → Checked β → Checked (α × β)
  | .ok a, .ok b => .ok (a, b)
  | .ok _, .error issues => .error issues
  | .error issues, .ok _ => .error issues
  | .error issues, .error more => .error (issues ++ more)

/-- The results of checking all items, the first of which has the given index. -/
def each (check : α → Checked β) : Nat → List α → Checked (List β)
  | _, [] => .ok []
  | index, a :: rest =>
    (both (under (.item index) (check a)) (each check (index + 1) rest)).map fun (b, bs) => b :: bs

/-- The faults of a check. -/
def issues : Checked α → List Issue
  | .ok _ => []
  | .error issues => issues

/-- Two checks together succeed exactly when each does. -/
theorem both_eq_ok_iff {first : Checked α} {second : Checked β} {pair : α × β} :
    both first second = .ok pair ↔ first = .ok pair.1 ∧ second = .ok pair.2 := by
  obtain ⟨a, b⟩ := pair
  cases first <;> cases second <;> simp [both]

/-- The faults of two checks together. -/
@[simp] theorem issues_both (first : Checked α) (second : Checked β) :
    (both first second).issues = first.issues ++ second.issues := by
  cases first <;> cases second <;> simp [both, issues]

/-- The faults of a part, seen from the whole. -/
@[simp] theorem issues_under (step : Step) (result : Checked α) :
    (under step result).issues = result.issues.map (Issue.under step) := by
  cases result <;> rfl

@[simp] theorem issues_map {γ : Type} (f : α → γ) (result : Checked α) :
    issues (result.map f) = result.issues := by
  cases result <;> rfl

theorem under_eq_ok_iff {step : Step} {result : Checked α} {a : α} :
    under step result = .ok a ↔ result = .ok a := by
  cases result with
  | error issues => exact ⟨nofun, nofun⟩
  | ok found => exact Iff.rfl

theorem map_eq_ok_iff {γ : Type} {f : α → γ} {result : Checked α} {c : γ} :
    result.map f = .ok c ↔ ∃ a, result = .ok a ∧ f a = c := by
  cases result <;> simp [Except.map]

/-- All items pass exactly when each does. -/
theorem each_eq_ok_iff {check : α → Checked β} {index : Nat} {items : List α} {results : List β} :
    each check index items = .ok results ↔ items.map check = results.map .ok := by
  induction items generalizing index results with
  | nil => cases results <;> simp [each]
  | cons a rest ih =>
    cases results with
    | nil => simp [each, map_eq_ok_iff]
    | cons b bs => simp [each, map_eq_ok_iff, both_eq_ok_iff, under_eq_ok_iff, ih]

end Checked

end PlatformClient.Record
