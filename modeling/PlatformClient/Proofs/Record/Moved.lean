import PlatformClient.Record.Document

/-!
# Faults at other paths

Two checks may find the same faults at different places: where a part is checked by itself and as a
part of something larger, or where a member has another name. The faults of the one are then those
of the other at moved paths.

## Main definitions

* `Record.Issue.moved`, `Record.Checked.moved`: a fault, or all faults of a check, at moved paths

## Main results

* `Record.Checked.moved_both`: the faults of two checks are moved one by one
* `Record.Checked.issues_each`: the faults of items are those of each item, in order
-/

namespace PlatformClient

namespace Record

variable {α β : Type}

/-- A fault at a moved path. -/
def Issue.moved (move : Path → Path) (issue : Issue) : Issue :=
  { issue with path := move issue.path }

/-- A check all of whose faults are at moved paths. -/
def Checked.moved (move : Path → Path) (result : Checked α) : Checked α :=
  result.mapError (·.map (Issue.moved move))

namespace Checked

@[simp] theorem moved_ok (move : Path → Path) (a : α) : moved move (.ok a) = .ok a := rfl

@[simp] theorem moved_error (move : Path → Path) (issues : List Issue) :
    moved move (.error issues : Checked α) = .error (issues.map (Issue.moved move)) := rfl

/-- The faults of two checks are moved one by one. -/
theorem moved_both (move : Path → Path) (first : Checked α) (second : Checked β) :
    moved move (both first second) = both (moved move first) (moved move second) := by
  cases first <;> cases second <;> simp [both]

/-- Items may be checked before or after something is made of each. -/
theorem each_map {γ : Type} (check : α → Checked β) (f : β → γ) (index : Nat) (items : List α) :
    each (fun a => (check a).map f) index items = (each check index items).map (List.map f) := by
  induction items generalizing index with
  | nil => rfl
  | cons a rest ih =>
    rw [each, each, ih]
    cases check a <;> cases each check (index + 1) rest <;> rfl

/-- The faults of all items are those of each item, in order. -/
theorem issues_each (check : α → Checked β) (index : Nat) (items : List α) :
    (each check index items).issues =
      (items.zipIdx index).flatMap fun item =>
        (check item.1).issues.map (Issue.under (.item item.2)) := by
  induction items generalizing index with
  | nil => rfl
  | cons a rest ih =>
    rw [each, issues_map, issues_both, issues_under, ih, List.zipIdx_cons, List.flatMap_cons]

end Checked

end Record

end PlatformClient
