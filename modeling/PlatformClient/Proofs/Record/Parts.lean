import PlatformClient.Proofs.Record.Moved

/-!
# Records read part by part

A required field is read from the first of the members that its label may stand for. So a record of
required fields is read from parts of an object, each of which is found under one name, and its
faults are those of the parts, one after the other.

## Main definitions

* `Record.IsFlat`: a check whose only fault is that of the value itself
* `Members.part`: the checked value of a member that must be there
* `Record.StandsFor`: the member that a label stands for

## Main results

* `Members.moved_part`: a flat part is moved with the name of its member
* `Record.standsFor_single`, `Record.standsFor_first`: labels with one name or two
* `Record.decodeFields_cons`: a required field is read from its part
-/

namespace PlatformClient

namespace Record

variable {α β : Type}

/-! ## Flat checks -/

/-- The only fault that a check finds is that of the value itself. -/
def IsFlat (check : Json → Checked α) : Prop :=
  ∀ value issues, check value = .error issues → ∃ kind, issues = [⟨[], kind⟩]

theorem isFlat_decodeText : IsFlat decodeText := by
  intro value issues h
  unfold decodeText at h
  split at h
  · cases h
  · exact ⟨_, (Except.error.inj h).symm⟩

theorem isFlat_decodeInteger : IsFlat decodeInteger := by
  intro value issues h
  unfold decodeInteger at h
  split at h
  · cases h
  · cases h
  · unfold decodeFloat at h
    split at h
    · exact ⟨_, (Except.error.inj h).symm⟩
    · split at h
      · exact ⟨_, (Except.error.inj h).symm⟩
      · split at h
        · cases h
        · exact ⟨_, (Except.error.inj h).symm⟩
  · split at h
    · cases h
    · exact ⟨_, (Except.error.inj h).symm⟩
    · exact ⟨_, (Except.error.inj h).symm⟩
  · exact ⟨_, (Except.error.inj h).symm⟩

end Record

/-! ## Parts of objects -/

namespace Members

open Record

variable {α β : Type} {members : Members}

/-- The checked value of the member of a name, which must be there. -/
def part (check : Json → Checked α) (members : Members) (name : String) : Checked α :=
  Checked.under (.member name) ((members.find? name).elim (.fail .missing) check)

/-- A flat part is moved with the name of its member. -/
theorem moved_part {check : Json → Checked α} (hflat : IsFlat check) {move : Path → Path}
    {others : Members} {name other : String} (hmove : move [.member name] = [.member other])
    (hfind : others.find? other = members.find? name) :
    Checked.moved move (members.part check name) = others.part check other := by
  have hissue (kind : IssueKind) :
      Issue.moved move (Issue.under (.member name) ⟨[], kind⟩) =
        Issue.under (.member other) ⟨[], kind⟩ := by
    rw [Issue.moved, Issue.under, hmove]
    rfl
  unfold part
  rw [hfind]
  cases members.find? name with
  | none => exact congrArg (fun issue => Except.error [issue]) (hissue .missing)
  | some value =>
    rw [Option.elim_some]
    cases hcheck : check value with
    | ok a => rfl
    | error issues =>
      obtain ⟨kind, rfl⟩ := hflat value issues hcheck
      exact congrArg (fun issue => Except.error [issue]) (hissue kind)

/-- What is made of a part may be made of the value itself. -/
theorem part_map (check : Json → Checked α) (f : α → β) (name : String) :
    members.part (fun value => (check value).map f) name = (members.part check name).map f := by
  unfold Members.part
  cases members.find? name with
  | none => rfl
  | some value =>
    rw [Option.elim_some, Option.elim_some]
    cases check value <;> rfl

theorem part_text (name : String) :
    members.part Form.text.decode name = (members.part decodeText name).map .text :=
  part_map decodeText Datum.text name

theorem part_integer (name : String) :
    members.part Form.integer.decode name = (members.part decodeInteger name).map .integer :=
  part_map decodeInteger Datum.integer name

end Members

/-! ## Labels -/

namespace Record

variable {members : Members}

/-- A label with one name is read from the member of this name. -/
theorem Label.source?_of_single {label : Label} {source : String} (h : label.sources = [source])
    (members : Members) :
    label.source? members = (members.find? source).map (source, ·) := by
  unfold Label.source?
  rw [h, List.findSome?_cons, List.findSome?_nil]
  cases members.find? source <;> rfl

/-- Of some members, a label stands for the one of a name, which must be there. -/
structure StandsFor (members : Members) (label : Label) (source : String) : Prop where
  required : label.default? = none
  /-- Under this name a missing member is reported. -/
  first : label.sources.headD label.name = source
  read : label.source? members = (members.find? source).map (source, ·)

theorem standsFor_single (name source : String) :
    StandsFor members ⟨name, [source], none⟩ source :=
  ⟨rfl, rfl, Label.source?_of_single rfl members⟩

/-- Another member that a label could stand for does not count beside the first one, nor where it is
missing as well. -/
theorem standsFor_first {first second : String}
    (h : first ∈ members.names ∨ second ∉ members.names) (name : String) :
    StandsFor members ⟨name, [first, second], none⟩ first := by
  refine ⟨rfl, rfl, ?_⟩
  simp only [Label.source?, List.findSome?_cons, List.findSome?_nil]
  cases hfirst : members.find? first with
  | some value => rfl
  | none =>
    rw [← Members.find?_isSome_iff, ← Members.find?_isSome_iff, hfirst] at h
    rw [Option.not_isSome_iff_eq_none.mp (h.resolve_left nofun)]
    rfl

/-- A required field is read from the part that its label stands for. -/
theorem decodeFields_cons {label : Label} {source : String} (h : StandsFor members label source)
    (form : Form) (rest : List (Label × Form)) :
    decodeFields ((label, form) :: rest) members =
      (Checked.both ((members.part form.decode source).map (Slot.mk label.name true, ·))
        (decodeFields rest members)).map fun (slot, slots) => slot :: slots := by
  rw [decodeFields, h.read, h.required, h.first, Members.part]
  cases members.find? source <;> rfl

end Record

end PlatformClient
