import Mathlib.Data.List.Forall2
import Mathlib.Data.List.Nodup
import PlatformClient.Proofs.Record.Fields
import PlatformClient.Proofs.Record.Parts

/-!
# Records that keep their members

A record that keeps the members beyond its fields loses nothing of the object it is read from: what
the object supplied of the fields, together with the other members, has the names of the object. The
values of the fields may be spelled otherwise in it, but only once. Read again, these members give
the same record.

This holds of the forms whose fields are texts and whole numbers, or null, each read from the member
of its own name.

## Main definitions

* `Record.Form.IsPlain`, `Record.ArePlain`: texts, whole numbers and nulls, and fields of them
* `Record.Form.Holds`: the values that a plain form leaves as they are
* `Record.Takes`: how a field takes its value from some members
* `Record.supplied`: the fields that were supplied, as members

## Main results

* `Record.Form.IsPlain.settled`: what is read under a plain form is left as it is
* `Record.decodeFields_eq_ok_iff`: the fields of a record take their values one by one
* `Record.ArePlain.mem_names_kept_iff`: the kept members have the names of the object
* `Record.ArePlain.decode_kept`: read again, they give the same record
-/

namespace PlatformClient

namespace Members

theorem find?_append (first second : Members) (name : String) :
    (first ++ second).find? name = (first.find? name).or (second.find? name) := by
  induction first with
  | nil => rfl
  | cons member rest ih =>
    obtain ⟨other, value⟩ := member
    rw [List.cons_append, find?_cons, find?_cons]
    split
    · rfl
    · exact ih

theorem names_append (first second : Members) :
    (first ++ second).names = first.names ++ second.names := List.map_append

/-- A choice of members by their names does not change those that are chosen. -/
theorem find?_filter {p : String → Bool} {name : String} (h : p name = true) (members : Members) :
    find? (members.filter fun member => p member.1) name = members.find? name := by
  induction members with
  | nil => rfl
  | cons member rest ih =>
    obtain ⟨other, value⟩ := member
    rw [List.filter_cons, find?_cons]
    by_cases hother : other = name
    · rw [if_pos hother, hother, if_pos h, find?_cons, if_pos rfl]
    · rw [if_neg hother]
      split
      · rw [find?_cons, if_neg hother, ih]
      · exact ih

end Members

namespace Record

/-! ## Plain forms -/

/-- The forms of texts and whole numbers, which may be null. -/
inductive Form.IsPlain : Form → Prop
  | text : Form.IsPlain .text
  | integer : Form.IsPlain .integer
  | optional {form : Form} (h : Form.IsPlain form) : Form.IsPlain (.optional form)

/-- The values of the type that a plain form declares. Null is one only of those that may be
null. -/
inductive Form.Holds : Form → Json → Prop
  | text (s : String) : Form.Holds .text (.string s)
  | integer (n : Int) : Form.Holds .integer (.integer n)
  | null (form : Form) : Form.Holds (.optional form) .null
  | optional {form : Form} {value : Json} (h : Form.Holds form value) :
      Form.Holds (.optional form) value

theorem Datum.toJson_eq_null_iff {datum : Datum} : datum.toJson = .null ↔ datum = .null := by
  cases datum <;> simp [Datum.toJson]

/-- What is read under a plain form has the declared type, and is left as it is. -/
theorem Form.IsPlain.settled {form : Form} (h : form.IsPlain) {value : Json} {datum : Datum}
    (hdecode : form.decode value = .ok datum) :
    form.Holds datum.toJson ∧ form.decode datum.toJson = .ok datum := by
  induction h generalizing value datum with
  | text =>
    obtain ⟨s, -, rfl⟩ := Checked.map_eq_ok_iff.mp hdecode
    exact ⟨.text s, rfl⟩
  | integer =>
    obtain ⟨n, -, rfl⟩ := Checked.map_eq_ok_iff.mp hdecode
    exact ⟨.integer n, rfl⟩
  | @optional form _ ih =>
    by_cases hnull : value = .null
    · rw [hnull] at hdecode
      cases hdecode
      exact ⟨.null form, rfl⟩
    · rw [decode_optional_of_ne_null hnull] at hdecode
      obtain ⟨hholds, hagain⟩ := ih hdecode
      refine ⟨.optional hholds, ?_⟩
      by_cases hdatum : datum = .null
      · rw [hdatum]
        rfl
      · rw [decode_optional_of_ne_null (mt Datum.toJson_eq_null_iff.mp hdatum), hagain]

/-! ## Fields -/

/-- Fields of plain forms with different names, each read from the member of its name. -/
structure ArePlain (fields : List (Label × Form)) : Prop where
  forms : ∀ field ∈ fields, field.2.IsPlain
  sources : ∀ field ∈ fields, field.1.sources = [field.1.name]
  nodup : (fields.map (·.1.name)).Nodup

/-- A field takes its value from some members: from the member of its name, or by default. -/
inductive Takes (members : Members) : Label × Form → Slot × Datum → Prop
  | supplied {label : Label} {form : Form} {value : Json} {datum : Datum}
      (hfind : members.find? label.name = some value) (hdecode : form.decode value = .ok datum) :
      Takes members (label, form) (⟨label.name, true⟩, datum)
  | missing {label : Label} {form : Form} {datum : Datum}
      (hfind : members.find? label.name = none) (hdefault : label.default? = some datum) :
      Takes members (label, form) (⟨label.name, false⟩, datum)

/-- The fields that were supplied, as members of an object. -/
def supplied (slots : List (Slot × Datum)) : Members :=
  Datum.slotsToJson (slots.filter (·.1.supplied))

variable {members : Members} {fields : List (Label × Form)} {slots : List (Slot × Datum)}

theorem Takes.name_eq {field : Label × Form} {slot : Slot × Datum} (h : Takes members field slot) :
    slot.1.name = field.1.name := by
  cases h <;> rfl

theorem decodeFields_single_eq_ok_iff {label : Label} (hsource : label.sources = [label.name])
    {form : Form} {slot : Slot × Datum} :
    decodeFields [(label, form)] members = .ok [slot] ↔ Takes members (label, form) slot := by
  obtain ⟨⟨name, supplied⟩, datum⟩ := slot
  rw [decodeFields, Label.source?_of_single hsource]
  simp only [Checked.map_eq_ok_iff, Checked.both_eq_ok_iff]
  constructor
  · rintro ⟨⟨slot, _⟩, ⟨hslot, -⟩, heq⟩
    obtain ⟨rfl, -⟩ := List.cons_eq_cons.mp heq
    cases hfind : members.find? label.name with
    | some value =>
      rw [hfind] at hslot
      obtain ⟨datum, hdecode, heq⟩ := Checked.map_eq_ok_iff.mp hslot
      cases heq
      exact .supplied hfind (Checked.under_eq_ok_iff.mp hdecode)
    | none =>
      rw [hfind] at hslot
      cases hdefault : label.default? with
      | some value =>
        rw [hdefault] at hslot
        cases hslot
        exact .missing hfind hdefault
      | none =>
        rw [hdefault] at hslot
        cases hslot
  · intro htakes
    refine ⟨(_, []), ⟨?_, rfl⟩, rfl⟩
    cases htakes with
    | supplied hfind hdecode =>
      rw [hfind]
      simp only [Option.map_some]
      rw [hdecode]
      rfl
    | missing hfind hdefault =>
      rw [hfind, hdefault]
      rfl

/-- The fields of a record take their values one by one. -/
theorem decodeFields_eq_ok_iff
    (hsources : ∀ field ∈ fields, field.1.sources = [field.1.name]) :
    decodeFields fields members = .ok slots ↔ List.Forall₂ (Takes members) fields slots := by
  induction fields generalizing slots with
  | nil =>
    rw [List.forall₂_nil_left_iff]
    exact ⟨fun h => (Except.ok.inj h).symm, fun h => h ▸ rfl⟩
  | cons field rest ih =>
    obtain ⟨label, form⟩ := field
    have hfirst (slot : Slot × Datum) :
        decodeFields [(label, form)] members = .ok [slot] ↔ Takes members (label, form) slot :=
      decodeFields_single_eq_ok_iff (hsources (label, form) List.mem_cons_self)
    have hrest (slots : List (Slot × Datum)) :
        decodeFields rest members = .ok slots ↔ List.Forall₂ (Takes members) rest slots :=
      ih fun other hother => hsources other (List.mem_cons_of_mem _ hother)
    rw [decodeFields_cons_eq_ok_iff, List.forall₂_cons_left_iff]
    simp only [hfirst, hrest]

/-! ## The members of the fields -/

theorem mem_supplied_iff {member : String × Json} :
    member ∈ supplied slots ↔
      ∃ slot ∈ slots, slot.1.supplied = true ∧ member = (slot.1.name, slot.2.toJson) := by
  unfold supplied
  rw [Datum.slotsToJson_eq_map, List.mem_map]
  constructor
  · rintro ⟨slot, hslot, rfl⟩
    obtain ⟨hmem, hsupplied⟩ := List.mem_filter.mp hslot
    exact ⟨slot, hmem, hsupplied, rfl⟩
  · rintro ⟨slot, hmem, hsupplied, rfl⟩
    exact ⟨slot, List.mem_filter.mpr ⟨hmem, hsupplied⟩, rfl⟩

/-- The slots have the names of the fields. -/
theorem names_of_takes (h : List.Forall₂ (Takes members) fields slots) :
    slots.map (·.1.name) = fields.map (·.1.name) := by
  induction h with
  | nil => rfl
  | cons htakes _ ih => rw [List.map_cons, List.map_cons, htakes.name_eq, ih]

theorem names_supplied_sublist :
    (supplied slots).names.Sublist (slots.map (·.1.name)) := by
  unfold supplied Members.names
  rw [Datum.slotsToJson_eq_map, List.map_map]
  exact List.filter_sublist.map _

theorem exists_mem_of_forall₂ {α β : Type} {R : α → β → Prop} {as : List α} {bs : List β}
    (h : List.Forall₂ R as bs) {a : α} (ha : a ∈ as) : ∃ b ∈ bs, R a b := by
  induction h with
  | nil => cases ha
  | cons hfirst _ ih =>
    rcases List.mem_cons.mp ha with rfl | ha
    · exact ⟨_, List.mem_cons_self, hfirst⟩
    · obtain ⟨b, hb, hrelated⟩ := ih ha
      exact ⟨b, List.mem_cons_of_mem _ hb, hrelated⟩

/-- Each slot is that of a field. -/
theorem exists_field (h : List.Forall₂ (Takes members) fields slots) {slot : Slot × Datum}
    (hslot : slot ∈ slots) : ∃ field ∈ fields, Takes members field slot :=
  exists_mem_of_forall₂ (List.Forall₂.flip h : List.Forall₂ (flip (Takes members)) slots fields)
    hslot

/-- The names that were supplied are those of fields that the object has. -/
theorem mem_names_supplied_iff (h : List.Forall₂ (Takes members) fields slots) {name : String} :
    name ∈ (supplied slots).names ↔ name ∈ fields.map (·.1.name) ∧ name ∈ members.names := by
  constructor
  · intro hname
    obtain ⟨member, hmember, rfl⟩ := List.mem_map.mp hname
    obtain ⟨slot, hslot, hsupplied, rfl⟩ := mem_supplied_iff.mp hmember
    obtain ⟨field, hfield, htakes⟩ := exists_field h hslot
    cases htakes with
    | supplied hfind _ =>
      refine ⟨List.mem_map.mpr ⟨_, hfield, rfl⟩, ?_⟩
      exact List.mem_map.mpr ⟨_, Members.mem_of_find? hfind, rfl⟩
    | missing => cases hsupplied
  · rintro ⟨hname, hmember⟩
    obtain ⟨field, hfield, rfl⟩ := List.mem_map.mp hname
    obtain ⟨slot, hslot, htakes⟩ := exists_mem_of_forall₂ h hfield
    cases htakes with
    | supplied =>
      exact List.mem_map.mpr ⟨_, mem_supplied_iff.mpr ⟨_, hslot, rfl, rfl⟩, rfl⟩
    | missing hfind =>
      rw [← Members.find?_isSome_iff, hfind] at hmember
      cases hmember

/-! ## The members that are kept -/

namespace ArePlain

variable (hplain : ArePlain fields) (h : List.Forall₂ (Takes members) fields slots)
include hplain

theorem otherMembers_eq (members : Members) :
    otherMembers fields members =
      members.filter fun member => !(fields.map (·.1.name)).contains member.1 := by
  unfold otherMembers
  refine List.filter_congr fun member _ => congrArg _ ?_
  rw [Bool.eq_iff_iff, List.any_eq_true, List.contains_iff_mem, List.mem_map]
  refine exists_congr fun field => ⟨?_, ?_⟩
  · rintro ⟨hfield, hsource⟩
    rw [hplain.sources field hfield, List.contains_iff_mem, List.mem_singleton] at hsource
    exact ⟨hfield, hsource.symm⟩
  · rintro ⟨hfield, hname⟩
    refine ⟨hfield, ?_⟩
    rw [hplain.sources field hfield, List.contains_iff_mem, List.mem_singleton]
    exact hname.symm

/-- The other members are those of the object under names that are not declared. -/
theorem mem_otherMembers_iff {member : String × Json} :
    member ∈ otherMembers fields members ↔
      member ∈ members ∧ member.1 ∉ fields.map (·.1.name) := by
  rw [hplain.otherMembers_eq, List.mem_filter, Bool.not_eq_true', ← Bool.not_eq_true,
    List.contains_iff_mem]

theorem find?_otherMembers_of_declared {name : String} (hname : name ∈ fields.map (·.1.name)) :
    (otherMembers fields members).find? name = none := by
  refine Members.find?_eq_none_of_not_mem fun hother => ?_
  obtain ⟨member, hmember, rfl⟩ := List.mem_map.mp hother
  exact (hplain.mem_otherMembers_iff.mp hmember).2 hname

include h

theorem nodup_names_slots : (slots.map (·.1.name)).Nodup := names_of_takes h ▸ hplain.nodup

theorem nodup_names_supplied : (supplied slots).names.Nodup :=
  (hplain.nodup_names_slots h).sublist names_supplied_sublist

/-- The kept members have the names of the object. -/
theorem mem_names_kept_iff {name : String} :
    name ∈ (supplied slots ++ otherMembers fields members).names ↔ name ∈ members.names := by
  rw [Members.names_append, List.mem_append, mem_names_supplied_iff h]
  constructor
  · rintro (⟨-, hname⟩ | hother)
    · exact hname
    · obtain ⟨member, hmember, rfl⟩ := List.mem_map.mp hother
      exact List.mem_map_of_mem (hplain.mem_otherMembers_iff.mp hmember).1
  · intro hname
    by_cases hdeclared : name ∈ fields.map (·.1.name)
    · exact .inl ⟨hdeclared, hname⟩
    · obtain ⟨member, hmember, rfl⟩ := List.mem_map.mp hname
      exact .inr (List.mem_map_of_mem (hplain.mem_otherMembers_iff.mpr ⟨hmember, hdeclared⟩))

/-- They have each name once, if the object has. -/
theorem nodup_names_kept (hmembers : members.names.Nodup) :
    (supplied slots ++ otherMembers fields members).names.Nodup := by
  rw [Members.names_append, List.nodup_append]
  refine ⟨hplain.nodup_names_supplied h, ?_, ?_⟩
  · exact hmembers.sublist (List.filter_sublist.map _)
  · rintro name hsupplied _ hother rfl
    obtain ⟨member, hmember, rfl⟩ := List.mem_map.mp hother
    exact (hplain.mem_otherMembers_iff.mp hmember).2 ((mem_names_supplied_iff h).mp hsupplied).1

/-- A member under a name that is not declared is kept as it is. -/
theorem find?_kept_of_not_declared {name : String} (hname : name ∉ fields.map (·.1.name)) :
    (supplied slots ++ otherMembers fields members).find? name = members.find? name := by
  have hsupplied : (supplied slots).find? name = none :=
    Members.find?_eq_none_of_not_mem fun hmem => hname ((mem_names_supplied_iff h).mp hmem).1
  rw [Members.find?_append, hsupplied, Option.none_or, hplain.otherMembers_eq]
  refine Members.find?_filter (p := fun name => !(fields.map (·.1.name)).contains name) ?_ members
  rwa [Bool.not_eq_true', ← Bool.not_eq_true, List.contains_iff_mem]

/-- Among the kept members, a field is found as it was read. -/
theorem find?_kept_of_slot {slot : Slot × Datum} (hslot : slot ∈ slots) :
    (supplied slots ++ otherMembers fields members).find? slot.1.name =
      if slot.1.supplied then some slot.2.toJson else none := by
  have hdeclared : slot.1.name ∈ fields.map (·.1.name) :=
    names_of_takes h ▸ List.mem_map_of_mem hslot
  rw [Members.find?_append, hplain.find?_otherMembers_of_declared hdeclared, Option.or_none]
  split
  · rename_i hsupplied
    exact Members.find?_of_mem (hplain.nodup_names_supplied h)
      (mem_supplied_iff.mpr ⟨slot, hslot, hsupplied, rfl⟩)
  · rename_i hmissing
    refine Members.find?_eq_none_of_not_mem fun hname => ?_
    obtain ⟨member, hmember, hsame⟩ := List.mem_map.mp hname
    obtain ⟨other, hother, hsupplied, rfl⟩ := mem_supplied_iff.mp hmember
    obtain rfl : other = slot :=
      List.inj_on_of_nodup_map (hplain.nodup_names_slots h) hother hslot hsame
    exact hmissing hsupplied

/-- The value of a field among the kept members has the declared type. -/
theorem holds_of_find?_kept {field : Label × Form} (hfield : field ∈ fields) {value : Json}
    (hvalue : (supplied slots ++ otherMembers fields members).find? field.1.name = some value) :
    field.2.Holds value := by
  obtain ⟨slot, hslot, htakes⟩ := exists_mem_of_forall₂ h hfield
  have hfind := hplain.find?_kept_of_slot h hslot
  cases htakes with
  | supplied _ hdecode =>
    cases hfind.symm.trans hvalue
    exact ((hplain.forms _ hfield).settled hdecode).1
  | missing => cases hfind.symm.trans hvalue

/-- Among the kept members, a field takes the same value. -/
theorem takes_kept {field : Label × Form} {slot : Slot × Datum} (hfield : field ∈ fields)
    (hslot : slot ∈ slots) (htakes : Takes members field slot) :
    Takes (supplied slots ++ otherMembers fields members) field slot := by
  have hfind := hplain.find?_kept_of_slot h hslot
  cases htakes with
  | supplied _ hdecode => exact .supplied hfind ((hplain.forms _ hfield).settled hdecode).2
  | missing _ hdefault => exact .missing hfind hdefault

theorem otherMembers_kept :
    otherMembers fields (supplied slots ++ otherMembers fields members) =
      otherMembers fields members := by
  have hsupplied : otherMembers fields (supplied slots) = [] := by
    rw [List.eq_nil_iff_forall_not_mem]
    intro member hmember
    obtain ⟨hmem, hname⟩ := hplain.mem_otherMembers_iff.mp hmember
    exact hname ((mem_names_supplied_iff h).mp (List.mem_map_of_mem hmem)).1
  unfold otherMembers at hsupplied ⊢
  rw [List.filter_append, hsupplied, List.nil_append, List.filter_filter]
  simp only [Bool.and_self]

/-- Read again, the kept members give the same record. -/
theorem decode_kept (title : String) :
    (Form.record title fields true).decode
        (.object (supplied slots ++ otherMembers fields members)) =
      .ok (.record title slots (otherMembers fields members)) := by
  have htakes : List.Forall₂ (Takes (supplied slots ++ otherMembers fields members)) fields
      slots := by
    refine List.forall₂_iff_zip.mpr ⟨h.length_eq, fun {field slot} hzip => ?_⟩
    obtain ⟨hfield, hslot⟩ := List.of_mem_zip hzip
    exact hplain.takes_kept h hfield hslot ((List.forall₂_iff_zip.mp h).2 hzip)
  have hslots := (decodeFields_eq_ok_iff hplain.sources).mpr htakes
  refine Checked.map_eq_ok_iff.mpr ⟨slots, hslots, ?_⟩
  rw [if_pos rfl, hplain.otherMembers_kept h]

end ArePlain

end Record

end PlatformClient
