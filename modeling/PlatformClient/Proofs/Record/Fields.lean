import Mathlib.Data.List.Forall2
import Mathlib.Data.List.Nodup
import PlatformClient.Proofs.Json.Writable
import PlatformClient.RichMedia

/-!
# Fields with and without a value

A record is read field by field. A required field needs its member; an optional one is null where
its member is missing. So an object may leave out the members of optional fields that have no value,
and the record that is read from it is the same.

## Main definitions

* `Members.told`: members of which some are there only with a value
* `Members.Keys`: the names of such members
* `Record.Reads`: what a field is read as among some members
* `Record.Gives`: forms of plain values
* `Record.IsRecord`: a checked value with these values in its fields, supplied or not
* `Record.Represents`, `Record.Document.Tells`: documents that tell the values of a kind

## Main results

* `Members.find?_told_required`, `Members.find?_told_optional`: what is found of each field
* `Members.keys_told`: which names there are
* `Record.exists_decode_record_iff`: a record is read field by field
* `Record.IsRecord.toJson_withoutNulls`: the members that remain of a record without nulls
* `Record.Represents.list`: lists are told by arrays
* `Record.Represents.tells`: what is told of a value is read as this value
-/

namespace PlatformClient

variable {α : Type}

namespace Members

/-! ## Members that are told -/

/-- Members that are always there, followed by those that have a value. -/
def told (required : Members) (optional : List (String × Option Json)) : Members :=
  required ++ optional.flatMap fun field => optionalMember field.1 field.2

/-- The members of an object have the required names, and of the optional names those that are set;
each is there once. -/
structure Keys (members : Members) (required : List String) (optional : List (String × Bool)) :
    Prop where
  nodup : members.names.Nodup
  mem_iff : ∀ name, name ∈ members.names ↔ name ∈ required ∨ (name, true) ∈ optional

theorem find?_of_mem {members : Members} (hnames : members.names.Nodup) {name : String}
    {value : Json} (h : (name, value) ∈ members) : members.find? name = some value := by
  induction members with
  | nil => cases h
  | cons member rest ih =>
    obtain ⟨hfirst, hrest⟩ := List.nodup_cons.mp hnames
    rcases List.mem_cons.mp h with rfl | h
    · exact if_pos rfl
    · have hname : name ∈ Members.names rest := List.mem_map_of_mem h
      rw [find?_cons, if_neg (ne_of_mem_of_not_mem hname hfirst).symm]
      exact ih hrest h

theorem find?_eq_none_of_not_mem {members : Members} {name : String}
    (h : name ∉ members.names) : members.find? name = none := by
  rw [← find?_isSome_iff] at h
  exact Option.not_isSome_iff_eq_none.mp h

theorem mem_optionalMember_iff {name : String} {value : Option Json} {member : String × Json} :
    member ∈ optionalMember name value ↔ member.1 = name ∧ value = some member.2 := by
  obtain ⟨other, found⟩ := member
  cases value <;> simp [optionalMember, eq_comm]

variable {required : Members} {optional : List (String × Option Json)}

theorem mem_told_iff {member : String × Json} :
    member ∈ told required optional ↔
      member ∈ required ∨ (member.1, some member.2) ∈ optional := by
  unfold told
  rw [List.mem_append, List.mem_flatMap]
  refine or_congr_right ⟨?_, ?_⟩
  · rintro ⟨⟨name, value⟩, hfield, hmember⟩
    obtain ⟨rfl, rfl⟩ := mem_optionalMember_iff.mp hmember
    exact hfield
  · intro hfield
    exact ⟨_, hfield, mem_optionalMember_iff.mpr ⟨rfl, rfl⟩⟩

theorem forall_mem_told {p : Json → Prop} (hrequired : ∀ member ∈ required, p member.2)
    (hoptional : ∀ field ∈ optional, ∀ value ∈ field.2, p value) :
    ∀ member ∈ told required optional, p member.2 := by
  intro member hmember
  rcases mem_told_iff.mp hmember with h | h
  · exact hrequired member h
  · exact hoptional _ h _ rfl

theorem names_told_sublist :
    (told required optional).names.Sublist (required.names ++ optional.map (·.1)) := by
  unfold told names
  rw [List.map_append]
  refine (List.Sublist.refl _).append ?_
  induction optional with
  | nil => exact List.Sublist.refl _
  | cons field rest ih =>
    obtain ⟨name, _ | value⟩ := field
    · exact ih.cons name
    · exact ih.cons_cons name

/-- All fields have different names. -/
def DifferentNames (required : Members) (optional : List (String × Option Json)) : Prop :=
  (required.names ++ optional.map (·.1)).Nodup

theorem nodup_names_told (hnames : DifferentNames required optional) :
    (told required optional).names.Nodup :=
  hnames.sublist names_told_sublist

/-- A required field is found. -/
theorem find?_told_required (hnames : DifferentNames required optional) {name : String}
    {value : Json} (h : (name, value) ∈ required) :
    (told required optional).find? name = some value :=
  find?_of_mem (nodup_names_told hnames) (mem_told_iff.mpr (.inl h))

/-- An optional field is found if it has a value. -/
theorem find?_told_optional (hnames : DifferentNames required optional) {name : String}
    {value : Option Json} (h : (name, value) ∈ optional) :
    (told required optional).find? name = value := by
  cases value with
  | some value => exact find?_of_mem (nodup_names_told hnames) (mem_told_iff.mpr (.inr h))
  | none =>
    obtain ⟨-, hoptional, hdisjoint⟩ := List.nodup_append.mp hnames
    refine find?_eq_none_of_not_mem fun hname => ?_
    obtain ⟨⟨other, value⟩, hmember, rfl⟩ := List.mem_map.mp hname
    rcases mem_told_iff.mp hmember with hrequired | hvalue
    · exact hdisjoint _ (List.mem_map_of_mem hrequired) _ (List.mem_map_of_mem h) rfl
    · cases List.inj_on_of_nodup_map hoptional hvalue h rfl

/-- The names that are told: the required ones, and those of optional fields with a value. -/
theorem keys_told (hnames : DifferentNames required optional) :
    (told required optional).Keys required.names
      (optional.map fun field => (field.1, field.2.isSome)) := by
  refine ⟨nodup_names_told hnames, fun name => ⟨fun hname => ?_, ?_⟩⟩
  · obtain ⟨member, hmember, rfl⟩ := List.mem_map.mp hname
    rcases mem_told_iff.mp hmember with hrequired | hoptional
    · exact .inl (List.mem_map_of_mem hrequired)
    · exact .inr (List.mem_map.mpr ⟨_, hoptional, rfl⟩)
  · rintro (hrequired | hoptional)
    · obtain ⟨member, hmember, rfl⟩ := List.mem_map.mp hrequired
      exact List.mem_map_of_mem (mem_told_iff.mpr (.inl hmember))
    · obtain ⟨⟨other, value⟩, hfield, heq⟩ := List.mem_map.mp hoptional
      obtain ⟨rfl, hvalue⟩ := Prod.mk.inj heq
      obtain ⟨value, rfl⟩ := Option.isSome_iff_exists.mp hvalue
      exact List.mem_map.mpr ⟨(other, value), mem_told_iff.mpr (.inr hfield), rfl⟩

end Members

namespace Record

/-! ## Fields that are read one by one -/

/-- The values of fields by their names, whether the fields were supplied or not. -/
def valued (slots : List (Slot × Datum)) : List (String × Datum) :=
  slots.map fun slot => (slot.1.name, slot.2)

/-- Among some members, a field is read as a value under its name. -/
def Reads (members : Members) (field : Label × Form) (value : String × Datum) : Prop :=
  ∃ supplied, decodeFields [field] members = .ok [(⟨value.1, supplied⟩, value.2)]

variable {members : Members} {name : String} {form : Form} {value : String × Datum}

theorem decodeFields_cons_eq_ok_iff {field : Label × Form} {rest : List (Label × Form)}
    {slots : List (Slot × Datum)} :
    decodeFields (field :: rest) members = .ok slots ↔
      ∃ slot tail, decodeFields [field] members = .ok [slot] ∧
        decodeFields rest members = .ok tail ∧ slots = slot :: tail := by
  obtain ⟨label, form⟩ := field
  simp only [decodeFields, Checked.map_eq_ok_iff, Checked.both_eq_ok_iff]
  constructor
  · rintro ⟨⟨slot, tail⟩, ⟨hslot, htail⟩, rfl⟩
    exact ⟨slot, tail, ⟨(slot, []), ⟨hslot, rfl⟩, rfl⟩, htail, rfl⟩
  · rintro ⟨slot, tail, ⟨⟨found, none⟩, ⟨hslot, -⟩, hfound⟩, htail, rfl⟩
    obtain ⟨rfl, -⟩ := List.cons_eq_cons.mp hfound
    exact ⟨(found, tail), ⟨hslot, htail⟩, rfl⟩

/-- The fields of a record are read one by one. -/
theorem exists_decodeFields_iff {fields : List (Label × Form)} {values : List (String × Datum)} :
    (∃ slots, decodeFields fields members = .ok slots ∧ valued slots = values) ↔
      List.Forall₂ (Reads members) fields values := by
  induction fields generalizing values with
  | nil =>
    rw [List.forall₂_nil_left_iff]
    constructor
    · rintro ⟨slots, hslots, rfl⟩
      cases hslots
      rfl
    · rintro rfl
      exact ⟨[], rfl, rfl⟩
  | cons field rest ih =>
    rw [List.forall₂_cons_left_iff]
    constructor
    · rintro ⟨slots, hslots, rfl⟩
      obtain ⟨slot, tail, hslot, htail, rfl⟩ := decodeFields_cons_eq_ok_iff.mp hslots
      exact ⟨_, _, ⟨slot.1.supplied, hslot⟩, ih.mp ⟨tail, htail, rfl⟩, rfl⟩
    · rintro ⟨value, others, ⟨supplied, hvalue⟩, hothers, rfl⟩
      obtain ⟨tail, htail, rfl⟩ := ih.mpr hothers
      exact ⟨_, decodeFields_cons_eq_ok_iff.mpr ⟨_, tail, hvalue, htail, rfl⟩, rfl⟩

/-- A required field is read from its member. -/
theorem reads_required_iff :
    Reads members (.required name, form) value ↔
      value.1 = name ∧ ∃ document, members.find? name = some document ∧
        form.decode document = .ok value.2 := by
  obtain ⟨other, datum⟩ := value
  simp only [Reads, decodeFields, Label.required, Label.source?, List.findSome?_cons,
    List.findSome?_nil, Checked.map_eq_ok_iff, Checked.both_eq_ok_iff]
  cases members.find? name with
  | none => simp [Checked.under, Checked.fail, Except.mapError]
  | some document =>
    simp [Checked.map_eq_ok_iff, Checked.under_eq_ok_iff, and_comm, eq_comm (a := name)]

/-- An optional field without a member is null. -/
theorem reads_optionalField_iff :
    Reads members (optionalField name form) value ↔
      value.1 = name ∧ ((members.find? name = none ∧ value.2 = .null) ∨
        ∃ document, members.find? name = some document ∧
          form.optional.decode document = .ok value.2) := by
  obtain ⟨other, datum⟩ := value
  simp only [Reads, decodeFields, optionalField, Label.withDefault, Label.source?,
    List.findSome?_cons, List.findSome?_nil, Checked.map_eq_ok_iff, Checked.both_eq_ok_iff]
  cases members.find? name with
  | none => simp [eq_comm (a := name), eq_comm (a := Datum.null)]
  | some document =>
    simp [Checked.map_eq_ok_iff, Checked.under_eq_ok_iff, and_comm, eq_comm (a := name)]

/-! ## Kinds of values -/

/-- What is told of a value: nothing, if it is null. -/
def told? : Datum → Option Json
  | .null => none
  | datum => some datum.withoutNulls.toJson

/-- A form gives the checked values of a kind, each for the document that tells it. -/
structure Gives (form : Form) (document : α → Json) (datum : α → Datum) : Prop where
  decode : ∀ a, form.decode (document a) = .ok (datum a)
  exists_of_decode : ∀ {told found}, form.decode told = .ok found → ∃ a, found = datum a
  told : ∀ a, told? (datum a) = some (document a)
  ne_null : ∀ a, document a ≠ .null

theorem gives_text : Gives .text Json.string Datum.text where
  decode _ := rfl
  exists_of_decode h := by
    obtain ⟨s, -, rfl⟩ := Checked.map_eq_ok_iff.mp h
    exact ⟨s, rfl⟩
  told _ := by simp [told?, Datum.withoutNulls, Datum.toJson]
  ne_null _ := nofun

theorem gives_integer : Gives .integer Json.integer Datum.integer where
  decode _ := rfl
  exists_of_decode h := by
    obtain ⟨n, -, rfl⟩ := Checked.map_eq_ok_iff.mp h
    exact ⟨n, rfl⟩
  told _ := by simp [told?, Datum.withoutNulls, Datum.toJson]
  ne_null _ := nofun

theorem decode_optional_of_ne_null {document : Json} (h : document ≠ .null) :
    form.optional.decode document = form.decode document := by
  cases document with
  | null => exact absurd rfl h
  | _ => rfl

namespace Gives

variable {document : α → Json} {datum : α → Datum} {required : Members}
  {optional : List (String × Option Json)}

/-- Among members that are told, a required field is read as its value. -/
theorem reads_required (h : Gives form document datum)
    (hnames : Members.DifferentNames required optional) {a : α}
    (hmember : (name, document a) ∈ required) :
    Reads (Members.told required optional) (.required name, form) (name, datum a) :=
  reads_required_iff.mpr ⟨rfl, document a, Members.find?_told_required hnames hmember, h.decode a⟩

/-- An optional field is read as its value, or else as null. -/
theorem reads_optionalField (h : Gives form document datum)
    (hnames : Members.DifferentNames required optional) {a? : Option α}
    (hfield : (name, a?.map document) ∈ optional) :
    Reads (Members.told required optional) (optionalField name form)
      (name, a?.elim .null datum) := by
  have hfind := Members.find?_told_optional hnames hfield
  rw [reads_optionalField_iff]
  refine ⟨rfl, ?_⟩
  cases a? with
  | none => exact .inl ⟨hfind, rfl⟩
  | some a =>
    refine .inr ⟨document a, hfind, ?_⟩
    rw [decode_optional_of_ne_null (h.ne_null a), h.decode]
    rfl

theorem told_elim (h : Gives form document datum) (a? : Option α) :
    told? (a?.elim .null datum) = a?.map document := by
  cases a? with
  | none => rfl
  | some a => exact h.told a

/-- What is read as optional is null, or a value of the kind. -/
theorem exists_of_decode_optional (h : Gives form document datum) {told : Json} {found : Datum}
    (hdecode : form.optional.decode told = .ok found) :
    ∃ a? : Option α, found = a?.elim .null datum := by
  by_cases hnull : told = .null
  · rw [hnull] at hdecode
    exact ⟨none, (Except.ok.inj hdecode).symm⟩
  · rw [decode_optional_of_ne_null hnull] at hdecode
    obtain ⟨a, hfound⟩ := h.exists_of_decode hdecode
    exact ⟨some a, hfound⟩

/-- The values that begin with a required field. -/
theorem exists_of_required (h : Gives form document datum) {fields : List (Label × Form)}
    {values : List (String × Datum)}
    (hreads : List.Forall₂ (Reads members) ((.required name, form) :: fields) values) :
    ∃ a rest, values = (name, datum a) :: rest ∧ List.Forall₂ (Reads members) fields rest := by
  obtain ⟨value, rest, hvalue, hrest, rfl⟩ := List.forall₂_cons_left_iff.mp hreads
  obtain ⟨hname, found, -, hdecode⟩ := reads_required_iff.mp hvalue
  obtain ⟨a, hdatum⟩ := h.exists_of_decode hdecode
  exact ⟨a, rest, congrArg (· :: rest) (Prod.ext hname hdatum), hrest⟩

/-- The values that begin with an optional field. -/
theorem exists_of_optionalField (h : Gives form document datum) {fields : List (Label × Form)}
    {values : List (String × Datum)}
    (hreads : List.Forall₂ (Reads members) (optionalField name form :: fields) values) :
    ∃ (a? : Option α) (rest : List (String × Datum)),
      values = (name, a?.elim .null datum) :: rest ∧ List.Forall₂ (Reads members) fields rest := by
  obtain ⟨value, rest, hvalue, hrest, rfl⟩ := List.forall₂_cons_left_iff.mp hreads
  obtain ⟨hname, ⟨-, hnull⟩ | ⟨found, -, hdecode⟩⟩ := reads_optionalField_iff.mp hvalue
  · exact ⟨none, rest, congrArg (· :: rest) (Prod.ext hname hnull), hrest⟩
  · obtain ⟨a?, hdatum⟩ := h.exists_of_decode_optional hdecode
    exact ⟨a?, rest, congrArg (· :: rest) (Prod.ext hname hdatum), hrest⟩

end Gives

/-! ## Records without nulls -/

theorem slotsToJson_slotsWithoutNulls_cons (slot : Slot) (datum : Datum)
    (rest : List (Slot × Datum)) :
    Datum.slotsToJson (Datum.slotsWithoutNulls ((slot, datum) :: rest)) =
      optionalMember slot.name (told? datum) ++
        Datum.slotsToJson (Datum.slotsWithoutNulls rest) := by
  cases datum <;> simp [Datum.slotsWithoutNulls, told?, optionalMember]

/-- The members that remain of fields without nulls. -/
theorem slotsToJson_slotsWithoutNulls (slots : List (Slot × Datum)) :
    Datum.slotsToJson (Datum.slotsWithoutNulls slots) =
      Members.told [] ((valued slots).map fun value => (value.1, told? value.2)) := by
  induction slots with
  | nil => rfl
  | cons slot rest ih =>
    obtain ⟨slot, datum⟩ := slot
    rw [slotsToJson_slotsWithoutNulls_cons, ih]
    rfl

/-- A record of a title has these values and nothing else. -/
def IsRecord (title : String) (values : List (String × Datum)) (datum : Datum) : Prop :=
  ∃ slots, datum = .record title slots [] ∧ valued slots = values

namespace IsRecord

variable {title : String} {values : List (String × Datum)} {datum : Datum}

/-- The fields of a record are found among its values. -/
theorem field (h : IsRecord title values datum) (name : String) :
    datum.field name = ((values.find? (·.1 == name)).map (·.2)).getD .null := by
  obtain ⟨slots, rfl, rfl⟩ := h
  unfold Datum.field valued
  rw [List.find?_map, Option.map_map]
  rfl

/-- A record without nulls has a member for each value that is not null. -/
theorem toJson_withoutNulls (h : IsRecord title values datum) :
    datum.withoutNulls.toJson =
      .object (Members.told [] (values.map fun value => (value.1, told? value.2))) := by
  obtain ⟨slots, rfl, rfl⟩ := h
  rw [← slotsToJson_slotsWithoutNulls]
  simp [Datum.withoutNulls, Datum.toJson]

end IsRecord

/-- A record is read field by field. -/
theorem exists_decode_record_iff {title : String} {fields : List (Label × Form)}
    {values : List (String × Datum)} :
    (∃ datum, (Form.record title fields false).decode (.object members) = .ok datum ∧
      IsRecord title values datum) ↔ List.Forall₂ (Reads members) fields values := by
  rw [← exists_decodeFields_iff]
  constructor
  · rintro ⟨datum, hdecode, slots, rfl, hvalues⟩
    obtain ⟨found, hfound, heq⟩ := Checked.map_eq_ok_iff.mp hdecode
    cases heq
    exact ⟨_, hfound, hvalues⟩
  · rintro ⟨slots, hslots, hvalues⟩
    exact ⟨_, Checked.map_eq_ok_iff.mpr ⟨slots, hslots, rfl⟩, slots, rfl, hvalues⟩

/-- What is read as a record is an object. -/
theorem exists_of_decode_record {title : String} {fields : List (Label × Form)} {told : Json}
    {datum : Datum} (h : (Form.record title fields false).decode told = .ok datum) :
    ∃ members values, told = .object members ∧ IsRecord title values datum ∧
      List.Forall₂ (Reads members) fields values := by
  cases told with
  | object members =>
    obtain ⟨slots, hslots, rfl⟩ := Checked.map_eq_ok_iff.mp h
    exact ⟨members, valued slots, rfl, ⟨slots, rfl, rfl⟩,
      exists_decodeFields_iff.mp ⟨slots, hslots, rfl⟩⟩
  | _ => cases h

/-! ## Checked values of a kind -/

/-- Under a form, the values of a kind are told by documents, and meant by checked values. -/
structure Represents (form : Form) (document : α → Json) (meant : α → Datum → Prop) : Prop where
  decode : ∀ a, ∃ datum, form.decode (document a) = .ok datum ∧ meant a datum
  exists_of_decode : ∀ {told datum}, form.decode told = .ok datum → ∃ a, meant a datum
  told : ∀ {a datum}, meant a datum → datum.withoutNulls.toJson = document a

/-- A document tells a value: it is read as this value, and it is what remains without nulls of each
checked value with this meaning. -/
structure Document.Tells (kind : Document α) (a : α) (document : Json) : Prop where
  read : kind.read document = .ok a
  remains : ∀ {original datum}, kind.form.decode original = .ok datum → kind.meaning datum = a →
    datum.withoutNulls.toJson = document

theorem Represents.tells (kind : Document α) {document : α → Json} {meant : α → Datum → Prop}
    (h : Represents kind.form document meant)
    (hmeaning : ∀ {a datum}, meant a datum → kind.meaning datum = a) (a : α) :
    kind.Tells a (document a) := by
  constructor
  · obtain ⟨datum, hdecode, hmeant⟩ := h.decode a
    exact Document.read_eq_ok_iff.mpr ⟨datum, hdecode, hmeaning hmeant⟩
  · intro original datum hdecode ha
    obtain ⟨other, hmeant⟩ := h.exists_of_decode hdecode
    obtain rfl : other = a := (hmeaning hmeant).symm.trans ha
    exact h.told hmeant

/-- A checked value means values of a kind, in this order. -/
def IsList (meant : α → Datum → Prop) (as : List α) (datum : Datum) : Prop :=
  ∃ items, datum = .list items ∧ List.Forall₂ meant as items

theorem toJson_withoutNulls_list (items : List Datum) :
    (Datum.list items).withoutNulls.toJson =
      .array (items.map fun item => item.withoutNulls.toJson) := by
  rw [Datum.withoutNulls, Datum.toJson, Datum.itemsToJson_eq_map]
  congr 1
  induction items with
  | nil => rfl
  | cons item rest ih => rw [Datum.itemsWithoutNulls, List.map_cons, List.map_cons, ih]

namespace Represents

variable {document : α → Json} {meant : α → Datum → Prop}

theorem exists_items (h : Represents form document meant) (as : List α) :
    ∃ items, (as.map document).map form.decode = items.map .ok ∧ List.Forall₂ meant as items := by
  induction as with
  | nil => exact ⟨[], rfl, .nil⟩
  | cons a rest ih =>
    obtain ⟨item, hitem, hmeant⟩ := h.decode a
    obtain ⟨items, hitems, hrest⟩ := ih
    refine ⟨item :: items, ?_, .cons hmeant hrest⟩
    simp only [List.map_cons, hitem, hitems]

theorem exists_of_items (h : Represents form document meant) {documents : List Json}
    {items : List Datum} (hitems : documents.map form.decode = items.map .ok) :
    ∃ as, List.Forall₂ meant as items := by
  induction items generalizing documents with
  | nil => exact ⟨[], .nil⟩
  | cons item rest ih =>
    obtain ⟨first, documents, rfl, hitem, hrest⟩ := List.map_eq_cons_iff.mp hitems
    obtain ⟨a, hmeant⟩ := h.exists_of_decode hitem
    obtain ⟨as, hothers⟩ := ih hrest
    exact ⟨a :: as, .cons hmeant hothers⟩

theorem told_items (h : Represents form document meant) {as : List α} {items : List Datum}
    (hmeant : List.Forall₂ meant as items) :
    items.map (fun item => item.withoutNulls.toJson) = as.map document := by
  have heach : List.Forall₂ Eq (as.map document)
      (items.map fun item => item.withoutNulls.toJson) := by
    rw [List.forall₂_map_left_iff, List.forall₂_map_right_iff]
    exact hmeant.imp fun _ _ hitem => (h.told hitem).symm
  rw [List.forall₂_eq_eq_eq] at heach
  exact heach.symm

/-- Lists are told by arrays. -/
theorem list (h : Represents form document meant) :
    Represents (.list form) (fun as => .array (as.map document)) (IsList meant) where
  decode as := by
    obtain ⟨items, hitems, hmeant⟩ := h.exists_items as
    exact ⟨.list items, Checked.map_eq_ok_iff.mpr ⟨items, Checked.each_eq_ok_iff.mpr hitems, rfl⟩,
      items, rfl, hmeant⟩
  exists_of_decode {told _} hdecode := by
    cases told with
    | array documents =>
      obtain ⟨items, heach, rfl⟩ := Checked.map_eq_ok_iff.mp hdecode
      obtain ⟨as, hmeant⟩ := h.exists_of_items (Checked.each_eq_ok_iff.mp heach)
      exact ⟨as, items, rfl, hmeant⟩
    | _ => cases hdecode
  told := by
    rintro as datum ⟨items, rfl, hmeant⟩
    rw [toJson_withoutNulls_list, h.told_items hmeant]

end Represents

end Record

end PlatformClient
