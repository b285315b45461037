import PlatformClient.Decimal.Binary64
import PlatformClient.Record.Datum
import PlatformClient.Record.Issue
import PlatformClient.Text.DocumentInteger

/-!
# Forms of documents

A form says which documents are accepted, and what they mean. Texts must be texts; whole numbers may
also be written as truth values, as floating point numbers without fraction or as texts; records
must have the fields that have no default.

## Main definitions

* `Record.Label`: the names of a field and its default
* `Record.Form`: the forms of values
* `Record.decodeInteger`: the whole number a value means
* `Record.Form.decode`: the checked value a document means under a form
-/

namespace PlatformClient.Record

/-- The names of a field: its own, and those of the members it is read from, of which the first
that is present counts. A field with a default need not be present. -/
structure Label where
  name : String
  sources : List String
  default? : Option Datum

/-- A field that must be present. -/
def Label.required (name : String) : Label := ⟨name, [name], none⟩

/-- A field that may be absent. -/
def Label.withDefault (name : String) (value : Datum) : Label := ⟨name, [name], some value⟩

/-- The form of a value. -/
inductive Form where
  | text
  | secret
  | integer
  /-- A value of the form, or null. -/
  | optional (form : Form)
  | list (item : Form)
  /-- A record; members beyond its fields are dropped, or kept as they were read. -/
  | record (title : String) (fields : List (Label × Form)) (keepsOthers : Bool)

/-- Floating point numbers stand for whole numbers only strictly between these bounds. -/
def floatBound : Int := Nat.pow 2 63

/-- The whole number a floating point number means. -/
def decodeFloat (x : Float) : Checked Int :=
  match Binary64.truncate? x with
  | none => .fail .notFinite
  | some n =>
    if (Binary64.toInt? x).isNone then .fail .fractional
    else if -floatBound < n ∧ n < floatBound then .ok n
    else .fail .outOfRange

/-- The whole number a value means. -/
def decodeInteger : Json → Checked Int
  | .integer n => .ok n
  | .bool b => .ok (if b then 1 else 0)
  | .float x => decodeFloat x
  | .string s =>
    match Text.documentInteger s.toList with
    | .ok n => .ok n
    | .error .malformed => .fail .unparsable
    | .error .tooLong => .fail .outOfRange
  | _ => .fail .notInteger

/-- The text a value means. -/
def decodeText : Json → Checked String
  | .string s => .ok s
  | _ => .fail .notText

/-- The member that a field is read from: the first present of its sources. -/
def Label.source? (label : Label) (members : Members) : Option (String × Json) :=
  label.sources.findSome? fun name => (members.find? name).map (name, ·)

/-- The members that no field is read from. -/
def otherMembers (fields : List (Label × Form)) (members : Members) : Members :=
  members.filter fun member => !fields.any (·.1.sources.contains member.1)

mutual

/-- The checked value a document means under a form. -/
def Form.decode : Form → Json → Checked Datum
  | .text, value => (decodeText value).map .text
  | .secret, value => (decodeText value).map .secret
  | .integer, value => (decodeInteger value).map .integer
  | .optional form, value =>
    match value with
    | .null => .ok .null
    | value => form.decode value
  | .list item, value =>
    match value with
    | .array items => (Checked.each item.decode 0 items).map .list
    | _ => .fail .notList
  | .record title fields keepsOthers, value =>
    match value with
    | .object members =>
      (decodeFields fields members).map fun slots =>
        .record title slots (if keepsOthers then otherMembers fields members else [])
    | _ => .fail (.notRecord title)

/-- The fields of a record, in order. -/
def decodeFields : List (Label × Form) → Members → Checked (List (Slot × Datum))
  | [], _ => .ok []
  | (label, form) :: rest, members =>
    let value : Checked (Slot × Datum) :=
      match label.source? members with
      | some (name, value) =>
        (Checked.under (.member name) (form.decode value)).map (⟨label.name, true⟩, ·)
      | none =>
        match label.default? with
        | some value => .ok (⟨label.name, false⟩, value)
        | none => Checked.under (.member (label.sources.headD label.name)) (.fail .missing)
    (value.both (decodeFields rest members)).map fun (slot, slots) => slot :: slots

end

/-- The title of a form: that of its record. -/
def Form.title : Form → String
  | .record title _ _ => title
  | _ => ""

end PlatformClient.Record
