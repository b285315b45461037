import PlatformClient.Proofs.Record.Parts
import PlatformClient.Upload

/-!
# Receipts and receipts for thumbnails

A receipt for a thumbnail differs from other receipts in the name of one member. It is read by a
form of its own, and what it says is then checked once more, as a receipt. Both forms check the same
three parts in the same order, so that they accept the same receipts under the two names and find
the same faults in the others; and what has been checked once passes the second check.

The form of receipts also takes the kind of the media from a member named as the field. An object
that has this member only is accepted as a receipt, but not as a receipt for a thumbnail.

## Main definitions

* `Members.renamed`: an object in which a member has another name
* `Upload.parts`: the three parts of a receipt
* `Upload.asReceipt`, `Upload.receiptPath`: objects and paths under the names of a receipt
* `ReceiptsAgree`: an object is read as a receipt for a thumbnail as it is read as a receipt under
  the other name

## Main results

* `Upload.decode_thumbForm`, `Upload.decode_form`: both forms read the parts
* `Upload.parts_asReceipt`: the parts under the other name
* `Upload.decode_restated`: what has been checked once passes the second check
* `Upload.read_documentFor`: what a receipt means, by its checked value
* `receipts_agree`: receipts and receipts for thumbnails
-/

namespace PlatformClient

open Record

/-! ## Members under another name -/

namespace Members

/-- The members, of which the one of the first name, if there is one, takes the place of the one of
the second. -/
def renamed (old new : String) (members : Members) : Members :=
  (members.filter (·.1 != new)).map fun member =>
    if member.1 = old then (new, member.2) else member

variable {old new name : String}

theorem renamed_cons (member : String × Json) (members : Members) :
    renamed old new (member :: members) =
      if member.1 = new then renamed old new members
      else (if member.1 = old then (new, member.2) else member) :: renamed old new members := by
  by_cases h : member.1 = new <;> simp [renamed, h]

theorem find?_renamed_new (hne : old ≠ new) (members : Members) :
    (members.renamed old new).find? new = members.find? old := by
  induction members with
  | nil => rfl
  | cons member rest ih =>
    obtain ⟨key, value⟩ := member
    rw [renamed_cons, find?_cons]
    by_cases hnew : key = new
    · rw [if_pos hnew, ih, if_neg fun hold => hne (hold.symm.trans hnew)]
    · rw [if_neg hnew]
      by_cases hold : key = old
      · rw [if_pos hold, if_pos hold, find?_cons, if_pos rfl]
      · rw [if_neg hold, if_neg hold, find?_cons, if_neg hnew, ih]

theorem find?_renamed_of_ne (hold : name ≠ old) (hnew : name ≠ new) (members : Members) :
    (members.renamed old new).find? name = members.find? name := by
  induction members with
  | nil => rfl
  | cons member rest ih =>
    obtain ⟨key, value⟩ := member
    rw [renamed_cons, find?_cons]
    by_cases hfirst : key = new
    · rw [if_pos hfirst, ih, if_neg fun h => hnew (h.symm.trans hfirst)]
    · rw [if_neg hfirst]
      by_cases hsecond : key = old
      · rw [if_pos hsecond, find?_cons, if_neg (Ne.symm hnew), ih,
          if_neg fun h => hold (h.symm.trans hsecond)]
      · rw [if_neg hsecond, find?_cons, ih]

end Members

namespace Upload

/-! ## The parts of a receipt -/

/-- The three parts of a receipt: the kind of the media, the identifier, of which the member has the
given name, and the time of creation. -/
def parts (identifier : String) (members : Members) : Checked (String × String × Int) :=
  (members.part decodeText "type").both
    ((members.part decodeText identifier).both (members.part decodeInteger "created_at"))

/-- The checked value with these parts. -/
def ofParts (title identifier : String) (parts : String × String × Int) : Datum :=
  .record title
    [
      (⟨"media_type", true⟩, .text parts.1),
      (⟨identifier, true⟩, .text parts.2.1),
      (⟨"created_at", true⟩, .integer parts.2.2)
    ]
    []

variable {members : Members}

/-- A record of these three fields is read from the parts of a receipt. -/
theorem decode_record {title identifier : String} {sources : List String}
    (hlabel : StandsFor members ⟨"media_type", sources, none⟩ "type") :
    (Form.record title
        [
          (⟨"media_type", sources, none⟩, .text),
          (.required identifier, .text),
          (.required "created_at", .integer)
        ]
        false).decode (.object members) =
      (parts identifier members).map (ofParts title identifier) := by
  have hsingle (name : String) : StandsFor members (.required name) name :=
    standsFor_single name name
  change Except.map _ (decodeFields _ members) = _
  rw [decodeFields_cons hlabel, decodeFields_cons (hsingle _), decodeFields_cons (hsingle _),
    Members.part_text, Members.part_text, Members.part_integer, parts]
  cases members.part decodeText "type" <;> cases members.part decodeText identifier <;>
    cases members.part decodeInteger "created_at" <;> rfl

theorem decode_thumbForm (members : Members) :
    thumbForm.decode (.object members) =
      (parts "thumb_media_id" members).map (ofParts "ThumbUploadResponse" "thumb_media_id") :=
  decode_record (standsFor_single _ _)

theorem decode_form (h : "type" ∈ members.names ∨ "media_type" ∉ members.names) :
    form.decode (.object members) =
      (parts "media_id" members).map (ofParts "UploadResponse" "media_id") :=
  decode_record (standsFor_first h _)

/-- What has been checked once passes the second check. -/
theorem decode_restated (parts : String × String × Int) :
    form.decode (restated (ofParts "ThumbUploadResponse" "thumb_media_id" parts)) =
      .ok (ofParts "UploadResponse" "media_id" parts) := rfl

/-! ## The parts under another name -/

/-- A path through the member of a receipt for a thumbnail that has another name there, as a path in
a receipt. -/
def receiptPath (path : Path) : Path :=
  path.map fun step => if step = .member "thumb_media_id" then .member "media_id" else step

/-- An object under the names of a receipt. -/
def asReceipt (members : Members) : Members := members.renamed "thumb_media_id" "media_id"

/-- The parts are the same, and have the same faults, under another name. -/
theorem parts_asReceipt (members : Members) :
    parts "media_id" (asReceipt members) =
      Checked.moved receiptPath (parts "thumb_media_id" members) := by
  have hidentifier : (asReceipt members).find? "media_id" = members.find? "thumb_media_id" :=
    Members.find?_renamed_new (by decide) members
  have hkind : (asReceipt members).find? "type" = members.find? "type" :=
    Members.find?_renamed_of_ne (by decide) (by decide) members
  have hcreated : (asReceipt members).find? "created_at" = members.find? "created_at" :=
    Members.find?_renamed_of_ne (by decide) (by decide) members
  unfold parts
  rw [Checked.moved_both, Checked.moved_both,
    Members.moved_part isFlat_decodeText (by decide) hkind,
    Members.moved_part isFlat_decodeText (by decide) hidentifier,
    Members.moved_part isFlat_decodeInteger (by decide) hcreated]

/-- The parts that decide for an object as a receipt decide for it under the other name as well. -/
theorem names_asReceipt (h : "type" ∈ members.names ∨ "media_type" ∉ members.names) :
    "type" ∈ (asReceipt members).names ∨ "media_type" ∉ (asReceipt members).names := by
  rwa [← Members.find?_isSome_iff, ← Members.find?_isSome_iff, asReceipt,
    Members.find?_renamed_of_ne (by decide) (by decide),
    Members.find?_renamed_of_ne (by decide) (by decide), Members.find?_isSome_iff,
    Members.find?_isSome_iff]

/-! ## Checked receipts -/

theorem checked_of_ne_thumb {kind : MediaType} (h : kind ≠ .thumb) (value : Json) :
    checked kind value = (Document.ofForm form).read value := by
  cases kind with
  | thumb => exact absurd rfl h
  | _ => rfl

/-- A receipt for a thumbnail is accepted with its parts. -/
theorem checked_thumb_object (members : Members) :
    checked .thumb (.object members) =
      match parts "thumb_media_id" members with
      | .ok parts => .ok (ofParts form.title "media_id" parts)
      | .error issues => .error ⟨thumbForm.title, issues⟩ := by
  simp only [checked, Document.read, Document.ofForm, decode_thumbForm]
  cases parts "thumb_media_id" members with
  | ok parts =>
    have hsecond := decode_restated parts
    simp only [Except.map, Except.bind, bind, id]
    rw [hsecond]
    rfl
  | error issues => rfl

/-- So is, under the other name, a receipt. -/
theorem checked_object {kind : MediaType} (hkind : kind ≠ .thumb)
    (h : "type" ∈ members.names ∨ "media_type" ∉ members.names) :
    checked kind (.object (asReceipt members)) =
      match parts "thumb_media_id" members with
      | .ok parts => .ok (ofParts form.title "media_id" parts)
      | .error issues => .error ⟨form.title, issues.map (Issue.moved receiptPath)⟩ := by
  rw [checked_of_ne_thumb hkind, Document.read, Document.ofForm, decode_form (names_asReceipt h),
    parts_asReceipt]
  cases parts "thumb_media_id" members <;> rfl

/-- What a receipt means is told by its checked value. -/
theorem read_documentFor (kind : MediaType) (value : Json) :
    (documentFor kind).read value = (checked kind value).map (ofDatum "media_id") := by
  by_cases hkind : kind = .thumb
  · subst hkind
    cases value with
    | object members =>
      rw [checked_thumb_object]
      simp only [documentFor, thumbDocument, Document.read, decode_thumbForm]
      cases parts "thumb_media_id" members <;> rfl
    | _ => rfl
  · have hdocument : documentFor kind = document := by
      cases kind with
      | thumb => exact absurd rfl hkind
      | _ => rfl
    rw [hdocument, checked_of_ne_thumb hkind]
    simp only [document, Document.read, Document.ofForm]
    cases form.decode value <;> rfl

theorem ofParts_title (parts : String × String × Int) :
    ofParts form.title "media_id" parts = toDatum ⟨parts.1, parts.2.1, parts.2.2⟩ := rfl

/-- A receipt for a thumbnail is an object with its parts. -/
theorem exists_parts_of_decode {value : Json} {thumb : Datum}
    (h : thumbForm.decode value = .ok thumb) :
    ∃ parts, thumb = ofParts "ThumbUploadResponse" "thumb_media_id" parts := by
  cases value with
  | object members =>
    rw [decode_thumbForm] at h
    obtain ⟨parts, -, rfl⟩ := Checked.map_eq_ok_iff.mp h
    exact ⟨parts, rfl⟩
  | _ => cases h

end Upload

/-- An object is read as a receipt for a thumbnail as it is read as a receipt of another kind under
the other name. -/
structure ReceiptsAgree (members : Members) : Prop where
  /-- It is accepted as the one if it is as the other, with the same checked value. -/
  accepted : ∀ kind ≠ MediaType.thumb, ∀ datum,
    Upload.checked .thumb (.object members) = .ok datum ↔
      Upload.checked kind (.object (Upload.asReceipt members)) = .ok datum
  /-- This is a receipt of which all fields were supplied. -/
  supplied : ∀ datum, Upload.checked .thumb (.object members) = .ok datum →
    ∃ upload : Upload, datum = upload.toDatum
  /-- Otherwise it is refused with the same faults, in the same order. -/
  refused : ∀ kind ≠ MediaType.thumb, ∀ refusal,
    Upload.checked .thumb (.object members) = .error refusal →
      Upload.checked kind (.object (Upload.asReceipt members)) =
        .error ⟨Upload.form.title, refusal.issues.map (Issue.moved Upload.receiptPath)⟩
  /-- Whatever is accepted by the form of receipts for thumbnails passes the second check. -/
  restated : ∀ value thumb, Upload.thumbForm.decode value = .ok thumb →
    ∃ upload : Upload, Upload.form.decode (Upload.restated thumb) = .ok upload.toDatum
  /-- Uploads deliver what the checked values mean. -/
  read : ∀ kind value, (Upload.documentFor kind).read value =
    (Upload.checked kind value).map (Upload.ofDatum "media_id")

/-- **Receipts and receipts for thumbnails.** An object that names the kind of the media by the
member for it, or not at all, is read as a receipt for a thumbnail as it is read as a receipt under
the other name. -/
theorem receipts_agree {members : Members}
    (h : "type" ∈ members.names ∨ "media_type" ∉ members.names) : ReceiptsAgree members where
  accepted kind hkind datum := by
    rw [Upload.checked_thumb_object, Upload.checked_object hkind h]
    cases Upload.parts "thumb_media_id" members with
    | ok parts => exact Iff.rfl
    | error issues => exact ⟨nofun, nofun⟩
  supplied datum hdatum := by
    rw [Upload.checked_thumb_object] at hdatum
    cases hparts : Upload.parts "thumb_media_id" members with
    | ok parts =>
      rw [hparts] at hdatum
      cases hdatum
      exact ⟨_, Upload.ofParts_title parts⟩
    | error issues =>
      rw [hparts] at hdatum
      cases hdatum
  refused kind hkind refusal hrefusal := by
    rw [Upload.checked_thumb_object] at hrefusal
    rw [Upload.checked_object hkind h]
    cases hparts : Upload.parts "thumb_media_id" members with
    | ok parts =>
      rw [hparts] at hrefusal
      cases hrefusal
    | error issues =>
      rw [hparts] at hrefusal
      cases hrefusal
      rfl
  restated value thumb hthumb := by
    obtain ⟨parts, rfl⟩ := Upload.exists_parts_of_decode hthumb
    exact ⟨⟨parts.1, parts.2.1, parts.2.2⟩, Upload.decode_restated parts⟩
  read kind value := Upload.read_documentFor kind value

/-- Of two objects with a truth value for the time, the one is accepted, and the other is refused
since its identifier is a number and its kind is missing. -/
theorem receipts_agree_of_truth_value :
    let accepted : Members :=
      [("thumb_media_id", .string "m"), ("media_id", .null), ("type", .string "thumb"),
        ("created_at", .bool true)]
    let refused : Members := [("thumb_media_id", .integer 5), ("created_at", .bool true)]
    ("type" ∈ accepted.names ∨ "media_type" ∉ accepted.names) ∧
      ("type" ∈ refused.names ∨ "media_type" ∉ refused.names) ∧
      Upload.checked .image (.object (Upload.asReceipt accepted)) =
        .ok (Upload.toDatum ⟨"thumb", "m", 1⟩) ∧
      Upload.checked .voice (.object (Upload.asReceipt refused)) =
        .error ⟨"UploadResponse",
          [⟨[.member "type"], .missing⟩, ⟨[.member "media_id"], .notText⟩]⟩ := by
  intro accepted refused
  have haccepted : "type" ∈ accepted.names ∨ "media_type" ∉ accepted.names := by decide
  have hrefused : "type" ∈ refused.names ∨ "media_type" ∉ refused.names := by decide
  refine ⟨haccepted, hrefused, ?_, ?_⟩
  · exact ((receipts_agree haccepted).accepted .image nofun _).mp rfl
  · exact (receipts_agree hrefused).refused .voice nofun _ rfl

end PlatformClient
