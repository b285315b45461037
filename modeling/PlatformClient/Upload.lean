import PlatformClient.MediaType
import PlatformClient.Record.Document

/-!
# Upload receipts

An upload is answered with the kind of the media, its identifier and the time of creation. Answers
to thumbnails name the identifier in a way of their own.

## Main definitions

* `Upload`: a receipt
* `Upload.document`, `Upload.thumbDocument`: the kinds of documents that carry one
* `Upload.documentFor`: the kind of document that answers an upload of some kind of media
* `Upload.restated`, `Upload.checked`: a receipt for a thumbnail is checked once more as a receipt
* `Upload.toDatum`: a receipt as a checked value
-/

namespace PlatformClient

open Record

/-- The receipt of an upload. -/
structure Upload where
  mediaType : String
  mediaId : String
  createdAt : Int
deriving DecidableEq

namespace Upload

/-- The form of receipts. The kind of the media may also be named as in a checked value. -/
def form : Form :=
  .record "UploadResponse"
    [
      (⟨"media_type", ["type", "media_type"], none⟩, .text),
      (.required "media_id", .text),
      (.required "created_at", .integer)
    ]
    false

/-- The form of receipts for thumbnails. -/
def thumbForm : Form :=
  .record "ThumbUploadResponse"
    [
      (⟨"media_type", ["type"], none⟩, .text),
      (.required "thumb_media_id", .text),
      (.required "created_at", .integer)
    ]
    false

/-- The receipt whose identifier stands in a field of the given name. -/
def ofDatum (identifier : String) (datum : Datum) : Upload where
  mediaType := (datum.field "media_type").asText
  mediaId := (datum.field identifier).asText
  createdAt := (datum.field "created_at").asInteger

/-- The documents that carry a receipt. -/
def document : Document Upload := ⟨form, ofDatum "media_id"⟩

/-- The documents that carry a receipt for a thumbnail. -/
def thumbDocument : Document Upload := ⟨thumbForm, ofDatum "thumb_media_id"⟩

/-- The documents that answer uploads of a kind of media. -/
def documentFor : MediaType → Document Upload
  | .thumb => thumbDocument
  | .image | .voice | .video => document

/-- What a checked receipt for a thumbnail says, under the names of a receipt. -/
def restated (thumb : Datum) : Json :=
  .object
    [
      ("media_type", (thumb.field "media_type").toJson),
      ("media_id", (thumb.field "thumb_media_id").toJson),
      ("created_at", (thumb.field "created_at").toJson)
    ]

/-- The checked value of a receipt that answers an upload of a kind of media. What a receipt for a
thumbnail says is checked once more, as a receipt. -/
def checked (kind : MediaType) (value : Json) : Except Refusal Datum :=
  match kind with
  | .thumb => do
    let thumb ← (Document.ofForm thumbForm).read value
    (Document.ofForm form).read (restated thumb)
  | .image | .voice | .video => (Document.ofForm form).read value

/-- A receipt as a checked value. -/
def toDatum (upload : Upload) : Datum :=
  .record form.title
    [
      (⟨"media_type", true⟩, .text upload.mediaType),
      (⟨"media_id", true⟩, .text upload.mediaId),
      (⟨"created_at", true⟩, .integer upload.createdAt)
    ]
    []

end Upload

end PlatformClient
