import PlatformClient.Multipart
import PlatformClient.Operation.Token
import PlatformClient.RichMedia
import PlatformClient.Upload

/-!
# Media

Files are uploaded as temporary media and downloaded again; news and video messages are built from
them. Arguments are checked before anything else happens.

## Main definitions

* `Operation.Source`, `Operation.Writer`: where octets come from, and where they go
* `Operation.upload`, `Operation.uploadFromFile`: a file becomes temporary media
* `Operation.download`, `Operation.downloadToFile`: temporary media are fetched
* `Operation.uploadNews`, `Operation.uploadVideo`: messages are built
-/

namespace PlatformClient.Operation

variable {τ : Type}

/-- Octets to be read, and the fault that is met behind them, if any. -/
structure Source where
  data : Octets
  fault : Option Fault

/-- Where the pieces of a download go: to the caller, who may refuse the piece of an index, or to
the end of a file. -/
inductive Writer where
  | caller (refusal : Option (Nat × Fault))
  | file (trail : FileTrail)

/-- A source that is read without a fault. -/
def Source.ofOctets (data : Octets) : Source := ⟨data, none⟩

/-- A refused argument. -/
def refuse {α : Type} (code : ErrorCode) (text : String) : Operation τ α :=
  raise (.validation code text)

/-- An argument that must be there. -/
def require {α : Type} (code : ErrorCode) (text : String) : Option α → Operation τ α
  | some a => pure a
  | none => refuse code text

/-- A text that must not be empty. -/
def requireText (code : ErrorCode) (text : String) (argument : String) : Operation τ Unit :=
  if argument.isEmpty then refuse code text else pure ()

/-! ## Uploads -/

/-- The multipart body of a file is written to a buffer, which is then at its begin. -/
def writeMultipart (number : Nat) (boundary filename : String) (source : Source) :
    Operation τ Unit := do
  if let some fault := Multipart.boundaryFault? boundary.toList then fail (.boundary fault)
  useBuffer number (Buffer.write (Multipart.opening boundary.toList filename.toList))
  useBuffer number (Buffer.write source.data)
  match source.fault with
  | some fault => raise fault
  | none =>
    useBuffer number (Buffer.write (Multipart.closing boundary.toList))
    useBuffer number (Buffer.seek 0)

variable [Instant τ]

/-- A file becomes temporary media of the kind that a value names. -/
def upload (kind : Json) (filename : String) (source : Option Source) : Operation τ Upload := do
  let kind ← require .invalidMediaType ("Invalid media type '" ++ kind.display ++ "'")
    (MediaType.lookup? kind)
  requireText .missingFilename "Filename must be provided" filename
  let source ← require .missingReader "Media reader must be provided" source
  let _ ← say .trace ("Uploading " ++ kind.name ++ " media '" ++ filename ++ "'")
  let token ← requireToken
  let document ← borrowing fun number => do
    let boundary := (← surroundings).boundary
    writeMultipart number boundary filename source
    let url ← addressOf (.mediaUpload token kind.name)
    postMultipart url (← bufferRest number) (Multipart.contentType boundary)
  let _ ← requireSuccess document
  let receipt ← readAs (Upload.documentFor kind) document
  let _ ← say .trace ("Uploaded media #" ++ receipt.mediaId)
  return receipt

/-- The file of a path becomes temporary media under its last name. -/
def uploadFromFile (kind : Json) (path : String) : Operation τ Upload := do
  let files ← observe (·.files)
  let data ← ofExcept .file (files.read path)
  upload kind (FileStore.baseName path) (some (.ofOctets data))

/-! ## Downloads -/

omit [Instant τ] in
/-- Pieces are given to the caller, who may refuse the piece of an index. All pieces before that one
have been taken then. -/
def givePieces (refusal : Option (Nat × Fault)) (pieces : List Octets) : Operation τ Unit := do
  let taken ← observe (·.written.length)
  let give (pieces : List Octets) : Operation τ Unit :=
    change fun world => { world with written := world.written ++ pieces }
  match refusal with
  | none => give pieces
  | some (index, fault) =>
    if taken ≤ index ∧ index < taken + pieces.length then
      give (pieces.take (index - taken))
      raise fault
    else give pieces

omit [Instant τ] in
/-- Pieces are given to a writer, one behind the other. -/
def writePieces (writer : Writer) (pieces : List Octets) : Operation τ Unit :=
  match writer with
  | .file trail =>
    change fun world => { world with files := world.files.append trail pieces.flatten }
  | .caller refusal => givePieces refusal pieces

/-- The content types under which the platform reports an error instead of media. -/
def errorTypes : List String := ["text/plain", "application/json"]

omit [Instant τ] in
/-- The octets of a response are given to a writer, unless the response reports an error. The result
is the count of octets. -/
def receive (arrival : Arrival) (writer : Writer) : Operation τ Nat := do
  if errorTypes.contains (ContentType.essence arrival.response.contentType?) then
    let envelope ← readAs Envelope.document (← readStream arrival)
    let code ← numeral envelope.code
    let _ ← say .warn ("Media download failed with " ++ code ++ ": " ++ envelope.text)
    raise (.api envelope.code envelope.text)
  let current ← surroundings
  if !isOffset current.settings.chunkSize then fail .pieceSize
  let (pieces, fault) := current.delivery current.settings.chunkSize arrival.response.body
  writePieces writer pieces
  match fault with
  | some fault => raise fault
  | none => return pieces.flatten.length

/-- Temporary media are fetched. -/
def download (mediaId : String) (writer : Option Writer) : Operation τ Unit := do
  requireText .missingMediaId "Media ID must be provided" mediaId
  let writer ← require .missingWriter "Media writer must be provided" writer
  let _ ← say .trace ("Downloading media #" ++ mediaId)
  let token ← requireToken
  let arrival ← getStream (← addressOf (.mediaDownload token mediaId))
  let size ← ensuring (closeResponse arrival) (receive arrival writer)
  let _ ← say .trace ("Media downloaded successfully (" ++ size.repr ++ " bytes)")

/-- Temporary media are fetched to the file of a path, which is emptied before anything else. -/
def downloadToFile (mediaId path : String) : Operation τ Unit := do
  let files ← observe (·.files)
  let (trail, opened) ← ofExcept .file (files.create path)
  change fun world => { world with files := opened }
  download mediaId (some (.file trail))

/-! ## Messages -/

/-- A news message is built. -/
def uploadNews (news : Option News) : Operation τ Upload := do
  let news ← require .missingNews "News must be provided" news
  let _ ← say .trace ("Uploading news with " ++ news.articles.length.repr ++ " articles")
  let token ← requireToken
  let document ← postJson (← addressOf (.newsUpload token)) news.payload
  decode Upload.document document

/-- A video message is built. -/
def uploadVideo (video : Option Video) : Operation τ Upload := do
  let video ← require .missingVideo "Video must be provided" video
  let _ ← say .trace ("Uploading video message for media #" ++ video.mediaId)
  let token ← requireToken
  let document ← postJson (← addressOf (.videoUpload token)) video.payload
  decode Upload.document document

end PlatformClient.Operation
