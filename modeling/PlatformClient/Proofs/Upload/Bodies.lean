import PlatformClient.Proofs.Pool.Settled
import PlatformClient.Proofs.Session.Discipline

/-!
# The bodies of uploads

All uploads of a client write their bodies to the buffers of one pool. A body that is sent is always
that of its own upload: nothing of an earlier one is left in the buffer, and nothing is missing. And
whatever becomes of an upload, the pool is settled afterwards.

## Main definitions

* `Multipart.FileBody.octets`: the body that carries a file, written out
* `Buffer.atEnd`: a buffer that is written to its end
* `Operation.Writable`, `Operation.writeFailure?`: a body that can be written completely, and what
  keeps one from it
* `Step.bodies`: the bodies that are sent in a step
* `CleanUpload`: what an upload sends, and how it leaves the pool

## Main results

* `Multipart.body_eq_octets`: the body that is built is the one that is written out
* `writeMultipart_of_writable`, `writeMultipart_of_failure`: what is written to an empty buffer
* `fileSent_sendFile`: and what is sent from it
* `uploaded_upload`: an accepted upload from a settled pool
* `cleanUploads`: every upload in a run of uploads is clean
-/

namespace PlatformClient

variable {τ α : Type}

/-! ## The body of a file -/

namespace Multipart

/-- What the body of an upload is made of. -/
structure FileBody where
  boundary : String
  filename : String
  data : Octets

namespace FileBody

/-- The name as its header line shows it: a line feed, a carriage return and a double quote are
written by their numbers. -/
def shownName (file : FileBody) : List Char :=
  file.filename.toList.flatMap fun
    | '\n' => ['%', '0', 'A']
    | '\r' => ['%', '0', 'D']
    | '"' => ['%', '2', '2']
    | c => [c]

/-- The type that the name tells, or that of unknown files. -/
def shownType (file : FileBody) : List Char :=
  (ContentType.ofName? file.filename.toList).getD "application/octet-stream".toList

/-- Two dashes and the boundary, one octet for each of its characters. -/
def delimiter (file : FileBody) : Octets :=
  [0x2D, 0x2D] ++ file.boundary.toList.map fun c => UInt8.ofNat c.toNat

/-- The octets of a text and of a line break. -/
def line (text : List Char) : Octets := Utf8.encode text ++ [0x0D, 0x0A]

/-- The whole body: the delimiter, two header lines, an empty line, the data, and the delimiter once
more, with two dashes behind it. -/
def octets (file : FileBody) : Octets :=
  file.delimiter ++ [0x0D, 0x0A] ++
    line ("Content-Disposition: form-data; name=\"file\"; filename=\"".toList ++
      file.shownName ++ ['"']) ++
    line ("Content-Type: ".toList ++ file.shownType) ++
    [0x0D, 0x0A] ++ file.data ++
    [0x0D, 0x0A] ++ file.delimiter ++ [0x2D, 0x2D, 0x0D, 0x0A]

theorem escapeName_eq_shownName (file : FileBody) :
    escapeName file.filename.toList = file.shownName := by
  have hchar : ∀ c, escapeNameChar c = match c with
      | '\n' => ['%', '0', 'A']
      | '\r' => ['%', '0', 'D']
      | '"' => ['%', '2', '2']
      | c => [c] := by
    intro c
    unfold escapeNameChar
    split
    · simp_all
    · split
      · simp_all
      · split <;> simp_all
  exact congrArg (List.flatMap · file.filename.toList) (funext hchar)

theorem dispositionLine_eq (file : FileBody) :
    dispositionLine file.filename.toList =
      "Content-Disposition: form-data; name=\"file\"; filename=\"".toList ++ file.shownName ++
        ['"'] := by
  have hfront : "Content-Disposition: form-data; name=\"".toList ++ fieldName.toList ++
      "\"; filename=\"".toList =
        "Content-Disposition: form-data; name=\"file\"; filename=\"".toList := by
    decide
  unfold dispositionLine
  rw [hfront, escapeName_eq_shownName]

theorem typeLine_eq (file : FileBody) :
    typeLine file.filename.toList = "Content-Type: ".toList ++ file.shownType := rfl

theorem encode_headerLines (file : FileBody) :
    Utf8.encode (headerLines file.filename.toList) =
      line ("Content-Disposition: form-data; name=\"file\"; filename=\"".toList ++
        file.shownName ++ ['"']) ++
      line ("Content-Type: ".toList ++ file.shownType) ++ [0x0D, 0x0A] := by
  have hbreak : Utf8.encode lineBreak = [0x0D, 0x0A] := by decide
  rw [headerLines, dispositionLine_eq, typeLine_eq, Utf8.encode_append, Utf8.encode_append,
    Utf8.encode_append, Utf8.encode_append, hbreak]
  simp only [line, List.append_assoc]

/-- The delimiter that is written to the buffer, with what stands behind it. -/
theorem singleOctets_delimiter (file : FileBody) (behind : List Char) :
    singleOctets ('-' :: '-' :: file.boundary.toList ++ behind) =
      file.delimiter ++ singleOctets behind := List.map_append

end FileBody

/-- The body that is built is the one that is written out. -/
theorem body_eq_octets (file : FileBody) :
    body file.boundary.toList file.filename.toList file.data = file.octets := by
  have hclosing : closing file.boundary.toList =
      [0x0D, 0x0A] ++ (file.delimiter ++ [0x2D, 0x2D, 0x0D, 0x0A]) := by
    have hbehind := file.singleOctets_delimiter ('-' :: '-' :: lineBreak)
    exact congrArg ([0x0D, 0x0A] ++ ·) hbehind
  have hbreak : singleOctets lineBreak = [0x0D, 0x0A] := by decide
  rw [body, opening, hclosing, file.singleOctets_delimiter, hbreak, file.encode_headerLines,
    FileBody.octets]
  simp only [List.append_assoc]

end Multipart

/-! ## Buffers -/

/-- A buffer with the position at its end. -/
def Buffer.atEnd (content : Octets) : Buffer := ⟨content, content.length, false⟩

theorem Buffer.write_atEnd (content data : Octets) :
    (atEnd content).write data = .ok (atEnd (content ++ data)) :=
  write_at_end rfl rfl data

theorem Buffer.seek_atEnd (content : Octets) :
    (atEnd content).seek 0 = .ok (.ofOctets content) := rfl

namespace Operation

/-! ## What is written to a buffer -/

section Writing

variable {number : Nat} {lent : Pool} (hknown : number < lent.buffers.length)
include hknown

theorem write_atEnd_apply (content data : Octets) (surroundings : Surroundings τ)
    (world : World τ) :
    useBuffer number (Buffer.write data) surroundings
        (withPool world (lent.set number (.atEnd content))) =
      (.ok (), withPool world (lent.set number (.atEnd (content ++ data)))) := by
  have hwrite : Buffer.write data ((lent.set number (.atEnd content)).buffer number) =
      .ok (.atEnd (content ++ data)) := by
    rw [Pool.buffer_set hknown, Buffer.write_atEnd]
  rw [useBuffer_apply rfl hwrite, Pool.set_set]
  rfl

theorem seek_atEnd_apply (content : Octets) (surroundings : Surroundings τ) (world : World τ) :
    useBuffer number (Buffer.seek 0) surroundings
        (withPool world (lent.set number (.atEnd content))) =
      (.ok (), withPool world (lent.set number (.ofOctets content))) := by
  have hseek : Buffer.seek 0 ((lent.set number (.atEnd content)).buffer number) =
      .ok (.ofOctets content) := by
    rw [Pool.buffer_set hknown, Buffer.seek_atEnd]
  rw [useBuffer_apply rfl hseek, Pool.set_set]
  rfl

theorem bufferRest_ofOctets_apply (content : Octets) (surroundings : Surroundings τ)
    (world : World τ) :
    bufferRest number surroundings (withPool world (lent.set number (.ofOctets content))) =
      (.ok content, withPool world (lent.set number (.ofOctets content))) := by
  apply bufferRest_apply rfl
  rw [Pool.buffer_set hknown]
  rfl

end Writing

/-- The body of an upload can be written completely. -/
def Writable (boundary : String) (source : Source) : Prop :=
  Multipart.boundaryFault? boundary.toList = none ∧ source.fault = none

/-- A body that can be written completely is in the buffer then, which is at its begin. -/
theorem writeMultipart_of_writable {number : Nat} {lent : Pool}
    (hknown : number < lent.buffers.length) {boundary : String} {source : Source}
    (h : Writable boundary source) (filename : String) (surroundings : Surroundings τ)
    (world : World τ) :
    writeMultipart number boundary filename source surroundings
        (withPool world (lent.set number (.atEnd []))) =
      (.ok (), withPool world (lent.set number
        (.ofOctets (Multipart.body boundary.toList filename.toList source.data)))) := by
  unfold writeMultipart
  rw [h.1]
  simp only
  rw [bind_apply_of_ok (write_atEnd_apply hknown _ _ _ _),
    bind_apply_of_ok (write_atEnd_apply hknown _ _ _ _), h.2]
  simp only
  rw [bind_apply_of_ok (write_atEnd_apply hknown _ _ _ _), seek_atEnd_apply hknown]
  rfl

/-- What keeps a body from being written completely, if anything. -/
def writeFailure? (boundary : String) (source : Source) : Option Failure :=
  ((Multipart.boundaryFault? boundary.toList).map .boundary).or (source.fault.map .fault)

theorem writable_iff {boundary : String} {source : Source} :
    Writable boundary source ↔ writeFailure? boundary source = none := by
  simp [Writable, writeFailure?]

/-- Else the writing fails, and leaves something open in the buffer. -/
theorem writeMultipart_of_failure {number : Nat} {lent : Pool}
    (hknown : number < lent.buffers.length) {boundary : String} {source : Source}
    {failure : Failure} (h : writeFailure? boundary source = some failure) (filename : String)
    (surroundings : Surroundings τ) (world : World τ) :
    ∃ content, writeMultipart number boundary filename source surroundings
        (withPool world (lent.set number (.atEnd []))) =
      (.error failure, withPool world (lent.set number (.atEnd content))) := by
  unfold writeFailure? at h
  unfold writeMultipart
  cases hboundary : Multipart.boundaryFault? boundary.toList with
  | some fault =>
    rw [hboundary] at h
    cases h
    exact ⟨[], rfl⟩
  | none =>
    rw [hboundary] at h
    cases hsource : source.fault with
    | none =>
      rw [hsource] at h
      cases h
    | some fault =>
      rw [hsource] at h
      cases h
      simp only
      rw [bind_apply_of_ok (write_atEnd_apply hknown _ _ _ _),
        bind_apply_of_ok (write_atEnd_apply hknown _ _ _ _)]
      exact ⟨_, rfl⟩

/-! ## What is sent from a buffer -/

/-- The request that uploads a file. -/
def uploadRequest (settings : Settings) (boundary token : String) (medium : MediaType)
    (filename : String) (data : Octets) : Http.Request :=
  .post ((Endpoint.mediaUpload token medium.name).address settings) settings.timeout
    (Multipart.contentType boundary) (Multipart.body boundary.toList filename.toList data)

variable {number : Nat} {filename : String} {source : Source} {surroundings : Surroundings τ}

theorem sendFile_of_ok {body : Octets} {world between after : World τ}
    (hwrite : writeMultipart number surroundings.boundary filename source surroundings world =
      (.ok (), between))
    (hrest : bufferRest number surroundings between = (.ok body, after)) (token : String)
    (medium : MediaType) :
    ∃ lines, (sendFile token medium filename source number surroundings world).2 =
      (after.sent (.post ((Endpoint.mediaUpload token medium.name).address surroundings.settings)
          surroundings.settings.timeout (Multipart.contentType surroundings.boundary) body)
        (after.next surroundings)).logged lines := by
  have hsurroundings : Operation.surroundings surroundings world = (.ok surroundings, world) := rfl
  have haddress : addressOf (.mediaUpload token medium.name) surroundings between =
      (.ok ((Endpoint.mediaUpload token medium.name).address surroundings.settings), between) := rfl
  unfold sendFile
  rw [bind_apply_of_ok hsurroundings, bind_apply_of_ok hwrite, bind_apply_of_ok haddress,
    bind_apply_of_ok hrest]
  exact postMultipart_world _ _ _ _ _

theorem sendFile_of_error {failure : Failure} {world between : World τ}
    (hwrite : writeMultipart number surroundings.boundary filename source surroundings world =
      (.error failure, between)) (token : String) (medium : MediaType) :
    sendFile token medium filename source number surroundings world =
      (.error failure, between) := by
  have hsurroundings : Operation.surroundings surroundings world = (.ok surroundings, world) := rfl
  unfold sendFile
  rw [bind_apply_of_ok hsurroundings, bind_apply_of_error hwrite]

/-- The world after the work of an upload: the buffer that was lent out is open, and a request has
been sent exactly if its body could be written. -/
structure FileSent (number : Nat) (lent : Pool) (source : Source) (surroundings : Surroundings τ)
    (request : Http.Request) (world after : World τ) : Prop where
  buffer : ∃ content, after.client.pool? = some (lent.set number content) ∧ content.closed = false
  sent : Writable surroundings.boundary source → after.requests = world.requests ++ [request]
  silent : ¬ Writable surroundings.boundary source → after.requests = world.requests

/-- A body that can be written is sent as it has been written. -/
theorem fileSent_sendFile {size : Nat} {lent : Pool} (hlent : Pool.LentOut size number lent)
    (hempty : lent.buffer number = .empty) (token : String) (medium : MediaType)
    (filename : String) (source : Source) (surroundings : Surroundings τ) (world : World τ) :
    FileSent number lent source surroundings
      (uploadRequest surroundings.settings surroundings.boundary token medium filename source.data)
      world
      (sendFile token medium filename source number surroundings (withPool world lent)).2 := by
  have hstart : lent.set number (.atEnd []) = lent := by
    have hatEnd : Buffer.atEnd [] = lent.buffer number := hempty.symm
    rw [hatEnd, Pool.set_buffer hlent.known]
  by_cases h : Writable surroundings.boundary source
  · have hwrite := writeMultipart_of_writable hlent.known h filename surroundings world
    have hrest := bufferRest_ofOctets_apply hlent.known
      (Multipart.body surroundings.boundary.toList filename.toList source.data) surroundings world
    rw [hstart] at hwrite
    obtain ⟨lines, hsent⟩ := sendFile_of_ok hwrite hrest token medium
    rw [hsent]
    refine ⟨⟨_, rfl, rfl⟩, fun _ => ?_, fun hnot => absurd h hnot⟩
    rw [World.requests_logged, World.requests_sent, requests_withPool]
    rfl
  · obtain ⟨failure, hfailure⟩ := Option.ne_none_iff_exists'.mp (mt writable_iff.mpr h)
    obtain ⟨content, hwrite⟩ :=
      writeMultipart_of_failure hlent.known hfailure filename surroundings world
    rw [hstart] at hwrite
    rw [sendFile_of_error hwrite token medium]
    exact ⟨⟨_, rfl, rfl⟩, fun hboth => absurd hboth h, fun _ => requests_withPool _ _⟩

/-! ## Each upload -/

variable [Instant τ] {size : Nat} {medium : MediaType}

/-- The world after an upload: its pool is settled; with a token, and a body that could be written,
this body has been sent once; else nothing has been sent after the request for a token. -/
structure Uploaded (size : Nat) (medium : MediaType) (filename : String) (source : Source)
    (surroundings : Surroundings τ) (world after : World τ) : Prop where
  settled : after.client.Settled size
  sent : ∀ token, (requireToken surroundings world).1 = .ok token →
    Writable surroundings.boundary source →
    after.requests = world.requests ++ tokenRequests surroundings world.client.cache ++
      [uploadRequest surroundings.settings surroundings.boundary token medium filename source.data]
  silent : (∀ token, (requireToken surroundings world).1 = .ok token →
      ¬ Writable surroundings.boundary source) →
    after.requests = world.requests ++ tokenRequests surroundings world.client.cache

theorem Uploaded.logged {world after : World τ}
    (h : Uploaded size medium filename source surroundings world after) (lines : List Emission) :
    Uploaded size medium filename source surroundings world (after.logged lines) :=
  ⟨h.settled, h.sent, h.silent⟩

/-- What has been logged before an upload does not matter to it. -/
theorem Uploaded.of_logged {world after : World τ} {lines : List Emission}
    (h : Uploaded size medium filename source surroundings (world.logged lines) after) :
    Uploaded size medium filename source surroundings world after := by
  have hcongr : ∀ token, (requireToken surroundings world).1 = .ok token ↔
      (requireToken surroundings (world.logged lines)).1 = .ok token :=
    requireToken_congr (World.logged_client world lines).symm
      (World.logged_foreseen world lines).symm
  refine ⟨h.settled, fun token htoken => h.sent token ((hcongr token).mp htoken), fun hnone => ?_⟩
  exact h.silent fun token htoken => hnone token ((hcongr token).mpr htoken)

/-- An upload that has got its token. -/
theorem uploaded_of_token {token : String} {world between : World τ}
    (htoken : requireToken surroundings world = (.ok token, between))
    (hsize : world.client.pool? = none → surroundings.settings.poolSize = size)
    (h : world.client.Settled size) :
    Uploaded size medium filename source surroundings world
      (borrowing (sendFile token medium filename source) surroundings between).2 := by
  have hpool : between.client.pool? = world.client.pool? := by
    rw [← pool_requireToken surroundings world, htoken]
  have hrequests : between.requests =
      world.requests ++ tokenRequests surroundings world.client.cache := by
    rw [← requests_requireToken surroundings world, htoken]
  have hbetween : between.client.Settled size := by
    intro pool hsome
    exact h pool (hpool ▸ hsome)
  obtain ⟨number, lent, hlent, hempty, hborrow⟩ :=
    exists_borrowing_apply (fun hnone => hsize (hpool ▸ hnone)) hbetween
      (sendFile token medium filename source)
  have hsent := fileSent_sendFile hlent hempty token medium filename source surroundings between
  obtain ⟨content, hbuffer, hopen⟩ := hsent.buffer
  obtain ⟨returned, hreturned, happly⟩ := hborrow content hbuffer hopen
  rw [happly]
  refine ⟨?_, ?_, ?_⟩
  · rintro pool ⟨⟩
    exact hreturned
  · intro other hother hwritable
    obtain rfl : token = other := Except.ok.inj ((congrArg Prod.fst htoken).symm.trans hother)
    rw [requests_withPool, hsent.sent hwritable, hrequests]
  · intro hnot
    have hwritable := hnot token (congrArg Prod.fst htoken)
    rw [requests_withPool, hsent.silent hwritable, hrequests]

/-- Every accepted upload from a settled pool leaves the world as it should. -/
theorem uploaded_upload {kind : Json} (hkind : MediaType.lookup? kind = some medium)
    (hfilename : filename ≠ "") (source : Source)
    {world : World τ} (hsize : world.client.pool? = none → surroundings.settings.poolSize = size)
    (h : world.client.Settled size) :
    Uploaded size medium filename source surroundings world
      (upload kind filename (some source) surroundings world).2 := by
  obtain ⟨shown, lines, hsay⟩ := exists_say_apply .trace
    ("Uploading " ++ medium.name ++ " media '" ++ filename ++ "'") surroundings world
  have hstart : (world.logged lines).client.Settled size := h
  rw [upload_of_accepted hkind hfilename source, bind_apply_of_ok hsay]
  apply Uploaded.of_logged
  rcases htoken : requireToken surroundings (world.logged lines) with ⟨failure | token, between⟩
  · rw [bind_apply_of_error htoken]
    have hpool := pool_requireToken surroundings (world.logged lines)
    have hrequests := requests_requireToken surroundings (world.logged lines)
    rw [htoken] at hpool hrequests
    refine ⟨fun pool hsome => hstart pool (hpool ▸ hsome), fun token hother => ?_,
      fun _ => hrequests⟩
    rw [htoken] at hother
    cases hother
  · rw [bind_apply_of_ok htoken]
    obtain ⟨more, hmore⟩ := exists_bind_world (borrowing (sendFile token medium filename source))
      (fun document => (blind_readReceipt medium document).logsOnly) surroundings between
    rw [hmore]
    exact (uploaded_of_token htoken hsize hstart).logged more

end Operation

/-! ## Each step -/

variable [Instant τ]

/-- The bodies that are sent in a step. -/
def Step.bodies (step : Step τ) : List Octets := step.requests.filterMap (·.body)

/-- Uploads of files by their content. -/
def Action.IsUpload : Action → Prop
  | .upload .. => True
  | _ => False

/-- What an upload sends, and how it leaves the pool. -/
structure CleanUpload (size : Nat) (step : Step τ) : Prop where
  /-- A body that is sent is that of this upload: the header block of its name and exactly the
  octets of its source, between its boundaries. -/
  own : ∀ body ∈ step.bodies, ∃ kind filename source,
    step.turn.action = .upload kind filename (some source) ∧ source.fault = none ∧
      body = Multipart.FileBody.octets ⟨step.turn.surroundings.boundary, filename, source.data⟩
  /-- It is sent, once, if the arguments are accepted, a token is obtained, and it can be
  written. -/
  sent : ∀ kind filename source token,
    step.turn.action = .upload kind filename (some source) → step.turn.action.refusal? = none →
    step.Obtains token → Operation.Writable step.turn.surroundings.boundary source →
    step.bodies =
      [Multipart.FileBody.octets ⟨step.turn.surroundings.boundary, filename, source.data⟩]
  /-- Nothing is lent out afterwards; at most one buffer is idle, and it is empty. -/
  settled : step.after.client.Settled size

theorem bodies_tokenRequests (surroundings : Surroundings τ) (cache : TokenCache τ) :
    (Operation.tokenRequests surroundings cache).filterMap (·.body) = [] := by
  unfold Operation.tokenRequests
  split <;> rfl

/-- A refused upload is clean. -/
theorem cleanUpload_of_refused {size : Nat} {step : Step τ} {code : ErrorCode}
    (hrefusal : step.turn.action.refusal? = some code)
    (h : step.session.client.Settled size) :
    CleanUpload size step := by
  obtain ⟨hrequests, hclient, -⟩ := (disciplined_of_refused hrefusal).refused code hrefusal
  refine ⟨fun body hbody => ?_, fun _ _ _ _ _ haccepted => ?_, fun pool hpool => ?_⟩
  · rw [Step.bodies, hrequests] at hbody
    cases hbody
  · cases hrefusal.symm.trans haccepted
  · rw [hclient] at hpool
    exact h pool hpool

/-- The world after the step of an accepted upload. -/
theorem Step.uploaded {size : Nat} {step : Step τ} {kind : Json} {medium : MediaType}
    {filename : String} {source : Operation.Source}
    (haction : step.turn.action = .upload kind filename (some source))
    (hkind : MediaType.lookup? kind = some medium) (hfilename : filename ≠ "")
    (hsize : step.turn.surroundings.settings.poolSize = size)
    (h : step.session.client.Settled size) :
    Operation.Uploaded size medium filename source step.turn.surroundings step.before
      step.outcome.world := by
  rw [Step.world_of_operation (congrArg Action.operation haction)]
  exact Operation.uploaded_upload hkind hfilename source (fun _ => hsize) h

/-- An accepted upload is clean. -/
theorem cleanUpload_of_accepted {size : Nat} {step : Step τ} {kind : Json} {medium : MediaType}
    {filename : String} {source : Operation.Source}
    (haction : step.turn.action = .upload kind filename (some source))
    (hkind : MediaType.lookup? kind = some medium) (hfilename : filename ≠ "")
    (hsize : step.turn.surroundings.settings.poolSize = size)
    (h : step.session.client.Settled size) :
    CleanUpload size step := by
  have huploaded := step.uploaded haction hkind hfilename hsize h
  have hsent : ∀ token, step.Obtains token →
      Operation.Writable step.turn.surroundings.boundary source →
      step.bodies =
        [Multipart.FileBody.octets ⟨step.turn.surroundings.boundary, filename, source.data⟩] := by
    intro token htoken hwritable
    unfold Step.bodies Step.requests
    rw [huploaded.sent token htoken hwritable, Step.requests_before, List.nil_append,
      List.filterMap_append, bodies_tokenRequests, List.nil_append, ← Multipart.body_eq_octets]
    rfl
  refine ⟨fun body hbody => ?_, ?_, huploaded.settled⟩
  · by_cases hposts : ∃ token, step.Obtains token ∧
        Operation.Writable step.turn.surroundings.boundary source
    · obtain ⟨token, htoken, hwritable⟩ := hposts
      rw [hsent token htoken hwritable] at hbody
      exact ⟨kind, filename, source, haction, hwritable.2, List.mem_singleton.mp hbody⟩
    · have hrequests := huploaded.silent fun token htoken hwritable =>
        hposts ⟨token, htoken, hwritable⟩
      rw [Step.bodies, Step.requests, hrequests, Step.requests_before, List.nil_append,
        bodies_tokenRequests] at hbody
      cases hbody
  · intro kind' filename' source' token haction' _ htoken hwritable
    cases haction.symm.trans haction'
    exact hsent token htoken hwritable

/-- Every upload from a settled pool is clean. -/
theorem Step.cleanUpload {size : Nat} {step : Step τ} (hupload : step.turn.action.IsUpload)
    (hsize : step.turn.surroundings.settings.poolSize = size)
    (h : step.session.client.Settled size) :
    CleanUpload size step := by
  cases hrefusal : step.turn.action.refusal? with
  | some code => exact cleanUpload_of_refused hrefusal h
  | none =>
    cases haction : step.turn.action with
    | upload kind filename source =>
      rw [haction] at hrefusal
      obtain ⟨medium, accepted, hkind, hfilename, rfl⟩ := Action.upload_accepted hrefusal
      exact cleanUpload_of_accepted haction hkind hfilename hsize h
    | _ =>
      rw [haction] at hupload
      cases hupload

/-! ## Each run -/

/-- **The bodies of uploads.** In every run of uploads by a new client, with a pool of a size that
is not negative and whatever becomes of each upload, every upload is clean. -/
theorem cleanUploads {size : Nat} (files : FileStore) {turns : List (Turn τ)}
    (hturns : ∀ turn ∈ turns,
      turn.action.IsUpload ∧ turn.surroundings.settings.poolSize = size) :
    ∀ step ∈ (Session.new files).steps turns, CleanUpload size step := by
  intro step hstep
  have hnew : (Session.new files : Session τ).client.Settled size := nofun
  have hsettled : step.session.client.Settled size := by
    refine Session.holds_of_step (·.client.Settled size)
      (fun other hother hsession => ?_) hnew hstep
    obtain ⟨hupload, hsize⟩ := hturns other.turn hother
    exact (other.cleanUpload hupload hsize hsession).settled
  obtain ⟨hupload, hsize⟩ := hturns step.turn (Session.turn_mem_of_mem_steps hstep)
  exact step.cleanUpload hupload hsize hsettled

/-- A run of two uploads, the first of which meets a fault of its source. -/
def trialUploads : List (Turn Nat) :=
  [⟨.trial 0, [], .upload (.string "image") "b.png" (some ⟨[1, 2, 3], some (.outside .value "")⟩)⟩,
    ⟨.trial 0, [], .upload (.string "image") "a.png" (some ⟨[4], none⟩)⟩]

theorem cleanUploads_of_trial :
    ∃ first second, (Session.new ⟨[]⟩).steps trialUploads = [first, second] ∧
      CleanUpload 16 first ∧ first.bodies = [] ∧
      CleanUpload 16 second ∧
      second.bodies =
        [Utf8.encode ("--b\r\n" ++
            "Content-Disposition: form-data; name=\"file\"; filename=\"a.png\"\r\n" ++
            "Content-Type: image/png\r\n\r\n").toList ++
          [4] ++ Utf8.encode "\r\n--b--\r\n".toList] := by
  have hturns : ∀ turn ∈ trialUploads,
      turn.action.IsUpload ∧ turn.surroundings.settings.poolSize = (16 : Nat) := by
    intro turn hturn
    rcases List.mem_cons.mp hturn with rfl | hturn
    · exact ⟨trivial, rfl⟩
    · obtain rfl := List.mem_singleton.mp hturn
      exact ⟨trivial, rfl⟩
  obtain ⟨first, second, hsteps, hfirst, hsecond, hcache⟩ :
      ∃ first second, (Session.new ⟨[]⟩).steps trialUploads = [first, second] ∧
        first.turn = trialUploads[0] ∧ second.turn = trialUploads[1] ∧
        second.session.client.cache = .store "T" 40 := by
    refine ⟨_, _, rfl, rfl, rfl, ?_⟩
    decide +kernel
  have hclean : CleanUpload 16 first := by
    refine cleanUploads ⟨[]⟩ hturns first ?_
    rw [hsteps]
    exact List.mem_cons_self
  have hclean' : CleanUpload 16 second := by
    refine cleanUploads ⟨[]⟩ hturns second ?_
    rw [hsteps]
    exact List.mem_cons_of_mem _ List.mem_cons_self
  have htoken : second.Obtains "T" := by
    have husable : second.before.client.cache.usable? second.turn.surroundings.started =
        some "T" := by
      rw [Step.client_before, hcache, hsecond]
      rfl
    exact congrArg Prod.fst (Operation.requireToken_of_usable husable)
  refine ⟨first, second, hsteps, hclean, ?_, hclean', ?_⟩
  · apply List.eq_nil_iff_forall_not_mem.mpr
    intro body hbody
    obtain ⟨kind, filename, source, haction, hfault, -⟩ := hclean.own body hbody
    rw [hfirst] at haction
    cases haction
    cases hfault
  · have hsent := hclean'.sent (.string "image") "a.png" ⟨[4], none⟩ "T"
    rw [hsecond] at hsent
    have hbody : Multipart.FileBody.octets ⟨"b", "a.png", [4]⟩ =
        Utf8.encode ("--b\r\n" ++
          "Content-Disposition: form-data; name=\"file\"; filename=\"a.png\"\r\n" ++
          "Content-Type: image/png\r\n\r\n").toList ++ [4] ++
          Utf8.encode "\r\n--b--\r\n".toList := by
      decide +kernel
    rw [← hbody]
    exact hsent rfl rfl htoken ⟨rfl, rfl⟩

end PlatformClient
