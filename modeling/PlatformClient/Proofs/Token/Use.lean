import PlatformClient.Proofs.Operation.Posting
import PlatformClient.Proofs.Token.Obtaining

/-!
# How a token is used

Each operation of the platform asks for a token and then sends one request, which carries it. It may
fail before it asks, while it asks, between the two, or afterwards; it never sends anything else.

## Main definitions

* `Operation.UsesToken`: operations that ask for a token and then send one request of some kind
* `Operation.Reaches`: requests to the endpoint of a token
* `Operation.sendFile`, `Operation.fetchMedia`: what an upload and a download do with a token

## Main results

* `usesToken_requireToken_bind`: one request behind the asking for a token
* `LogsOnly.bind_usesToken`: steps before the token is asked for
* `upload_refused_or_accepted`, `download_refused_or_accepted`: arguments are refused first
* `usesToken_upload`, `usesToken_download`, `PostsTo.usesToken`: the operations of the platform
* `PostsTo.keeps`, `keeps_upload`, `keeps_download`: what they leave alone
-/

namespace PlatformClient.Operation

variable {τ α β γ : Type}

/-- A request to the endpoint of a token. -/
def Reaches (endpoint : String → Endpoint) (token : String) (surroundings : Surroundings τ)
    (request : Http.Request) : Prop :=
  request.url = (endpoint token).address surroundings.settings

/-! ## What follows the asking for a token -/

/-- A document that is posted to an endpoint, and quiet steps behind. -/
theorem sendsOne_postTo (endpoint : String → Endpoint) (token : String) (payload : Json)
    {next : Json → Operation τ α} (hnext : ∀ document, Quiet (next document)) :
    SendsOne (Reaches endpoint token)
      (addressOf (endpoint token) >>= fun url => postJson url payload >>= next) :=
  sendsOne_addressOf_bind fun url => (sendsOne_postJson url payload).bind_quiet hnext

/-- The writing of a body leaves alone what neither the log nor the pool concerns. -/
theorem keeps_writeMultipart {part : World τ → γ}
    (hpool : ∀ world pool, part (withPool world pool) = part world)
    (hlog : ∀ lines world, part (World.logged lines world) = part world) (number : Nat)
    (boundary filename : String) (source : Source) :
    Keeps part (writeMultipart number boundary filename source : Operation τ Unit) := by
  unfold writeMultipart
  cases Multipart.boundaryFault? boundary.toList with
  | some fault => exact (logsOnly_fail _).keeps hlog
  | none =>
    refine (keeps_useBuffer hpool hlog _ _).bind fun _ => ?_
    refine (keeps_useBuffer hpool hlog _ _).bind fun _ => ?_
    cases source.fault with
    | some fault => exact (logsOnly_raise fault).keeps hlog
    | none =>
      exact (keeps_useBuffer hpool hlog _ _).bind fun _ => keeps_useBuffer hpool hlog _ _

section Writers

variable {part : World τ → γ} (hlog : ∀ lines world, part (World.logged lines world) = part world)
include hlog

/-- The caller's writer leaves alone what neither the log nor what it has been given concerns. -/
theorem keeps_givePieces
    (hwritten : ∀ (world : World τ) written, part { world with written := written } = part world)
    (refusal : Option (Nat × Fault)) (pieces : List Octets) :
    Keeps part (givePieces refusal pieces : Operation τ Unit) := by
  refine ((logsOnly_observe _).keeps hlog).bind fun taken => ?_
  cases refusal with
  | none => exact fun _ world => hwritten world _
  | some refused =>
    obtain ⟨index, fault⟩ := refused
    simp only
    split
    · refine Keeps.bind (fun _ world => hwritten world _) fun _ => ?_
      exact (logsOnly_raise fault).keeps hlog
    · exact fun _ world => hwritten world _

/-- What is received leaves alone what neither the log nor the writer concerns. -/
theorem keeps_receive_of {writer : Writer}
    (hwrite : ∀ pieces, Keeps part (writePieces writer pieces : Operation τ Unit))
    (arrival : Arrival) : Keeps part (receive arrival writer : Operation τ Nat) := by
  unfold receive
  split
  · refine ((blind_readStream arrival).logsOnly.keeps hlog).bind fun document => ?_
    refine ((logsOnly_readAs _ document).keeps hlog).bind fun envelope => ?_
    refine ((logsOnly_numeral _).keeps hlog).bind fun code => ?_
    refine ((logsOnly_say _ _).keeps hlog).bind fun _ => ?_
    exact (logsOnly_raise _).keeps hlog
  · refine (logsOnly_surroundings.keeps hlog).bind fun current => ?_
    rcases current.delivery current.settings.chunkSize arrival.response.body with ⟨pieces, fault⟩
    cases isOffset current.settings.chunkSize with
    | false => exact (logsOnly_fail _).keeps hlog
    | true =>
      refine (hwrite pieces).bind fun _ => ?_
      cases fault with
      | some fault => exact (logsOnly_raise fault).keeps hlog
      | none => exact (logsOnly_pure _).keeps hlog

variable
  (hwritten : ∀ (world : World τ) written, part { world with written := written } = part world)
  (hfiles : ∀ (world : World τ) files, part { world with files := files } = part world)
include hwritten hfiles

/-- Writing leaves alone what neither the log nor what has been written concerns. -/
theorem keeps_writePieces (writer : Writer) (pieces : List Octets) :
    Keeps part (writePieces writer pieces : Operation τ Unit) := by
  cases writer with
  | file trail => exact fun _ world => hfiles world _
  | caller refusal => exact keeps_givePieces hlog hwritten refusal pieces

theorem keeps_receive (arrival : Arrival) (writer : Writer) :
    Keeps part (receive arrival writer : Operation τ Nat) :=
  keeps_receive_of hlog (keeps_writePieces hlog hwritten hfiles writer) arrival

end Writers

/-! ## Operations that use a token -/

variable [Instant τ]

/-- An operation that asks for a token, unless it fails before, and with the token sends one request
of some kind, unless it fails before. -/
def UsesToken (kind : String → Surroundings τ → Http.Request → Prop) (operation : Operation τ α) :
    Prop :=
  ∀ surroundings world,
    ((∃ failure, (operation surroundings world).1 = .error failure) ∧
      ((operation surroundings world).2.requests = world.requests ∨
        (operation surroundings world).2.requests =
          world.requests ++ tokenRequests surroundings world.client.cache)) ∨
    ∃ token request, (requireToken surroundings world).1 = .ok token ∧
      kind token surroundings request ∧
      (operation surroundings world).2.requests =
        world.requests ++ tokenRequests surroundings world.client.cache ++ [request]

variable {kind : String → Surroundings τ → Http.Request → Prop}

/-- One request behind the asking for a token. -/
theorem usesToken_requireToken_bind {next : String → Operation τ α}
    (hnext : ∀ token, SendsOne (kind token) (next token)) :
    UsesToken kind (requireToken >>= next) := by
  intro surroundings world
  rw [bind_apply]
  have hrequests := requests_requireToken surroundings world
  rcases hresult : requireToken surroundings world with ⟨failure | token, after⟩
  · rw [hresult] at hrequests
    exact .inl ⟨⟨failure, rfl⟩, .inr hrequests⟩
  · rw [hresult] at hrequests
    simp only at hrequests
    rcases hnext token surroundings after with ⟨request, hkind, hsent⟩ | ⟨hfail, hquiet⟩
    · exact .inr ⟨token, request, rfl, hkind, hrequests ▸ hsent⟩
    · exact .inl ⟨hfail, .inr (hrequests ▸ hquiet)⟩

/-- Steps before the token is asked for that change nothing but the log. -/
theorem LogsOnly.bind_usesToken {preface : Operation τ β} {next : β → Operation τ α}
    (h : LogsOnly preface) (hnext : ∀ b, UsesToken kind (next b)) :
    UsesToken kind (preface >>= next) := by
  intro surroundings world
  rw [bind_apply]
  obtain ⟨lines, hlines⟩ := h surroundings world
  rcases hresult : preface surroundings world with ⟨failure | b, after⟩
  · rw [hresult] at hlines
    obtain rfl : after = world.logged lines := hlines
    exact .inl ⟨⟨failure, rfl⟩, .inl rfl⟩
  · rw [hresult] at hlines
    obtain rfl : after = world.logged lines := hlines
    rcases hnext b surroundings (world.logged lines) with
      hfail | ⟨token, request, htoken, hkind, hsent⟩
    · exact .inl hfail
    · have hclient := World.logged_client world lines
      have hforeseen := World.logged_foreseen world lines
      have hobtained := (requireToken_congr hclient hforeseen token).mp htoken
      exact .inr ⟨token, request, hobtained, hkind, hsent⟩

theorem UsesToken.map {operation : Operation τ β} (h : UsesToken kind operation) (f : β → α) :
    UsesToken kind (f <$> operation) := by
  intro surroundings world
  rw [map_apply]
  rcases h surroundings world with ⟨⟨failure, hfail⟩, hrequests⟩ | hsent
  · exact .inl ⟨⟨failure, by rw [hfail]; rfl⟩, hrequests⟩
  · exact .inr hsent

/-! ## Refused arguments -/

omit [Instant τ] in
theorem requireText_of_ne {code : ErrorCode} {text argument : String} (h : argument ≠ "") :
    (requireText code text argument : Operation τ Unit) = pure () := by
  simp [requireText, h]

theorem upload_of_unknown {kind : Json} (hkind : MediaType.lookup? kind = none) (filename : String)
    (source : Option Source) :
    (upload kind filename source : Operation τ Upload) =
      raise (.validation .invalidMediaType ("Invalid media type '" ++ kind.display ++ "'")) := by
  unfold upload
  rw [hkind]
  rfl

theorem upload_of_unnamed {kind : Json} {medium : MediaType}
    (hkind : MediaType.lookup? kind = some medium) (source : Option Source) :
    (upload kind "" source : Operation τ Upload) =
      raise (.validation .missingFilename "Filename must be provided") := by
  unfold upload
  rw [hkind]
  rfl

theorem upload_of_unread {kind : Json} {medium : MediaType}
    (hkind : MediaType.lookup? kind = some medium) {filename : String} (hfilename : filename ≠ "") :
    (upload kind filename none : Operation τ Upload) =
      raise (.validation .missingReader "Media reader must be provided") := by
  unfold upload
  rw [hkind, requireText_of_ne hfilename]
  rfl

theorem download_of_unnamed (writer : Option Writer) :
    (download "" writer : Operation τ Unit) =
      raise (.validation .missingMediaId "Media ID must be provided") := rfl

theorem download_of_unwritten {mediaId : String} (hmediaId : mediaId ≠ "") :
    (download mediaId none : Operation τ Unit) =
      raise (.validation .missingWriter "Media writer must be provided") := by
  unfold download
  rw [requireText_of_ne hmediaId]
  rfl

/-! ## The operations of the platform -/

/-- The work of an upload with the buffer that it has borrowed. -/
def sendFile (token : String) (medium : MediaType) (filename : String) (source : Source)
    (number : Nat) : Operation τ Json := do
  let boundary := (← surroundings).boundary
  writeMultipart number boundary filename source
  let url ← addressOf (.mediaUpload token medium.name)
  postMultipart url (← bufferRest number) (Multipart.contentType boundary)

/-- What the answer to an upload means. -/
def readReceipt (medium : MediaType) (document : Json) : Operation τ Upload := do
  let _ ← requireSuccess document
  let receipt ← readAs (Upload.documentFor medium) document
  let _ ← say .trace ("Uploaded media #" ++ receipt.mediaId)
  return receipt

omit [Instant τ] in
theorem blind_readReceipt (medium : MediaType) (document : Json) :
    Blind (readReceipt medium document : Operation τ Upload) := by
  refine (blind_requireSuccess document).bind fun _ => ?_
  refine (blind_readAs _ document).bind fun receipt => ?_
  exact (blind_say _ _).bind fun _ => blind_pure _

/-- An upload whose arguments are accepted. -/
theorem upload_of_accepted {kind : Json} {medium : MediaType}
    (hkind : MediaType.lookup? kind = some medium) {filename : String} (hfilename : filename ≠ "")
    (source : Source) :
    (upload kind filename (some source) : Operation τ Upload) = (do
      let _ ← say .trace ("Uploading " ++ medium.name ++ " media '" ++ filename ++ "'")
      let token ← requireToken
      let document ← borrowing (sendFile token medium filename source)
      readReceipt medium document) := by
  unfold upload
  rw [hkind, requireText_of_ne hfilename]
  rfl

/-- An upload refuses its arguments, or sends the file that they name. -/
theorem upload_refused_or_accepted (kind : Json) (filename : String) (source : Option Source) :
    (∃ fault, (upload kind filename source : Operation τ Upload) = raise fault) ∨
      ∃ medium file, (upload kind filename source : Operation τ Upload) = (do
        let _ ← say .trace ("Uploading " ++ medium.name ++ " media '" ++ filename ++ "'")
        let token ← requireToken
        let document ← borrowing (sendFile token medium filename file)
        readReceipt medium document) := by
  cases hkind : MediaType.lookup? kind with
  | none => exact .inl ⟨_, upload_of_unknown hkind filename source⟩
  | some medium =>
    by_cases hfilename : filename = ""
    · exact .inl ⟨_, hfilename ▸ upload_of_unnamed hkind source⟩
    · cases source with
      | none => exact .inl ⟨_, upload_of_unread hkind hfilename⟩
      | some file => exact .inr ⟨medium, file, upload_of_accepted hkind hfilename file⟩

theorem usesToken_upload {kind : Json} {medium : MediaType}
    (hkind : MediaType.lookup? kind = some medium) {filename : String} (hfilename : filename ≠ "")
    (source : Source) :
    UsesToken (Reaches fun token => .mediaUpload token medium.name)
      (upload kind filename (some source) : Operation τ Upload) := by
  rw [upload_of_accepted hkind hfilename source]
  refine (logsOnly_say _ _).bind_usesToken fun _ => ?_
  refine usesToken_requireToken_bind fun token => ?_
  refine SendsOne.bind_quiet (SendsOne.borrowing fun number => ?_) fun document => ?_
  · refine logsOnly_surroundings.quiet.bind_sendsOne fun current => ?_
    have hwrite : Quiet (writeMultipart number current.boundary filename source :
        Operation τ Unit) :=
      keeps_writeMultipart (fun _ _ => rfl) (fun _ _ => rfl) _ _ _ _
    refine hwrite.bind_sendsOne fun _ => ?_
    refine sendsOne_addressOf_bind fun url => ?_
    have hrest : Quiet (bufferRest number : Operation τ Octets) :=
      keeps_bufferRest (fun _ _ => rfl) (fun _ _ => rfl) number
    exact hrest.bind_sendsOne fun body => sendsOne_postMultipart url body _
  · exact (blind_readReceipt medium document).logsOnly.quiet

/-- Media are fetched from an address. The response is closed behind what is received from it. -/
def fetchMedia (url : String) (writer : Writer) : Operation τ Nat := do
  let arrival ← getStream url
  ensuring (closeResponse arrival) (receive arrival writer)

/-- A download whose arguments are accepted. -/
theorem download_of_accepted {mediaId : String} (hmediaId : mediaId ≠ "") (writer : Writer) :
    (download mediaId (some writer) : Operation τ Unit) = (do
      let _ ← say .trace ("Downloading media #" ++ mediaId)
      let token ← requireToken
      let url ← addressOf (.mediaDownload token mediaId)
      let size ← fetchMedia url writer
      let _ ← say .trace ("Media downloaded successfully (" ++ size.repr ++ " bytes)")) := by
  unfold download fetchMedia
  rw [requireText_of_ne hmediaId]
  simp only [bind_assoc]
  rfl

/-- A download refuses its arguments, or fetches the media that they name. -/
theorem download_refused_or_accepted (mediaId : String) (writer : Option Writer) :
    (∃ fault, (download mediaId writer : Operation τ Unit) = raise fault) ∨
      ∃ found, writer = some found ∧ (download mediaId writer : Operation τ Unit) = (do
        let _ ← say .trace ("Downloading media #" ++ mediaId)
        let token ← requireToken
        let url ← addressOf (.mediaDownload token mediaId)
        let size ← fetchMedia url found
        let _ ← say .trace ("Media downloaded successfully (" ++ size.repr ++ " bytes)")) := by
  by_cases hmediaId : mediaId = ""
  · exact .inl ⟨_, hmediaId ▸ download_of_unnamed writer⟩
  · cases writer with
    | none => exact .inl ⟨_, download_of_unwritten hmediaId⟩
    | some found => exact .inr ⟨found, rfl, download_of_accepted hmediaId found⟩

omit [Instant τ] in
/-- One request fetches media, and nothing is sent while they are received. -/
theorem sendsOne_fetchMedia (url : String) (writer : Writer) :
    SendsOne (fun _ request => request.url = url) (fetchMedia url writer : Operation τ Nat) := by
  refine (sendsOne_getStream url).bind_quiet fun arrival => ?_
  exact Keeps.ensuring
    (keeps_receive (fun _ _ => rfl) (fun _ _ => rfl) (fun _ _ => rfl) arrival writer)
    (requests_closeResponse arrival)

theorem usesToken_download {mediaId : String} (hmediaId : mediaId ≠ "") (writer : Writer) :
    UsesToken (Reaches fun token => .mediaDownload token mediaId)
      (download mediaId (some writer) : Operation τ Unit) := by
  rw [download_of_accepted hmediaId]
  refine (logsOnly_say _ _).bind_usesToken fun _ => ?_
  refine usesToken_requireToken_bind fun token => ?_
  refine sendsOne_addressOf_bind fun url => ?_
  refine (sendsOne_fetchMedia url writer).bind_quiet fun size => ?_
  exact (logsOnly_say _ _).quiet.bind fun _ => (logsOnly_pure _).quiet

section Transport

variable {part : World τ → γ} (hlog : ∀ lines world, part (World.logged lines world) = part world)
  (hsent : ∀ request outcome world, part (World.sent request outcome world) = part world)
include hlog hsent

omit [Instant τ] in
/-- The work of an upload leaves alone what neither the log, nor the calls, nor the pool
concern. -/
theorem keeps_sendFile (hpool : ∀ world pool, part (withPool world pool) = part world)
    (token : String) (medium : MediaType) (filename : String) (source : Source) (number : Nat) :
    Keeps part (sendFile token medium filename source number : Operation τ Json) := by
  refine (logsOnly_surroundings.keeps hlog).bind fun current => ?_
  refine (keeps_writeMultipart hpool hlog _ _ _ _).bind fun _ => ?_
  refine ((blind_addressOf _).logsOnly.keeps hlog).bind fun url => ?_
  refine (keeps_bufferRest hpool hlog number).bind fun body => ?_
  exact keeps_postMultipart hlog hsent url body _

omit [Instant τ] in
/-- The fetching of media leaves alone what neither the log, nor the calls, nor the writer
concern. -/
theorem keeps_fetchMedia
    (hclose : ∀ arrival world, part (closeResponse arrival world) = part world) {writer : Writer}
    (hwrite : ∀ pieces, Keeps part (writePieces writer pieces : Operation τ Unit)) (url : String) :
    Keeps part (fetchMedia url writer : Operation τ Nat) := by
  refine (keeps_getStream hlog hsent hclose url).bind fun arrival => ?_
  exact (keeps_receive_of hlog hwrite arrival).ensuring (hclose arrival)

omit [Instant τ] in
/-- What posts a document and looks at the answer. -/
theorem keeps_posting (endpoint : Endpoint) (payload : Json) {next : Json → Operation τ α}
    (hnext : ∀ answer, LogsOnly (next answer)) :
    Keeps part (addressOf endpoint >>= fun url => postJson url payload >>= next) := by
  refine ((blind_addressOf _).logsOnly.keeps hlog).bind fun url => ?_
  exact (keeps_postJson hlog hsent url payload).bind fun answer => (hnext answer).keeps hlog

omit [Instant τ] in
/-- What sends a file with a borrowed buffer, and reads the receipt for it. -/
theorem keeps_sending (hpool : ∀ world pool, part (withPool world pool) = part world)
    (token : String) (medium : MediaType) (filename : String) (source : Source) :
    Keeps part (borrowing (sendFile token medium filename source) >>= readReceipt medium) := by
  refine Keeps.bind ?_ fun document => (blind_readReceipt medium document).logsOnly.keeps hlog
  exact Keeps.borrowing hpool fun number =>
    keeps_sendFile hlog hsent hpool token medium filename source number

omit [Instant τ] in
/-- What fetches media and reports their size. -/
theorem keeps_fetching (hclose : ∀ arrival world, part (closeResponse arrival world) = part world)
    {writer : Writer}
    (hwrite : ∀ pieces, Keeps part (writePieces writer pieces : Operation τ Unit))
    (endpoint : Endpoint) {report : Nat → Operation τ α}
    (hreport : ∀ size, LogsOnly (report size)) :
    Keeps part (addressOf endpoint >>= fun url => fetchMedia url writer >>= report) := by
  refine ((blind_addressOf _).logsOnly.keeps hlog).bind fun url => ?_
  exact (keeps_fetchMedia hlog hsent hclose hwrite url).bind fun size => (hreport size).keeps hlog

variable (hcache : ∀ cache world, part (World.withCache cache world) = part world)
include hcache

/-- What posts a document leaves alone what neither the log, nor the calls, nor the cache
concern. -/
theorem PostsTo.keeps {endpoint : String → Endpoint} {operation : Operation τ α}
    (h : PostsTo endpoint operation) : Keeps part operation := by
  induction h with
  | posted payload hnext =>
    refine (keeps_requireToken hlog hsent hcache).bind fun token => ?_
    exact keeps_posting hlog hsent (endpoint token) payload fun document =>
      ((blind_requireSuccess document).bind (hnext document)).logsOnly
  | behind hpreface _ ih => exact (hpreface.logsOnly.keeps hlog).bind ih

/-- So does an upload, unless the pool is concerned. -/
theorem keeps_upload (hpool : ∀ world pool, part (withPool world pool) = part world) (kind : Json)
    (filename : String) (source : Option Source) :
    Keeps part (upload kind filename source : Operation τ Upload) := by
  rcases upload_refused_or_accepted (τ := τ) kind filename source with
    ⟨fault, hrefused⟩ | ⟨medium, file, haccepted⟩
  · rw [hrefused]
    exact (logsOnly_raise fault).keeps hlog
  · rw [haccepted]
    refine ((logsOnly_say _ _).keeps hlog).bind fun _ => ?_
    refine (keeps_requireToken hlog hsent hcache).bind fun token => ?_
    exact keeps_sending hlog hsent hpool token medium _ _

/-- And a download, unless the writer is concerned. -/
theorem keeps_download (hclose : ∀ arrival world, part (closeResponse arrival world) = part world)
    {writer : Option Writer} (hwrite : ∀ found, writer = some found →
      ∀ pieces, Keeps part (writePieces found pieces : Operation τ Unit)) (mediaId : String) :
    Keeps part (download mediaId writer : Operation τ Unit) := by
  rcases download_refused_or_accepted (τ := τ) mediaId writer with
    ⟨fault, hrefused⟩ | ⟨found, hfound, haccepted⟩
  · rw [hrefused]
    exact (logsOnly_raise fault).keeps hlog
  · rw [haccepted]
    refine ((logsOnly_say _ _).keeps hlog).bind fun _ => ?_
    refine (keeps_requireToken hlog hsent hcache).bind fun token => ?_
    exact keeps_fetching hlog hsent hclose (hwrite found hfound) _ fun size =>
      (logsOnly_say _ _).bind fun _ => logsOnly_pure ()

end Transport

/-- What posts a document uses the token for it. -/
theorem PostsTo.usesToken {endpoint : String → Endpoint} {operation : Operation τ α}
    (h : PostsTo endpoint operation) : UsesToken (Reaches endpoint) operation := by
  induction h with
  | posted payload hnext =>
    refine usesToken_requireToken_bind fun token => ?_
    refine sendsOne_postTo endpoint token payload fun document => ?_
    refine (logsOnly_requireSuccess document).quiet.bind fun envelope => ?_
    exact (hnext document envelope).logsOnly.quiet
  | behind hpreface _ ih => exact hpreface.logsOnly.bind_usesToken ih

end PlatformClient.Operation
