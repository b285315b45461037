import PlatformClient.Proofs.Envelope.Reported
import PlatformClient.Proofs.Files.Opened
import PlatformClient.Proofs.Session.Discipline

/-!
# Delivered downloads

A download brings the body of its answer to a writer, or nothing at all. What it brings is decided
by the status of the answer and by its type; the rest of its endings are faults of the stream and
of the writer, behind which the pieces taken so far remain. The response is closed on every way out.

## Main definitions

* `Http.Response.kind`: the type of a response
* `Http.Response.mediaRefusal?`: why a response brings no media
* `Http.Delivery.Splits`: what is assumed of the pieces in which a body arrives
* `Operation.Downloaded`: the endings of a download
* `Operation.Writer.Takes`: what a writer holds more than before
* `Delivered`: how the download of a step has ended

## Main results

* `receive_downloaded`: what is received from a response with the accepted status
* `fetchMedia_downloaded`: what is fetched from an address
* `download_apply`: a download is a fetch behind the asking for a token
* `downloads_delivered`: every download that obtains a token is delivered
-/

namespace PlatformClient

variable {τ α : Type}

namespace Http

/-- The type of a response: what stands in its header before the first semicolon, without the blanks
around it, in small letters. It is empty without a header. -/
def Response.kind (response : Response) : String :=
  match response.contentType? with
  | none => ""
  | some header =>
    String.ofList (Text.lowercase (Text.trim (header.toList.takeWhile (· ≠ ';'))))

theorem Response.essence_contentType? (response : Response) :
    ContentType.essence response.contentType? = response.kind := by
  unfold ContentType.essence kind
  cases response.contentType? with
  | none => rfl
  | some header => rw [Text.cut_fst, Option.getD_some]

/-- A type under which the platform reports errors. -/
theorem Response.contains_errorTypes_iff (response : Response) :
    Operation.errorTypes.contains (ContentType.essence response.contentType?) = true ↔
      response.kind = "text/plain" ∨ response.kind = "application/json" := by
  rw [response.essence_contentType?]
  simp [Operation.errorTypes]

/-- The document in a response, or why there is none. -/
def Response.document (response : Response) (reading : Json.Reading) : Except Failure Json := do
  let text ← response.text.mapError .charset
  (Json.read reading text).mapError .unreadable

/-- The failure as which a download reports a response that carries no media: a fault of the stream
while its body is fetched, or else what the document in the body tells. -/
def Response.reported (response : Response) (surroundings : Surroundings τ) : Failure :=
  match surroundings.delivery Operation.documentPiece response.body with
  | (_, some fault) => .fault fault
  | (_, none) =>
    match response.document surroundings.reading with
    | .error failure => failure
    | .ok document =>
      match Envelope.document.read document with
      | .error refusal => .ofRefusal document refusal
      | .ok envelope => .fault (.api envelope.code envelope.text)

/-- A document in a response can be written. -/
theorem Response.writtenWithin_document {response : Response} {reading : Json.Reading}
    {document : Json} (h : response.document reading = .ok document) :
    document.WrittenWithin reading.room := by
  obtain ⟨text, -, hread⟩ := Json.exists_of_bind_eq_ok h
  cases hdocument : Json.read reading text with
  | error error =>
    rw [hdocument] at hread
    cases hread
  | ok found =>
    rw [hdocument] at hread
    cases hread
    exact Json.writtenWithin_of_read hdocument

/-- Why a response brings no media: it has another status than 200, or one of the types under which
the platform reports errors. An error code of zero is an error there, too. -/
def Response.mediaRefusal? (response : Response) (surroundings : Surroundings τ) :
    Option Failure :=
  if response.status ≠ 200 then
    some (.fault (.unexpectedStatus response.status response.reason))
  else if response.kind = "text/plain" ∨ response.kind = "application/json" then
    some (response.reported surroundings)
  else none

section Refusals

variable {response : Response} {surroundings : Surroundings τ}

theorem Response.mediaRefusal?_of_status (h : response.status ≠ Operation.acceptedStatus) :
    response.mediaRefusal? surroundings =
      some (.fault (.unexpectedStatus response.status response.reason)) :=
  if_pos h

theorem Response.mediaRefusal?_of_error (hstatus : response.status = Operation.acceptedStatus)
    (htype : Operation.errorTypes.contains (ContentType.essence response.contentType?) = true) :
    response.mediaRefusal? surroundings = some (response.reported surroundings) :=
  (if_neg (not_not_intro hstatus)).trans (if_pos (response.contains_errorTypes_iff.mp htype))

theorem Response.mediaRefusal?_of_media (hstatus : response.status = Operation.acceptedStatus)
    (htype : Operation.errorTypes.contains (ContentType.essence response.contentType?) = false) :
    response.mediaRefusal? surroundings = none :=
  (if_neg (not_not_intro hstatus)).trans
    (if_neg (mt response.contains_errorTypes_iff.mpr (ne_true_of_eq_false htype)))

end Refusals

/-- The pieces in which a body arrives follow each other, and together are the body; or a beginning
of it, if a fault ends the arrival early. -/
def Delivery.Splits (delivery : Delivery) (size : Int) (body : Octets) : Prop :=
  match delivery size body with
  | (pieces, none) => pieces.flatten = body
  | (pieces, some _) => pieces.flatten <+: body

theorem Delivery.complete_splits {size : Int} (h : size ≠ 0) (body : Octets) :
    complete.Splits size body := by
  change (Http.pieces size body).flatten = body
  unfold Http.pieces
  split
  · rename_i hempty
    rw [List.isEmpty_iff.mp hempty]
    rfl
  · split
    · exact List.append_nil body
    · exact flatten_cutInto (by omega) body

/-- How often the response to a request has been closed, if there is one, when it is not used any
more. -/
def Outcome.closings : Outcome → Option Nat
  | .response _ => some 1
  | _ => none

/-- The status of a response, if there is one, has a text. HTTP has three digits for it. -/
def Outcome.HasStatusText (outcome : Outcome) : Prop :=
  ∀ response, outcome = .response response →
    response.status.natAbs < Nat.pow 10 Text.digitLimit

end Http

/-- The world after a request whose response, if there is one, has been closed. -/
def World.concluded (request : Http.Request) (outcome : Http.Outcome) (world : World τ) : World τ :=
  { world with
    foreseen := world.foreseen.tail
    calls := world.calls ++ [⟨request, outcome.closings⟩] }

/-- What a world holds of pieces: the files, and what the caller's writer has taken. -/
def World.stored (world : World τ) : FileStore × List Octets := (world.files, world.written)

/-- The world with other files. -/
def World.withFiles (files : FileStore) (world : World τ) : World τ := { world with files := files }

namespace Operation

/-! ## The endings of a download -/

/-- The piece that a writer refuses, if there is one. -/
def Writer.refusal? : Writer → Option (Nat × Fault)
  | caller refusal => refusal
  | file _ => none

/-- Between two worlds a writer has taken some pieces, in their order, and nothing else. A file is
not touched for no pieces. -/
def Writer.Takes (pieces : List Octets) (before after : World τ) : Writer → Prop
  | caller _ => after.written = before.written ++ pieces
  | file trail =>
    pieces = [] ∧ after.files = before.files ∨
      after.files = before.files.append trail pieces.flatten

theorem Writer.Takes.congr {writer : Writer} {pieces : List Octets}
    {before after before' after' : World τ} (h : writer.Takes pieces before after)
    (hbefore : before'.stored = before.stored) (hafter : after'.stored = after.stored) :
    writer.Takes pieces before' after' := by
  cases writer with
  | caller refusal =>
    have hwritten : before'.written = before.written := congrArg Prod.snd hbefore
    exact (congrArg Prod.snd hafter).trans (hwritten ▸ h)
  | file trail =>
    have hfiles : before'.files = before.files := congrArg Prod.fst hbefore
    have hfiles' : after'.files = after.files := congrArg Prod.fst hafter
    unfold Takes at h ⊢
    rwa [hfiles, hfiles']

/-- A writer that takes nothing leaves all as it is. -/
theorem Writer.takes_nil (writer : Writer) (world : World τ) : writer.Takes [] world world := by
  cases writer with
  | caller refusal => exact (List.append_nil _).symm
  | file trail => exact .inl ⟨rfl, rfl⟩

/-- The endings of a download: what has become of its request, the pieces that the writer has taken,
and the result. -/
inductive Downloaded (surroundings : Surroundings τ) (refusal : Option (Nat × Fault)) :
    Http.Outcome → List Octets → Except Failure Unit → Prop
  /-- There is no response. -/
  | unanswered {failure : Failure} : Downloaded surroundings refusal .absent [] (.error failure)
  /-- The request has failed. -/
  | failed {fault : Fault} :
      Downloaded surroundings refusal (.failed fault) [] (.error (.fault fault))
  /-- The response brings no media. -/
  | refused {response : Http.Response} {failure : Failure}
      (hrefusal : response.mediaRefusal? surroundings = some failure) :
      Downloaded surroundings refusal (.response response) [] (.error failure)
  /-- The configured size of pieces is none, and nothing arrives. -/
  | unsized {response : Http.Response} (hmedia : response.mediaRefusal? surroundings = none)
      (hsize : isOffset surroundings.settings.chunkSize = false) :
      Downloaded surroundings refusal (.response response) [] (.error .pieceSize)
  /-- The writer has taken the body. -/
  | whole {response : Http.Response} {pieces : List Octets}
      (hmedia : response.mediaRefusal? surroundings = none)
      (hdelivery : surroundings.delivery surroundings.settings.chunkSize response.body =
        (pieces, none))
      (hbody : pieces.flatten = response.body)
      (haccepted : ∀ index fault, refusal = some (index, fault) → pieces.length ≤ index) :
      Downloaded surroundings refusal (.response response) pieces (.ok ())
  /-- The stream has ended early, and the writer has taken what had arrived before. -/
  | broken {response : Http.Response} {pieces : List Octets} {fault : Fault}
      (hmedia : response.mediaRefusal? surroundings = none)
      (hdelivery : surroundings.delivery surroundings.settings.chunkSize response.body =
        (pieces, some fault))
      (hbody : pieces.flatten <+: response.body)
      (haccepted : ∀ index fault, refusal = some (index, fault) → pieces.length ≤ index) :
      Downloaded surroundings refusal (.response response) pieces (.error (.fault fault))
  /-- The writer has refused a piece, and has taken those before. -/
  | stopped {response : Http.Response} {pieces : List Octets} {end? : Option Fault} {index : Nat}
      {fault : Fault} (hmedia : response.mediaRefusal? surroundings = none)
      (hdelivery : surroundings.delivery surroundings.settings.chunkSize response.body =
        (pieces, end?))
      (hbody : pieces.flatten <+: response.body)
      (hrefusal : refusal = some (index, fault)) (hindex : index < pieces.length) :
      Downloaded surroundings refusal (.response response) (pieces.take index)
        (.error (.fault fault))

/-! ## Writing -/

/-- The endings of writing pieces: all are taken, or one is refused. -/
theorem writePieces_takes (writer : Writer) (pieces : List Octets)
    (surroundings : Surroundings τ) {world : World τ} (hwritten : world.written = []) :
    (∃ after, writePieces writer pieces surroundings world = (.ok (), after) ∧
      writer.Takes pieces world after ∧
      ∀ index fault, writer.refusal? = some (index, fault) → pieces.length ≤ index) ∨
    ∃ index fault after, writePieces writer pieces surroundings world =
        (.error (.fault fault), after) ∧
      writer.Takes (pieces.take index) world after ∧
      writer.refusal? = some (index, fault) ∧ index < pieces.length := by
  cases writer with
  | file trail => exact .inl ⟨_, rfl, .inr rfl, nofun⟩
  | caller refusal =>
    cases refusal with
    | none => exact .inl ⟨_, rfl, rfl, nofun⟩
    | some refused =>
      obtain ⟨index, fault⟩ := refused
      unfold writePieces givePieces
      simp only [bind_apply, observe, hwritten, List.length_nil, Nat.zero_le, true_and,
        Nat.zero_add, Nat.sub_zero]
      by_cases hindex : index < pieces.length
      · rw [if_pos hindex]
        exact .inr ⟨index, fault, _, rfl, by simp [Writer.Takes, hwritten], rfl, hindex⟩
      · rw [if_neg hindex]
        refine .inl ⟨_, rfl, by simp [Writer.Takes, hwritten], ?_⟩
        rintro _ _ ⟨⟩
        exact Nat.le_of_not_lt hindex

/-! ## Receiving -/

theorem readJson_apply (arrival : Arrival) (surroundings : Surroundings τ) (world : World τ) :
    readJson arrival surroundings world =
      (arrival.response.document surroundings.reading, world) := by
  unfold readJson Http.Response.document
  cases arrival.response.text with
  | error fault => rfl
  | ok text =>
    change ofExcept .unreadable (Json.read surroundings.reading text) surroundings world =
      ((Json.read surroundings.reading text).mapError .unreadable, world)
    cases Json.read surroundings.reading text <;> rfl

/-- What the stream of a response carries, if its pieces are the body. -/
theorem readStream_apply (arrival : Arrival) {surroundings : Surroundings τ}
    (hsplits : surroundings.delivery.Splits documentPiece arrival.response.body)
    (world : World τ) :
    readStream arrival surroundings world =
      (match (surroundings.delivery documentPiece arrival.response.body).2 with
        | some fault => .error (.fault fault)
        | none => arrival.response.document surroundings.reading, world) := by
  have happly : readStream arrival surroundings world =
      (match (surroundings.delivery documentPiece arrival.response.body).2 with
        | some fault => raise fault
        | none => readJson { arrival with response.body :=
            (surroundings.delivery documentPiece arrival.response.body).1.flatten })
        surroundings world := rfl
  rw [happly]
  unfold Http.Delivery.Splits at hsplits
  revert hsplits
  rcases surroundings.delivery documentPiece arrival.response.body with ⟨pieces, _ | fault⟩
  · intro hsplits
    simp only at hsplits ⊢
    rw [hsplits, readJson_apply]
  · exact fun _ => rfl

/-- A response of a type under which errors are reported is read as an envelope, and fails. -/
theorem receive_of_error {arrival : Arrival} (writer : Writer)
    (h : errorTypes.contains (ContentType.essence arrival.response.contentType?) = true)
    {surroundings : Surroundings τ}
    (hsplits : surroundings.delivery.Splits documentPiece arrival.response.body)
    (world : World τ) :
    ∃ lines, receive arrival writer surroundings world =
      (.error (arrival.response.reported surroundings), world.logged lines) := by
  unfold receive Http.Response.reported
  rw [if_pos h, bind_apply, readStream_apply arrival hsplits]
  rcases surroundings.delivery documentPiece arrival.response.body with ⟨pieces, _ | fault⟩
  · cases hdocument : arrival.response.document surroundings.reading with
    | error failure => exact ⟨[], congrArg _ (World.logged_nil world).symm⟩
    | ok document =>
      cases henvelope : Envelope.document.read document with
      | error refusal =>
        simp only [readAs, henvelope, ofExcept, fail_bind]
        exact ⟨[], congrArg _ (World.logged_nil world).symm⟩
      | ok envelope =>
        have hcode := numeral_apply (Envelope.code_lt_of_read
          (Http.Response.writtenWithin_document hdocument) henvelope) surroundings world
        simp only [readAs, henvelope, ofExcept, pure_bind]
        rw [bind_apply_of_ok hcode]
        exact ⟨_, rfl⟩
  · exact ⟨[], congrArg _ (World.logged_nil world).symm⟩

/-- Otherwise the pieces that arrive are written, and then a fault of the stream is reported. -/
theorem receive_of_media {arrival : Arrival} (writer : Writer)
    (h : errorTypes.contains (ContentType.essence arrival.response.contentType?) = false)
    {surroundings : Surroundings τ} {pieces : List Octets} {fault? : Option Fault}
    (hdelivery : surroundings.delivery surroundings.settings.chunkSize arrival.response.body =
      (pieces, fault?)) (world : World τ) :
    receive arrival writer surroundings world =
      if isOffset surroundings.settings.chunkSize then
        (writePieces writer pieces >>= fun _ => match fault? with
          | some fault => raise fault
          | none => pure pieces.flatten.length) surroundings world
      else (.error .pieceSize, world) := by
  unfold receive
  simp only [h, Bool.false_eq_true, if_false]
  rw [bind_apply]
  simp only [Operation.surroundings, hdelivery]
  cases isOffset surroundings.settings.chunkSize <;> rfl

/-- What is received from a response with the accepted status. -/
theorem receive_downloaded (arrival : Arrival) (writer : Writer)
    (hstatus : arrival.response.status = acceptedStatus) {surroundings : Surroundings τ}
    (hsplits : ∀ size ∈ [surroundings.settings.chunkSize, documentPiece],
      surroundings.delivery.Splits size arrival.response.body)
    (world : World τ) (hwritten : world.written = []) :
    ∃ taken, writer.Takes taken world (receive arrival writer surroundings world).2 ∧
      Downloaded surroundings writer.refusal? (.response arrival.response) taken
        ((receive arrival writer surroundings world).1.map fun _ => ()) := by
  cases htype : errorTypes.contains (ContentType.essence arrival.response.contentType?) with
  | true =>
    obtain ⟨lines, hreceive⟩ := receive_of_error writer htype
      (hsplits documentPiece (List.mem_cons_of_mem _ List.mem_cons_self)) world
    rw [hreceive]
    exact ⟨[], (writer.takes_nil world).congr rfl rfl,
      .refused (Http.Response.mediaRefusal?_of_error hstatus htype)⟩
  | false =>
    have hmedia : arrival.response.mediaRefusal? surroundings = none :=
      Http.Response.mediaRefusal?_of_media hstatus htype
    replace hsplits := hsplits _ List.mem_cons_self
    rcases hdelivery : surroundings.delivery surroundings.settings.chunkSize
      arrival.response.body with ⟨pieces, fault?⟩
    unfold Http.Delivery.Splits at hsplits
    rw [hdelivery] at hsplits
    rw [receive_of_media writer htype hdelivery]
    cases hsize : isOffset surroundings.settings.chunkSize with
    | false => exact ⟨[], writer.takes_nil world, .unsized hmedia hsize⟩
    | true =>
      rw [if_pos rfl]
      rcases writePieces_takes writer pieces surroundings hwritten with
        ⟨after, hwrite, htakes, haccepted⟩ | ⟨index, fault, after, hwrite, htakes, hrefusal, hindex⟩
      · -- the writer takes all pieces, and the stream decides
        rw [bind_apply_of_ok hwrite]
        cases fault? with
        | none => exact ⟨pieces, htakes, .whole hmedia hdelivery hsplits haccepted⟩
        | some fault => exact ⟨pieces, htakes, .broken hmedia hdelivery hsplits haccepted⟩
      · -- the writer refuses a piece, and the end of the stream is not reached
        rw [bind_apply_of_error hwrite]
        have hbody : pieces.flatten <+: arrival.response.body := by
          cases fault? with
          | none => exact hsplits ▸ List.prefix_rfl
          | some fault => exact hsplits
        exact ⟨pieces.take index, htakes, .stopped hmedia hdelivery hbody hrefusal hindex⟩

/-! ## Fetching -/

/-- The world after a response has been closed that had just arrived. -/
theorem closeResponse_sent (request : Http.Request) (response : Http.Response) (world : World τ) :
    closeResponse ⟨world.calls.length, response⟩ (world.sent request (.response response)) =
      world.concluded request (.response response) := by
  unfold closeResponse World.sent World.concluded
  congr 1
  exact List.modifyTailIdx_add _ 0 world.calls _

/-- Without a response, this is reported. -/
theorem checkStatus_none_apply (surroundings : Surroundings τ) (world : World τ) :
    ∃ text lines, checkStatus none surroundings world =
      (.error (.fault (.outside .request text)), world.logged lines) := by
  obtain ⟨text, lines, hsay⟩ := exists_say_apply .error "No API response received" surroundings
    world
  refine ⟨text, lines, ?_⟩
  change (say .error "No API response received" >>= fun text => raise (.outside .request text))
    surroundings world = _
  rw [bind_apply_of_ok hsay]
  rfl

/-- Another status that has a text is reported, and nothing else. -/
theorem checkStatus_apply_of_ne {arrival : Arrival}
    (hstatus : arrival.response.status ≠ acceptedStatus)
    (htext : arrival.response.status.natAbs < Nat.pow 10 Text.digitLimit)
    (surroundings : Surroundings τ) (world : World τ) :
    ∃ lines, checkStatus (some arrival) surroundings world =
      (.error (.fault (.unexpectedStatus arrival.response.status arrival.response.reason)),
        world.logged lines) := by
  rw [checkStatus_of_ne hstatus, bind_apply_of_ok (numeral_apply htext surroundings world)]
  exact ⟨_, rfl⟩

theorem onFailure_apply_of_error {caught : Failure → Bool} {finish : World τ → World τ}
    {operation : Operation τ α} {surroundings : Surroundings τ} {world after : World τ}
    {failure : Failure} (h : operation surroundings world = (.error failure, after)) :
    onFailure caught finish operation surroundings world =
      (.error failure, if caught failure then finish after else after) := by
  unfold onFailure
  rw [h]

/-- The request for a stream, after it has been reported. -/
theorem getStream_apply (url : String) (surroundings : Surroundings τ) (world : World τ) :
    ∃ lines, getStream url surroundings world =
      (exchange (.get url surroundings.settings.timeout true) >>= fun arrival? =>
        onFailure Failure.isUnexpectedStatus
          (fun world => arrival?.elim world (closeResponse · world)) (checkStatus arrival?))
        surroundings (world.logged lines) := by
  obtain ⟨shown, lines, hsay⟩ := exists_say_apply .trace ("GET (stream) " ++ Query.stripped url)
    surroundings world
  refine ⟨lines, ?_⟩
  unfold getStream
  rw [bind_apply_of_ok hsay]
  rfl

/-- A response with the accepted status is handed on. -/
theorem getStream_of_accepted (url : String) {surroundings : Surroundings τ} {world : World τ}
    {response : Http.Response} (hreply : world.next surroundings = .response response)
    (hstatus : response.status = acceptedStatus) :
    ∃ lines, getStream url surroundings world = (.ok ⟨world.calls.length, response⟩,
      (world.sent (.get url surroundings.settings.timeout true) (.response response)).logged
        lines) := by
  obtain ⟨lines, happly⟩ := getStream_apply url surroundings world
  refine ⟨lines, ?_⟩
  rw [happly, bind_apply, exchange_apply, World.next_logged, hreply]
  simp only [received]
  unfold onFailure
  rw [checkStatus_of_eq hstatus]
  rfl

/-- Any other outcome fails. A response with another status is closed at once. -/
theorem getStream_of_other (url : String) {surroundings : Surroundings τ} {world : World τ}
    (htext : (world.next surroundings).HasStatusText)
    (h : ∀ response, world.next surroundings = .response response →
      response.status ≠ acceptedStatus) (refusal : Option (Nat × Fault)) :
    ∃ failure lines, getStream url surroundings world = (.error failure,
        (world.concluded (.get url surroundings.settings.timeout true)
          (world.next surroundings)).logged lines) ∧
      Downloaded surroundings refusal (world.next surroundings) [] (.error failure) := by
  obtain ⟨first, happly⟩ := getStream_apply url surroundings world
  let request : Http.Request := .get url surroundings.settings.timeout true
  rw [happly, bind_apply, exchange_apply, World.next_logged]
  cases hreply : world.next surroundings with
  | absent =>
    obtain ⟨text, second, hcheck⟩ := checkStatus_none_apply surroundings
      ((world.sent request .absent).logged first)
    refine ⟨.fault (.outside .request text), first ++ second, ?_, .unanswered⟩
    rw [← World.logged_logged]
    exact onFailure_apply_of_error hcheck
  | failed fault => exact ⟨_, first, rfl, .failed⟩
  | response response =>
    have hstatus := h response hreply
    let arrival : Arrival := ⟨world.calls.length, response⟩
    have hshort : arrival.response.status.natAbs < Nat.pow 10 Text.digitLimit :=
      htext response hreply
    obtain ⟨second, hcheck⟩ := checkStatus_apply_of_ne hstatus hshort surroundings
      ((world.sent request (.response response)).logged first)
    refine ⟨_, first ++ second, ?_, .refused (Http.Response.mediaRefusal?_of_status hstatus)⟩
    rw [← closeResponse_sent, ← World.logged_logged]
    exact onFailure_apply_of_error hcheck

/-- What is fetched from an address: it ends as the outcome of the one request tells, and a response
has been closed once. -/
theorem fetchMedia_downloaded (url : String) (writer : Writer) {surroundings : Surroundings τ}
    {world : World τ} (hwritten : world.written = [])
    (htext : (world.next surroundings).HasStatusText)
    (hsplits : ∀ size ∈ [surroundings.settings.chunkSize, documentPiece], ∀ body,
      surroundings.delivery.Splits size body) :
    ∃ taken, writer.Takes taken world (fetchMedia url writer surroundings world).2 ∧
      Downloaded surroundings writer.refusal? (world.next surroundings) taken
        ((fetchMedia url writer surroundings world).1.map fun _ => ()) ∧
      (fetchMedia url writer surroundings world).2.calls = world.calls ++
        [⟨.get url surroundings.settings.timeout true, (world.next surroundings).closings⟩] := by
  let request : Http.Request := .get url surroundings.settings.timeout true
  unfold fetchMedia
  by_cases h : ∃ response, world.next surroundings = .response response ∧
      response.status = acceptedStatus
  · obtain ⟨response, hreply, hstatus⟩ := h
    obtain ⟨lines, hstream⟩ := getStream_of_accepted url hreply hstatus
    obtain ⟨taken, htakes, hended⟩ := receive_downloaded ⟨world.calls.length, response⟩ writer
      hstatus (fun size hsize => hsplits size hsize response.body)
      ((world.sent request (.response response)).logged lines) hwritten
    have hkeeps : Keeps World.calls
        (receive ⟨world.calls.length, response⟩ writer : Operation τ Nat) :=
      keeps_receive (fun _ _ => rfl) (fun _ _ => rfl) (fun _ _ => rfl) _ writer
    have hcalls := hkeeps surroundings ((world.sent request (.response response)).logged lines)
    have hclosed := congrArg World.calls (closeResponse_sent request response world)
    rw [bind_apply_of_ok hstream, ensuring_apply, hreply]
    rcases hreceive : receive ⟨world.calls.length, response⟩ writer surroundings
      ((world.sent request (.response response)).logged lines) with ⟨result, after⟩
    rw [hreceive] at htakes hended hcalls
    refine ⟨taken, htakes.congr rfl rfl, hended, ?_⟩
    unfold closeResponse at hclosed ⊢
    rw [hcalls]
    exact hclosed
  · obtain ⟨failure, lines, hstream, hended⟩ := getStream_of_other url htext
      (fun response hreply hstatus => h ⟨response, hreply, hstatus⟩) writer.refusal?
    rw [bind_apply_of_error hstream]
    exact ⟨[], (writer.takes_nil world).congr rfl rfl, hended, rfl⟩

/-! ## Downloads -/

/-- What is reported behind an operation changes neither its result nor, up to the log, what it has
done. -/
theorem bind_say_apply (operation : Operation τ α) (severity : Severity) (text : α → String)
    (surroundings : Surroundings τ) (world : World τ) :
    ∃ lines, (do
        let a ← operation
        let _ ← say severity (text a)) surroundings world =
      ((operation surroundings world).1.map fun _ => (),
        (operation surroundings world).2.logged lines) := by
  rw [bind_apply]
  rcases operation surroundings world with ⟨failure | a, after⟩
  · exact ⟨[], congrArg _ (World.logged_nil after).symm⟩
  · exact ⟨_, rfl⟩

variable [Instant τ]

/-- A download is a fetch from the address of the media, behind the asking for a token. Only the log
tells what has been reported around it. -/
theorem download_apply {mediaId token : String} (hmediaId : mediaId ≠ "") (writer : Writer)
    {surroundings : Surroundings τ} {world : World τ}
    (htoken : (requireToken surroundings world).1 = .ok token) :
    ∃ first between last, requireToken surroundings (world.logged first) = (.ok token, between) ∧
      download mediaId (some writer) surroundings world =
        ((fetchMedia ((Endpoint.mediaDownload token mediaId).address surroundings.settings) writer
            surroundings between).1.map fun _ => (),
          (fetchMedia ((Endpoint.mediaDownload token mediaId).address surroundings.settings) writer
            surroundings between).2.logged last) := by
  obtain ⟨shown, first, hsay⟩ := exists_say_apply .trace ("Downloading media #" ++ mediaId)
    surroundings world
  have hobtained : (requireToken surroundings (world.logged first)).1 = .ok token :=
    (requireToken_congr (World.logged_client world first) rfl token).mpr htoken
  rcases hrequire : requireToken surroundings (world.logged first) with ⟨failure | found, between⟩
  · rw [hrequire] at hobtained
    cases hobtained
  · rw [hrequire] at hobtained
    obtain rfl : found = token := Except.ok.inj hobtained
    obtain ⟨last, hfetch⟩ := bind_say_apply
      (fetchMedia ((Endpoint.mediaDownload found mediaId).address surroundings.settings) writer)
      .trace (fun size => "Media downloaded successfully (" ++ size.repr ++ " bytes)")
      surroundings between
    refine ⟨first, between, last, hrequire, ?_⟩
    rw [download_of_accepted hmediaId, bind_apply_of_ok hsay, bind_apply_of_ok hrequire]
    exact hfetch

/-- A download to a file that can be opened is a download to its end. -/
theorem downloadToFile_apply (mediaId : String) {path : String} {trail : FileTrail}
    {opened : FileStore} {world : World τ} (h : world.files.create path = .ok (trail, opened))
    (surroundings : Surroundings τ) :
    downloadToFile mediaId path surroundings world =
      download mediaId (some (.file trail)) surroundings (world.withFiles opened) := by
  unfold downloadToFile
  rw [bind_apply]
  simp only [observe, h, ofExcept]
  rfl

/-- The request behind those for a token has the outcome at their count. -/
theorem next_requireToken (surroundings : Surroundings τ) (world : World τ) :
    (requireToken surroundings world).2.next surroundings =
      world.reply surroundings (tokenRequests surroundings world.client.cache).length := by
  obtain ⟨count, hforeseen, hrequests, -⟩ := heeds_requireToken surroundings world
  rw [requests_requireToken, List.length_append] at hrequests
  have hcount : count = (tokenRequests surroundings world.client.cache).length := by omega
  unfold World.next World.reply
  rw [hforeseen, hcount]

/-- What a download with a token does, where nothing has been written before. -/
theorem download_downloaded {mediaId token : String} (hmediaId : mediaId ≠ "") (writer : Writer)
    {surroundings : Surroundings τ} {world : World τ}
    (htoken : (requireToken surroundings world).1 = .ok token) (hwritten : world.written = [])
    {outcome : Http.Outcome}
    (houtcome : world.reply surroundings (tokenRequests surroundings world.client.cache).length =
      outcome) (htext : outcome.HasStatusText)
    (hsplits : ∀ size ∈ [surroundings.settings.chunkSize, documentPiece], ∀ body,
      surroundings.delivery.Splits size body) :
    ∃ taken earlier, writer.Takes taken world
        (download mediaId (some writer) surroundings world).2 ∧
      Downloaded surroundings writer.refusal? outcome taken
        (download mediaId (some writer) surroundings world).1 ∧
      earlier.map Http.Call.request =
        world.requests ++ tokenRequests surroundings world.client.cache ∧
      (download mediaId (some writer) surroundings world).2.calls = earlier ++
        [⟨.get ((Endpoint.mediaDownload token mediaId).address surroundings.settings)
          surroundings.settings.timeout true, outcome.closings⟩] := by
  obtain ⟨first, between, last, hrequire, happly⟩ := download_apply hmediaId writer htoken
  have hnext : between.next surroundings = outcome := by
    have hreply := next_requireToken surroundings (world.logged first)
    rw [hrequire] at hreply
    exact hreply.trans houtcome
  have hrequests : between.requests =
      world.requests ++ tokenRequests surroundings world.client.cache := by
    have hsent := requests_requireToken surroundings (world.logged first)
    rwa [hrequire] at hsent
  have hkeeps : Keeps World.stored (requireToken : Operation τ String) :=
    keeps_requireToken (fun _ _ => rfl) (fun _ _ _ => rfl) fun _ _ => rfl
  have hstored := hkeeps surroundings (world.logged first)
  rw [hrequire] at hstored
  have hbetween : between.written = world.written := congrArg Prod.snd hstored
  obtain ⟨taken, htakes, hended, hcalls⟩ := fetchMedia_downloaded
    ((Endpoint.mediaDownload token mediaId).address surroundings.settings) writer
    (hbetween.trans hwritten) (hnext ▸ htext) hsplits
  rw [hnext] at hended hcalls
  rw [happly]
  exact ⟨taken, between.calls, htakes.congr hstored.symm rfl, hended, hrequests, hcalls⟩

end Operation

/-! ## Steps -/

variable [Instant τ]

namespace Step

/-- What becomes of the request for media, which comes behind those for a token. -/
def mediaReply (step : Step τ) : Http.Outcome := step.replyTo step.tokenRequests.length

/-- The request for media with a token. -/
def mediaRequest (step : Step τ) (token mediaId : String) : Http.Request :=
  .get ((Endpoint.mediaDownload token mediaId).address step.turn.surroundings.settings)
    step.turn.surroundings.settings.timeout true

end Step

/-- How the download of a step has ended, where it is known what the pieces that were taken have
left behind. -/
structure Delivered (step : Step τ) (token mediaId : String) (refusal : Option (Nat × Fault))
    (leaves : List Octets → Prop) : Prop where
  /-- The writer has taken what the answer and the writer itself permit. -/
  ended : ∃ taken result, leaves taken ∧
    Operation.Downloaded step.turn.surroundings refusal step.mediaReply taken result ∧
    step.result = result.map fun _ => Answer.done
  /-- The media are requested last, and a response to this request has been closed once. -/
  closed : ∃ earlier, earlier.map Http.Call.request = step.tokenRequests ∧
    step.outcome.world.calls =
      earlier ++ [⟨step.mediaRequest token mediaId, step.mediaReply.closings⟩]

/-- A step that runs a download, possibly after a file has been opened. -/
theorem delivered_of_download {step : Step τ} {mediaId token : String} (hmediaId : mediaId ≠ "")
    (htoken : step.Obtains token) (htext : step.mediaReply.HasStatusText)
    (hsplits : ∀ size ∈ [step.turn.surroundings.settings.chunkSize, Operation.documentPiece],
      ∀ body, step.turn.surroundings.delivery.Splits size body) (writer : Operation.Writer)
    (files : FileStore) {leaves : List Octets → Prop}
    (hplay : step.turn.action.operation step.turn.surroundings step.before =
      ((fun _ => Answer.done) <$> Operation.download mediaId (some writer)) step.turn.surroundings
        (step.before.withFiles files))
    (hleaves : ∀ taken, writer.Takes taken (step.before.withFiles files) step.outcome.world →
      leaves taken) :
    Delivered step token mediaId writer.refusal? leaves := by
  have hclient : step.before.client = (step.before.withFiles files).client := rfl
  have hobtained : (Operation.requireToken step.turn.surroundings
      (step.before.withFiles files)).1 = .ok token :=
    (Operation.requireToken_congr hclient rfl token).mp htoken
  obtain ⟨taken, earlier, htakes, hended, hrequests, hcalls⟩ :=
    Operation.download_downloaded hmediaId writer hobtained rfl
      (congrArg step.replyTo (congrArg List.length step.tokenRequests_eq.symm)) htext hsplits
  rw [Operation.map_apply] at hplay
  have hresult := congrArg Prod.fst hplay
  have hworld : step.outcome.world = _ := congrArg Prod.snd hplay
  rw [← hworld] at htakes hcalls
  exact
    { ended := ⟨taken, _, hleaves taken htakes, hended, hresult⟩
      closed := ⟨earlier, hrequests.trans step.tokenRequests_eq.symm, hcalls⟩ }

/-- A download to the caller's writer. -/
theorem delivered_to_caller {step : Step τ} {mediaId token : String} (hmediaId : mediaId ≠ "")
    (htoken : step.Obtains token) (htext : step.mediaReply.HasStatusText)
    (hsplits : ∀ size ∈ [step.turn.surroundings.settings.chunkSize, Operation.documentPiece],
      ∀ body, step.turn.surroundings.delivery.Splits size body) {refusal : Option (Nat × Fault)}
    (haction : step.turn.action = .download mediaId (some (.caller refusal))) :
    Delivered step token mediaId refusal fun taken => step.outcome.world.written = taken := by
  refine delivered_of_download hmediaId htoken htext hsplits (.caller refusal)
    step.session.files ?_ fun taken htakes => htakes
  rw [haction]
  rfl

/-- **Delivered downloads.** For every step that obtains a token, whatever the client keeps, the
configuration, the answer, and the pieces in which a body arrives: a download to the caller's writer
has given it what the ending tells, and a download to a file has left exactly this in the file,
whatever the file held before. In both cases the response is closed. -/
theorem downloads_delivered {step : Step τ} {mediaId token : String} (hmediaId : mediaId ≠ "")
    (htoken : step.Obtains token) (htext : step.mediaReply.HasStatusText)
    (hsplits : ∀ size ∈ [step.turn.surroundings.settings.chunkSize, Operation.documentPiece],
      ∀ body, step.turn.surroundings.delivery.Splits size body) :
    (∀ refusal, step.turn.action = .download mediaId (some (.caller refusal)) →
      Delivered step token mediaId refusal fun taken => step.outcome.world.written = taken) ∧
    ∀ path trail opened, step.turn.action = .downloadToFile mediaId path →
      step.session.files.create path = .ok (trail, opened) →
      Delivered step token mediaId none fun taken =>
        step.outcome.world.files.read path = .ok taken.flatten := by
  constructor
  · exact fun refusal haction => delivered_to_caller hmediaId htoken htext hsplits haction
  · intro path trail opened haction hcreate
    refine delivered_of_download hmediaId htoken htext hsplits (.file trail) opened ?_
      fun taken htakes => ?_
    · have hopened : step.before.files.create path = .ok (trail, opened) := hcreate
      have hdownload := Operation.downloadToFile_apply mediaId hopened step.turn.surroundings
      rw [haction]
      change ((fun _ => Answer.done) <$> Operation.downloadToFile mediaId path) _ _ = _
      rw [Operation.map_apply, Operation.map_apply, hdownload]
    · rcases htakes with ⟨rfl, hfiles⟩ | hfiles
      · rw [hfiles]
        exact FileStore.read_of_create hcreate
      · rw [hfiles]
        exact FileStore.read_append_of_create hcreate _

/-- A response that brings no media: nothing is taken, and the failure is that of the response. -/
theorem Delivered.result_of_refused {step : Step τ} {token mediaId : String}
    {refusal : Option (Nat × Fault)} {leaves : List Octets → Prop}
    (h : Delivered step token mediaId refusal leaves) {response : Http.Response}
    (hreply : step.mediaReply = .response response) {failure : Failure}
    (hrefusal : response.mediaRefusal? step.turn.surroundings = some failure) :
    leaves [] ∧ step.result = .error failure := by
  obtain ⟨taken, result, hleaves, hended, hresult⟩ := h.ended
  rw [hreply] at hended
  cases hended with
  | refused hother =>
    cases hother.symm.trans hrefusal
    exact ⟨hleaves, hresult⟩
  | unsized hmedia | whole hmedia | broken hmedia | stopped hmedia =>
    cases hmedia.symm.trans hrefusal

/-- A store with a file that holds something. -/
def trialFile : FileStore := ⟨[(["f"], .file [9])]⟩

/-- The first step of a client, in which a token is granted and media are answered. -/
def trialMedia (delivery : Http.Delivery) (response : Http.Response) (action : Action) : Step Nat :=
  ⟨.new trialFile, { Surroundings.trial 0 with delivery := delivery },
    [.response trialGrant, .response response], action⟩

section Trials

variable (delivery : Http.Delivery) (response : Http.Response) (action : Action)

theorem trialMedia_obtains : (trialMedia delivery response action).Obtains "T" := by
  have hcredentials : ¬ (Surroundings.trial 0).settings.LacksCredentials := by decide
  refine Operation.requireToken_eq_ok_iff.mpr (.inr ⟨rfl, hcredentials, ⟨"T", 100⟩, ?_⟩)
  exact ⟨trialGrant_delivers, nofun, rfl⟩

theorem trialMedia_mediaReply :
    (trialMedia delivery response action).mediaReply = .response response := by
  have hcredentials : ¬ (Surroundings.trial 0).settings.LacksCredentials := by decide
  have hrequests : (trialMedia delivery response action).tokenRequests =
      [(Surroundings.trial 0).settings.tokenRequest] := Step.tokenRequests_of_new hcredentials
  unfold Step.mediaReply
  rw [hrequests]
  rfl

theorem trialMedia_hasStatusText (h : response.status = 200) :
    (trialMedia delivery response action).mediaReply.HasStatusText := by
  rw [trialMedia_mediaReply]
  rintro _ ⟨⟩
  rw [h]
  exact Nat.lt_of_lt_of_le (by decide) (Text.pow_le_digitLimit (k := 3) (by decide))

end Trials

/-- The sizes of pieces that are asked for are not zero. -/
theorem trialMedia_splits {size : Int} (hsize : size ∈ [32768, Operation.documentPiece])
    (body : Octets) : Http.Delivery.complete.Splits size body := by
  refine Http.Delivery.complete_splits ?_ body
  rintro rfl
  revert hsize
  decide

/-- An image. -/
def trialImage : Http.Response := ⟨200, none, [("Content-Type", "image/png")], [1, 2, 3]⟩

/-- A document that reports no error. -/
def trialDocument (type : String) : Http.Response :=
  ⟨200, none, [("Content-Type", type)],
    Utf8.encode "\x7b\"errcode\": 0, \"errmsg\": \"ok\"\x7d".toList⟩

theorem trialDocument_reported :
    (trialDocument "Text/Plain ; charset=utf-8").mediaRefusal? (Surroundings.trial 0) =
      some (.fault (.api 0 "ok")) := by
  have hdocument : ((trialDocument "Text/Plain ; charset=utf-8").document .trial).toOption =
      some (.object [("errcode", .integer 0), ("errmsg", .string "ok")]) := by decide +kernel
  rw [Http.Response.mediaRefusal?_of_error rfl (by decide +kernel)]
  cases hread : (trialDocument "Text/Plain ; charset=utf-8").document .trial with
  | error failure =>
    rw [hread] at hdocument
    cases hdocument
  | ok document =>
    rw [hread] at hdocument
    cases hdocument
    have hreading : (Surroundings.trial 0).reading = .trial := rfl
    unfold Http.Response.reported
    rw [hreading, hread]
    rfl

/-- An image is given to the caller and written to a file; a document is neither, although it
reports no error. -/
theorem downloads_delivered_of_trial :
    Delivered (trialMedia .complete trialImage (.download "m" (some (.caller none)))) "T" "m" none
      (fun taken => (trialMedia .complete trialImage
        (.download "m" (some (.caller none)))).outcome.world.written = taken) ∧
    Delivered (trialMedia .complete trialImage (.downloadToFile "m" "f")) "T" "m" none
      (fun taken => (trialMedia .complete trialImage
        (.downloadToFile "m" "f")).outcome.world.files.read "f" = .ok taken.flatten) ∧
    (trialMedia .complete (trialDocument "Text/Plain ; charset=utf-8")
      (.download "m" (some (.caller none)))).outcome.world.written = [] ∧
    (trialMedia .complete (trialDocument "Text/Plain ; charset=utf-8")
      (.download "m" (some (.caller none)))).result = .error (.fault (.api 0 "ok")) := by
  have hmediaId : "m" ≠ "" := by decide
  have hdelivers (response : Http.Response) (hstatus : response.status = 200) (action : Action) :=
    downloads_delivered hmediaId (trialMedia_obtains .complete response action)
      (trialMedia_hasStatusText .complete response action hstatus) fun _ => trialMedia_splits
  refine ⟨?_, ?_, ?_⟩
  · exact (hdelivers trialImage rfl _).1 none rfl
  · have hopened : (FileStore.create "f" trialFile).toOption.isSome = true := by decide +kernel
    rcases hcreate : FileStore.create "f" trialFile with fault | ⟨trail, opened⟩
    · rw [hcreate] at hopened
      cases hopened
    · exact (hdelivers trialImage rfl _).2 "f" trail opened rfl hcreate
  · have hdelivered := (hdelivers (trialDocument "Text/Plain ; charset=utf-8") rfl
      (.download "m" (some (.caller none)))).1 none rfl
    exact hdelivered.result_of_refused (trialMedia_mediaReply _ _ _) trialDocument_reported

/-- A stream that breaks before anything has arrived. -/
def brokenDelivery : Http.Delivery := fun _ _ => ([], some (.outside .connection "x"))

theorem brokenDelivery_splits (size : Int) (body : Octets) : brokenDelivery.Splits size body :=
  List.nil_prefix

/-- A document that is downloaded to the caller's writer is reported as a failure. -/
theorem result_of_trialDocument {delivery : Http.Delivery}
    (hsplits : ∀ size ∈ [32768, Operation.documentPiece], ∀ body, delivery.Splits size body)
    (type : String) {failure : Failure}
    (hrefusal : (trialDocument type).mediaRefusal?
      { Surroundings.trial 0 with delivery := delivery } = some failure) :
    (trialMedia delivery (trialDocument type) (.download "m" (some (.caller none)))).result =
      .error failure := by
  have hmediaId : "m" ≠ "" := by decide
  have hdelivered := delivered_to_caller hmediaId
    (trialMedia_obtains delivery (trialDocument type) (.download "m" (some (.caller none))))
    (trialMedia_hasStatusText delivery (trialDocument type) _ rfl) hsplits rfl
  exact (hdelivered.result_of_refused (trialMedia_mediaReply _ _ _) hrefusal).2

/-- Under a type of errors, a fault of the stream is reported in place of what the document tells,
and so is a character set that cannot be decoded. -/
theorem other_failures_of_document :
    (trialDocument "application/json").kind = "application/json" ∧
      (trialMedia brokenDelivery (trialDocument "application/json")
        (.download "m" (some (.caller none)))).result =
          .error (.fault (.outside .connection "x")) ∧
    (trialDocument "text/plain; charset=idna").kind = "text/plain" ∧
      ∃ fault, (trialMedia .complete (trialDocument "text/plain; charset=idna")
        (.download "m" (some (.caller none)))).result = .error (.charset fault) := by
  refine ⟨by decide +kernel, ?_, by decide +kernel, ?_⟩
  · refine result_of_trialDocument (fun size _ => brokenDelivery_splits size) _ ?_
    rw [Http.Response.mediaRefusal?_of_error rfl (by decide +kernel)]
    rfl
  · have htext : (trialDocument "text/plain; charset=idna").text.toOption = none := by
      decide +kernel
    cases hfault : (trialDocument "text/plain; charset=idna").text with
    | ok text =>
      rw [hfault] at htext
      cases htext
    | error fault =>
      refine ⟨fault, result_of_trialDocument (fun _ => trialMedia_splits) _ ?_⟩
      rw [Http.Response.mediaRefusal?_of_error rfl (by decide +kernel)]
      unfold Http.Response.reported Http.Response.document
      rw [hfault]
      rfl

end PlatformClient
