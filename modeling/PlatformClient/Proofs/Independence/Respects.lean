import PlatformClient.Proofs.Download.Delivered

/-!
# Operations in related worlds

Two worlds may differ in what an operation does not look at. If a relation of worlds is kept by
everything that an operation does to them, then the operation has the same result in both, and what
it leaves behind is related again. Which parts of worlds have to be equal depends on the operation:
asking for a token needs the cache and the documents that are fetched, downloads the files and the
streams too. Documents and streams are the same where the outcomes to come are.

## Main definitions

* `World.Companions`: relations that requests and the cache keep
* `World.CloseCompanions`: relations that also responses, files and writers keep
* `Operation.Respects`: operations with the same result in related worlds
* `Operation.Peers`, `Operation.ClosePeers`: relations of worlds in which documents, and also
  streams, are fetched in the same way
* `Operation.PoolPeers`: relations of worlds with the same pool

## Main results

* `Respects.bind`, `Blind.respects`: sequences, and what does not look at the world
* `respects_fetchJson`, `respects_getStream`: requests where the outcomes to come are the same
* `respects_requireToken`, `PostsTo.respects`, `respects_download`: the operations of a client that
  use no buffer
* `Respects.borrowing`: work with a borrowed buffer, where the pools are the same
* `Action.respects_of_upload`: an operation of a client, if uploads are respected
-/

namespace PlatformClient

variable {τ α β : Type}

/-- The world after further pieces have been written. -/
def World.wrote (pieces : List Octets) (world : World τ) : World τ :=
  { world with written := world.written ++ pieces }

/-- A relation of worlds with the same cache, the same outcomes to come and as many calls, which
requests, the cache and the log keep. -/
structure World.Companions (Related : World τ → World τ → Prop) : Prop where
  cache : ∀ {world other}, Related world other → world.client.cache = other.client.cache
  foreseen : ∀ {world other}, Related world other → world.foreseen = other.foreseen
  place : ∀ {world other}, Related world other → world.calls.length = other.calls.length
  logged : ∀ {world other} lines, Related world other →
    Related (World.logged lines world) (World.logged lines other)
  sent : ∀ {world other} request outcome, Related world other →
    Related (World.sent request outcome world) (World.sent request outcome other)
  withCache : ∀ {world other} cache, Related world other →
    Related (World.withCache cache world) (World.withCache cache other)

/-- A relation of worlds that also have the same files and have written the same, which files,
writers and the closing of responses keep. -/
structure World.CloseCompanions (Related : World τ → World τ → Prop) : Prop
    extends Companions Related where
  files : ∀ {world other}, Related world other → world.files = other.files
  written : ∀ {world other}, Related world other → world.written = other.written
  withFiles : ∀ {world other} files, Related world other →
    Related (World.withFiles files world) (World.withFiles files other)
  wrote : ∀ {world other} pieces, Related world other →
    Related (World.wrote pieces world) (World.wrote pieces other)
  closeResponse : ∀ {world other} arrival, Related world other →
    Related (Operation.closeResponse arrival world) (Operation.closeResponse arrival other)

namespace Operation

/-- In given surroundings, an operation has the same result in related worlds, and the worlds it
leaves behind are related. -/
def Respects (surroundings : Surroundings τ) (Related : World τ → World τ → Prop)
    (operation : Operation τ α) : Prop :=
  ∀ world other, Related world other → ∃ result after after', Related after after' ∧
    operation surroundings world = (result, after) ∧
    operation surroundings other = (result, after')

variable {surroundings : Surroundings τ} {Related : World τ → World τ → Prop}

/-! ## Sequences -/

theorem Respects.bind {operation : Operation τ α} {next : α → Operation τ β}
    (h : Respects surroundings Related operation)
    (hnext : ∀ a, Respects surroundings Related (next a)) :
    Respects surroundings Related (operation >>= next) := by
  intro world other hworld
  obtain ⟨result, after, after', hafter, happly, happly'⟩ := h world other hworld
  cases result with
  | error failure =>
    exact ⟨.error failure, after, after', hafter, bind_apply_of_error happly,
      bind_apply_of_error happly'⟩
  | ok a =>
    rw [bind_apply_of_ok happly, bind_apply_of_ok happly']
    exact hnext a after after' hafter

theorem Respects.map {operation : Operation τ α} (h : Respects surroundings Related operation)
    (f : α → β) : Respects surroundings Related (f <$> operation) := by
  intro world other hworld
  obtain ⟨result, after, after', hafter, happly, happly'⟩ := h world other hworld
  refine ⟨result.map f, after, after', hafter, ?_, ?_⟩
  · rw [map_apply, happly]
  · rw [map_apply, happly']

/-- What has to be finished in the same way. -/
theorem Respects.ensuring {operation : Operation τ α} (h : Respects surroundings Related operation)
    {finish : World τ → World τ}
    (hfinish : ∀ world other, Related world other → Related (finish world) (finish other)) :
    Respects surroundings Related (ensuring finish operation) := by
  intro world other hworld
  obtain ⟨result, after, after', hafter, happly, happly'⟩ := h world other hworld
  refine ⟨result, finish after, finish after', hfinish _ _ hafter, ?_, ?_⟩
  · rw [ensuring_apply, happly]
  · rw [ensuring_apply, happly']

/-- What has to be finished in the same way if it fails in one of the ways that are caught. -/
theorem Respects.onFailure {operation : Operation τ α}
    (h : Respects surroundings Related operation) (caught : Failure → Bool)
    {finish : World τ → World τ}
    (hfinish : ∀ world other, Related world other → Related (finish world) (finish other)) :
    Respects surroundings Related (onFailure caught finish operation) := by
  intro world other hworld
  obtain ⟨result, after, after', hafter, happly, happly'⟩ := h world other hworld
  unfold Operation.onFailure
  rw [happly, happly']
  cases result with
  | ok a => exact ⟨_, _, _, hafter, rfl, rfl⟩
  | error failure =>
    refine ⟨_, _, _, ?_, rfl, rfl⟩
    cases caught failure with
    | false => exact hafter
    | true => exact hfinish _ _ hafter

/-- A change that keeps worlds related. -/
theorem respects_change {change : World τ → World τ}
    (h : ∀ world other, Related world other → Related (change world) (change other)) :
    Respects surroundings Related (Operation.change change) :=
  fun _ _ hworld => ⟨.ok (), _, _, h _ _ hworld, rfl, rfl⟩

/-- A part that related worlds have in common. -/
theorem respects_observe {part : World τ → α}
    (h : ∀ world other, Related world other → part world = part other) :
    Respects surroundings Related (observe part) :=
  fun world other hworld =>
    ⟨.ok (part other), world, other, hworld, by rw [observe, h _ _ hworld], rfl⟩

/-- What does not look at the world, if the log keeps worlds related. -/
theorem Blind.respects_of_logged {operation : Operation τ α} (hblind : Blind operation)
    (hlogged : ∀ {world other} lines, Related world other →
      Related (World.logged lines world) (World.logged lines other)) :
    Respects surroundings Related operation := by
  intro world other hworld
  obtain ⟨result, lines, happly⟩ := hblind surroundings
  exact ⟨result, _, _, hlogged lines hworld, happly world, happly other⟩

/-! ## Requests with the same outcomes -/

/-- A request has the same outcome, and its response the same place. -/
theorem respects_exchange (h : World.Companions Related) (request : Http.Request) :
    Respects surroundings Related (exchange request) := by
  intro world other hworld
  have hnext : world.next surroundings = other.next surroundings := by
    rw [World.next, World.next, h.foreseen hworld]
  refine ⟨received other.calls.length (other.next surroundings), _, _,
    h.sent request (other.next surroundings) hworld, ?_, exchange_apply _ _ _⟩
  rw [exchange_apply, hnext, h.place hworld]

theorem respects_fetchJson (h : World.Companions Related) (request : Http.Request) :
    Respects surroundings Related (fetchJson request) := by
  refine (respects_exchange h request).bind fun arrival? => ?_
  exact ((blind_checkStatus arrival?).respects_of_logged h.logged).bind fun arrival =>
    (blind_readJson arrival).respects_of_logged h.logged

/-- A stream is opened; a refused response is closed in both worlds. -/
theorem respects_getStream (h : World.CloseCompanions Related) (url : String) :
    Respects surroundings Related (getStream url) := by
  refine ((blind_say _ _).respects_of_logged h.logged).bind fun _ => ?_
  refine (blind_settings.respects_of_logged h.logged).bind fun current => ?_
  refine (respects_exchange h.toCompanions _).bind fun arrival? => ?_
  refine ((blind_checkStatus arrival?).respects_of_logged h.logged).onFailure _ fun _ _ hworld => ?_
  cases arrival? with
  | none => exact hworld
  | some arrival => exact h.closeResponse arrival hworld

/-! ## Worlds in which the same is fetched -/

/-- A relation of worlds with the same cache in which documents are fetched in the same way, which
the cache and the log keep. -/
structure Peers (surroundings : Surroundings τ) (Related : World τ → World τ → Prop) : Prop where
  cache : ∀ {world other}, Related world other → world.client.cache = other.client.cache
  logged : ∀ {world other} lines, Related world other →
    Related (World.logged lines world) (World.logged lines other)
  withCache : ∀ {world other} cache, Related world other →
    Related (World.withCache cache world) (World.withCache cache other)
  fetchJson : ∀ request, Respects surroundings Related (fetchJson request)

/-- A relation of worlds that also have the same files and have written the same, in which streams
are opened in the same way, and which files, writers and the closing of responses keep. -/
structure ClosePeers (surroundings : Surroundings τ) (Related : World τ → World τ → Prop) : Prop
    extends Peers surroundings Related where
  files : ∀ {world other}, Related world other → world.files = other.files
  written : ∀ {world other}, Related world other → world.written = other.written
  withFiles : ∀ {world other} files, Related world other →
    Related (World.withFiles files world) (World.withFiles files other)
  wrote : ∀ {world other} pieces, Related world other →
    Related (World.wrote pieces world) (World.wrote pieces other)
  closeResponse : ∀ {world other} arrival, Related world other →
    Related (Operation.closeResponse arrival world) (Operation.closeResponse arrival other)
  getStream : ∀ url, Respects surroundings Related (getStream url)

/-- Where the outcomes to come are the same, the same is fetched. -/
theorem peers_of_companions (h : World.Companions Related) (surroundings : Surroundings τ) :
    Peers surroundings Related where
  cache := h.cache
  logged := h.logged
  withCache := h.withCache
  fetchJson := respects_fetchJson h

theorem closePeers_of_companions (h : World.CloseCompanions Related)
    (surroundings : Surroundings τ) : ClosePeers surroundings Related where
  toPeers := peers_of_companions h.toCompanions surroundings
  files := h.files
  written := h.written
  withFiles := h.withFiles
  wrote := h.wrote
  closeResponse := h.closeResponse
  getStream := respects_getStream h

section Peers

variable (h : Peers surroundings Related)
include h

/-- What does not look at the world. -/
theorem Blind.respects {operation : Operation τ α} (hblind : Blind operation) :
    Respects surroundings Related operation :=
  hblind.respects_of_logged h.logged

theorem respects_getJson (url : String) : Respects surroundings Related (getJson url) :=
  ((blind_say _ _).respects h).bind fun _ => (blind_settings.respects h).bind fun _ =>
    h.fetchJson _

theorem respects_postJson (url : String) (payload : Json) :
    Respects surroundings Related (postJson url payload) := by
  refine ((blind_say _ _).respects h).bind fun _ => ?_
  refine ((blind_ofExcept _ _).respects h).bind fun text => ?_
  exact (blind_settings.respects h).bind fun _ => h.fetchJson _

theorem respects_postMultipart (url : String) (body : Octets) (contentType : String) :
    Respects surroundings Related (postMultipart url body contentType) :=
  ((blind_say _ _).respects h).bind fun _ => (blind_settings.respects h).bind fun _ =>
    h.fetchJson _

/-! ## Tokens -/

theorem respects_setCache (cache : TokenCache τ) :
    Respects surroundings Related (setCache cache) :=
  respects_change fun _ _ hworld => h.withCache cache hworld

theorem respects_fetchGrant : Respects surroundings Related fetchGrant := by
  refine (blind_settings.respects h).bind fun current => ?_
  split
  · exact ((blind_say _ _).bind fun _ => blind_raise _).respects h
  · refine ((blind_addressOf _).respects h).bind fun url => ?_
    exact (respects_getJson h url).bind fun document => (blind_decode _ document).respects h

variable [Instant τ]

theorem respects_keepGrant (grant : Grant) : Respects surroundings Related (keepGrant grant) := by
  refine (blind_surroundings.respects h).bind fun current => ?_
  refine (respects_observe fun _ _ hworld => h.cache hworld).bind fun cache => ?_
  refine (respects_setCache h _).bind fun _ => ?_
  cases Instant.after? current.answered _ with
  | none => exact (blind_fail _).respects h
  | some expiry =>
    refine (respects_setCache h _).bind fun _ => ?_
    exact ((blind_say _ _).bind fun _ => blind_pure ()).respects h

/-- The same token is obtained, or none for the same reason. -/
theorem respects_requireToken : Respects surroundings Related requireToken := by
  refine (blind_surroundings.respects h).bind fun current => ?_
  refine (respects_observe fun _ _ hworld => h.cache hworld).bind fun cache => ?_
  cases cache.usable? current.started with
  | some token => exact (blind_pure token).respects h
  | none =>
    refine ((blind_say _ _).respects h).bind fun _ => (respects_fetchGrant h).bind fun grant => ?_
    exact (respects_keepGrant h grant).bind fun _ => (blind_pure grant.token).respects h

theorem respects_invalidateToken : Respects surroundings Related invalidateToken :=
  ((blind_say _ _).respects h).bind fun _ => respects_setCache h .empty

/-- What posts a document. -/
theorem PostsTo.respects {endpoint : String → Endpoint} {operation : Operation τ α}
    (hposts : PostsTo endpoint operation) : Respects surroundings Related operation := by
  induction hposts with
  | posted payload hnext =>
    refine (respects_requireToken h).bind fun token => ?_
    refine ((blind_addressOf (endpoint token)).respects h).bind fun url => ?_
    refine (respects_postJson h url payload).bind fun document => ?_
    exact ((blind_requireSuccess document).bind fun envelope => hnext document envelope).respects h
  | behind hpreface _ ih => exact (hpreface.respects h).bind ih

end Peers

/-! ## Downloads -/

section ClosePeers

variable (h : ClosePeers surroundings Related)
include h

theorem respects_give (pieces : List Octets) :
    Respects surroundings Related (Operation.change (World.wrote pieces)) :=
  respects_change fun _ _ hworld => h.wrote pieces hworld

theorem respects_writePieces (writer : Writer) (pieces : List Octets) :
    Respects surroundings Related (writePieces writer pieces) := by
  have hpeers := h.toPeers
  cases writer with
  | file trail =>
    refine respects_change fun world other hworld => ?_
    rw [h.files hworld]
    exact h.withFiles _ hworld
  | caller refusal =>
    have htaken : Respects surroundings Related
        (observe fun world : World τ => world.written.length) :=
      respects_observe fun _ _ hworld => congrArg List.length (h.written hworld)
    refine htaken.bind fun taken => ?_
    rcases refusal with _ | ⟨index, fault⟩
    · exact respects_give h pieces
    · simp only
      split
      · exact (respects_give h _).bind fun _ => (blind_raise fault).respects hpeers
      · exact respects_give h pieces

theorem respects_receive (arrival : Arrival) (writer : Writer) :
    Respects surroundings Related (receive arrival writer) := by
  have hpeers := h.toPeers
  unfold receive
  split
  · refine ((blind_readStream arrival).respects hpeers).bind fun document => ?_
    refine ((blind_readAs _ document).respects hpeers).bind fun envelope => ?_
    refine ((blind_numeral _).respects hpeers).bind fun code => ?_
    exact ((blind_say _ _).bind fun _ => blind_raise _).respects hpeers
  · refine (blind_surroundings.respects hpeers).bind fun current => ?_
    rcases current.delivery current.settings.chunkSize arrival.response.body with ⟨pieces, fault⟩
    cases isOffset current.settings.chunkSize with
    | false => exact (blind_fail _).respects hpeers
    | true =>
      refine (respects_writePieces h writer pieces).bind fun _ => ?_
      cases fault with
      | some fault => exact (blind_raise fault).respects hpeers
      | none => exact (blind_pure _).respects hpeers

theorem respects_fetchMedia (url : String) (writer : Writer) :
    Respects surroundings Related (fetchMedia url writer) := by
  refine (h.getStream url).bind fun arrival => ?_
  exact (respects_receive h arrival writer).ensuring fun _ _ hworld =>
    h.closeResponse arrival hworld

variable [Instant τ]

theorem respects_download (mediaId : String) (writer : Option Writer) :
    Respects surroundings Related (download mediaId writer) := by
  have hpeers := h.toPeers
  rcases download_refused_or_accepted (τ := τ) mediaId writer with
    ⟨fault, hrefused⟩ | ⟨found, -, haccepted⟩
  · rw [hrefused]
    exact (blind_raise fault).respects hpeers
  · rw [haccepted]
    refine ((blind_say _ _).respects hpeers).bind fun _ => ?_
    refine (respects_requireToken hpeers).bind fun token => ?_
    refine ((blind_addressOf _).respects hpeers).bind fun url => ?_
    refine (respects_fetchMedia h url found).bind fun size => ?_
    exact ((blind_say _ _).bind fun _ => blind_pure ()).respects hpeers

theorem respects_downloadToFile (mediaId path : String) :
    Respects surroundings Related (downloadToFile mediaId path) := by
  refine (respects_observe fun _ _ hworld => h.files hworld).bind fun files => ?_
  refine ((blind_ofExcept _ _).respects h.toPeers).bind fun created => ?_
  exact (respects_change fun _ _ hworld => h.withFiles created.2 hworld).bind fun _ =>
    respects_download h mediaId _

end ClosePeers

/-! ## Uploads -/

/-- An upload, if the work with its buffer is respected. -/
theorem respects_upload_of_borrowing [Instant τ] (h : Peers surroundings Related)
    (hwork : ∀ token medium filename source, Respects surroundings Related
      (borrowing (sendFile token medium filename source)))
    (kind : Json) (filename : String) (source : Option Source) :
    Respects surroundings Related (upload kind filename source) := by
  rcases upload_refused_or_accepted (τ := τ) kind filename source with
    ⟨fault, hrefused⟩ | ⟨medium, file, haccepted⟩
  · rw [hrefused]
    exact (blind_raise fault).respects h
  · rw [haccepted]
    refine ((blind_say _ _).respects h).bind fun _ => ?_
    refine (respects_requireToken h).bind fun token => ?_
    refine (hwork token medium filename file).bind fun document => ?_
    exact (blind_readReceipt medium document).respects h

/-! ## Equal pools -/

/-- A relation of worlds that also have the same pool, which another pool keeps. -/
structure PoolPeers (surroundings : Surroundings τ) (Related : World τ → World τ → Prop) : Prop
    extends Peers surroundings Related where
  pool : ∀ {world other}, Related world other → world.client.pool? = other.client.pool?
  withPool : ∀ {world other} pool, Related world other →
    Related (withPool world pool) (withPool other pool)

section PoolPeers

variable (h : PoolPeers surroundings Related)
include h

/-- A pool that does not exist yet is created in both worlds, of the same size. -/
theorem respects_pool : Respects surroundings Related pool := by
  intro world other hworld
  unfold pool
  rw [h.pool hworld]
  cases other.client.pool? with
  | some idle => exact ⟨_, _, _, hworld, rfl, rfl⟩
  | none =>
    cases Pool.create? surroundings.settings.poolSize with
    | none => exact ⟨_, _, _, hworld, rfl, rfl⟩
    | some idle => exact ⟨_, _, _, h.withPool idle hworld, rfl, rfl⟩

theorem respects_useBuffer (number : Nat) (use : Buffer → Except BufferFault Buffer) :
    Respects surroundings Related (useBuffer number use) := by
  refine (respects_pool h).bind fun before => ?_
  refine ((blind_ofExcept _ _).respects h.toPeers).bind fun after => ?_
  exact respects_change fun _ _ hworld => h.withPool after hworld

theorem respects_bufferRest (number : Nat) : Respects surroundings Related (bufferRest number) :=
  (respects_pool h).bind fun _ => (blind_ofExcept _ _).respects h.toPeers

theorem respects_writeMultipart (number : Nat) (boundary filename : String) (source : Source) :
    Respects surroundings Related (writeMultipart number boundary filename source) := by
  have hpeers := h.toPeers
  unfold writeMultipart
  cases Multipart.boundaryFault? boundary.toList with
  | some fault => exact (blind_fail _).respects hpeers
  | none =>
    refine (respects_useBuffer h _ _).bind fun _ => (respects_useBuffer h _ _).bind fun _ => ?_
    cases source.fault with
    | some fault => exact (blind_raise fault).respects hpeers
    | none => exact (respects_useBuffer h _ _).bind fun _ => respects_useBuffer h _ _

theorem respects_sendFile (token : String) (medium : MediaType) (filename : String)
    (source : Source) (number : Nat) :
    Respects surroundings Related (sendFile token medium filename source number) := by
  have hpeers := h.toPeers
  refine (blind_surroundings.respects hpeers).bind fun current => ?_
  refine (respects_writeMultipart h number current.boundary filename source).bind fun _ => ?_
  refine ((blind_addressOf _).respects hpeers).bind fun url => ?_
  refine (respects_bufferRest h number).bind fun body => ?_
  exact respects_postMultipart hpeers url body _

/-- Work with a borrowed buffer, if the work itself is respected. -/
theorem Respects.borrowing {work : Nat → Operation τ α}
    (hwork : ∀ number, Respects surroundings Related (work number)) :
    Respects surroundings Related (borrowing work) := by
  refine (respects_pool h).bind fun idle => ?_
  intro world other hworld
  obtain ⟨result, after, after', hafter, happly, happly'⟩ :=
    hwork idle.checkout.1 _ _ (h.withPool idle.checkout.2 hworld)
  simp only [Pool.borrow, happly, happly', h.pool hafter]
  cases (after'.client.pool?.getD idle.checkout.2).release idle.checkout.1 with
  | ok returned => exact ⟨_, _, _, h.withPool returned hafter, rfl, rfl⟩
  | error fault => exact ⟨_, _, _, h.withPool _ hafter, rfl, rfl⟩

theorem respects_upload_of_samePool [Instant τ] (kind : Json) (filename : String)
    (source : Option Source) :
    Respects surroundings Related (upload kind filename source) :=
  respects_upload_of_borrowing h.toPeers
    (fun token medium filename source =>
      Respects.borrowing h (respects_sendFile h token medium filename source))
    kind filename source

end PoolPeers

end Operation

/-- An operation of a client, if uploads are respected. -/
theorem Action.respects_of_upload [Instant τ] {surroundings : Surroundings τ}
    {Related : World τ → World τ → Prop} (h : Operation.ClosePeers surroundings Related)
    (hupload : ∀ kind filename source, Operation.Respects surroundings Related
      (Operation.upload kind filename source)) (action : Action) :
    Operation.Respects surroundings Related action.operation := by
  have hpeers := h.toPeers
  cases action with
  | requireToken => exact (Operation.respects_requireToken hpeers).map _
  | invalidateToken => exact (Operation.respects_invalidateToken hpeers).map _
  | upload kind filename source => exact (hupload kind filename source).map _
  | uploadFromFile kind path =>
    refine Operation.Respects.map ?_ _
    refine (Operation.respects_observe fun _ _ hworld => h.files hworld).bind fun files => ?_
    refine ((Operation.blind_ofExcept _ _).respects hpeers).bind fun data => ?_
    exact hupload kind _ _
  | download mediaId writer => exact (Operation.respects_download h mediaId writer).map _
  | downloadToFile mediaId path =>
    exact (Operation.respects_downloadToFile h mediaId path).map _
  | uploadNews _ | uploadVideo _ | orderById _ | ordersByFilter _ | setDelivery _ _ _
  | closeOrder _ =>
    exact (Action.postsTo rfl).respects hpeers
  | getJson url => exact (Operation.respects_getJson hpeers url).map _
  | postJson url payload => exact (Operation.respects_postJson hpeers url payload).map _
  | postMultipart url body contentType =>
    exact (Operation.respects_postMultipart hpeers url body contentType).map _
  | getStream url => exact (h.getStream url).map _

end PlatformClient
