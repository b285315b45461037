import PlatformClient.Proofs.Independence.Respects

/-!
# What an operation leaves to others

Whatever becomes of an operation on media or orders, it leaves the cache as asking for the token
does, or fails before it asks and leaves the client as it is. Unless it is told to write to a file,
it leaves the files as they are.

## Main definitions

* `Operation.LeavesToken`: operations that leave the cache as asking for a token does
* `Operation.FailsEarly`: operations that fail and leave the client as it is
* `Action.IsService`: the operations on media and orders
* `Action.asksToken`: whether an operation comes to ask for a token
* `Action.writesFile`: whether it writes to a file

## Main results

* `Action.cache_of_asksToken`, `Action.fails_of_not_asksToken`: what is left in the cache
* `Action.keeps_files`: and what of the files
-/

namespace PlatformClient

variable {τ α β : Type}

/-- Worlds in which it comes to the same to ask for a token. -/
structure World.SameProspects (world other : World τ) : Prop where
  cache : world.client.cache = other.client.cache
  foreseen : world.foreseen = other.foreseen
  place : world.calls.length = other.calls.length

theorem World.companions_sameProspects :
    Companions (SameProspects : World τ → World τ → Prop) where
  cache h := h.cache
  foreseen h := h.foreseen
  place h := h.place
  logged _ h := ⟨h.cache, h.foreseen, h.place⟩
  sent request outcome h := by
    refine ⟨h.cache, congrArg List.tail h.foreseen, ?_⟩
    simp only [World.sent, List.length_append, h.place]
  withCache _ h := ⟨rfl, h.foreseen, h.place⟩

namespace Operation

/-! ## What an operation leaves in the cache -/

/-- An operation leaves the cache as asking for a token does. -/
def LeavesToken [Instant τ] (operation : Operation τ α) (surroundings : Surroundings τ)
    (world : World τ) : Prop :=
  (operation surroundings world).2.client.cache =
    (requireToken surroundings world).2.client.cache

/-- An operation fails and leaves the client as it is. -/
def FailsEarly (operation : Operation τ α) (surroundings : Surroundings τ) (world : World τ) :
    Prop :=
  ∃ failure after, operation surroundings world = (.error failure, after) ∧
    after.client = world.client

theorem FailsEarly.map {operation : Operation τ α} {surroundings : Surroundings τ}
    {world : World τ} (h : FailsEarly operation surroundings world) (f : α → β) :
    FailsEarly (f <$> operation) surroundings world := by
  obtain ⟨failure, after, happly, hclient⟩ := h
  refine ⟨failure, after, ?_, hclient⟩
  rw [map_apply, happly]
  rfl

variable [Instant τ] {surroundings : Surroundings τ} {world : World τ}

theorem cache_requireToken {other : World τ} (h : world.SameProspects other)
    (surroundings : Surroundings τ) :
    (requireToken surroundings world).2.client.cache =
      (requireToken surroundings other).2.client.cache := by
  have hrespects : Respects surroundings World.SameProspects (requireToken : Operation τ String) :=
    respects_requireToken (peers_of_companions World.companions_sameProspects surroundings)
  obtain ⟨result, after, after', hafter, happly, happly'⟩ := hrespects world other h
  rw [happly, happly']
  exact hafter.cache

/-- Behind the token, the cache is left alone. -/
theorem leavesToken_bind {next : String → Operation τ α}
    (hnext : ∀ token, Keeps (fun world => world.client.cache) (next token)) :
    LeavesToken (requireToken >>= next) surroundings world := by
  unfold LeavesToken
  rw [bind_apply]
  rcases requireToken surroundings world with ⟨failure | token, between⟩
  · rfl
  · exact hnext token surroundings between

/-- A report before the token is asked for. -/
theorem LeavesToken.behind_say {severity : Severity} {text : String}
    {next : String → Operation τ α}
    (h : ∀ shown world, LeavesToken (next shown) surroundings world) :
    LeavesToken (say severity text >>= next) surroundings world := by
  obtain ⟨shown, lines, hsay⟩ := exists_say_apply severity text surroundings world
  unfold LeavesToken
  rw [bind_apply_of_ok hsay]
  have hsame : (world.logged lines).SameProspects world := ⟨rfl, rfl, rfl⟩
  exact (h shown (world.logged lines)).trans (cache_requireToken hsame surroundings)

theorem LeavesToken.map {operation : Operation τ α} (h : LeavesToken operation surroundings world)
    (f : α → β) : LeavesToken (f <$> operation) surroundings world := by
  unfold LeavesToken
  rw [map_apply]
  exact h

/-- A document that is posted behind the token. -/
theorem leavesToken_posted (endpoint : String → Endpoint) (payload : Json)
    {next : Json → Operation τ α} (hnext : ∀ answer, LogsOnly (next answer)) :
    LeavesToken (requireToken >>= fun token => addressOf (endpoint token) >>= fun url =>
      postJson url payload >>= next) surroundings world :=
  leavesToken_bind fun token =>
    keeps_posting (fun _ _ => rfl) (fun _ _ _ => rfl) (endpoint token) payload hnext

theorem leavesToken_upload {kind : Json} {medium : MediaType}
    (hkind : MediaType.lookup? kind = some medium) {filename : String} (hfilename : filename ≠ "")
    (source : Source) (surroundings : Surroundings τ) (world : World τ) :
    LeavesToken (upload kind filename (some source)) surroundings world := by
  rw [upload_of_accepted hkind hfilename source]
  refine LeavesToken.behind_say fun _ _ => leavesToken_bind fun token => ?_
  exact keeps_sending (fun _ _ => rfl) (fun _ _ _ => rfl) (fun _ _ => rfl) token medium _ _

theorem leavesToken_download {mediaId : String} (hmediaId : mediaId ≠ "") (writer : Writer)
    (surroundings : Surroundings τ) (world : World τ) :
    LeavesToken (download mediaId (some writer)) surroundings world := by
  rw [download_of_accepted hmediaId]
  refine LeavesToken.behind_say fun _ _ => leavesToken_bind fun token => ?_
  refine keeps_fetching (fun _ _ => rfl) (fun _ _ _ => rfl) (fun _ _ => rfl) ?_ _ fun size =>
    (logsOnly_say _ _).bind fun _ => logsOnly_pure ()
  exact keeps_writePieces (fun _ _ => rfl) (fun _ _ => rfl) (fun _ _ => rfl) writer

theorem leavesToken_uploadNews (news : News) (surroundings : Surroundings τ) (world : World τ) :
    LeavesToken (uploadNews (some news)) surroundings world := by
  unfold uploadNews require
  rw [pure_bind]
  refine LeavesToken.behind_say fun _ _ => leavesToken_posted _ _ fun answer => ?_
  exact logsOnly_decode _ answer

theorem leavesToken_uploadVideo (video : Video) (surroundings : Surroundings τ)
    (world : World τ) : LeavesToken (uploadVideo (some video)) surroundings world := by
  unfold uploadVideo require
  rw [pure_bind]
  refine LeavesToken.behind_say fun _ _ => leavesToken_posted _ _ fun answer => ?_
  exact logsOnly_decode _ answer

theorem leavesToken_orderById (orderId : String) (surroundings : Surroundings τ)
    (world : World τ) : LeavesToken (orderById orderId) surroundings world := by
  refine LeavesToken.behind_say fun _ _ => leavesToken_posted _ _ fun answer => ?_
  exact logsOnly_decode _ answer

theorem leavesToken_setDelivery (orderId company trackNumber : String)
    (surroundings : Surroundings τ) (world : World τ) :
    LeavesToken (setDelivery orderId company trackNumber) surroundings world := by
  refine LeavesToken.behind_say fun _ _ => leavesToken_posted _ _ fun answer => ?_
  exact (logsOnly_requireSuccess answer).bind fun _ => logsOnly_pure ()

theorem leavesToken_closeOrder (orderId : String) (surroundings : Surroundings τ)
    (world : World τ) : LeavesToken (closeOrder orderId) surroundings world := by
  refine LeavesToken.behind_say fun _ _ => leavesToken_posted _ _ fun answer => ?_
  exact (logsOnly_requireSuccess answer).bind fun _ => logsOnly_pure ()

theorem leavesToken_ordersByFilter {filter : OrderFilter} {status : Int}
    (hstatus : filter.status.wholePart = .ok status) {shown earliest latest : String}
    (hshown : Text.decimal? status = .ok shown) (hearliest : filter.beginTime.text? = .ok earliest)
    (hlatest : filter.endTime.text? = .ok latest) (surroundings : Surroundings τ)
    (world : World τ) : LeavesToken (ordersByFilter filter) surroundings world := by
  unfold ordersByFilter numeral
  simp only [hstatus, hshown, hearliest, hlatest, ofExcept, pure_bind]
  refine LeavesToken.behind_say fun _ _ => leavesToken_posted _ _ fun answer => ?_
  exact (logsOnly_decode _ answer).bind fun orders =>
    (logsOnly_say _ _).bind fun _ => logsOnly_pure orders

end Operation

/-! ## The operations on media and orders -/

/-- The numbers of a filter can be told in a line of the log. -/
def OrderFilter.isTold (filter : OrderFilter) : Bool :=
  match filter.status.wholePart with
  | .error _ => false
  | .ok status =>
    (Text.decimal? status).isOk && filter.beginTime.text?.isOk && filter.endTime.text?.isOk

theorem OrderFilter.isTold_iff {filter : OrderFilter} :
    filter.isTold = true ↔ ∃ status shown earliest latest,
      filter.status.wholePart = .ok status ∧ Text.decimal? status = .ok shown ∧
        filter.beginTime.text? = .ok earliest ∧ filter.endTime.text? = .ok latest := by
  unfold isTold
  cases filter.status.wholePart with
  | error failure => simp
  | ok status =>
    cases hshown : Text.decimal? status <;> cases hearliest : filter.beginTime.text? <;>
      cases hlatest : filter.endTime.text? <;> simp [hshown, Except.isOk, Except.toBool]

namespace Operation

variable [Instant τ] {world : World τ}

/-! ## Early failures -/

/-- A file that can be read is uploaded. -/
theorem uploadFromFile_apply {path : String} {data : Octets}
    (hread : world.files.read path = .ok data) (kind : Json) (surroundings : Surroundings τ) :
    uploadFromFile kind path surroundings world =
      upload kind (FileStore.baseName path) (some (.ofOctets data)) surroundings world := by
  have hobserve : observe (·.files) surroundings world = (.ok world.files, world) := rfl
  unfold uploadFromFile
  rw [bind_apply_of_ok hobserve, hread]
  rfl

theorem failsEarly_uploadFromFile {path : String} {fault : FileFault}
    (hread : world.files.read path = .error fault) (kind : Json) (surroundings : Surroundings τ) :
    FailsEarly (uploadFromFile kind path) surroundings world := by
  have hobserve : observe (·.files) surroundings world = (.ok world.files, world) := rfl
  refine ⟨.file fault, world, ?_, rfl⟩
  unfold uploadFromFile
  rw [bind_apply_of_ok hobserve, hread]
  rfl

theorem failsEarly_downloadToFile {path : String} {fault : FileFault}
    (hcreate : world.files.create path = .error fault) (mediaId : String)
    (surroundings : Surroundings τ) :
    FailsEarly (downloadToFile mediaId path) surroundings world := by
  have hobserve : observe (·.files) surroundings world = (.ok world.files, world) := rfl
  refine ⟨.file fault, world, ?_, rfl⟩
  unfold downloadToFile
  rw [bind_apply_of_ok hobserve, hcreate]
  rfl

theorem failsEarly_ordersByFilter {filter : OrderFilter} (h : filter.isTold = false)
    (surroundings : Surroundings τ) (world : World τ) :
    FailsEarly (ordersByFilter filter) surroundings world := by
  unfold OrderFilter.isTold at h
  unfold ordersByFilter numeral
  cases hstatus : filter.status.wholePart with
  | error failure => exact ⟨failure, world, rfl, rfl⟩
  | ok status =>
    cases hshown : Text.decimal? status with
    | error fault => exact ⟨.integer fault, world, by simp [ofExcept, hshown], rfl⟩
    | ok shown =>
      cases hearliest : filter.beginTime.text? with
      | error fault => exact ⟨.integer fault, world, by simp [ofExcept, hshown], rfl⟩
      | ok earliest =>
        cases hlatest : filter.endTime.text? with
        | error fault => exact ⟨.integer fault, world, by simp [ofExcept, hshown], rfl⟩
        | ok latest =>
          simp [hstatus, hshown, hearliest, hlatest, Except.isOk, Except.toBool] at h

end Operation

namespace Action

/-- The operations on media and orders. -/
def IsService : Action → Prop
  | uploadFromFile .. | downloadToFile .. => True
  | action => action.IsPlatform

/-- Whether an operation on media or orders comes to ask for a token. Else it fails before, over its
arguments or the file of its path. -/
def asksToken (files : FileStore) : Action → Bool
  | uploadFromFile kind path =>
    match files.read path with
    | .ok data =>
      (upload kind (FileStore.baseName path) (some (.ofOctets data))).refusal?.isNone
    | .error _ => false
  | downloadToFile mediaId path =>
    match files.create path with
    | .ok (trail, _) => (download mediaId (some (.file trail))).refusal?.isNone
    | .error _ => false
  | ordersByFilter filter => filter.isTold
  | action => action.refusal?.isNone

variable [Instant τ] {action : Action} {world : World τ}

/-- What an operation that asks for a token leaves in the cache. -/
theorem cache_of_asksToken (hservice : action.IsService)
    (h : action.asksToken world.files = true) (surroundings : Surroundings τ) :
    Operation.LeavesToken action.operation surroundings world := by
  cases action with
  | upload kind filename source =>
    obtain ⟨medium, accepted, hkind, hfilename, rfl⟩ :=
      upload_accepted (Option.isNone_iff_eq_none.mp h)
    exact (Operation.leavesToken_upload hkind hfilename accepted surroundings world).map _
  | uploadFromFile kind path =>
    simp only [asksToken] at h
    split at h
    · rename_i data hread
      obtain ⟨medium, accepted, hkind, hfilename, -⟩ :=
        upload_accepted (Option.isNone_iff_eq_none.mp h)
      refine Operation.LeavesToken.map ?_ _
      unfold Operation.LeavesToken
      rw [Operation.uploadFromFile_apply hread]
      exact Operation.leavesToken_upload hkind hfilename _ surroundings world
    · cases h
  | download mediaId writer =>
    obtain ⟨accepted, hmediaId, rfl⟩ := download_accepted (Option.isNone_iff_eq_none.mp h)
    exact (Operation.leavesToken_download hmediaId accepted surroundings world).map _
  | downloadToFile mediaId path =>
    simp only [asksToken] at h
    split at h
    · rename_i trail opened hcreate
      obtain ⟨accepted, hmediaId, -⟩ := download_accepted (Option.isNone_iff_eq_none.mp h)
      have hsame : (world.withFiles opened).SameProspects world := ⟨rfl, rfl, rfl⟩
      refine Operation.LeavesToken.map ?_ _
      unfold Operation.LeavesToken
      rw [Operation.downloadToFile_apply mediaId hcreate]
      exact (Operation.leavesToken_download hmediaId _ surroundings _).trans
        (Operation.cache_requireToken hsame surroundings)
    · cases h
  | uploadNews news =>
    cases news with
    | none => cases h
    | some news => exact (Operation.leavesToken_uploadNews news surroundings world).map _
  | uploadVideo video =>
    cases video with
    | none => cases h
    | some video => exact (Operation.leavesToken_uploadVideo video surroundings world).map _
  | orderById orderId => exact (Operation.leavesToken_orderById orderId surroundings world).map _
  | ordersByFilter filter =>
    obtain ⟨status, shown, earliest, latest, hstatus, hshown, hearliest, hlatest⟩ :=
      OrderFilter.isTold_iff.mp h
    exact (Operation.leavesToken_ordersByFilter hstatus hshown hearliest hlatest surroundings
      world).map _
  | setDelivery orderId company trackNumber =>
    exact (Operation.leavesToken_setDelivery orderId company trackNumber surroundings world).map _
  | closeOrder orderId => exact (Operation.leavesToken_closeOrder orderId surroundings world).map _
  | _ => cases hservice

/-- An operation that does not come to ask for a token fails, and leaves the client as it is. -/
theorem fails_of_not_asksToken (hservice : action.IsService)
    (h : action.asksToken world.files = false) (surroundings : Surroundings τ) :
    Operation.FailsEarly (action.operation : Operation τ Answer) surroundings world := by
  have hrefused : ∀ {other : Action}, other.refusal?.isNone = false → ∀ before : World τ,
      Operation.FailsEarly (other.operation : Operation τ Answer) surroundings before := by
    intro other hother before
    obtain ⟨code, hcode⟩ := Option.isSome_iff_exists.mp (Option.isNone_eq_false_iff.mp hother)
    obtain ⟨text, hoperation⟩ := operation_of_refused (τ := τ) hcode
    rw [hoperation]
    exact ⟨_, before, rfl, rfl⟩
  cases action with
  | upload kind filename source => exact hrefused h world
  | uploadFromFile kind path =>
    simp only [asksToken] at h
    split at h
    · rename_i data hread
      have hupload := hrefused h world
      unfold Operation.FailsEarly at hupload ⊢
      simp only [operation, Operation.map_apply, Operation.uploadFromFile_apply hread] at hupload ⊢
      exact hupload
    · rename_i fault hread
      exact (Operation.failsEarly_uploadFromFile hread kind surroundings).map _
  | download mediaId writer => exact hrefused h world
  | downloadToFile mediaId path =>
    simp only [asksToken] at h
    split at h
    · rename_i trail opened hcreate
      have hdownload := hrefused h (world.withFiles opened)
      unfold Operation.FailsEarly at hdownload ⊢
      simp only [operation, Operation.map_apply, Operation.downloadToFile_apply mediaId hcreate]
        at hdownload ⊢
      exact hdownload
    · rename_i fault hcreate
      exact (Operation.failsEarly_downloadToFile hcreate mediaId surroundings).map _
  | uploadNews news => exact hrefused h world
  | uploadVideo video => exact hrefused h world
  | ordersByFilter filter =>
    exact (Operation.failsEarly_ordersByFilter h surroundings world).map _
  | orderById _ | setDelivery _ _ _ | closeOrder _ => cases h
  | _ => cases hservice

/-- Whether an operation writes to a file. -/
def writesFile : Action → Bool
  | download _ (some (.file _)) => true
  | downloadToFile .. => true
  | _ => false

/-- An operation that writes to no file leaves the files as they are. -/
theorem keeps_files (hservice : action.IsService) (h : action.writesFile = false) :
    Operation.Keeps (fun world => world.files) (action.operation : Operation τ Answer) := by
  have hupload (kind : Json) (filename : String) (source : Option Operation.Source) :
      Operation.Keeps (fun world => world.files) (Operation.upload (τ := τ) kind filename source) :=
    Operation.keeps_upload (fun _ _ => rfl) (fun _ _ _ => rfl) (fun _ _ => rfl) (fun _ _ => rfl)
      kind filename source
  cases action with
  | upload kind filename source => exact (hupload kind filename source).map _
  | uploadFromFile kind path =>
    refine Operation.Keeps.map ?_ _
    refine ((Operation.logsOnly_observe _).keeps fun _ _ => rfl).bind fun files => ?_
    refine ((Operation.logsOnly_ofExcept _ _).keeps fun _ _ => rfl).bind fun data => ?_
    exact hupload kind _ _
  | download mediaId writer =>
    refine Operation.Keeps.map ?_ _
    refine Operation.keeps_download (fun _ _ => rfl) (fun _ _ _ => rfl) (fun _ _ => rfl)
      (fun _ _ => rfl) ?_ mediaId
    rintro found rfl
    cases found with
    | file trail => cases h
    | caller refusal => exact Operation.keeps_givePieces (fun _ _ => rfl) (fun _ _ => rfl) refusal
  | downloadToFile mediaId path => cases h
  | uploadNews _ | uploadVideo _ | orderById _ | ordersByFilter _ | setDelivery _ _ _
  | closeOrder _ =>
    exact Operation.PostsTo.keeps (fun _ _ => rfl) (fun _ _ _ => rfl) (fun _ _ => rfl) (postsTo rfl)
  | _ => cases hservice

end Action

end PlatformClient
