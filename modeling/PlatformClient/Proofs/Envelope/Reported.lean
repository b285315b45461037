import PlatformClient.Proofs.Envelope.Reading
import PlatformClient.Proofs.Pool.Upkeep

/-!
# Errors of the platform are reported

An operation that reads the answers to its requests first looks at their envelopes. If an answer
carries an error code, the operation fails with it, whatever else the answer holds, and whether it
is the answer to the request for a token or to the call itself.

To follow the answers through an operation, the requests that it sends are counted against the
outcomes that are foreseen.

## Main definitions

* `World.reply`: what becomes of a coming request
* `Operation.Heeds`: operations that fail as their answers report
* `Operation.Fetches`: operations that hand on the document that answers their request
* `Action.DecodesAnswers`: the actions that read documents

## Main results

* `Heeds.bind`, `Fetches.heeds`: how answers are heeded in sequences
* `heeds_requireToken`, `PostsTo.heeds`, `heeds_upload`: the operations of the platform
* `platformErrors_reported`: every error of the platform in a run is reported
-/

namespace PlatformClient

variable {τ α β : Type}

/-- An outcome carries an answer with an error code, which is reported as the given failure. -/
def Http.Outcome.ReportsError (outcome : Http.Outcome) (reading : Json.Reading)
    (failure : Failure) : Prop :=
  ∃ document, outcome.document? reading = some document ∧ document.ReportsError failure

/-- A document that an outcome carries can be written. -/
theorem Http.Outcome.writtenWithin {outcome : Http.Outcome} {reading : Json.Reading}
    {document : Json} (h : outcome.document? reading = some document) :
    document.WrittenWithin reading.room := by
  unfold document? at h
  split at h
  · split at h
    · unfold Response.document? at h
      split at h
      · cases h
      · rename_i text _
        cases hread : Json.read reading text with
        | error fault =>
          rw [hread] at h
          cases h
        | ok found =>
          rw [hread] at h
          cases h
          exact Json.writtenWithin_of_read hread
    · cases h
  · cases h

namespace World

/-- What becomes of the request at a place among those to come. -/
def reply (surroundings : Surroundings τ) (world : World τ) (place : Nat) : Http.Outcome :=
  (world.foreseen.drop place).headD surroundings.unforeseen

/-- The requests to come behind some others have the outcomes behind theirs. -/
theorem reply_sub (surroundings : Surroundings τ) {world after : World τ} {first place : Nat}
    (h : after.foreseen = world.foreseen.drop first) (hplace : first ≤ place) :
    after.reply surroundings (place - first) = world.reply surroundings place := by
  unfold reply
  rw [h, List.drop_drop, Nat.add_sub_cancel' hplace]

/-- What is foreseen, and what has been requested. -/
def traffic (world : World τ) : List Http.Outcome × List Http.Request :=
  (world.foreseen, world.requests)

end World

namespace Operation

/-! ## The reading of an answer -/

/-- A number within the limit for digits has a text. -/
theorem numeral_apply {n : Int} (h : n.natAbs < Nat.pow 10 Text.digitLimit)
    (surroundings : Surroundings τ) (world : World τ) :
    numeral n surroundings world = (.ok (Text.decimal n), world) := by
  rw [numeral_eq_pure h]
  rfl

/-- An answer with an error code is refused with the failure that it reports. -/
theorem requireSuccess_of_reportsError {room : Nat} {document : Json} {failure : Failure}
    (hdocument : document.WrittenWithin room) (h : document.ReportsError failure)
    (surroundings : Surroundings τ) (world : World τ) :
    ∃ after, requireSuccess document surroundings world = (.error failure, after) := by
  rcases h.read with ⟨envelope, hread, herror, rfl⟩ | ⟨refusal, hread, rfl⟩
  · have hcode := numeral_apply (Envelope.code_lt_of_read hdocument hread) surroundings world
    rw [requireSuccess_of_error hread herror, bind_apply_of_ok hcode]
    exact ⟨_, rfl⟩
  · rw [requireSuccess_of_refusal hread]
    exact ⟨world, rfl⟩

/-! ## Operations that heed their answers -/

/-- An operation uses up the outcomes of its requests, and fails as the answers among them
report. -/
def Heeds (operation : Operation τ α) (surroundings : Surroundings τ) (world : World τ) : Prop :=
  ∃ count, (operation surroundings world).2.foreseen = world.foreseen.drop count ∧
    (operation surroundings world).2.requests.length = world.requests.length + count ∧
    ∀ place < count, ∀ failure,
      (world.reply surroundings place).ReportsError surroundings.reading failure →
      (operation surroundings world).1 = .error failure

/-- What sends nothing has no answers to heed. -/
theorem Keeps.heeds {operation : Operation τ α} (h : Keeps World.traffic operation)
    (surroundings : Surroundings τ) (world : World τ) : Heeds operation surroundings world :=
  ⟨0, congrArg Prod.fst (h surroundings world),
    congrArg (fun traffic => traffic.2.length) (h surroundings world), nofun⟩

theorem LogsOnly.heeds {operation : Operation τ α} (h : LogsOnly operation)
    (surroundings : Surroundings τ) (world : World τ) : Heeds operation surroundings world :=
  (h.keeps fun _ _ => rfl : Keeps World.traffic operation).heeds surroundings world

/-- The answers to the second part of a sequence come behind those to the first. An answer of the
first part that reports an error ends the sequence there. -/
theorem Heeds.bind {operation : Operation τ α} {next : α → Operation τ β}
    {surroundings : Surroundings τ} {world : World τ} (h : Heeds operation surroundings world)
    (hnext : ∀ a after, operation surroundings world = (.ok a, after) →
      Heeds (next a) surroundings after) :
    Heeds (operation >>= next) surroundings world := by
  obtain ⟨first, hforeseen, hrequests, hheeds⟩ := h
  unfold Heeds
  rw [bind_apply]
  rcases hresult : operation surroundings world with ⟨failure | a, after⟩
  · rw [hresult] at hforeseen hrequests hheeds
    refine ⟨first, hforeseen, hrequests, fun place hplace failure hreply => ?_⟩
    exact congrArg Except.error (Except.error.inj (hheeds place hplace failure hreply))
  · rw [hresult] at hforeseen hrequests hheeds
    obtain ⟨second, hforeseen', hrequests', hheeds'⟩ := hnext a after hresult
    refine ⟨first + second, ?_, ?_, fun place hplace failure hreply => ?_⟩
    · rw [hforeseen', hforeseen, List.drop_drop]
    · rw [hrequests', hrequests, Nat.add_assoc]
    · rcases Nat.lt_or_ge place first with hearly | hlate
      · cases hheeds place hearly failure hreply
      · have hshift := World.reply_sub surroundings hforeseen hlate
        exact hheeds' (place - first) (by omega) failure (hshift ▸ hreply)

theorem Heeds.map {operation : Operation τ α} {surroundings : Surroundings τ} {world : World τ}
    (h : Heeds operation surroundings world) (f : α → β) :
    Heeds (f <$> operation) surroundings world :=
  h.bind fun _ _ _ => (logsOnly_pure _).heeds _ _

/-! ## Operations that fetch a document -/

/-- An operation sends one request and hands on the document that answers it, unless it fails
before it sends anything. -/
def Fetches (operation : Operation τ Json) (surroundings : Surroundings τ) (world : World τ) :
    Prop :=
  (∃ failure, (operation surroundings world).1 = .error failure) ∧
      (operation surroundings world).2.traffic = world.traffic ∨
    (operation surroundings world).2.foreseen = world.foreseen.drop 1 ∧
      (operation surroundings world).2.requests.length = world.requests.length + 1 ∧
      ∀ document, (world.next surroundings).document? surroundings.reading = some document →
        (operation surroundings world).1 = .ok document

theorem fetches_fetchJson (request : Http.Request) (surroundings : Surroundings τ)
    (world : World τ) : Fetches (fetchJson request) surroundings world := by
  obtain ⟨lines, hworld⟩ := fetchJson_world request surroundings world
  refine .inr ⟨?_, ?_, fun document => fetchJson_eq_ok_iff.mpr⟩
  · rw [hworld, List.drop_one]
    rfl
  · rw [hworld, World.requests_logged, World.requests_sent, List.length_append]
    rfl

/-- Steps that send nothing before a document is fetched. -/
theorem Keeps.bind_fetches {operation : Operation τ α} {next : α → Operation τ Json}
    (h : Keeps World.traffic operation)
    (hnext : ∀ a surroundings world, Fetches (next a) surroundings world)
    (surroundings : Surroundings τ) (world : World τ) :
    Fetches (operation >>= next) surroundings world := by
  have hfirst := h surroundings world
  unfold Fetches
  rw [bind_apply]
  rcases hresult : operation surroundings world with ⟨failure | a, after⟩
  · rw [hresult] at hfirst
    exact .inl ⟨⟨failure, rfl⟩, hfirst⟩
  · rw [hresult] at hfirst
    have hforeseen : after.foreseen = world.foreseen := congrArg Prod.fst hfirst
    have hrequests : after.requests = world.requests := congrArg Prod.snd hfirst
    have hreply : after.next surroundings = world.next surroundings := by
      unfold World.next
      rw [hforeseen]
    have hsecond := hnext a surroundings after
    unfold Fetches at hsecond
    rwa [hforeseen, hrequests, hreply, show after.traffic = world.traffic from hfirst] at hsecond

theorem LogsOnly.bind_fetches {operation : Operation τ α} {next : α → Operation τ Json}
    (h : LogsOnly operation)
    (hnext : ∀ a surroundings world, Fetches (next a) surroundings world)
    (surroundings : Surroundings τ) (world : World τ) :
    Fetches (operation >>= next) surroundings world :=
  Keeps.bind_fetches (h.keeps fun _ _ => rfl) hnext surroundings world

theorem fetches_getJson (url : String) (surroundings : Surroundings τ) (world : World τ) :
    Fetches (getJson url) surroundings world := by
  refine (logsOnly_say _ _).bind_fetches (fun _ => ?_) surroundings world
  exact logsOnly_settings.bind_fetches fun _ => fetches_fetchJson _

theorem fetches_postJson (url : String) (payload : Json) (surroundings : Surroundings τ)
    (world : World τ) : Fetches (postJson url payload) surroundings world := by
  refine (logsOnly_say _ _).bind_fetches (fun _ => ?_) surroundings world
  refine logsOnly_surroundings.bind_fetches fun _ => ?_
  refine (logsOnly_ofExcept _ _).bind_fetches fun text => ?_
  exact logsOnly_settings.bind_fetches fun _ => fetches_fetchJson _

theorem fetches_sendFile (token : String) (medium : MediaType) (filename : String)
    (source : Source) (number : Nat) (surroundings : Surroundings τ) (world : World τ) :
    Fetches (sendFile token medium filename source number) surroundings world := by
  refine logsOnly_surroundings.bind_fetches (fun current => ?_) surroundings world
  have hwrite : Keeps World.traffic (writeMultipart number current.boundary filename source :
      Operation τ Unit) :=
    keeps_writeMultipart (fun _ _ => rfl) (fun _ _ => rfl) _ _ _ _
  have hrest : Keeps World.traffic (bufferRest number : Operation τ Octets) :=
    keeps_bufferRest (fun _ _ => rfl) (fun _ _ => rfl) number
  refine hwrite.bind_fetches fun _ => ?_
  refine (logsOnly_settings.bind fun _ => logsOnly_pure _).bind_fetches fun url => ?_
  refine hrest.bind_fetches fun body => (logsOnly_say _ _).bind_fetches fun _ => ?_
  exact logsOnly_settings.bind_fetches fun _ => fetches_fetchJson _

/-- An upload hands on the document that answers it, although the buffer is returned before the
document is read. -/
theorem fetches_borrowing_sendFile {surroundings : Surroundings τ} {world : World τ}
    (h : world.client.Tidy) (token : String) (medium : MediaType) (filename : String)
    (source : Source) :
    Fetches (borrowing (sendFile token medium filename source)) surroundings world := by
  rcases borrowing_sendFile_apply surroundings h token medium filename source with
    hrefused | ⟨number, lent, returned, -, happly⟩
  · unfold Fetches
    rw [hrefused]
    exact .inl ⟨⟨_, rfl⟩, rfl⟩
  · have hwork := fetches_sendFile token medium filename source number surroundings
      (withPool world lent)
    unfold Fetches at hwork ⊢
    rw [happly]
    exact hwork

/-- A document that is fetched and then looked at for an error is heeded. -/
theorem Fetches.heeds {operation : Operation τ Json} {surroundings : Surroundings τ}
    {world : World τ} (h : Fetches operation surroundings world)
    {next : Json → Envelope → Operation τ α}
    (hnext : ∀ document envelope, LogsOnly (next document envelope)) :
    Heeds (operation >>= fun document => requireSuccess document >>= next document) surroundings
      world := by
  have hlogs : ∀ document, LogsOnly (requireSuccess document >>= next document) := fun document =>
    (logsOnly_requireSuccess document).bind (hnext document)
  unfold Heeds
  rw [bind_apply]
  rcases h with ⟨⟨failure, hfailure⟩, htraffic⟩ | ⟨hforeseen, hrequests, hdocument⟩
  · rcases hresult : operation surroundings world with ⟨other | document, after⟩
    · rw [hresult] at htraffic
      exact ⟨0, congrArg Prod.fst htraffic, congrArg (fun traffic => traffic.2.length) htraffic,
        nofun⟩
    · rw [hresult] at hfailure
      cases hfailure
  · rcases hresult : operation surroundings world with ⟨other | document, after⟩
    · rw [hresult] at hforeseen hrequests hdocument
      refine ⟨1, hforeseen, hrequests, fun place hplace failure hreply => ?_⟩
      obtain rfl : place = 0 := by omega
      obtain ⟨document, hcarried, -⟩ := hreply
      cases hdocument document hcarried
    · rw [hresult] at hforeseen hrequests hdocument
      obtain ⟨lines, hlines⟩ := hlogs document surroundings after
      refine ⟨1, ?_, ?_, fun place hplace failure hreply => ?_⟩
      · exact (congrArg World.foreseen hlines).trans hforeseen
      · exact (congrArg (fun world => world.requests.length) hlines).trans hrequests
      · obtain rfl : place = 0 := by omega
        obtain ⟨carried, hcarried, herror⟩ := hreply
        obtain rfl : document = carried := Except.ok.inj (hdocument carried hcarried)
        obtain ⟨last, hlast⟩ := requireSuccess_of_reportsError
          (Http.Outcome.writtenWithin hcarried) herror surroundings after
        exact congrArg Prod.fst (bind_apply_of_error hlast)

/-! ## The operations of the platform -/

theorem heeds_fetchGrant (surroundings : Surroundings τ) (world : World τ) :
    Heeds fetchGrant surroundings world := by
  by_cases h : surroundings.settings.LacksCredentials
  · obtain ⟨text, lines, hlacks⟩ := fetchGrant_of_lacks h world
    unfold Heeds
    rw [hlacks]
    exact ⟨0, rfl, rfl, nofun⟩
  · have hdecoded : Heeds (getJson _ >>= decode Grant.document) surroundings world :=
      (fetches_getJson ((Endpoint.accessToken surroundings.settings.appId
        surroundings.settings.appSecret).address surroundings.settings) surroundings world).heeds
        fun document _ => logsOnly_readAs Grant.document document
    unfold Heeds at hdecoded ⊢
    rwa [fetchGrant_apply_of_credentials h]

variable [Instant τ]

theorem keeps_keepGrant (grant : Grant) :
    Keeps World.traffic (keepGrant grant : Operation τ Unit) := by
  intro surroundings world
  cases hlife : Instant.after? surroundings.answered
      (TokenCache.usefulLife surroundings.settings.tokenMargin grant) with
  | none => rw [keepGrant_of_endless hlife]; rfl
  | some expiry =>
    obtain ⟨lines, hkept⟩ := keepGrant_of_reachable hlife world
    rw [hkept]
    rfl

/-- Asking for a token heeds the answer to the request for it. -/
theorem heeds_requireToken (surroundings : Surroundings τ) (world : World τ) :
    Heeds requireToken surroundings world := by
  cases husable : world.client.cache.usable? surroundings.started with
  | some token =>
    unfold Heeds
    rw [requireToken_of_usable husable]
    exact ⟨0, rfl, rfl, nofun⟩
  | none =>
    obtain ⟨lines, hstale⟩ := requireToken_of_stale husable
    have hfetched : Heeds (do
        let grant ← fetchGrant
        keepGrant grant
        return grant.token) surroundings (world.logged lines) := by
      refine (heeds_fetchGrant _ _).bind fun grant after _ => ?_
      refine ((keeps_keepGrant grant).heeds _ _).bind fun _ last _ => ?_
      exact (logsOnly_pure _).heeds _ _
    unfold Heeds at hfetched ⊢
    rwa [hstale]

/-- What posts a document heeds the answers to both of its requests. -/
theorem PostsTo.heeds {endpoint : String → Endpoint} {operation : Operation τ α}
    (h : PostsTo endpoint operation) (surroundings : Surroundings τ) (world : World τ) :
    Heeds operation surroundings world := by
  induction h generalizing world with
  | posted payload hnext =>
    refine (heeds_requireToken surroundings world).bind fun token between _ => ?_
    refine ((blind_addressOf (endpoint token)).logsOnly.heeds _ _).bind fun url after _ => ?_
    exact (fetches_postJson url payload surroundings after).heeds fun document envelope =>
      (hnext document envelope).logsOnly
  | behind hpreface _ ih =>
    exact (hpreface.logsOnly.heeds surroundings world).bind fun b after _ => ih b after

/-- An upload with a tidy pool heeds its answers. -/
theorem heeds_upload (kind : Json) (filename : String) (source : Option Source)
    {surroundings : Surroundings τ} {world : World τ} (h : world.client.Tidy) :
    Heeds (upload kind filename source) surroundings world := by
  rcases upload_refused_or_accepted (τ := τ) kind filename source with
    ⟨fault, hrefused⟩ | ⟨medium, file, haccepted⟩
  · rw [hrefused]
    exact (logsOnly_raise fault).heeds _ _
  · rw [haccepted]
    refine ((logsOnly_say _ _).heeds _ _).bind fun shown between hsay => ?_
    refine (heeds_requireToken _ _).bind fun token after htoken => ?_
    have hbetween : TidyWorld between := (logsOnly_say _ _).upholds.after hsay h
    have hafter : TidyWorld after := upholds_requireToken.after htoken hbetween
    refine (fetches_borrowing_sendFile hafter token medium filename file).heeds ?_
    intro document _
    exact (logsOnly_readAs _ document).bind fun receipt =>
      (logsOnly_say _ _).bind fun _ => logsOnly_pure _

end Operation

/-! ## Steps and runs -/

/-- The actions that read documents as the answers to all of their requests. -/
def Action.DecodesAnswers : Action → Prop
  | requireToken | upload .. | uploadFromFile .. | uploadNews _ | uploadVideo _ => True
  | orderById _ | ordersByFilter _ | setDelivery .. | closeOrder _ => True
  | _ => False

variable [Instant τ]

namespace Action

open Operation

/-- The actions that read documents heed their answers, if the pool is tidy. -/
theorem heeds {action : Action} (haction : action.DecodesAnswers) (surroundings : Surroundings τ)
    {world : World τ} (h : world.client.Tidy) :
    Heeds action.operation surroundings world := by
  cases action with
  | requireToken => exact (heeds_requireToken _ _).map _
  | upload kind filename source => exact (heeds_upload kind filename source h).map _
  | uploadFromFile kind path =>
    refine Heeds.map ?_ _
    refine ((logsOnly_observe _).heeds _ _).bind fun files between hfiles => ?_
    refine ((logsOnly_ofExcept _ _).heeds _ _).bind fun data after hdata => ?_
    have hbetween : TidyWorld between := (logsOnly_observe _).upholds.after hfiles h
    have hafter : TidyWorld after := (logsOnly_ofExcept _ _).upholds.after hdata hbetween
    exact heeds_upload _ _ _ hafter
  | uploadNews _ | uploadVideo _ | orderById _ | ordersByFilter _ | setDelivery _ _ _
  | closeOrder _ =>
    exact (postsTo rfl).heeds surroundings world
  | _ => cases haction

end Action

/-- What becomes of the request at a place among those of a step. -/
def Step.replyTo (step : Step τ) (place : Nat) : Http.Outcome :=
  step.before.reply step.turn.surroundings place

/-- The answer to any request of a step that reads documents is heeded, if the pool is tidy. -/
theorem Step.result_of_reportsError {step : Step τ} (haction : step.turn.action.DecodesAnswers)
    (h : step.session.client.Tidy) {place : Nat} (hplace : place < step.requests.length)
    {failure : Failure}
    (hreply : (step.replyTo place).ReportsError step.turn.surroundings.reading failure) :
    step.result = .error failure := by
  have hbefore : step.before.client.Tidy := h
  obtain ⟨count, -, hrequests, hheeds⟩ :=
    Action.heeds haction step.turn.surroundings hbefore
  rw [Step.requests_before, List.length_nil, Nat.zero_add] at hrequests
  exact hheeds place (hrequests ▸ hplace) failure hreply

/-- **Errors of the platform are reported.** In every run of a new client, whatever its arguments,
configurations, clocks and outcomes: if any request of an action that reads documents is answered
by an object with an error code other than zero, then the action fails, with the error of the
platform if the answer has a text or none, and else with the refusal of the envelope. -/
theorem platformErrors_reported (files : FileStore) (turns : List (Turn τ)) :
    ∀ step ∈ (Session.new files).steps turns, step.turn.action.DecodesAnswers →
      ∀ place < step.requests.length, ∀ failure,
        (step.replyTo place).ReportsError step.turn.surroundings.reading failure →
        step.result = .error failure :=
  fun _ hstep haction _ hplace _ hreply =>
    Step.result_of_reportsError haction (Session.tidy files turns hstep) hplace hreply

/-- A response that carries a document. -/
def trialAnswer (document : String) : Http.Response :=
  ⟨200, none, [("Content-Type", "application/json")], Utf8.encode document.toList⟩

/-- An order is closed, and the platform answers with an error. -/
def trialRefusal : Turn Nat :=
  ⟨.trial 0, [.response trialGrant,
      .response (trialAnswer "\x7b\"errcode\": 40001, \"errmsg\": \"no\", \"order\": null\x7d")],
    .closeOrder "1"⟩

theorem platformErrors_reported_of_trial :
    ∃ step, (Session.new ⟨[]⟩).steps [trialRefusal] = [step] ∧ step.requests.length = 2 ∧
      (step.replyTo 1).ReportsError .trial (.fault (.api 40001 "no")) ∧
      step.result = .error (.fault (.api 40001 "no")) := by
  have hreply : (⟨.new ⟨[]⟩, trialRefusal⟩ : Step Nat).replyTo 1 |>.ReportsError .trial
      (.fault (.api 40001 "no")) := by
    refine ⟨.object [("errcode", .integer 40001), ("errmsg", .string "no"), ("order", .null)], ?_,
      _, 40001, rfl, rfl, by decide, rfl⟩
    decide +kernel
  have hrequests : (⟨.new ⟨[]⟩, trialRefusal⟩ : Step Nat).requests.length = 2 := by
    decide +kernel
  refine ⟨_, rfl, hrequests, hreply, ?_⟩
  refine platformErrors_reported ⟨[]⟩ [trialRefusal] _ List.mem_cons_self trivial 1 ?_ _ hreply
  rw [hrequests]
  decide

/-- A token is asked for, and the platform answers with an error whose text is null. -/
def trialNullText : Step Nat :=
  ⟨.new ⟨[]⟩, .trial 0,
    [.response (trialAnswer "\x7b\"errcode\": 40001, \"errmsg\": null\x7d")], .requireToken⟩

/-- An answer whose text is null is not reported as an error of the platform. -/
theorem not_api_of_null_text :
    (trialNullText.replyTo 0).document? .trial =
        some (.object [("errcode", .integer 40001), ("errmsg", .null)]) ∧
      trialNullText.requests.length = 1 ∧
      ∀ text, trialNullText.result ≠ .error (.fault (.api 40001 text)) := by
  have hdocument : (trialNullText.replyTo 0).document? .trial =
      some (.object [("errcode", .integer 40001), ("errmsg", .null)]) := by
    decide +kernel
  have hrequests : trialNullText.requests.length = 1 := by decide +kernel
  refine ⟨hdocument, hrequests, fun text hresult => ?_⟩
  have hreply : (trialNullText.replyTo 0).ReportsError .trial
      (.refused ⟨"ErrorEnvelope", [⟨[.member "errmsg"], .notText⟩]⟩ [.null]) :=
    ⟨_, hdocument, _, 40001, rfl, rfl, by decide, rfl⟩
  have htidy : trialNullText.session.client.Tidy := ⟨0, nofun⟩
  have hplace : 0 < trialNullText.requests.length := hrequests ▸ Nat.one_pos
  have haction : trialNullText.turn.action.DecodesAnswers := trivial
  have hrefused := Step.result_of_reportsError haction htidy hplace hreply
  cases hrefused.symm.trans hresult

end PlatformClient
