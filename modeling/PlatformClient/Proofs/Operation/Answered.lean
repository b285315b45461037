import PlatformClient.Proofs.Envelope.Reported
import PlatformClient.Proofs.Session.Discipline

/-!
# What an answer comes to

An operation that posts a document gives what the answer to this call means: if the answer reports
success, it is read as a document of some kind, and nothing else decides about the result. So two
steps whose calls are answered can be compared by their answers alone, whatever the clients, their
tokens and their surroundings are.

## Main definitions

* `Operation.ReadsAnswer`: what is made of the document that answers a call
* `Operation.Consults`: operations whose result is what the answer to their call means
* `Step.IsAnsweredBy`: the call of a step is answered by a document that reports success
* `trialCall`: an answered step for trials

## Main results

* `Operation.Consults.outcome`: such an operation fails before its call, or reads the answer
* `Step.result_of_answer`: the result of an answered step
* `Step.exists_answer`: a step with a result has been answered
-/

namespace PlatformClient

variable {τ α β : Type}

namespace Operation

/-! ## What is made of an answer -/

/-- A document that answers a call is read as one of a kind, if it reports success. Otherwise there
is no result. -/
structure ReadsAnswer (kind : Record.Document α) (next : Json → Operation τ α) : Prop where
  accepted : ∀ {document surroundings world a}, (next document surroundings world).1 = .ok a ↔
    Envelope.ReportsSuccess document ∧ kind.read document = .ok a
  refused : ∀ {document refusal}, Envelope.ReportsSuccess document →
    kind.read document = .error refusal → ∀ surroundings world,
      (next document surroundings world).1 = .error (.ofRefusal document refusal)

theorem readsAnswer_decode (kind : Record.Document α) :
    ReadsAnswer kind (decode kind : Json → Operation τ α) where
  accepted := decode_eq_ok_iff
  refused := by
    rintro document refusal ⟨envelope, henvelope, hsuccess⟩ hrefusal surroundings world
    unfold decode readAs
    rw [requireSuccess_of_success henvelope hsuccess, pure_bind, hrefusal]
    rfl

/-- Behind the reading of an answer, something may be logged about it. -/
theorem ReadsAnswer.bind_say {kind : Record.Document α} {next : Json → Operation τ α}
    (h : ReadsAnswer kind next) (severity : Severity) (text : α → String) :
    ReadsAnswer kind fun document => next document >>= fun a =>
      say severity (text a) >>= fun _ => pure a where
  accepted := by
    intro document surroundings world a
    rw [bind_eq_ok_iff]
    constructor
    · rintro ⟨found, after, hfound, hsaid⟩
      cases hsaid
      exact h.accepted.mp (congrArg Prod.fst hfound)
    · intro hread
      have ha : (next document surroundings world).1 = .ok a := h.accepted.mpr hread
      exact ⟨a, _, Prod.ext ha rfl, rfl⟩
  refused := by
    intro document refusal hsuccess hrefusal surroundings world
    exact congrArg Prod.fst
      (bind_apply_of_error (Prod.ext (h.refused hsuccess hrefusal surroundings world) rfl))

/-! ## Operations that read the answer to their call -/

/-- A document is the answer to a call only if the outcome carries it. -/
theorem document?_of_postJson {url : String} {payload document : Json}
    {surroundings : Surroundings τ} {world : World τ}
    (h : (postJson url payload surroundings world).1 = .ok document) :
    (world.next surroundings).document? surroundings.reading = some document := by
  obtain ⟨shown, lines, hsay⟩ :=
    exists_say_apply .trace ("POST " ++ Query.stripped url) surroundings world
  unfold postJson at h
  rw [bind_apply_of_ok hsay] at h
  simp only [bind_apply, Operation.surroundings] at h
  cases hpayload : payload.text? surroundings.writing with
  | error fault =>
    rw [hpayload] at h
    cases h
  | ok text =>
    rw [hpayload] at h
    have hfetched : (fetchJson (.post url surroundings.settings.timeout documentType
        (Utf8.encode text.toList)) surroundings (world.logged lines)).1 = .ok document := h
    have hcarried := fetchJson_eq_ok_iff.mp hfetched
    rwa [World.next_logged] at hcarried

variable [Instant τ]

/-- An operation that posts a document, and whose result is what the answer means. -/
inductive Consults (kind : Record.Document α) : Operation τ α → Prop
  | posted (endpoint : String → Endpoint) (payload : Json) {next : Json → Operation τ α}
      (hnext : ReadsAnswer kind next) :
      Consults kind (requireToken >>= fun token => addressOf (endpoint token) >>= fun url =>
        postJson url payload >>= next)
  /-- Steps before, which may fail. -/
  | behind {β : Type} {preface : Operation τ β} {next : β → Operation τ α}
      (hpreface : Blind preface) (hnext : ∀ b, Consults kind (next b)) :
      Consults kind (preface >>= next)

/-- An outcome comes to a result: what the document that it carries means, if this reports
success. -/
structure ComesTo (kind : Record.Document α) (reading : Json.Reading) (outcome : Http.Outcome)
    (result : Except Failure α) : Prop where
  accepted : ∀ {a}, result = .ok a ↔ ∃ document, outcome.document? reading = some document ∧
    Envelope.ReportsSuccess document ∧ kind.read document = .ok a
  refused : ∀ {document refusal}, outcome.document? reading = some document →
    Envelope.ReportsSuccess document → kind.read document = .error refusal →
      result = .error (.ofRefusal document refusal)

omit [Instant τ] in
/-- A document is not posted, or its answer decides about the result. -/
theorem ReadsAnswer.comesTo {kind : Record.Document α} {next : Json → Operation τ α}
    (h : ReadsAnswer kind next) (url : String) (payload : Json) (surroundings : Surroundings τ)
    (world : World τ) :
    (∃ failure, ((postJson url payload >>= next) surroundings world).1 = .error failure) ∧
        ((postJson url payload >>= next) surroundings world).2.requests = world.requests ∨
      ComesTo kind surroundings.reading (world.next surroundings)
        ((postJson url payload >>= next) surroundings world).1 := by
  rcases hposted : postJson url payload surroundings world with ⟨failure | document, after⟩
  · rw [bind_apply_of_error hposted]
    rcases fetches_postJson url payload surroundings world with ⟨-, htraffic⟩ | ⟨-, -, hcarried⟩
    · rw [hposted] at htraffic
      exact .inl ⟨⟨failure, rfl⟩, congrArg Prod.snd htraffic⟩
    · rw [hposted] at hcarried
      refine .inr ⟨⟨nofun, ?_⟩, ?_⟩
      · rintro ⟨document, hdocument, -⟩
        cases hcarried document hdocument
      · intro document refusal hdocument
        cases hcarried document hdocument
  · have hdocument : (world.next surroundings).document? surroundings.reading = some document :=
      document?_of_postJson (congrArg Prod.fst hposted)
    rw [bind_apply_of_ok hposted]
    refine .inr ⟨h.accepted.trans ⟨fun hread => ⟨document, hdocument, hread⟩, ?_⟩, ?_⟩
    · rintro ⟨other, hother, hread⟩
      cases hdocument.symm.trans hother
      exact hread
    · intro other refusal hother hsuccess hrefusal
      cases hdocument.symm.trans hother
      exact h.refused hsuccess hrefusal surroundings after

/-- Where the outcomes stand behind those of asking for a token. -/
theorem next_of_requireToken {surroundings : Surroundings τ} {world after : World τ}
    {result : Except Failure String}
    (h : requireToken surroundings world = (result, after)) :
    after.next surroundings =
      world.reply surroundings (tokenRequests surroundings world.client.cache).length := by
  obtain ⟨count, hforeseen, hrequests, -⟩ := heeds_requireToken surroundings world
  rw [requests_requireToken, List.length_append, Nat.add_left_cancel_iff] at hrequests
  rw [h, ← hrequests] at hforeseen
  unfold World.next World.reply
  rw [hforeseen]

/-- An operation that consults its answer fails before its call, with no more requests than those
for a token; or the outcome of its call comes to its result. -/
theorem Consults.outcome {kind : Record.Document α} {operation : Operation τ α}
    (h : Consults kind operation) (surroundings : Surroundings τ) (world : World τ) :
    (∃ failure, (operation surroundings world).1 = .error failure) ∧
        (operation surroundings world).2.requests.length ≤
          world.requests.length + (tokenRequests surroundings world.client.cache).length ∨
      ComesTo kind surroundings.reading
        (world.reply surroundings (tokenRequests surroundings world.client.cache).length)
        (operation surroundings world).1 := by
  induction h generalizing world with
  | @posted endpoint payload next hnext =>
    have hrequests := congrArg List.length (requests_requireToken surroundings world)
    rw [List.length_append] at hrequests
    rcases htoken : requireToken surroundings world with ⟨failure | token, between⟩
    · rw [bind_apply_of_error htoken]
      rw [htoken] at hrequests
      exact .inl ⟨⟨failure, rfl⟩, Nat.le_of_eq hrequests⟩
    · rw [bind_apply_of_ok htoken, ← next_of_requireToken htoken]
      rw [htoken] at hrequests
      rcases hnext.comesTo ((endpoint token).address surroundings.settings) payload surroundings
        between with ⟨hfailure, hsent⟩ | hcomes
      · exact .inl ⟨hfailure, Nat.le_of_eq ((congrArg List.length hsent).trans hrequests)⟩
      · exact .inr hcomes
  | @behind β preface next hpreface _ ih =>
    obtain ⟨result, lines, happly⟩ := hpreface surroundings
    cases result with
    | error failure =>
      rw [bind_apply_of_error (happly world)]
      exact .inl ⟨⟨failure, rfl⟩, Nat.le_add_right _ _⟩
    | ok b =>
      rw [bind_apply_of_ok (happly world)]
      exact ih b (world.logged lines)

end Operation

/-! ## Answered steps -/

namespace Step

/-- The call of a step is answered by a document that reports success. -/
structure IsAnsweredBy [Instant τ] (step : Step τ) (document : Json) : Prop where
  called : step.CallsPlatform
  carried : (step.replyTo step.tokenRequests.length).document? step.turn.surroundings.reading =
    some document
  success : Envelope.ReportsSuccess document

variable [Instant τ] {step : Step τ} {kind : Record.Document α} {operation : Operation τ α}
  {answer : α → Answer}

theorem comesTo_of_called (h : Operation.Consults kind operation)
    (hoperation : step.turn.action.operation = answer <$> operation)
    (hcalled : step.CallsPlatform) :
    Operation.ComesTo kind step.turn.surroundings.reading (step.replyTo step.tokenRequests.length)
      (operation step.turn.surroundings step.before).1 := by
  obtain ⟨token, endpoint, request, -, -, -, -, hrequests⟩ := hcalled
  rw [tokenRequests_eq]
  refine (h.outcome step.turn.surroundings step.before).resolve_left ?_
  rintro ⟨-, hfew⟩
  have hlength := congrArg List.length hrequests
  rw [List.length_append, List.length_singleton, tokenRequests_eq] at hlength
  unfold requests at hlength
  rw [world_of_operation hoperation] at hlength
  rw [requests_before, List.length_nil, Nat.zero_add, client_before] at hfew
  omega

/-- The result of an answered step is what the answer means. -/
theorem result_of_answer (h : Operation.Consults kind operation)
    (hoperation : step.turn.action.operation = answer <$> operation) {document : Json}
    (hanswered : step.IsAnsweredBy document) :
    step.result = ((kind.read document).mapError (Failure.ofRefusal document)).map answer := by
  have hcomes := comesTo_of_called h hoperation hanswered.called
  rw [result_of_operation hoperation]
  congr 1
  cases hread : kind.read document with
  | ok a => exact hcomes.accepted.mpr ⟨document, hanswered.carried, hanswered.success, hread⟩
  | error refusal => exact hcomes.refused hanswered.carried hanswered.success hread

/-- A step with a result has been answered. -/
theorem exists_answer (h : Operation.Consults kind operation)
    (hoperation : step.turn.action.operation = answer <$> operation)
    (hplatform : step.turn.action.IsPlatform) {found : Answer} (hresult : step.result = .ok found) :
    ∃ document a, step.IsAnsweredBy document ∧ kind.read document = .ok a ∧ found = answer a := by
  have hcalled : step.CallsPlatform := by
    refine (disciplined hplatform).call.resolve_right ?_
    rintro ⟨⟨failure, hfailure⟩, -⟩
    cases hresult.symm.trans hfailure
  rw [result_of_operation hoperation] at hresult
  cases hfound : (operation step.turn.surroundings step.before).1 with
  | error failure =>
    rw [hfound] at hresult
    cases hresult
  | ok a =>
    rw [hfound] at hresult
    obtain ⟨document, hcarried, hsuccess, hread⟩ :=
      (comesTo_of_called h hoperation hcalled).accepted.mp hfound
    exact ⟨document, a, ⟨hcalled, hcarried, hsuccess⟩, hread, (Except.ok.inj hresult).symm⟩

end Step

/-! ## The orders of a store -/

namespace Operation

variable [Instant τ]

theorem consults_orderById (orderId : String) :
    Consults Order.answer (orderById orderId : Operation τ Order) :=
  .behind (blind_say _ _) fun _ =>
    .posted .orderById (orderPayload orderId) (readsAnswer_decode Order.answer)

theorem consults_ordersByFilter (filter : OrderFilter) :
    Consults Order.listAnswer (ordersByFilter filter : Operation τ (List Order)) := by
  refine .behind (blind_ofExcept _ _) fun status => .behind (blind_numeral _) fun shown => ?_
  refine .behind (blind_ofExcept _ _) fun earliest => ?_
  refine .behind (blind_ofExcept _ _) fun latest => .behind (blind_say _ _) fun _ => ?_
  exact .posted .ordersByFilter (filter.payload status)
    ((readsAnswer_decode Order.listAnswer).bind_say .trace _)

end Operation

/-- The first step of a client, for which a token is granted and the call is answered. -/
def trialCall (action : Action) (text : String) : Step Nat :=
  ⟨.new ⟨[]⟩, .trial 0, [.response trialGrant, .response (trialAnswer text)], action⟩

/-- The second request of such a step is its call. -/
theorem trialCall_isAnsweredBy {action : Action} (hplatform : action.IsPlatform) {text : String}
    (hrequests : (trialCall action text).requests.length = 2) {document : Json}
    (hdocument : (Http.Outcome.response (trialAnswer text)).document? .trial = some document)
    (hsuccess : Envelope.ReportsSuccess document) :
    (trialCall action text).IsAnsweredBy document := by
  have hcredentials : ¬ (Surroundings.trial 0).settings.LacksCredentials := by decide
  have htoken : (trialCall action text).tokenRequests =
      [(Surroundings.trial 0).settings.tokenRequest] := Step.tokenRequests_of_new hcredentials
  refine ⟨?_, ?_, hsuccess⟩
  · have hstep : (trialCall action text).turn.action.IsPlatform := hplatform
    refine (Step.disciplined hstep).call.resolve_right ?_
    rintro ⟨-, hnone | hfew⟩
    · rw [hnone] at hrequests
      cases hrequests
    · rw [hfew, htoken] at hrequests
      cases hrequests
  · rw [htoken]
    exact hdocument

end PlatformClient
