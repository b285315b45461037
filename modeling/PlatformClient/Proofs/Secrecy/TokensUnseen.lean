import PlatformClient.Proofs.Secrecy.Paired

/-!
# Tokens are not seen

Whatever a client does with an access token, nothing but its mask is seen: two runs with the same
arguments, configurations, clocks and outcomes, but for tokens of the same masks, log the same lines
and have the same results and failures, and their requests differ in the value of the parameter for
the token alone. Only the operation that is asked for the token itself gives it back, and only the
refusal of a token without a lifetime hands on the document that grants it. Of tokens that hold
surrogates nothing is said, since no address can be made for them.

## Main definitions

* `Action.IsRaw`: the actions that are given an address
* `Action.SameResult`: what the results of an action have in common in two runs
* `Step.SameInputs`, `Step.SameOutputs`: what two steps have in common before and after

## Main results

* `paired_requireToken`: tokens that are asked for are alike
* `Action.paired`: every operation ends alike
* `Step.sameOutputs`: what one step preserves
* `tokens_unseen`: what whole runs preserve
-/

namespace PlatformClient

variable {τ α β γ : Type}

namespace Operation

variable {surroundings : Surroundings τ} {Related : α → β → Prop}

/-! ## Asking for a token -/

/-- Grants that are alike are read from documents that are. -/
theorem paired_decodeGrant {document other : Json} (h : document.GrantsAlike other) :
    Paired surroundings World.InStep World.InStep Grant.Alike (decode Grant.document document)
      (decode Grant.document other) := by
  unfold decode
  rw [requireSuccess_alike h]
  refine (blind_requireSuccess other).bind_paired steady_inStep fun _ => ?_
  unfold readAs
  obtain ⟨grant, grant', hread, hread', hgrants⟩ | ⟨refusal, hread, hread', hfailure⟩ :=
    Grant.read_alike h
  · rw [hread, hread']
    exact fun _ _ hworld => .ok hgrants hworld
  · rw [hread, hread']
    exact fun _ _ hworld => .error hfailure hworld.alike

theorem paired_fetchGrant :
    Paired surroundings (World.Pending surroundings) World.InStep Grant.Alike fetchGrant
      fetchGrant := by
  have hbefore := steady_pending surroundings
  refine blind_settings.bind_paired hbefore fun current => ?_
  split
  · refine (blind_say _ _).bind_paired hbefore fun text => ?_
    exact paired_fail _ hbefore
  · refine (blind_addressOf _).bind_paired hbefore fun url => ?_
    exact (paired_getJson url).bind fun document other h => paired_decodeGrant h

variable [Instant τ]

/-- Grants that are alike are kept alike, and logged by their masks. -/
theorem paired_keepGrant {grant grant' : Grant} (h : grant.Alike grant') :
    Paired surroundings World.InStep World.InStep Eq (keepGrant grant) (keepGrant grant') := by
  unfold keepGrant TokenCache.usefulLife
  rw [h.lifetime, show maskedToken grant.token = maskedToken grant'.token from h.token]
  refine blind_surroundings.bind_paired steady_inStep fun current => ?_
  have hcaches : Paired surroundings World.InStep World.InStep TokenCache.Alike
      (observe fun world : World τ => world.client.cache)
      (observe fun world => world.client.cache) :=
    paired_observe steady_inStep fun _ _ halike => halike.client.cache
  refine hcaches.bind fun cache cache' hcache => ?_
  have hset : ∀ {kept kept' : TokenCache τ}, kept.Alike kept' →
      Paired surroundings World.InStep World.InStep Eq (setCache kept) (setCache kept') :=
    fun hkept => paired_change fun _ _ hworld =>
      ⟨hworld.alike.withCache hkept, hworld.foreseen⟩
  have hhalf : (cache.withToken grant.token).Alike (cache'.withToken grant'.token) :=
    ⟨.some h.token, hcache.expiry⟩
  refine (hset hhalf).bind_same fun _ => ?_
  cases Instant.after? current.answered (grant'.lifetime - current.settings.tokenMargin).toNat with
  | none => exact paired_fail _ steady_inStep
  | some expiry =>
    have hstored : (TokenCache.store grant.token expiry).Alike (.store grant'.token expiry) :=
      ⟨.some h.token, rfl⟩
    refine (hset hstored).bind_same fun _ => ?_
    exact (blind_say _ _).bind_paired steady_inStep fun _ => (blind_pure _).paired steady_inStep

/-- What is done without a usable token. -/
theorem paired_requireToken_of_stale {world world' : World τ}
    (h : world.Pending surroundings world')
    (hstale : world.client.cache.usable? surroundings.started = none)
    (hstale' : world'.client.cache.usable? surroundings.started = none) :
    EndsAlike World.InStep TokensAlike (requireToken surroundings world)
      (requireToken surroundings world') := by
  have hfetch : Paired surroundings (World.Pending surroundings) World.InStep TokensAlike
      (do
        let _ ← say .trace "Access token is missing or expired, fetching a new one"
        let grant ← fetchGrant
        keepGrant grant
        return grant.token : Operation τ String)
      (do
        let _ ← say .trace "Access token is missing or expired, fetching a new one"
        let grant ← fetchGrant
        keepGrant grant
        return grant.token) := by
    refine (blind_say _ _).bind_paired (steady_pending surroundings) fun _ => ?_
    refine paired_fetchGrant.bind fun grant grant' hgrants => ?_
    exact (paired_keepGrant hgrants).bind_same fun _ _ _ hworld => .ok hgrants.token hworld
  have hends := hfetch world world' h
  unfold requireToken
  simp only [bind_apply, Operation.surroundings, observe, hstale, hstale'] at hends ⊢
  exact hends

/-- Tokens that are asked for are alike: the kept ones, or those that are granted. -/
theorem paired_requireToken :
    Paired surroundings (World.Awaiting surroundings) World.InStep TokensAlike requireToken
      requireToken := by
  intro world world' hworld
  have husable := hworld.alike.client.cache.usable surroundings.started
  cases hkept : world.client.cache.usable? surroundings.started with
  | some token =>
    rw [hkept] at husable
    cases hkept' : world'.client.cache.usable? surroundings.started with
    | none =>
      rw [hkept'] at husable
      cases husable
    | some token' =>
      rw [hkept'] at husable
      rw [requireToken_of_usable hkept, requireToken_of_usable hkept']
      cases husable with
      | some htokens =>
        refine .ok htokens ⟨hworld.alike, ?_⟩
        rcases hworld.foreseen with hsame | ⟨hstale, -⟩
        · exact hsame
        · cases hkept.symm.trans hstale
  | none =>
    rw [hkept] at husable
    cases hkept' : world'.client.cache.usable? surroundings.started with
    | some token' =>
      rw [hkept'] at husable
      cases husable
    | none =>
      refine paired_requireToken_of_stale ⟨hworld.alike, ?_⟩ hkept hkept'
      rcases hworld.foreseen with hsame | ⟨-, halike⟩
      · exact .inl hsame
      · exact halike

/-! ## Operations with a token -/

omit [Instant τ] in
theorem paired_addressOf {endpoint : String → Endpoint} (h : Endpoint.TakesToken endpoint)
    {token token' : String} (htokens : TokensAlike token token')
    {Before : World τ → World τ → Prop} :
    Paired surroundings Before Before AddressesAlike (addressOf (endpoint token))
      (addressOf (endpoint token')) :=
  fun _ _ hworld => .ok (Endpoint.addressesAlike h htokens surroundings.settings) hworld

/-- What posts a document ends alike. -/
theorem PostsTo.paired {endpoint : String → Endpoint} (htakes : Endpoint.TakesToken endpoint)
    {operation : Operation τ α} (h : PostsTo endpoint operation) :
    Paired surroundings (World.Awaiting surroundings) World.InStep Eq operation operation := by
  induction h with
  | posted payload hnext =>
    refine paired_requireToken.bind fun token token' htokens => ?_
    refine (paired_addressOf htakes htokens).bind fun url url' haddresses => ?_
    refine (paired_postJson haddresses payload).bind_same fun document => ?_
    refine (blind_requireSuccess document).bind_paired steady_inStep fun envelope => ?_
    exact (hnext document envelope).paired steady_inStep
  | behind hpreface _ ih => exact hpreface.bind_paired (steady_awaiting surroundings) ih

omit [Instant τ] in
/-- The body of a file is the same, and is sent to addresses that are alike. -/
theorem paired_sendFile {token token' : String} (htokens : TokensAlike token token')
    (medium : MediaType) (filename : String) (source : Source) (number : Nat) :
    Paired surroundings World.InStep World.InStep Eq
      (sendFile token medium filename source number : Operation τ Json)
      (sendFile token' medium filename source number) := by
  have htakes : Endpoint.TakesToken fun token => .mediaUpload token medium.name :=
    ⟨⟨_, fun _ => rfl⟩, fun _ _ _ => rfl⟩
  refine blind_surroundings.bind_paired steady_inStep fun current => ?_
  refine (paired_writeMultipart number current.boundary filename source).bind_same fun _ => ?_
  refine (paired_addressOf htakes htokens).bind fun url url' haddresses => ?_
  refine (paired_bufferRest number).bind_same fun body => ?_
  exact paired_postMultipart haddresses body _

omit [Instant τ] in
/-- Media are fetched from addresses that are alike. -/
theorem paired_fetchMedia {url url' : String} (h : AddressesAlike url url') (writer : Writer) :
    Paired surroundings World.InStep World.InStep Eq (fetchMedia url writer : Operation τ Nat)
      (fetchMedia url' writer) := by
  refine (paired_getStream h).bind_same fun arrival => ?_
  refine (paired_receive arrival writer).ensuring (fun _ _ hworld => ?_)
    fun _ _ halike => halike.closeResponse arrival
  exact ⟨hworld.alike.closeResponse arrival, hworld.foreseen⟩

theorem paired_upload (kind : Json) (filename : String) (source : Option Source) :
    Paired surroundings (World.Awaiting surroundings) World.InStep Eq
      (upload kind filename source) (upload kind filename source) := by
  have hbefore := steady_awaiting surroundings
  rcases upload_refused_or_accepted (τ := τ) kind filename source with
    ⟨fault, hrefused⟩ | ⟨medium, file, haccepted⟩
  · rw [hrefused]
    exact paired_fail _ hbefore
  · rw [haccepted]
    refine (blind_say _ _).bind_paired hbefore fun _ => ?_
    refine paired_requireToken.bind fun token token' htokens => ?_
    refine (Paired.borrowing fun number =>
      paired_sendFile htokens medium filename file number).bind_same fun document => ?_
    exact (blind_readReceipt medium document).paired steady_inStep

theorem paired_download (mediaId : String) (writer : Option Writer) :
    Paired surroundings (World.Awaiting surroundings) World.InStep Eq (download mediaId writer)
      (download mediaId writer) := by
  have hbefore := steady_awaiting surroundings
  rcases download_refused_or_accepted (τ := τ) mediaId writer with
    ⟨fault, hrefused⟩ | ⟨found, -, haccepted⟩
  · rw [hrefused]
    exact paired_fail _ hbefore
  · rw [haccepted]
    refine (blind_say _ _).bind_paired hbefore fun _ => ?_
    refine paired_requireToken.bind fun token token' htokens => ?_
    have htakes : Endpoint.TakesToken fun token => .mediaDownload token mediaId :=
      ⟨⟨_, fun _ => rfl⟩, fun _ _ _ => rfl⟩
    refine (paired_addressOf htakes htokens).bind fun url url' haddresses => ?_
    refine (paired_fetchMedia haddresses found).bind_same fun size => ?_
    exact (blind_say _ _).bind_paired steady_inStep fun _ => (blind_pure _).paired steady_inStep

theorem paired_uploadFromFile (kind : Json) (path : String) :
    Paired surroundings (World.Awaiting surroundings) World.InStep Eq (uploadFromFile kind path)
      (uploadFromFile kind path) := by
  have hbefore := steady_awaiting surroundings
  refine (paired_files hbefore).bind_same fun files => ?_
  refine (blind_ofExcept _ _).bind_paired hbefore fun data => ?_
  exact paired_upload kind _ _

theorem paired_downloadToFile (mediaId path : String) :
    Paired surroundings (World.Awaiting surroundings) World.InStep Eq (downloadToFile mediaId path)
      (downloadToFile mediaId path) := by
  have hbefore := steady_awaiting surroundings
  refine (paired_files hbefore).bind_same fun files => ?_
  refine (blind_ofExcept _ _).bind_paired hbefore fun created => ?_
  have hopened : Paired surroundings (World.Awaiting surroundings) (World.Awaiting surroundings) Eq
      (change (World.withFiles created.2)) (change (World.withFiles created.2)) :=
    paired_change fun _ _ hworld => ⟨hworld.alike.withFiles _, hworld.foreseen⟩
  exact hopened.bind_same fun _ => paired_download mediaId _

end Operation

/-! ## Actions -/

namespace Action

open Operation

/-- The actions that are given an address. -/
def IsRaw : Action → Prop
  | getJson _ | postJson .. | postMultipart .. | getStream _ => True
  | _ => False

/-- What an action has in common with itself in another run: its answer, or the mask of the token
that it was asked for. -/
def SameAnswer (action : Action) (answer other : Answer) : Prop :=
  answer = other ∨ action = requireToken ∧
    ∃ token token', TokensAlike token token' ∧ answer = .token token ∧ other = .token token'

/-- What the result of an action has in common with that of another run: it is the same, or the
token that was asked for, or the refusal of a token that is granted without a lifetime. -/
def SameResult (action : Action) (result other : Except Failure Answer) : Prop :=
  result = other ∨
    (action = requireToken ∧ ∃ token token', TokensAlike token token' ∧
      result = .ok (.token token) ∧ other = .ok (.token token')) ∨
    ∃ document document' : Json, document.GrantsAlike document' ∧
      result = .error (.refused Grant.noLifetime [document]) ∧
      other = .error (.refused Grant.noLifetime [document'])

variable [Instant τ] {surroundings : Surroundings τ}

/-- Every operation of a client ends alike. -/
theorem paired {action : Action} (h : ¬ action.IsRaw) :
    Paired surroundings (World.Awaiting surroundings) World.Alike action.SameAnswer
      action.operation action.operation := by
  have hbefore := steady_awaiting surroundings
  have hsame : ∀ {α : Type} {operation : Operation τ α} (answer : α → Answer),
      Paired surroundings (World.Awaiting surroundings) World.InStep Eq operation operation →
      Paired surroundings (World.Awaiting surroundings) World.Alike action.SameAnswer
        (answer <$> operation) (answer <$> operation) := fun answer hpaired =>
    (hpaired.weaken (fun _ _ hworld => hworld.alike) fun _ _ => id).map
      fun _ _ hequal => .inl (congrArg answer hequal)
  cases action with
  | requireToken =>
    refine (paired_requireToken.weaken (fun _ _ hworld => hworld.alike) fun _ _ => id).map
      fun token token' htokens => ?_
    exact .inr ⟨rfl, token, token', htokens, rfl, rfl⟩
  | invalidateToken =>
    have hdropped : Paired surroundings (World.Awaiting surroundings) World.Alike Eq
        Operation.invalidateToken Operation.invalidateToken := by
      refine (blind_say _ _).bind_paired hbefore fun _ => ?_
      exact paired_change fun _ _ hworld => hworld.alike.withCache ⟨.none, rfl⟩
    exact hdropped.map fun _ _ _ => .inl rfl
  | upload kind filename source => exact hsame _ (paired_upload kind filename source)
  | uploadFromFile kind path => exact hsame _ (paired_uploadFromFile kind path)
  | download mediaId writer => exact hsame _ (paired_download mediaId writer)
  | downloadToFile mediaId path => exact hsame _ (paired_downloadToFile mediaId path)
  | uploadNews _ | uploadVideo _ | orderById _ | ordersByFilter _ | setDelivery _ _ _
  | closeOrder _ =>
    refine ((postsTo rfl).paired ⟨⟨_, fun _ => rfl⟩, fun _ _ _ => rfl⟩).weaken
      (fun _ _ hworld => hworld.alike) fun _ _ => .inl
  | _ => exact absurd trivial h

end Action

/-! ## Steps -/

/-- Sessions that differ in the kept token. -/
structure Session.Alike (session other : Session τ) : Prop where
  client : session.client.Alike other.client
  files : session.files = other.files

variable [Instant τ]

namespace Step

/-- Two steps have the same inputs: the same action in the same surroundings, which is not given an
address, and the same outcomes of requests; but if a token is requested, the outcome of that request
may differ in the token. -/
structure SameInputs (step other : Step τ) : Prop where
  action : step.turn.action = other.turn.action
  notRaw : ¬ step.turn.action.IsRaw
  surroundings : step.turn.surroundings = other.turn.surroundings
  foreseen : step.turn.foreseen = other.turn.foreseen ∨
    step.tokenRequests ≠ [] ∧
      Http.OutcomesAlike step.turn.surroundings.reading step.turn.foreseen other.turn.foreseen

/-- Two steps have the same outputs: the same log and files, results in common, and the same has
been written; but the tokens in the addresses of calls may be others of the same mask. -/
structure SameOutputs (step other : Step τ) : Prop where
  emissions : step.outcome.world.emissions = other.outcome.world.emissions
  result : step.turn.action.SameResult step.result other.result
  calls : List.Forall₂ Http.Call.Alike step.outcome.world.calls other.outcome.world.calls
  files : step.outcome.world.files = other.outcome.world.files
  written : step.outcome.world.written = other.outcome.world.written

/-- What has been seen of two steps whose worlds are alike in the end. -/
theorem sameOutputs_of_alike {step other : Step τ}
    (hresult : step.turn.action.SameResult step.result other.result)
    (h : step.outcome.world.Alike other.outcome.world) :
    step.SameOutputs other ∧ step.after.Alike other.after :=
  ⟨⟨h.emissions, hresult, h.calls, h.files, h.written⟩, ⟨h.client, h.files⟩⟩

/-- A step of the same inputs in a session that differs in the token has the same outputs, and the
sessions still differ in the token only. -/
theorem sameOutputs {step other : Step τ} (hsession : step.session.Alike other.session)
    (hinputs : step.SameInputs other) :
    step.SameOutputs other ∧ step.after.Alike other.after := by
  have halike : step.before.Alike other.before :=
    { client := hsession.client, files := hsession.files, calls := .nil, emissions := rfl
      written := rfl }
  have hbefore : step.before.Awaiting step.turn.surroundings other.before := by
    refine ⟨halike, ?_⟩
    rcases hinputs.foreseen with hsame | ⟨hrequested, houtcomes⟩
    · exact .inl hsame
    · refine .inr ⟨?_, houtcomes⟩
      cases husable : step.before.client.cache.usable? step.turn.surroundings.started with
      | none => rfl
      | some token =>
        rw [step.tokenRequests_eq] at hrequested
        exact absurd (Operation.tokenRequests_of_usable husable) hrequested
  have hends := Action.paired hinputs.notRaw step.before other.before hbefore
  have hresult := step.result_eq
  have hworld := step.world_outcome
  have hresult' := other.result_eq
  have hworld' := other.world_outcome
  rw [← hinputs.action, ← hinputs.surroundings] at hresult' hworld'
  generalize step.turn.action.operation step.turn.surroundings step.before = first
    at hends hresult hworld
  generalize step.turn.action.operation step.turn.surroundings other.before = second
    at hends hresult' hworld'
  cases hends with
  | ok hanswer hlast =>
    refine sameOutputs_of_alike ?_ (by rwa [hworld, hworld'])
    rw [hresult, hresult']
    obtain rfl | ⟨haction, token, token', htokens, rfl, rfl⟩ := hanswer
    · exact .inl rfl
    · exact .inr (.inl ⟨haction, token, token', htokens, rfl, rfl⟩)
  | error hfailure hlast =>
    refine sameOutputs_of_alike ?_ (by rwa [hworld, hworld'])
    rw [hresult, hresult']
    obtain rfl | ⟨document, document', halike, rfl, rfl⟩ := hfailure
    · exact .inl rfl
    · exact .inr (.inr ⟨document, document', halike, rfl, rfl⟩)

end Step

/-! ## Runs -/

/-- **Tokens are not seen.** Two runs, in sessions that differ at most in the kept token, of the
same actions with the same arguments, configurations, clocks and outcomes, but for tokens of the
same masks, log the same lines at every level and have the same results and failures; only the
operation that is asked for the token gives back the token of its run, and only the refusal of a
token without a lifetime hands on the document of its run. Their calls differ at most in the value
of the parameter for the token, whatever the addresses are. -/
theorem tokens_unseen {session other : Session τ} (hsession : session.Alike other)
    {turns others : List (Turn τ)}
    (hinputs : List.Forall₂ Step.SameInputs (session.steps turns) (other.steps others)) :
    List.Forall₂ Step.SameOutputs (session.steps turns) (other.steps others) := by
  induction turns generalizing session other others with
  | nil =>
    cases others with
    | nil => exact .nil
    | cons => cases hinputs
  | cons turn rest ih =>
    cases others with
    | nil => cases hinputs
    | cons turn' rest' =>
      rw [Session.steps_cons, Session.steps_cons] at hinputs ⊢
      obtain ⟨hfirst, hrest⟩ := List.forall₂_cons.mp hinputs
      obtain ⟨houtputs, hafter⟩ := Step.sameOutputs hsession hfirst
      exact .cons houtputs (ih hafter hrest)

/-! ## Runs with different tokens -/

/-- A response that grants a token, with the given text behind it. -/
def trialToken (lifetime token : String) : Http.Response :=
  trialAnswer ("\x7b\"access_token\": \"" ++ token ++ "\"" ++ lifetime ++ "\x7d")

/-- A lifetime of a hundred seconds. -/
def trialLifetime : String := ", \"expires_in\": 100"

/-- A response of this kind carries a token with other members. -/
def CarriesToken (lifetime : String) (others : Members) (token : String) : Prop :=
  ((trialToken lifetime token).document .trial).toOption =
    some (.object (("access_token", .string token) :: others))

instance (lifetime : String) (others : Members) (token : String) :
    Decidable (CarriesToken lifetime others token) :=
  inferInstanceAs (Decidable (_ = _))

theorem CarriesToken.document {lifetime token : String} {others : Members}
    (h : CarriesToken lifetime others token) :
    (trialToken lifetime token).document .trial =
      .ok (.object (("access_token", .string token) :: others)) := by
  unfold CarriesToken at h
  cases hdocument : (trialToken lifetime token).document .trial with
  | error failure =>
    rw [hdocument] at h
    cases h
  | ok document =>
    rw [hdocument] at h
    cases h
    rfl

/-- Tokens of four characters have one mask. -/
theorem trialToken_masked : TokensAlike "1234" "5678" :=
  (by decide : Operation.maskedToken "1234" = Operation.maskedToken "5678")

theorem trialToken_alike {lifetime : String} {others : Members}
    (h : CarriesToken lifetime others "1234") (h' : CarriesToken lifetime others "5678") :
    Http.Outcome.Alike .trial (.response (trialToken lifetime "1234"))
      (.response (trialToken lifetime "5678")) := by
  refine .inr ⟨_, _, rfl, rfl, rfl, rfl, _, _, h.document, h'.document, .inr ?_⟩
  refine ⟨_, _, "1234", "5678", rfl, rfl, trialToken_masked, rfl, rfl, fun name hname => ?_⟩
  simp [Members.find?, Ne.symm hname]

/-- The first step of a client, for which a token is granted. -/
def trialFirst (lifetime token : String) (action : Action) (answers : List Http.Outcome) :
    Step Nat :=
  ⟨.new ⟨[]⟩, .trial 0, .response (trialToken lifetime token) :: answers, action⟩

theorem trialFirst_sameInputs {lifetime : String} {others : Members}
    (h : CarriesToken lifetime others "1234") (h' : CarriesToken lifetime others "5678")
    {action : Action} (hraw : ¬ action.IsRaw) (answers : List Http.Outcome) :
    (trialFirst lifetime "1234" action answers).SameInputs
      (trialFirst lifetime "5678" action answers) := by
  have hcredentials : ¬ (Surroundings.trial 0).settings.LacksCredentials := by decide
  have hrequests : (trialFirst lifetime "1234" action answers).tokenRequests =
      [(Surroundings.trial 0).settings.tokenRequest] := Step.tokenRequests_of_new hcredentials
  have hrequested : (trialFirst lifetime "1234" action answers).tokenRequests ≠ [] := by
    rw [hrequests]
    exact List.cons_ne_nil _ _
  have hsurroundings : Surroundings.trial 0 = .trial 0 := rfl
  exact ⟨Eq.refl action, hraw, hsurroundings,
    .inr ⟨hrequested, .inr ⟨_, _, _, rfl, rfl, trialToken_alike h h'⟩⟩⟩

/-- An order is closed with a new token, and then the token is asked for. -/
def trialRun (token : String) : List (Turn Nat) :=
  [(trialFirst trialLifetime token (.closeOrder "1")
      [.response (trialAnswer "\x7b\x7d")]).turn,
    ⟨.trial 0, [], .requireToken⟩]

theorem carriesToken_trialLifetime :
    CarriesToken trialLifetime [("expires_in", .integer 100)] "1234" ∧
      CarriesToken trialLifetime [("expires_in", .integer 100)] "5678" := by
  decide +kernel

theorem tokens_unseen_of_trial :
    (Session.new ⟨[]⟩ : Session Nat).Alike (.new ⟨[]⟩) ∧
      List.Forall₂ Step.SameInputs ((Session.new ⟨[]⟩).steps (trialRun "1234"))
        ((Session.new ⟨[]⟩).steps (trialRun "5678")) ∧
      List.Forall₂ Step.SameOutputs ((Session.new ⟨[]⟩).steps (trialRun "1234"))
        ((Session.new ⟨[]⟩).steps (trialRun "5678")) := by
  have hsession : (Session.new ⟨[]⟩ : Session Nat).Alike (.new ⟨[]⟩) := ⟨⟨⟨.none, rfl⟩, rfl⟩, rfl⟩
  have hinputs : List.Forall₂ Step.SameInputs ((Session.new ⟨[]⟩).steps (trialRun "1234"))
      ((Session.new ⟨[]⟩).steps (trialRun "5678")) := by
    have haction : Action.requireToken = .requireToken := rfl
    have hsurroundings : Surroundings.trial 0 = .trial 0 := rfl
    have hforeseen : ([] : List Http.Outcome) = [] := rfl
    obtain ⟨hcarries, hcarries'⟩ := carriesToken_trialLifetime
    refine .cons (trialFirst_sameInputs hcarries hcarries' id _) (.cons ?_ .nil)
    exact ⟨haction, id, hsurroundings, .inl hforeseen⟩
  exact ⟨hsession, hinputs, tokens_unseen hsession hinputs⟩

/-- The token that a step gives back, if it was asked for one. -/
def Answer.token? : Except Failure Answer → Option String
  | .ok (.token found) => some found
  | _ => none

/-- A token with a surrogate has the mask of another one without. -/
def trialSurrogate : List CodePoint :=
  CodePoint.ofText "abc" ++ .surrogate ⟨0xD800, by decide⟩ :: CodePoint.ofText "xxxxxdef"

/-- Tokens of one mask are told apart by the operation that is asked for the token, by the refusal
of a token without a lifetime, and by a surrogate, for which there is no address. -/
theorem not_same_of_tokens :
    ((trialFirst trialLifetime "1234" .requireToken []).SameInputs
        (trialFirst trialLifetime "5678" .requireToken []) ∧
      (trialFirst trialLifetime "1234" .requireToken []).result ≠
        (trialFirst trialLifetime "5678" .requireToken []).result) ∧
    ((trialFirst "" "1234" .requireToken []).SameInputs (trialFirst "" "5678" .requireToken []) ∧
      (trialFirst "" "1234" .requireToken []).result ≠
        (trialFirst "" "5678" .requireToken []).result) ∧
    (Secret.maskWith [.character '*'] trialSurrogate =
        Secret.maskWith [.character '*'] (CodePoint.ofText "abcyyyyyydef") ∧
      ((Endpoint.orderById trialSurrogate).addressOfPoints
        (Surroundings.trial 0).settings).toOption = none ∧
      ((Endpoint.orderById (CodePoint.ofText "abcyyyyyydef")).addressOfPoints
        (Surroundings.trial 0).settings).toOption =
          some "https://a/merchant/order/getbyid?access_token=abcyyyyyydef") := by
  refine ⟨⟨?_, fun hsame => ?_⟩, ⟨?_, fun hsame => ?_⟩, by decide +kernel, by decide +kernel,
    by decide +kernel⟩
  · exact trialFirst_sameInputs carriesToken_trialLifetime.1 carriesToken_trialLifetime.2 id []
  · have htokens : Answer.token? (trialFirst trialLifetime "1234" .requireToken []).result ≠
        Answer.token? (trialFirst trialLifetime "5678" .requireToken []).result := by
      decide +kernel
    exact htokens (congrArg Answer.token? hsame)
  · have hcarries : CarriesToken "" [] "1234" ∧ CarriesToken "" [] "5678" := by decide +kernel
    exact trialFirst_sameInputs hcarries.1 hcarries.2 id []
  · have hinputs : Failure.inputsOf (trialFirst "" "1234" .requireToken []).result ≠
        Failure.inputsOf (trialFirst "" "5678" .requireToken []).result := by
      decide +kernel
    exact hinputs (congrArg Failure.inputsOf hsame)

end PlatformClient
