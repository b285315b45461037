import PlatformClient.Proofs.Endpoint.Address
import PlatformClient.Proofs.Session.Record
import PlatformClient.Proofs.Token.Use

/-!
# The discipline of requests

In every step of a run that is an operation of the platform, at most one token is requested and at
most one call is made, in this order. The token that was obtained is read back from the address of
the call, and nothing is sent again after a failure. An operation whose arguments are refused sends
nothing and leaves what the client keeps as it is.

## Main definitions

* `Action.IsPlatform`: the operations of the platform
* `Action.refusal?`, `Action.endpoint?`: why their arguments are refused, and what they call
* `Http.Request.Carries`: a request carries a token in its address
* `Step.CallsPlatform`: a step makes its call
* `Disciplined`: the discipline of a step

## Main results

* `Action.operation_of_refused`: refused arguments are all that matters
* `Action.usesToken`: accepted ones lead to the use of a token
* `Action.carries_of_endpoint`: the call of an operation carries its token
* `disciplined_steps`: every operation of the platform in a run is disciplined
-/

namespace PlatformClient

variable {τ : Type}

/-- A request carries a token: what stands behind the last question mark of its address is read as
named values, of which exactly one is an access token, and that is the token. -/
def Http.Request.Carries (token : String) (request : Http.Request) : Prop :=
  ∃ (front query : String) (values : Query.Parameters),
    request.url = front ++ "?" ++ query ∧ '?' ∉ query.toList ∧
    Query.read? query.toList = some values ∧
    values.filter (·.1 = "access_token") = [("access_token", token)]

namespace Action

/-- The operations of the platform. -/
def IsPlatform : Action → Prop
  | upload .. | download .. | uploadNews _ | uploadVideo _ => True
  | orderById _ | ordersByFilter _ | setDelivery .. | closeOrder _ => True
  | _ => False

/-- The code under which the arguments of an operation are refused. The first reason counts. -/
def refusal? : Action → Option ErrorCode
  | upload kind filename source =>
    if MediaType.lookup? kind = none then some .invalidMediaType
    else if filename = "" then some .missingFilename
    else if source.isNone then some .missingReader
    else none
  | download mediaId writer =>
    if mediaId = "" then some .missingMediaId
    else if writer.isNone then some .missingWriter
    else none
  | uploadNews none => some .missingNews
  | uploadVideo none => some .missingVideo
  | _ => none

/-- The endpoint that an operation calls with a token. -/
def endpoint? (token : String) : Action → Option Endpoint
  | upload kind _ _ => (MediaType.lookup? kind).map fun medium => .mediaUpload token medium.name
  | download mediaId _ => some (.mediaDownload token mediaId)
  | uploadNews _ => some (.newsUpload token)
  | uploadVideo _ => some (.videoUpload token)
  | orderById _ => some (.orderById token)
  | ordersByFilter _ => some (.ordersByFilter token)
  | setDelivery .. => some (.deliverySetting token)
  | closeOrder _ => some (.orderClosing token)
  | _ => none

/-- Behind the base address, the call of an operation has one token among its parameters. -/
theorem tokens_of_endpoint {action : Action} {token : String} {endpoint : Endpoint}
    (h : action.endpoint? token = some endpoint) :
    endpoint.parameters.filter (·.1 = "access_token") = [("access_token", token)] := by
  cases action with
  | upload kind filename source =>
    obtain ⟨medium, -, rfl⟩ := Option.map_eq_some_iff.mp h
    rfl
  | download _ _ | uploadNews _ | uploadVideo _ | orderById _ | ordersByFilter _
  | setDelivery _ _ _ | closeOrder _ =>
    cases h
    rfl
  | _ => cases h

/-- The call of an operation carries its token. -/
theorem carries_of_endpoint {action : Action} {token : String} {endpoint : Endpoint}
    {settings : Settings} {request : Http.Request} (h : action.endpoint? token = some endpoint)
    (hurl : request.url = endpoint.address settings) : request.Carries token :=
  ⟨_, _, _, hurl,
    endpoint.not_mem_query (by decide) (by decide) (by decide) (by decide),
    endpoint.read?_query, tokens_of_endpoint h⟩

/-- The arguments of an upload that are not refused. -/
theorem upload_accepted {kind : Json} {filename : String} {source : Option Operation.Source}
    (h : (upload kind filename source).refusal? = none) :
    ∃ medium accepted, MediaType.lookup? kind = some medium ∧ filename ≠ "" ∧
      source = some accepted := by
  simp only [refusal?] at h
  split at h
  · cases h
  · rename_i hkind
    obtain ⟨medium, hmedium⟩ := Option.ne_none_iff_exists'.mp hkind
    split at h
    · cases h
    · rename_i hfilename
      cases source with
      | none => cases h
      | some accepted => exact ⟨medium, accepted, hmedium, hfilename, rfl⟩

/-- The arguments of a download that are not refused. -/
theorem download_accepted {mediaId : String} {writer : Option Operation.Writer}
    (h : (download mediaId writer).refusal? = none) :
    ∃ accepted, mediaId ≠ "" ∧ writer = some accepted := by
  simp only [refusal?] at h
  split at h
  · cases h
  · rename_i hmediaId
    cases writer with
    | none => cases h
    | some accepted => exact ⟨accepted, hmediaId, rfl⟩

variable [Instant τ]

/-- Refused arguments are all that matters to an operation. -/
theorem operation_of_refused {action : Action} {code : ErrorCode}
    (h : action.refusal? = some code) :
    ∃ text, (action.operation : Operation τ Answer) = Operation.raise (.validation code text) := by
  cases action with
  | upload kind filename source =>
    simp only [refusal?] at h
    split at h
    · rename_i hkind
      cases h
      exact ⟨_, congrArg (Answer.upload <$> ·) (Operation.upload_of_unknown hkind filename source)⟩
    · rename_i hkind
      obtain ⟨medium, hmedium⟩ := Option.ne_none_iff_exists'.mp hkind
      split at h
      · rename_i hfilename
        cases h
        cases hfilename
        exact ⟨_, congrArg (Answer.upload <$> ·) (Operation.upload_of_unnamed hmedium source)⟩
      · rename_i hfilename
        cases source with
        | some source => cases h
        | none =>
          cases h
          exact ⟨_, congrArg (Answer.upload <$> ·) (Operation.upload_of_unread hmedium hfilename)⟩
  | download mediaId writer =>
    simp only [refusal?] at h
    split at h
    · rename_i hmediaId
      cases h
      cases hmediaId
      exact ⟨_, congrArg ((fun _ => Answer.done) <$> ·) (Operation.download_of_unnamed writer)⟩
    · rename_i hmediaId
      cases writer with
      | some writer => cases h
      | none =>
        cases h
        have hunwritten := Operation.download_of_unwritten (τ := τ) hmediaId
        exact ⟨_, congrArg ((fun _ => Answer.done) <$> ·) hunwritten⟩
  | uploadNews news =>
    cases news with
    | some news => cases h
    | none =>
      cases h
      exact ⟨_, rfl⟩
  | uploadVideo video =>
    cases video with
    | some video => cases h
    | none =>
      cases h
      exact ⟨_, rfl⟩
  | _ => cases h

/-- Accepted arguments lead to the use of a token. -/
theorem usesToken {action : Action} (hplatform : action.IsPlatform) (h : action.refusal? = none) :
    ∃ endpoint, (∀ token, action.endpoint? token = some (endpoint token)) ∧
      Operation.UsesToken (Operation.Reaches endpoint) (action.operation : Operation τ Answer) := by
  cases action with
  | upload kind filename source =>
    obtain ⟨medium, accepted, hkind, hfilename, rfl⟩ := upload_accepted h
    refine ⟨_, fun token => ?_, (Operation.usesToken_upload hkind hfilename accepted).map _⟩
    simp [endpoint?, hkind]
  | download mediaId writer =>
    obtain ⟨accepted, hmediaId, rfl⟩ := download_accepted h
    exact ⟨_, fun _ => rfl, (Operation.usesToken_download hmediaId accepted).map _⟩
  | uploadNews _ | uploadVideo _ | orderById _ | ordersByFilter _ | setDelivery _ _ _
  | closeOrder _ =>
    exact ⟨_, fun _ => rfl, (postsTo rfl).usesToken⟩
  | _ => cases hplatform

end Action

variable [Instant τ]

namespace Step

/-- The requests of asking for a token where a step begins. An operation of the platform only logs
before it asks, so these are its own. -/
def tokenRequests (step : Step τ) : List Http.Request :=
  (Operation.requireToken step.turn.surroundings step.before).2.requests

/-- The token that is obtained where a step begins, and so by the operation of the step. -/
def Obtains (step : Step τ) (token : String) : Prop :=
  (Operation.requireToken step.turn.surroundings step.before).1 = .ok token

/-- A step obtains a token and then makes its call, which carries the token. -/
def CallsPlatform (step : Step τ) : Prop :=
  ∃ token endpoint request, step.Obtains token ∧
    step.turn.action.endpoint? token = some endpoint ∧
    request.url = endpoint.address step.turn.surroundings.settings ∧ request.Carries token ∧
    step.requests = step.tokenRequests ++ [request]

theorem tokenRequests_eq (step : Step τ) :
    step.tokenRequests =
      Operation.tokenRequests step.turn.surroundings step.session.client.cache :=
  Operation.requests_requireToken step.turn.surroundings step.before

/-- A new client with credentials requests a token. -/
theorem tokenRequests_of_new {files : FileStore} {turn : Turn τ}
    (h : ¬ turn.surroundings.settings.LacksCredentials) :
    (⟨.new files, turn⟩ : Step τ).tokenRequests = [turn.surroundings.settings.tokenRequest] := by
  rw [tokenRequests_eq]
  exact Operation.tokenRequests_of_stale (TokenCache.usable?_empty _) h

end Step

/-- The discipline of a step. -/
structure Disciplined (step : Step τ) : Prop where
  /-- Refused arguments are reported; nothing is sent, and the cache and the pool stay. -/
  refused : ∀ code, step.turn.action.refusal? = some code →
    step.requests = [] ∧ step.after.client = step.session.client ∧
      ∃ text, step.result = .error (.fault (.validation code text))
  /-- At most one token is requested. -/
  token : step.tokenRequests = [] ∨
    step.tokenRequests = [step.turn.surroundings.settings.tokenRequest]
  /-- Then the call is made; or else the step fails, after nothing or only this has been sent. -/
  call : step.CallsPlatform ∨
    (∃ failure, step.result = .error failure) ∧
      (step.requests = [] ∨ step.requests = step.tokenRequests)

/-! ## Each step -/

theorem Step.token_requested (step : Step τ) :
    step.tokenRequests = [] ∨
      step.tokenRequests = [step.turn.surroundings.settings.tokenRequest] := by
  rw [step.tokenRequests_eq]
  unfold Operation.tokenRequests
  split
  · exact .inr rfl
  · exact .inl rfl

theorem disciplined_of_refused {step : Step τ} {code : ErrorCode}
    (h : step.turn.action.refusal? = some code) : Disciplined step := by
  obtain ⟨text, hoperation⟩ := Action.operation_of_refused (τ := τ) h
  have hresult : step.result = .error (.fault (.validation code text)) := by
    rw [Step.result_eq, hoperation]
    rfl
  have hworld : step.outcome.world = step.before := by
    rw [Step.world_outcome, hoperation]
    rfl
  have hrequests : step.requests = [] := congrArg World.requests hworld
  have hclient : step.after.client = step.session.client := congrArg World.client hworld
  refine ⟨fun other hother => ?_, step.token_requested, .inr ⟨⟨_, hresult⟩, .inl hrequests⟩⟩
  obtain rfl : code = other := Option.some.inj (h.symm.trans hother)
  exact ⟨hrequests, hclient, text, hresult⟩

/-- Every operation of the platform is disciplined, whatever the client keeps. -/
theorem Step.disciplined {step : Step τ} (hplatform : step.turn.action.IsPlatform) :
    Disciplined step := by
  cases hrefusal : step.turn.action.refusal? with
  | some code => exact disciplined_of_refused hrefusal
  | none =>
    obtain ⟨endpoint, hendpoint, huses⟩ := Action.usesToken (τ := τ) hplatform hrefusal
    refine ⟨fun code hcode => ?_, step.token_requested, ?_⟩
    · cases hrefusal.symm.trans hcode
    · rcases huses step.turn.surroundings step.before with
        ⟨hfail, hrequests⟩ | ⟨token, request, htoken, hreaches, hsent⟩
      · rw [Step.requests_before, List.nil_append, Step.client_before,
          ← step.tokenRequests_eq] at hrequests
        exact .inr ⟨hfail, hrequests⟩
      · rw [Step.requests_before, List.nil_append, Step.client_before,
          ← step.tokenRequests_eq] at hsent
        exact .inl ⟨token, endpoint token, request, htoken, hendpoint token, hreaches,
          Action.carries_of_endpoint (hendpoint token) hreaches, hsent⟩

/-! ## Each run -/

/-- **The discipline of requests.** In every run, with whatever arguments, configurations, clocks
and outcomes, every operation of the platform is disciplined. -/
theorem disciplined_steps (session : Session τ) (turns : List (Turn τ)) :
    ∀ step ∈ session.steps turns, step.turn.action.IsPlatform → Disciplined step :=
  fun _ _ hplatform => Step.disciplined hplatform

/-- A run in which an upload is refused and then an order is asked for. -/
def trialOrders : List (Turn Nat) :=
  [⟨.trial 0, [], .upload (.string "image") "" none⟩, ⟨.trial 0, [], .orderById "1"⟩]

theorem disciplined_steps_of_trial :
    ∃ refused ordered, (Session.new ⟨[]⟩).steps trialOrders = [refused, ordered] ∧
      Disciplined refused ∧ refused.requests = [] ∧ Disciplined ordered := by
  refine ⟨_, _, rfl, ?_, ?_, ?_⟩
  · exact disciplined_steps (.new ⟨[]⟩) trialOrders _ List.mem_cons_self trivial
  · have hrefused := disciplined_steps (.new ⟨[]⟩) trialOrders _ List.mem_cons_self trivial
    exact (hrefused.refused .missingFilename rfl).1
  · exact disciplined_steps (.new ⟨[]⟩) trialOrders _
      (List.mem_cons_of_mem _ List.mem_cons_self) trivial

end PlatformClient
