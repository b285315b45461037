import Mathlib.Data.List.Forall2
import PlatformClient.Proofs.Independence.Respects

/-!
# Refused responses are not read

A response with another status than 200 is refused before its headers or its body are looked at.
Two runs whose refused responses differ in these have the same results, send the same requests, log
the same lines, and leave the same client behind. The outcomes that have not been asked for may
differ in the end, and nothing else does.

## Main definitions

* `Http.Response.RefusedAlike`: responses that are refused for the same status and reason
* `Http.Outcome.Agrees`: outcomes that are the same, up to what is refused
* `World.Agrees`, `Turn.Agrees`: worlds and turns in which the outcomes to come agree
* `Outcome.SameButForeseen`: what two runs have in common

## Main results

* `checkStatus_congr`: refused responses are not told apart
* `respects_exchange_bind`: a request with agreeing outcomes, before what does not tell them apart
* `Action.respects_agrees`: no operation of a client tells worlds apart that agree
* `Session.run_congr`: runs with agreeing outcomes have the same outcomes and end alike
-/

namespace PlatformClient

variable {τ α β : Type}

/-! ## What may differ in the outcomes to come -/

/-- Responses that are refused for the same status, with the same reason. Their headers and their
bodies may differ. -/
structure Http.Response.RefusedAlike (response other : Response) : Prop where
  refused : response.status ≠ Operation.acceptedStatus
  status : other.status = response.status
  reason : other.reason = response.reason

/-- Outcomes that are the same, or responses that are refused alike. -/
inductive Http.Outcome.Agrees : Outcome → Outcome → Prop
  | same (outcome : Outcome) : Agrees outcome outcome
  | refused {response other : Response} (h : response.RefusedAlike other) :
      Agrees (.response response) (.response other)

namespace World

/-- A world without the outcomes to come. -/
def withoutForeseen (world : World τ) : World τ := { world with foreseen := [] }

/-- Worlds that have everything in common but the outcomes to come, which agree. -/
structure Agrees (world other : World τ) : Prop where
  same : world.withoutForeseen = other.withoutForeseen
  foreseen : List.Forall₂ Http.Outcome.Agrees world.foreseen other.foreseen

variable {world other : World τ}

theorem Agrees.next (h : world.Agrees other) (surroundings : Surroundings τ) :
    (world.next surroundings).Agrees (other.next surroundings) := by
  have hforeseen := h.foreseen
  unfold World.next
  generalize world.foreseen = outcomes at hforeseen ⊢
  generalize other.foreseen = outcomes' at hforeseen ⊢
  cases hforeseen with
  | nil => exact .same _
  | cons hfirst _ => exact hfirst

/-- A request with agreeing outcomes is recorded in the same way. -/
theorem Agrees.sent (h : world.Agrees other) (request : Http.Request)
    {outcome outcome' : Http.Outcome} (houtcome : outcome.Agrees outcome') :
    (world.sent request outcome).Agrees (other.sent request outcome') := by
  refine ⟨?_, ?_⟩
  · cases houtcome with
    | same => exact congrArg (World.sent request outcome) h.same
    | @refused response _ _ => exact congrArg (World.sent request (.response response)) h.same
  · have hforeseen := h.foreseen
    change List.Forall₂ _ world.foreseen.tail other.foreseen.tail
    generalize world.foreseen = outcomes at hforeseen ⊢
    generalize other.foreseen = outcomes' at hforeseen ⊢
    cases hforeseen with
    | nil => exact .nil
    | cons _ hrest => exact hrest

end World

namespace Operation

variable {surroundings : Surroundings τ}

/-! ## Requests with agreeing outcomes -/

/-- Refused responses are not told apart. -/
theorem checkStatus_congr {response other : Http.Response} (h : response.RefusedAlike other)
    (call : Nat) :
    (checkStatus (some ⟨call, other⟩) : Operation τ Arrival) =
      checkStatus (some ⟨call, response⟩) := by
  let arrival : Arrival := ⟨call, response⟩
  let arrival' : Arrival := ⟨call, other⟩
  have hrefused : arrival.response.status ≠ acceptedStatus := h.refused
  have hrefused' : arrival'.response.status ≠ acceptedStatus := h.status ▸ h.refused
  rw [checkStatus_of_ne hrefused, checkStatus_of_ne hrefused', h.status, h.reason]

theorem Blind.respects_agrees {operation : Operation τ α} (h : Blind operation) :
    Respects surroundings World.Agrees operation :=
  h.respects_of_logged fun lines hworld =>
    ⟨congrArg (World.logged lines) hworld.same, hworld.foreseen⟩

/-- A request with agreeing outcomes, before what does not tell them apart. -/
theorem respects_exchange_bind (request : Http.Request) {next : Option Arrival → Operation τ β}
    (hnext : ∀ arrival?, Respects surroundings World.Agrees (next arrival?))
    (hrefused : ∀ call {response other : Http.Response}, response.RefusedAlike other →
      next (some ⟨call, other⟩) = next (some ⟨call, response⟩)) :
    Respects surroundings World.Agrees (exchange request >>= next) := by
  intro world other hworld
  have houtcome := hworld.next surroundings
  have hsent := hworld.sent request houtcome
  have hplace : other.calls.length = world.calls.length :=
    congrArg (fun world => world.calls.length) hworld.same.symm
  rw [bind_apply, bind_apply, exchange_apply, exchange_apply, hplace]
  generalize world.next surroundings = outcome at houtcome hsent ⊢
  generalize other.next surroundings = outcome' at houtcome hsent ⊢
  cases houtcome with
  | same =>
    cases received world.calls.length outcome with
    | error failure => exact ⟨_, _, _, hsent, rfl, rfl⟩
    | ok arrival? => exact hnext arrival? _ _ hsent
  | @refused response response' h =>
    simp only [received, hrefused world.calls.length h]
    exact hnext (some ⟨world.calls.length, response⟩) _ _ hsent

/-- A document is fetched, or the status of the response is reported in the same way. -/
theorem respects_fetchJson_agrees (request : Http.Request) :
    Respects surroundings World.Agrees (fetchJson request) := by
  refine respects_exchange_bind request (fun arrival? => ?_) fun call response other h => ?_
  · exact (blind_checkStatus arrival?).respects_agrees.bind fun arrival =>
      (blind_readJson arrival).respects_agrees
  · rw [checkStatus_congr h]

theorem agrees_closeResponse (arrival : Arrival) {world other : World τ}
    (h : world.Agrees other) :
    (closeResponse arrival world).Agrees (closeResponse arrival other) :=
  ⟨congrArg (closeResponse arrival) h.same, h.foreseen⟩

/-- A stream is opened, or the response is closed in both worlds. -/
theorem respects_getStream_agrees (url : String) :
    Respects surroundings World.Agrees (getStream url) := by
  refine (blind_say _ _).respects_agrees.bind fun _ => ?_
  refine blind_settings.respects_agrees.bind fun current => ?_
  refine respects_exchange_bind _ (fun arrival? => ?_) fun call response other h => ?_
  · refine (blind_checkStatus arrival?).respects_agrees.onFailure _ fun _ _ hworld => ?_
    cases arrival? with
    | none => exact hworld
    | some arrival => exact agrees_closeResponse arrival hworld
  · -- which response is closed, is a matter of its place alone
    rw [checkStatus_congr h]
    rfl

/-! ## The operations of a client -/

theorem peers_agrees : Peers surroundings World.Agrees where
  cache h := congrArg (·.client.cache) h.same
  logged lines h := ⟨congrArg (World.logged lines) h.same, h.foreseen⟩
  withCache cache h := ⟨congrArg (World.withCache cache) h.same, h.foreseen⟩
  fetchJson := respects_fetchJson_agrees

theorem closePeers_agrees : ClosePeers surroundings World.Agrees where
  toPeers := peers_agrees
  files h := congrArg (·.files) h.same
  written h := congrArg (·.written) h.same
  withFiles files h := ⟨congrArg (World.withFiles files) h.same, h.foreseen⟩
  wrote pieces h := ⟨congrArg (World.wrote pieces) h.same, h.foreseen⟩
  closeResponse arrival h := agrees_closeResponse arrival h
  getStream := respects_getStream_agrees

theorem poolPeers_agrees : PoolPeers surroundings World.Agrees where
  toPeers := peers_agrees
  pool h := congrArg (·.client.pool?) h.same
  withPool pool h := ⟨congrArg (Operation.withPool · pool) h.same, h.foreseen⟩

end Operation

/-- No operation of a client tells worlds apart that agree. -/
theorem Action.respects_agrees [Instant τ] (action : Action) (surroundings : Surroundings τ) :
    Operation.Respects surroundings World.Agrees action.operation :=
  action.respects_of_upload Operation.closePeers_agrees
    (Operation.respects_upload_of_samePool Operation.poolPeers_agrees)

/-! ## Turns and runs -/

/-- Turns that differ in nothing but the outcomes of their requests, which agree. -/
structure Turn.Agrees (turn other : Turn τ) : Prop where
  surroundings : turn.surroundings = other.surroundings
  action : turn.action = other.action
  foreseen : List.Forall₂ Http.Outcome.Agrees turn.foreseen other.foreseen

/-- Outcomes that have everything in common but the outcomes of requests that have not been made:
the result, the calls, the log, the files, what has been written, the cache and the pool. -/
structure Outcome.SameButForeseen (outcome other : Outcome τ) : Prop where
  result : outcome.result = other.result
  world : outcome.world.withoutForeseen = other.world.withoutForeseen

theorem Outcome.SameButForeseen.session {outcome other : Outcome τ}
    (h : outcome.SameButForeseen other) : outcome.session = other.session :=
  congrArg (fun world => (⟨world.client, world.files⟩ : Session τ)) h.world

variable [Instant τ]

/-- Turns with agreeing outcomes are played in the same way. -/
theorem Turn.play_congr {turn other : Turn τ} (h : turn.Agrees other) (session : Session τ) :
    (turn.play session).SameButForeseen (other.play session) := by
  have hbefore : World.Agrees (.of session.client session.files turn.foreseen)
      (.of session.client session.files other.foreseen) := ⟨rfl, h.foreseen⟩
  obtain ⟨result, after, after', hafter, happly, happly'⟩ :=
    turn.action.respects_agrees turn.surroundings _ _ hbefore
  unfold Turn.play
  rw [← h.action, ← h.surroundings, happly, happly']
  exact ⟨rfl, hafter.same⟩

/-- Runs with agreeing outcomes have the same outcomes and end alike. Behind each turn, both go on
from one session. -/
theorem Session.run_congr {turns others : List (Turn τ)} (h : List.Forall₂ Turn.Agrees turns others)
    (session : Session τ) :
    List.Forall₂ Outcome.SameButForeseen (session.run turns).1 (session.run others).1 ∧
      (session.run turns).2 = (session.run others).2 := by
  induction h generalizing session with
  | nil => exact ⟨.nil, rfl⟩
  | @cons turn other rest more hturn _ ih =>
    have hfirst := Turn.play_congr hturn session
    obtain ⟨hrest, hlast⟩ := ih (turn.play session).session
    rw [hfirst.session] at hrest hlast
    simp only [Session.run, hfirst.session]
    exact ⟨.cons hfirst hrest, hlast⟩

end PlatformClient
