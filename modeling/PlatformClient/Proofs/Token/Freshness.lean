import Mathlib.Algebra.Order.Ring.Rat
import Mathlib.Data.List.Basic
import PlatformClient.Proofs.Session.Record
import PlatformClient.Proofs.Token.Obtaining

/-!
# Tokens are fresh

A client that only asks for its token and drops it is observed over a whole run. The history of the
run tells whether there is a fresh token: one that was fetched, has not been dropped or replaced
since, and has not expired. Such a token is the answer and nothing is sent; else there is one
request and the answer is what this request brings. The clock is exact here, and its readings never
decrease.

A grant that lives too long for the clock leaves its token in the cache beside the expiry of an
earlier one. That expiry has passed by then, so the token is never used.

## Main definitions

* `Step.Fetches`: a token is fetched in a step
* `InForce`, `Fresh`: the fetched token that counts, and until when it is fresh
* `AnswersFrom`: the answer of a step is the one that the history prescribes
* `Recalls`: the cache holds what the history prescribes

## Main results

* `Recalls.step`: each step keeps the cache in agreement with the history
* `answersAnew_of_stale`: without a usable token, one request decides
* `answersFrom_history`: every answer of a run is the one that its history prescribes
-/

namespace PlatformClient

/-! ## An exact clock -/

/-- Instants as exact numbers of seconds. The number of seconds by which an instant is moved on must
still be a floating point number. -/
instance : Instant ℚ where
  origin := 0
  before a b := a < b
  after? a seconds := (Binary64.ofNat? seconds).map fun _ => a + seconds

theorem eq_add_of_after?_eq_some {a expiry : ℚ} {seconds : ℕ}
    (h : Instant.after? a seconds = some expiry) : expiry = a + seconds := by
  obtain ⟨x, -, hx⟩ := Option.map_eq_some_iff.mp h
  exact hx.symm

theorem TokenCache.usable?_eq_some_iff {cache : TokenCache ℚ} {now : ℚ} {token : String} :
    cache.usable? now = some token ↔ now < cache.expiry ∧ cache.token? = some token := by
  unfold usable?
  by_cases h : now < cache.expiry <;> simp [Instant.before, h]

/-- The readings of the clock in a turn. -/
def Turn.readings (turn : Turn ℚ) : List ℚ :=
  [turn.surroundings.started, turn.surroundings.answered]

/-- The readings of the clock never decrease, from some instant on. The clock has both readings of a
turn, also where the action does not take them. -/
def ChronologicalFrom (now : ℚ) (turns : List (Turn ℚ)) : Prop :=
  (now :: turns.flatMap Turn.readings).Pairwise (· ≤ ·)

/-- The readings of the clock are not negative and never decrease. -/
abbrev Chronological (turns : List (Turn ℚ)) : Prop := ChronologicalFrom 0 turns

theorem ChronologicalFrom.cons {now : ℚ} {turn : Turn ℚ} {rest : List (Turn ℚ)}
    (h : ChronologicalFrom now (turn :: rest)) :
    now ≤ turn.surroundings.started ∧
      turn.surroundings.started ≤ turn.surroundings.answered ∧
      ChronologicalFrom turn.surroundings.answered rest := by
  unfold ChronologicalFrom at h
  rw [List.flatMap_cons] at h
  obtain ⟨hnow, hturn⟩ := List.pairwise_cons.mp h
  obtain ⟨hstarted, hrest⟩ := List.pairwise_cons.mp hturn
  exact ⟨hnow _ List.mem_cons_self, hstarted _ List.mem_cons_self, hrest⟩

/-! ## What the history prescribes -/

/-- A token is fetched in a step: it is asked for, a request is made for it, this request brings the
grant, and the granted token is the answer. -/
def Step.Fetches (step : Step ℚ) (grant : Grant) : Prop :=
  step.turn.action = .requireToken ∧ step.requests ≠ [] ∧
    step.reply.Delivers step.turn.surroundings.reading Grant.document grant ∧
    step.result = .ok (.token grant.token)

/-- The instant until which a token that is fetched in a step is fresh. -/
def Step.freshUntil (step : Step ℚ) (grant : Grant) : ℚ :=
  step.turn.surroundings.answered +
    (max (grant.lifetime - step.turn.surroundings.settings.tokenMargin) 0 : ℤ)

/-- A fetch of the history counts: since then no token has been dropped, and none fetched. -/
def InForce (history : List (Step ℚ)) (fetch : Step ℚ) (grant : Grant) : Prop :=
  ∃ earlier later, history = earlier ++ fetch :: later ∧ fetch.Fetches grant ∧
    ∀ step ∈ later, step.turn.action ≠ .invalidateToken ∧ ∀ other, ¬ step.Fetches other

/-- A token is fresh at an instant. -/
def Fresh (history : List (Step ℚ)) (now : ℚ) (token : String) : Prop :=
  ∃ fetch grant, InForce history fetch grant ∧ now < fetch.freshUntil grant ∧ grant.token = token

/-- The answer of a step is found anew, without a kept token. -/
structure AnswersAnew (step : Step ℚ) : Prop where
  /-- Without credentials nothing is sent. -/
  unconfigured : step.turn.surroundings.settings.LacksCredentials →
    step.requests = [] ∧ ∃ text, step.result =
      .error (.fault (.ofKind .configuration ErrorCode.missingAppCredentials.number text))
  /-- With credentials, a token is requested once. -/
  requested : ¬ step.turn.surroundings.settings.LacksCredentials →
    step.requests = [step.turn.surroundings.settings.tokenRequest]
  /-- An answer is a token that this request brings. -/
  delivered : ∀ answer, step.result = .ok answer →
    ∃ grant, step.Fetches grant ∧ answer = .token grant.token
  /-- A token that the request brings is the answer, unless it lives too long for the clock. -/
  granted : ¬ step.turn.surroundings.settings.LacksCredentials →
    ∀ grant, step.reply.Delivers step.turn.surroundings.reading Grant.document grant →
      step.result =
        if (Binary64.ofNat? (TokenCache.usefulLife
            step.turn.surroundings.settings.tokenMargin grant)).isSome then
          .ok (.token grant.token)
        else .error .lifetimeTooLong

/-- The answer of a step is the one that the history prescribes. -/
structure AnswersFrom (history : List (Step ℚ)) (step : Step ℚ) : Prop where
  /-- There is an answer without a request exactly if some token is fresh. -/
  silent_iff : (step.requests = [] ∧ ∃ answer, step.result = .ok answer) ↔
    ∃ token, Fresh history step.turn.surroundings.started token
  /-- A fresh token is the answer. -/
  fresh : ∀ token, Fresh history step.turn.surroundings.started token →
    step.result = .ok (.token token)
  /-- Without a fresh token the answer is found anew. -/
  anew : (∀ token, ¬ Fresh history step.turn.surroundings.started token) → AnswersAnew step

theorem Step.Fetches.unique {step : Step ℚ} {a b : Grant} (ha : step.Fetches a)
    (hb : step.Fetches b) : a = b :=
  ha.2.2.1.unique hb.2.2.1

theorem not_fetches_of_silent {step : Step ℚ} (h : step.requests = []) (grant : Grant) :
    ¬ step.Fetches grant :=
  fun hfetches => hfetches.2.1 h

theorem not_fetches_of_error {step : Step ℚ} {failure : Failure}
    (h : step.result = .error failure) (grant : Grant) : ¬ step.Fetches grant := by
  intro hfetches
  cases h.symm.trans hfetches.2.2.2

theorem inForce_nil {fetch : Step ℚ} {grant : Grant} : ¬ InForce [] fetch grant := by
  rintro ⟨earlier, later, hhistory, -⟩
  simp at hhistory

/-- The last step of a history decides: it is the fetch that counts, or it leaves the one before it
in force. -/
theorem inForce_snoc_iff {history : List (Step ℚ)} {last fetch : Step ℚ} {grant : Grant} :
    InForce (history ++ [last]) fetch grant ↔
      (fetch = last ∧ last.Fetches grant) ∨
      (InForce history fetch grant ∧ last.turn.action ≠ .invalidateToken ∧
        ∀ other, ¬ last.Fetches other) := by
  constructor
  · rintro ⟨earlier, later, hhistory, hfetches, hlater⟩
    rcases List.eq_nil_or_concat later with rfl | ⟨middle, final, rfl⟩
    · -- nothing follows the fetch, which is the last step
      obtain ⟨-, hlast⟩ := List.append_inj' hhistory rfl
      obtain rfl := List.singleton_inj.mp hlast
      exact .inl ⟨rfl, hfetches⟩
    · -- the last step follows the fetch, and keeps it in force
      have hsplit : history ++ [last] = (earlier ++ fetch :: middle) ++ [final] := by
        simpa using hhistory
      obtain ⟨rfl, hlast⟩ := List.append_inj' hsplit rfl
      obtain rfl := List.singleton_inj.mp hlast
      have hkeeps := hlater last (by simp)
      refine .inr ⟨⟨earlier, middle, rfl, hfetches, fun step hstep => hlater step ?_⟩, hkeeps⟩
      rw [List.concat_eq_append]
      exact List.mem_append_left _ hstep
  · rintro (⟨rfl, hfetches⟩ | ⟨⟨earlier, later, rfl, hfetches, hlater⟩, hkeeps⟩)
    · exact ⟨history, [], rfl, hfetches, by simp⟩
    · refine ⟨earlier, later ++ [last], by simp, hfetches, fun step hstep => ?_⟩
      rcases List.mem_append.mp hstep with hstep | hstep
      · exact hlater step hstep
      · obtain rfl := List.mem_singleton.mp hstep
        exact hkeeps

/-- A step that neither drops nor fetches a token leaves the fresh token as it is. -/
theorem fresh_snoc_of_keeps {history : List (Step ℚ)} {last : Step ℚ}
    (haction : last.turn.action ≠ .invalidateToken) (hfetches : ∀ grant, ¬ last.Fetches grant)
    (now : ℚ) (token : String) :
    Fresh (history ++ [last]) now token ↔ Fresh history now token := by
  unfold Fresh
  simp only [inForce_snoc_iff, hfetches, and_false, false_or, haction, ne_eq, not_false_eq_true,
    implies_true, and_true]

/-- A fetched token is the fresh one, until it expires. -/
theorem fresh_snoc_of_fetches {history : List (Step ℚ)} {last : Step ℚ} {grant : Grant}
    (hfetches : last.Fetches grant) (now : ℚ) (token : String) :
    Fresh (history ++ [last]) now token ↔ now < last.freshUntil grant ∧ grant.token = token := by
  constructor
  · rintro ⟨fetch, other, hforce, hnow, htoken⟩
    rcases inForce_snoc_iff.mp hforce with ⟨rfl, hother⟩ | ⟨-, -, hnone⟩
    · cases hfetches.unique hother
      exact ⟨hnow, htoken⟩
    · -- a fetch before it has been replaced
      exact absurd hfetches (hnone grant)
  · rintro ⟨hnow, htoken⟩
    exact ⟨last, grant, inForce_snoc_iff.mpr (.inl ⟨rfl, hfetches⟩), hnow, htoken⟩

/-- No token is fresh after the token has been dropped. -/
theorem not_fresh_snoc_of_invalidate {history : List (Step ℚ)} {last : Step ℚ}
    (haction : last.turn.action = .invalidateToken) (now : ℚ) (token : String) :
    ¬ Fresh (history ++ [last]) now token := by
  rintro ⟨fetch, grant, hforce, -⟩
  rcases inForce_snoc_iff.mp hforce with ⟨rfl, hfetches⟩ | ⟨-, hkeeps, -⟩
  · cases haction.symm.trans hfetches.1
  · exact hkeeps haction

/-! ## The cache holds what the history prescribes -/

/-- From an instant on, the cache holds what the history prescribes; and if it holds no token, its
expiry has passed. -/
structure Recalls (history : List (Step ℚ)) (now : ℚ) (cache : TokenCache ℚ) : Prop where
  nonneg : 0 ≤ now
  usable_iff : ∀ later, now ≤ later → ∀ token,
    cache.usable? later = some token ↔ Fresh history later token
  expired : cache.token? = none → cache.expiry ≤ now

namespace Recalls

variable {history : List (Step ℚ)} {now : ℚ} {cache : TokenCache ℚ} {last : Step ℚ}

theorem initially : Recalls [] 0 (TokenCache.empty : TokenCache ℚ) where
  nonneg := le_refl 0
  usable_iff later _ token := by
    rw [TokenCache.usable?_empty]
    refine ⟨nofun, ?_⟩
    rintro ⟨fetch, grant, hforce, -⟩
    exact absurd hforce inForce_nil
  expired _ := le_refl 0

theorem mono (h : Recalls history now cache) {later : ℚ} (hlater : now ≤ later) :
    Recalls history later cache where
  nonneg := h.nonneg.trans hlater
  usable_iff instant hinstant := h.usable_iff instant (hlater.trans hinstant)
  expired hnone := (h.expired hnone).trans hlater

/-- The expiry of a cache without a usable token has passed. -/
theorem expiry_le_of_stale (h : Recalls history now cache) {later : ℚ} (hlater : now ≤ later)
    (hstale : cache.usable? later = none) : cache.expiry ≤ later := by
  cases htoken : cache.token? with
  | none => exact (h.expired htoken).trans hlater
  | some token =>
    by_contra hexpiry
    have husable := TokenCache.usable?_eq_some_iff.mpr ⟨not_le.mp hexpiry, htoken⟩
    cases hstale.symm.trans husable

theorem not_fresh_of_stale (h : Recalls history now cache) {later : ℚ} (hlater : now ≤ later)
    (hstale : cache.usable? later = none) (token : String) : ¬ Fresh history later token := by
  intro hfresh
  cases hstale.symm.trans ((h.usable_iff later hlater token).mpr hfresh)

theorem snoc_of_keeps (h : Recalls history now cache)
    (haction : last.turn.action ≠ .invalidateToken) (hfetches : ∀ grant, ¬ last.Fetches grant) :
    Recalls (history ++ [last]) now cache where
  nonneg := h.nonneg
  usable_iff later hlater token :=
    (h.usable_iff later hlater token).trans (fresh_snoc_of_keeps haction hfetches later token).symm
  expired := h.expired

/-- A token beside an expiry that has passed changes nothing. -/
theorem withToken (h : Recalls history now cache) (hexpiry : cache.expiry ≤ now) (token : String) :
    Recalls history now (cache.withToken token) where
  nonneg := h.nonneg
  usable_iff later hlater other := by
    rw [← h.usable_iff later hlater other, TokenCache.usable?_eq_some_iff,
      TokenCache.usable?_eq_some_iff]
    have hpassed : ¬ later < cache.expiry := not_lt.mpr (hexpiry.trans hlater)
    exact ⟨fun hboth => absurd hboth.1 hpassed, fun hboth => absurd hboth.1 hpassed⟩
  expired hnone := by cases hnone

theorem store {grant : Grant} (hnow : 0 ≤ now) (hfetches : last.Fetches grant) :
    Recalls (history ++ [last]) now (.store grant.token (last.freshUntil grant)) where
  nonneg := hnow
  usable_iff later _ token := by
    rw [fresh_snoc_of_fetches hfetches, TokenCache.usable?_eq_some_iff]
    exact and_congr_right fun _ => Option.some_inj
  expired hnone := by cases hnone

theorem invalidate (hnow : 0 ≤ now) (haction : last.turn.action = .invalidateToken) :
    Recalls (history ++ [last]) now .empty where
  nonneg := hnow
  usable_iff later _ token := by
    rw [TokenCache.usable?_empty]
    refine ⟨nofun, fun hfresh => ?_⟩
    exact absurd hfresh (not_fresh_snoc_of_invalidate haction later token)
  expired _ := hnow

end Recalls

/-! ## Each step -/

theorem Action.operation_requireToken {action : Action} (haction : action = .requireToken) :
    action.operation = Answer.token <$> (Operation.requireToken : Operation ℚ String) := by
  rw [haction]
  rfl

/-- Asking for a token in a step has one of its endings. -/
theorem Step.obtained {step : Step ℚ} (haction : step.turn.action = .requireToken) :
    ∃ result after, Operation.Obtained step.turn.surroundings step.before result after ∧
      step.result = result.map .token ∧ step.requests = after.requests ∧
      step.after.client = after.client := by
  obtain ⟨after, lines, hobtained, hworld⟩ :=
    Operation.requireToken_obtained step.turn.surroundings step.before
  have hoperation := Action.operation_requireToken haction
  refine ⟨_, after, hobtained, Step.result_of_operation hoperation, ?_, ?_⟩
  · unfold Step.requests
    rw [Step.world_of_operation hoperation, hworld, World.requests_logged]
  · unfold Step.after Outcome.session
    rw [Step.world_of_operation hoperation, hworld]
    rfl

theorem Step.client_after_invalidate {step : Step ℚ}
    (haction : step.turn.action = .invalidateToken) : step.after.client.cache = .empty := by
  unfold Step.after Outcome.session
  rw [Step.world_outcome, haction]
  rfl

/-- The expiry of a granted token is the instant until which it is fresh. -/
theorem Step.expiry_eq_freshUntil {step : Step ℚ} {grant : Grant} {expiry : ℚ}
    (h : Instant.after? step.turn.surroundings.answered
      (TokenCache.usefulLife step.turn.surroundings.settings.tokenMargin grant) = some expiry) :
    expiry = step.freshUntil grant := by
  rw [eq_add_of_after?_eq_some h, Step.freshUntil, TokenCache.usefulLife, ← Int.ofNat_toNat]
  norm_cast

variable {history : List (Step ℚ)} {now : ℚ}

/-- Asking for a token keeps the cache in agreement with the history. -/
theorem Recalls.requireToken {step : Step ℚ}
    (h : Recalls history now step.session.client.cache)
    (haction : step.turn.action = .requireToken) (hstarted : now ≤ step.turn.surroundings.started)
    (hanswered : step.turn.surroundings.started ≤ step.turn.surroundings.answered) :
    Recalls (history ++ [step]) step.turn.surroundings.answered step.after.client.cache := by
  have hkeeps : step.turn.action ≠ .invalidateToken := by
    rw [haction]
    exact nofun
  have hlater := h.mono (hstarted.trans hanswered)
  obtain ⟨result, after, hobtained, hresult, hrequests, hclient⟩ := Step.obtained haction
  rw [hclient]
  cases hobtained with
  | kept husable => exact hlater.snoc_of_keeps hkeeps (not_fetches_of_silent hrequests)
  | unconfigured hstale hlacks =>
    exact hlater.snoc_of_keeps hkeeps (not_fetches_of_error hresult)
  | refused hstale hcredentials hnone =>
    exact hlater.snoc_of_keeps hkeeps (not_fetches_of_error hresult)
  | @endless grant hstale hcredentials hgrant hlife =>
    have hexpiry := h.expiry_le_of_stale hstarted hstale
    have hquiet := hlater.snoc_of_keeps hkeeps (not_fetches_of_error hresult)
    exact hquiet.withToken (hexpiry.trans hanswered) grant.token
  | @granted grant expiry hstale hcredentials hgrant hlife =>
    obtain rfl := Step.expiry_eq_freshUntil hlife
    refine Recalls.store hlater.nonneg ⟨haction, ?_, hgrant, hresult⟩
    rw [hrequests, World.requests_withCache, World.requests_sent]
    simp

/-- Each step keeps the cache in agreement with the history. -/
theorem Recalls.step {step : Step ℚ} (h : Recalls history now step.session.client.cache)
    (haction : step.turn.action = .requireToken ∨ step.turn.action = .invalidateToken)
    (hstarted : now ≤ step.turn.surroundings.started)
    (hanswered : step.turn.surroundings.started ≤ step.turn.surroundings.answered) :
    Recalls (history ++ [step]) step.turn.surroundings.answered step.after.client.cache := by
  rcases haction with haction | haction
  · exact h.requireToken haction hstarted hanswered
  · rw [Step.client_after_invalidate haction]
    exact Recalls.invalidate (h.nonneg.trans (hstarted.trans hanswered)) haction

theorem AnswersFrom.of_fresh {step : Step ℚ} {token : String}
    (hfresh : ∀ other, Fresh history step.turn.surroundings.started other ↔ other = token)
    (hrequests : step.requests = []) (hresult : step.result = .ok (.token token)) :
    AnswersFrom history step where
  silent_iff := ⟨fun _ => ⟨token, (hfresh token).mpr rfl⟩, fun _ => ⟨hrequests, _, hresult⟩⟩
  fresh other hother := (hfresh other).mp hother ▸ hresult
  anew hnone := absurd ((hfresh token).mpr rfl) (hnone token)

theorem AnswersFrom.of_stale {step : Step ℚ}
    (hnone : ∀ token, ¬ Fresh history step.turn.surroundings.started token)
    (hanew : AnswersAnew step) : AnswersFrom history step where
  silent_iff := by
    constructor
    · rintro ⟨hrequests, answer, hresult⟩
      obtain ⟨grant, hfetches, -⟩ := hanew.delivered answer hresult
      exact absurd hfetches (not_fetches_of_silent hrequests grant)
    · rintro ⟨token, hfresh⟩
      exact absurd hfresh (hnone token)
  fresh token hfresh := absurd hfresh (hnone token)
  anew _ := hanew

theorem after?_eq_none_iff {a : ℚ} {seconds : ℕ} :
    Instant.after? a seconds = none ↔ Binary64.ofNat? seconds = none :=
  Option.map_eq_none_iff

/-- What is sent in a step that asks for a token. -/
theorem Step.requests_of_requireToken {step : Step ℚ}
    (haction : step.turn.action = .requireToken) :
    step.requests =
      Operation.tokenRequests step.turn.surroundings step.session.client.cache := by
  unfold Step.requests
  rw [Step.world_of_operation (Action.operation_requireToken haction),
    Operation.requests_requireToken, Step.requests_before, List.nil_append, Step.client_before]

/-- The kept token is the answer while it is usable. -/
theorem Step.answer_of_usable {step : Step ℚ} (haction : step.turn.action = .requireToken)
    {token : String}
    (husable : step.session.client.cache.usable? step.turn.surroundings.started = some token) :
    step.requests = [] ∧ step.result = .ok (.token token) := by
  constructor
  · rw [Step.requests_of_requireToken haction, Operation.tokenRequests_of_usable husable]
  · have hkept : Operation.requireToken step.turn.surroundings step.before =
        (.ok token, step.before) := Operation.requireToken_of_usable husable
    rw [Step.result_of_operation (Action.operation_requireToken haction), hkept]
    rfl

/-- Without a usable token, the answer is found anew. -/
theorem answersAnew_of_stale {step : Step ℚ} (haction : step.turn.action = .requireToken)
    (hstale : step.session.client.cache.usable? step.turn.surroundings.started = none) :
    AnswersAnew step := by
  have hrequested : ¬ step.turn.surroundings.settings.LacksCredentials →
      step.requests = [step.turn.surroundings.settings.tokenRequest] := by
    intro hcredentials
    rw [Step.requests_of_requireToken haction,
      Operation.tokenRequests_of_stale hstale hcredentials]
  obtain ⟨result, after, hobtained, hresult, hrequests, -⟩ := Step.obtained haction
  cases hobtained with
  | kept husable => cases hstale.symm.trans husable
  | unconfigured _ hlacks =>
    exact
      { unconfigured := fun _ => ⟨hrequests, _, hresult⟩
        requested := hrequested
        delivered := fun answer hanswer => by cases hresult.symm.trans hanswer
        granted := fun hcredentials => absurd hlacks hcredentials }
  | refused _ hcredentials hnone =>
    exact
      { unconfigured := fun hlacks => absurd hlacks hcredentials
        requested := hrequested
        delivered := fun answer hanswer => by cases hresult.symm.trans hanswer
        granted := fun _ grant hgrant => absurd hgrant (hnone grant) }
  | @endless grant _ hcredentials hgrant hlife =>
    refine
      { unconfigured := fun hlacks => absurd hlacks hcredentials
        requested := hrequested
        delivered := fun answer hanswer => by cases hresult.symm.trans hanswer
        granted := fun _ other hother => ?_ }
    cases hgrant.unique hother
    rw [after?_eq_none_iff.mp hlife]
    exact hresult
  | @granted grant expiry _ hcredentials hgrant hlife =>
    have hfetches : step.Fetches grant := by
      refine ⟨haction, ?_, hgrant, hresult⟩
      rw [hrequested hcredentials]
      exact List.cons_ne_nil _ _
    refine
      { unconfigured := fun hlacks => absurd hlacks hcredentials
        requested := hrequested
        delivered := fun answer hanswer => ⟨grant, hfetches, ?_⟩
        granted := fun _ other hother => ?_ }
    · exact (Except.ok.inj (hresult.symm.trans hanswer)).symm
    · cases hgrant.unique hother
      have hreach : Binary64.ofNat? (TokenCache.usefulLife
          step.turn.surroundings.settings.tokenMargin grant) ≠ none := by
        rw [ne_eq, ← after?_eq_none_iff (a := step.turn.surroundings.answered), hlife]
        exact Option.some_ne_none expiry
      rw [if_pos (Option.isSome_iff_ne_none.mpr hreach)]
      exact hresult

/-- Where the cache holds what the history prescribes, so does the answer. -/
theorem Recalls.answersFrom {step : Step ℚ} (h : Recalls history now step.session.client.cache)
    (haction : step.turn.action = .requireToken)
    (hstarted : now ≤ step.turn.surroundings.started) : AnswersFrom history step := by
  cases husable : step.session.client.cache.usable? step.turn.surroundings.started with
  | some token =>
    obtain ⟨hrequests, hresult⟩ := Step.answer_of_usable haction husable
    refine .of_fresh (fun other => ?_) hrequests hresult
    rw [← h.usable_iff _ hstarted other, husable]
    exact Option.some_inj.trans eq_comm
  | none =>
    exact .of_stale (h.not_fresh_of_stale hstarted husable) (answersAnew_of_stale haction husable)

/-! ## Each run -/

/-- Every answer of a run is the one that its history prescribes, if the cache holds what the
history prescribes at the start. Each step takes the agreement of cache and history to the next one.
-/
theorem Recalls.answersFrom_steps {session : Session ℚ} {turns : List (Turn ℚ)}
    (h : Recalls history now session.client.cache)
    (hactions : ∀ turn ∈ turns, turn.action = .requireToken ∨ turn.action = .invalidateToken)
    (hclock : ChronologicalFrom now turns) {earlier later : List (Step ℚ)} {step : Step ℚ}
    (hsteps : session.steps turns = earlier ++ step :: later)
    (haction : step.turn.action = .requireToken) : AnswersFrom (history ++ earlier) step := by
  induction turns generalizing history now session earlier with
  | nil => simp at hsteps
  | cons turn rest ih =>
    obtain ⟨hstarted, hanswered, hrest⟩ := hclock.cons
    rw [Session.steps_cons] at hsteps
    cases earlier with
    | nil =>
      obtain ⟨rfl, -⟩ := List.cons.inj hsteps
      rw [List.append_nil]
      exact h.answersFrom haction hstarted
    | cons first earlier =>
      obtain ⟨rfl, hlater⟩ := List.cons.inj hsteps
      rw [List.append_cons]
      have hturn := hactions turn List.mem_cons_self
      refine ih (Recalls.step h hturn hstarted hanswered) (fun other hother => ?_) hrest hlater
      exact hactions other (List.mem_cons_of_mem _ hother)

/-- **Tokens are fresh.** In every run of a new client that asks for its token and drops it, with
whatever configurations and outcomes, every answer is the one that the history prescribes. -/
theorem answersFrom_history {files : FileStore} {turns : List (Turn ℚ)}
    (hactions : ∀ turn ∈ turns, turn.action = .requireToken ∨ turn.action = .invalidateToken)
    (hclock : Chronological turns) {earlier later : List (Step ℚ)} {step : Step ℚ}
    (hsteps : (Session.new files).steps turns = earlier ++ step :: later)
    (haction : step.turn.action = .requireToken) : AnswersFrom earlier step := by
  have hinitially : Recalls [] 0 (Session.new files : Session ℚ).client.cache := Recalls.initially
  exact List.nil_append earlier ▸
    hinitially.answersFrom_steps hactions hclock hsteps haction

/-! ## A run with one fetch -/

/-- A turn in which a token is asked for at an instant. -/
def trialTurn (now : ℚ) : Turn ℚ := ⟨.trial now, [], .requireToken⟩

/-- The step in which a new client fetches the token. -/
def trialFetch : Step ℚ := ⟨.new ⟨[]⟩, trialTurn 0⟩

/-- Shortly before it expires, the fetched token is the answer and nothing is sent. -/
theorem answersFrom_history_of_trial :
    AnswersFrom [] trialFetch ∧ AnswersFrom [trialFetch] ⟨trialFetch.after, trialTurn 39⟩ ∧
      (⟨trialFetch.after, trialTurn 39⟩ : Step ℚ).requests = [] ∧
      (⟨trialFetch.after, trialTurn 39⟩ : Step ℚ).result = .ok (.token "T") := by
  have hactions : ∀ turn ∈ [trialTurn 0, trialTurn 39],
      turn.action = .requireToken ∨ turn.action = .invalidateToken := by
    simp [trialTurn]
  have hclock : Chronological [trialTurn 0, trialTurn 39] := by
    unfold Chronological ChronologicalFrom
    decide
  have hsteps : (Session.new ⟨[]⟩ : Session ℚ).steps [trialTurn 0, trialTurn 39] =
      [trialFetch, ⟨trialFetch.after, trialTurn 39⟩] := rfl
  have hfirst : AnswersFrom [] trialFetch := answersFrom_history hactions hclock hsteps rfl
  have hsecond : AnswersFrom [trialFetch] ⟨trialFetch.after, trialTurn 39⟩ :=
    answersFrom_history hactions hclock hsteps rfl
  have hcredentials : ¬ trialFetch.turn.surroundings.settings.LacksCredentials := by decide
  have hanew := hfirst.anew fun token hfresh => by
    obtain ⟨fetch, grant, hforce, -⟩ := hfresh
    exact inForce_nil hforce
  have hfetches : trialFetch.Fetches ⟨"T", 100⟩ := by
    refine ⟨rfl, ?_, trialGrant_delivers, hanew.granted hcredentials _ trialGrant_delivers⟩
    rw [hanew.requested hcredentials]
    exact List.cons_ne_nil _ _
  have hfresh : Fresh [trialFetch] 39 "T" := by
    refine ⟨trialFetch, ⟨"T", 100⟩, ⟨[], [], rfl, hfetches, by simp⟩, ?_, rfl⟩
    decide +kernel
  exact ⟨hfirst, hsecond, (hsecond.silent_iff.mpr ⟨"T", hfresh⟩).1, hsecond.fresh "T" hfresh⟩

end PlatformClient
