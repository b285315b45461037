import PlatformClient.Session
import PlatformClient.Proofs.Operation.Requests

/-!
# The record of a run

A run is recorded step by step: each turn together with the session in which it was played. What
each step preserves is preserved by the run.

## Main definitions

* `Step`: a turn, and the session in which it is played
* `Session.steps`: the steps of a run
* `Step.requests`, `Step.reply`: what is sent in a step, and what becomes of its first request

## Main results

* `Session.map_outcome_steps`: the outcomes of the steps are the outcomes of the run
* `Session.holds_of_step`: what each step preserves holds at every step of a run
-/

namespace PlatformClient

variable {τ α : Type}

/-- A turn, and the session in which it is played. -/
structure Step (τ : Type) where
  session : Session τ
  turn : Turn τ

namespace Step

/-- The world in which a step begins. -/
def before (step : Step τ) : World τ :=
  .of step.session.client step.session.files step.turn.foreseen

/-- What becomes of the first request of a step, if it makes one. -/
def reply (step : Step τ) : Http.Outcome :=
  step.turn.foreseen.headD step.turn.surroundings.unforeseen

@[simp] theorem requests_before (step : Step τ) : step.before.requests = [] := rfl

@[simp] theorem client_before (step : Step τ) : step.before.client = step.session.client := rfl

variable [Instant τ]

/-- The outcome of a step. -/
def outcome (step : Step τ) : Outcome τ := step.turn.play step.session

/-- What comes of the action of a step. -/
def result (step : Step τ) : Except Failure Answer := step.outcome.result

/-- The session after a step. -/
def after (step : Step τ) : Session τ := step.outcome.session

/-- What is sent in a step. -/
def requests (step : Step τ) : List Http.Request := step.outcome.world.requests

theorem result_eq (step : Step τ) :
    step.result = (step.turn.action.operation step.turn.surroundings step.before).1 := rfl

theorem world_outcome (step : Step τ) :
    step.outcome.world = (step.turn.action.operation step.turn.surroundings step.before).2 := rfl

section Operations

variable {step : Step τ} {operation : Operation τ α} {answer : α → Answer}
  (h : step.turn.action.operation = answer <$> operation)
include h

/-- An action that answers with the result of an operation. -/
theorem result_of_operation :
    step.result = (operation step.turn.surroundings step.before).1.map answer := by
  rw [result_eq, h, Operation.map_apply]

theorem world_of_operation :
    step.outcome.world = (operation step.turn.surroundings step.before).2 := by
  rw [world_outcome, h, Operation.map_apply]

end Operations

end Step

namespace Session

variable [Instant τ]

/-- The steps of a run. -/
def steps (session : Session τ) : List (Turn τ) → List (Step τ)
  | [] => []
  | turn :: rest => ⟨session, turn⟩ :: (turn.play session).session.steps rest

@[simp] theorem steps_nil (session : Session τ) : session.steps [] = [] := rfl

theorem steps_cons (session : Session τ) (turn : Turn τ) (rest : List (Turn τ)) :
    session.steps (turn :: rest) =
      ⟨session, turn⟩ :: (⟨session, turn⟩ : Step τ).after.steps rest := rfl

/-- The outcomes of the steps are the outcomes of the run. -/
theorem map_outcome_steps (session : Session τ) (turns : List (Turn τ)) :
    (session.steps turns).map Step.outcome = (session.run turns).1 := by
  induction turns generalizing session with
  | nil => rfl
  | cons turn rest ih =>
    rw [steps_cons, List.map_cons, ih]
    rfl

/-- The turns of the steps are the turns of the run. -/
theorem map_turn_steps (session : Session τ) (turns : List (Turn τ)) :
    (session.steps turns).map Step.turn = turns := by
  induction turns generalizing session with
  | nil => rfl
  | cons turn rest ih => rw [steps_cons, List.map_cons, ih]

theorem turn_mem_of_mem_steps {session : Session τ} {turns : List (Turn τ)} {step : Step τ}
    (h : step ∈ session.steps turns) : step.turn ∈ turns := by
  rw [← map_turn_steps session turns]
  exact List.mem_map_of_mem h

/-- What each step preserves holds at every step of a run. -/
theorem holds_of_step (Holds : Session τ → Prop) {turns : List (Turn τ)}
    (hstep : ∀ step : Step τ, step.turn ∈ turns → Holds step.session → Holds step.after)
    {session : Session τ} (h : Holds session) {step : Step τ} (hmem : step ∈ session.steps turns) :
    Holds step.session := by
  induction turns generalizing session with
  | nil => cases hmem
  | cons turn rest ih =>
    rw [steps_cons] at hmem
    rcases List.mem_cons.mp hmem with rfl | hlater
    · exact h
    · refine ih (fun later hturn => hstep later (List.mem_cons_of_mem _ hturn)) ?_ hlater
      exact hstep ⟨session, turn⟩ List.mem_cons_self h

end Session

end PlatformClient
