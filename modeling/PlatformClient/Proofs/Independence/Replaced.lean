import PlatformClient.Proofs.Independence.Asking
import PlatformClient.Proofs.Independence.Pools

/-!
# Operations in place of which a token is asked for

Of what an operation does to the client, only the asking for a token matters to the others: it
leaves the cache as asking for the token does, and a pool of the configured size. So it can be
replaced in a run by asking for the token, and every other turn has the same outcome. An operation
that fails before it asks can be left out.

## Main definitions

* `Turn.inPlace`, `Turn.instead`: what is done in place of a turn
* `Session.reached`: the session behind the first turns of a run
* `Undisturbed`: what a turn means to the other turns of a run

## Main results

* `Turn.cache_inPlace`, `Turn.sameButPool_inPlace`: the session behind a turn that is replaced
* `undisturbed`: every operation in a run can be replaced
-/

namespace PlatformClient

variable {τ : Type}

/-! ## Turns that are replaced -/

/-- What is done in place of a turn: the token is asked for in the same surroundings and with the
same outcomes, if the operation comes to that. -/
def Turn.inPlace (turn : Turn τ) (files : FileStore) : List (Turn τ) :=
  if turn.action.asksToken files then [{ turn with action := .requireToken }] else []

variable [Instant τ]

/-- A session with other files. -/
def Session.withFiles (files : FileStore) (session : Session τ) : Session τ :=
  { session with files := files }

/-- The session behind the first turns of a run. -/
def Session.reached (files : FileStore) (turns : List (Turn τ)) : Session τ :=
  ((Session.new files).run turns).2

/-- What is done in place of a turn behind the first turns of a run. -/
def Turn.instead (turn : Turn τ) (files : FileStore) (front : List (Turn τ)) : List (Turn τ) :=
  turn.inPlace (Session.reached files front).files

/-- What a turn means to the other turns of a run. -/
structure Undisturbed (files : FileStore) (front : List (Turn τ)) (turn : Turn τ)
    (back : List (Turn τ)) : Prop where
  /-- If the turn is left out, it has failed. -/
  failed : turn.instead files front = [] →
    ∃ failure, (turn.play (.reached files front)).result = .error failure
  /-- The turn leaves the cache as what is done in its place. -/
  cache : (Session.reached files (front ++ [turn])).client.cache =
    (Session.reached files (front ++ turn.instead files front)).client.cache
  /-- A token that is still usable is neither dropped nor changed. -/
  kept : ∀ token,
    (Session.reached files front).client.cache.usable? turn.surroundings.started = some token →
    (Session.reached files (front ++ [turn])).client.cache =
      (Session.reached files front).client.cache
  /-- All other turns have the same outcomes when the turn is replaced. -/
  others : turn.action.writesFile = false → ∃ before own instead later later',
    ((Session.new files).run (front ++ turn :: back)).1 = before ++ own :: later ∧
    ((Session.new files).run (front ++ turn.instead files front ++ back)).1 =
      before ++ instead ++ later' ∧
    before.length = front.length ∧ instead.length = (turn.instead files front).length ∧
    List.Forall₂ Outcome.SameButPool later later'
  /-- When it writes to a file they still have, provided that they find the file as it is then. -/
  withFiles : List.Forall₂ Outcome.SameButPool
    ((Session.reached files (front ++ [turn])).run back).1
    (((Session.reached files (front ++ turn.instead files front)).withFiles
      (Session.reached files (front ++ [turn])).files).run back).1

/-! ## What a turn leaves to the others -/

namespace Turn

variable {turn : Turn τ} {session : Session τ}

/-- A turn that asks for a token leaves the cache as asking for it does. -/
theorem cache_of_asksToken (hservice : turn.action.IsService)
    (h : turn.action.asksToken session.files = true) :
    (turn.play session).session.client.cache = (Operation.requireToken turn.surroundings
      (.of session.client session.files turn.foreseen)).2.client.cache := by
  have hfiles : turn.action.asksToken
      (World.of session.client session.files turn.foreseen).files = true := h
  exact Action.cache_of_asksToken hservice hfiles turn.surroundings

/-- Another one fails, and leaves the client as it is. -/
theorem fails_of_not_asksToken (hservice : turn.action.IsService)
    (h : turn.action.asksToken session.files = false) :
    (∃ failure, (turn.play session).result = .error failure) ∧
      (turn.play session).session.client = session.client := by
  have hfiles : turn.action.asksToken
      (World.of session.client session.files turn.foreseen).files = false := h
  obtain ⟨failure, after, happly, hclient⟩ :=
    Action.fails_of_not_asksToken hservice hfiles turn.surroundings
  unfold play
  rw [happly]
  exact ⟨⟨failure, rfl⟩, hclient⟩

omit [Instant τ] in
theorem inPlace_of_asksToken {files : FileStore} (h : turn.action.asksToken files = true) :
    turn.inPlace files = [{ turn with action := .requireToken }] := if_pos h

omit [Instant τ] in
theorem inPlace_of_not_asksToken {files : FileStore} (h : turn.action.asksToken files = false) :
    turn.inPlace files = [] := if_neg (h ▸ Bool.false_ne_true)

/-- The session behind a request for the token itself. -/
theorem run_requireToken (turn : Turn τ) (session : Session τ) :
    (session.run [{ turn with action := .requireToken }]).2 =
      ⟨(Operation.requireToken turn.surroundings
          (.of session.client session.files turn.foreseen)).2.client,
        (Operation.requireToken turn.surroundings
          (.of session.client session.files turn.foreseen)).2.files⟩ := by
  have hoperation : (Action.requireToken.operation : Operation τ Answer) =
      Answer.token <$> Operation.requireToken := rfl
  simp only [Session.run, play, hoperation, Operation.map_apply, Outcome.session]

/-- What is done in place of a turn leaves the same cache. -/
theorem cache_inPlace (hservice : turn.action.IsService) :
    (turn.play session).session.client.cache =
      (session.run (turn.inPlace session.files)).2.client.cache := by
  cases hasks : turn.action.asksToken session.files with
  | true =>
    rw [inPlace_of_asksToken hasks, cache_of_asksToken hservice hasks, run_requireToken]
  | false =>
    rw [inPlace_of_not_asksToken hasks, (fails_of_not_asksToken hservice hasks).2]
    rfl

/-- It writes to no file. -/
theorem files_inPlace : (session.run (turn.inPlace session.files)).2.files = session.files := by
  unfold inPlace
  split
  · have hkeeps : Operation.Keeps (fun world => world.files)
        (Operation.requireToken : Operation τ String) :=
      Operation.keeps_requireToken (fun _ _ => rfl) (fun _ _ _ => rfl) fun _ _ => rfl
    rw [run_requireToken]
    exact hkeeps turn.surroundings (.of session.client session.files turn.foreseen)
  · rfl

/-- A token that is still usable stays in the cache. -/
theorem cache_of_usable (hservice : turn.action.IsService) {token : String}
    (h : session.client.cache.usable? turn.surroundings.started = some token) :
    (turn.play session).session.client.cache = session.client.cache := by
  cases hasks : turn.action.asksToken session.files with
  | true =>
    rw [cache_of_asksToken hservice hasks, Operation.requireToken_of_usable h]
    rfl
  | false => rw [(fails_of_not_asksToken hservice hasks).2]

omit [Instant τ] in
theorem poolSize_of_mem_inPlace {files : FileStore} {other : Turn τ}
    (h : other ∈ turn.inPlace files) :
    other.surroundings.settings.poolSize = turn.surroundings.settings.poolSize := by
  unfold inPlace at h
  split at h
  · rw [List.mem_singleton.mp h]
  · cases h

/-- Up to the pool and the files that are written to, a turn leaves the same session as what is done
in its place. -/
theorem sameButPool_inPlace {size : Int} (hservice : turn.action.IsService)
    (hsize : turn.surroundings.settings.poolSize = size) (hfits : session.client.Fits size) :
    (turn.play session).session.SameButPool size
      ((session.run (turn.inPlace session.files)).2.withFiles
        (turn.play session).session.files) := by
  have hsame : session.SameButPool size session := ⟨rfl, rfl, hfits, hfits⟩
  refine ⟨cache_inPlace hservice, rfl, (hsame.play hsize).2.fits, ?_⟩
  exact (hsame.run fun other hother => (poolSize_of_mem_inPlace hother).trans hsize).2.fits

end Turn

/-! ## Runs -/

theorem Session.reached_append (files : FileStore) (first second : List (Turn τ)) :
    Session.reached files (first ++ second) = ((Session.reached files first).run second).2 := by
  unfold Session.reached
  rw [Session.run_append]

theorem Session.length_run (session : Session τ) (turns : List (Turn τ)) :
    (session.run turns).1.length = turns.length := by
  rw [← Session.map_outcome_steps, List.length_map, ← List.length_map (f := Step.turn),
    Session.map_turn_steps]

/-- The pool of a client fits behind every run with one size of the pool. -/
theorem Session.fits_reached {size : Int} (files : FileStore) {turns : List (Turn τ)}
    (hsize : ∀ turn ∈ turns, turn.surroundings.settings.poolSize = size) :
    (Session.reached files turns).client.Fits size := by
  have hnew : (Session.new files : Session τ).SameButPool size (.new files) :=
    ⟨rfl, rfl, nofun, nofun⟩
  exact (hnew.run hsize).2.fits

/-- **Operations in place of which a token is asked for.** In every run of a client, with a pool of
one size, every operation on media or orders can be replaced by asking for the token, or be left out
if it fails before, whatever becomes of it: all other turns have the same outcomes. -/
theorem undisturbed {size : Int} (files : FileStore) {front back : List (Turn τ)} {turn : Turn τ}
    (hservice : turn.action.IsService)
    (hsize : ∀ other ∈ front ++ turn :: back, other.surroundings.settings.poolSize = size) :
    Undisturbed files front turn back := by
  have hfront : ∀ other ∈ front, other.surroundings.settings.poolSize = size :=
    fun other hother => hsize other (List.mem_append_left _ hother)
  have hturn : turn.surroundings.settings.poolSize = size :=
    hsize turn (List.mem_append_right _ List.mem_cons_self)
  have hback : ∀ other ∈ back, other.surroundings.settings.poolSize = size :=
    fun other hother => hsize other (List.mem_append_right _ (List.mem_cons_of_mem _ hother))
  have hplay : Session.reached files (front ++ [turn]) =
      (turn.play (.reached files front)).session := Session.reached_append files front [turn]
  have hsame := Turn.sameButPool_inPlace hservice hturn (Session.fits_reached files hfront)
  refine ⟨fun hempty => ?_, ?_, fun token husable => ?_, fun hfiles => ?_, ?_⟩
  · cases hasks : turn.action.asksToken (Session.reached files front).files with
    | true =>
      rw [Turn.instead, Turn.inPlace_of_asksToken hasks] at hempty
      cases hempty
    | false => exact (Turn.fails_of_not_asksToken hservice hasks).1
  · rw [hplay, Session.reached_append]
    exact Turn.cache_inPlace hservice
  · rw [hplay]
    exact Turn.cache_of_usable hservice husable
  · have hkept : (turn.play (.reached files front)).session.files =
        (Session.reached files front).files :=
      Action.keeps_files hservice hfiles turn.surroundings _
    have hinstead : (turn.play (.reached files front)).session.SameButPool size
        ((Session.reached files front).run (turn.instead files front)).2 :=
      ⟨hsame.cache, hkept.trans Turn.files_inPlace.symm, hsame.fits, hsame.fits'⟩
    refine ⟨((Session.new files).run front).1, turn.play (.reached files front),
      ((Session.reached files front).run (turn.instead files front)).1,
      ((turn.play (.reached files front)).session.run back).1, _, ?_, ?_, Session.length_run _ _,
      Session.length_run _ _, (hinstead.run hback).1⟩
    · rw [Session.run_append]
      rfl
    · rw [Session.run_append, Session.run_append]
      rfl
  · rw [hplay, Session.reached_append]
    exact (hsame.run hback).1

/-- The platform refuses to close an order, before two uploads. The token that was granted for it
stays in the cache. -/
theorem undisturbed_of_trial :
    trialRefusal.action.IsService ∧
      (∀ other ∈ [] ++ trialRefusal :: trialUploads,
        other.surroundings.settings.poolSize = 16) ∧
      Undisturbed ⟨[]⟩ [] trialRefusal trialUploads ∧
      trialRefusal.instead ⟨[]⟩ [] = [{ trialRefusal with action := .requireToken }] ∧
      (Session.reached ⟨[]⟩ [trialRefusal]).client.cache = .store "T" 40 := by
  have hservice : trialRefusal.action.IsService := trivial
  have hsize : ∀ other ∈ [] ++ trialRefusal :: trialUploads,
      other.surroundings.settings.poolSize = 16 := by
    intro other hother
    simp only [trialUploads, List.nil_append, List.mem_cons, List.not_mem_nil, or_false] at hother
    rcases hother with rfl | rfl | rfl <;> rfl
  exact ⟨hservice, hsize, undisturbed ⟨[]⟩ hservice hsize, rfl, by decide +kernel⟩

end PlatformClient
