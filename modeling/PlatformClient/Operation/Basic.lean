import PlatformClient.Failure
import PlatformClient.Log.Report
import PlatformClient.Pool.Borrowing
import PlatformClient.TokenCache

/-!
# Operations

An operation runs in given surroundings, and changes a world: what the client keeps, the files, the
exchanges with the platform and the lines that are logged. What it has changed stays changed when
it fails.

## Main definitions

* `Surroundings`: what an operation may read
* `Client`, `World`: what an operation may change
* `Operation`: operations, with `pure`, `bind` and `Operation.fail`
* `Operation.say`: a text is logged
* `Operation.exchange`, `Operation.closeResponse`: exchanges with the platform
* `Operation.borrowing`: work with a borrowed buffer

## Main results

* `Operation.bind_apply`: how operations follow each other
* `Operation.ensuring_apply`: the finish of guarded work is reached on every way out
-/

namespace PlatformClient

/-- What an operation may read. -/
structure Surroundings (τ : Type) where
  settings : Settings
  /-- The clock when the operation begins. -/
  started : τ
  /-- The clock after the response to a request for a token. -/
  answered : τ
  /-- The boundary for multipart bodies. -/
  boundary : String
  delivery : Http.Delivery
  logger : Logger
  /-- What becomes of a request for which nothing is foreseen. -/
  unforeseen : Http.Outcome
  /-- How documents are read, which depends on the depth of the calls around the operation. -/
  reading : Json.Reading
  /-- How documents are written. -/
  writing : Json.Writing

/-- What a client keeps between operations. The pool is created at its first use. -/
structure Client (τ : Type) where
  cache : TokenCache τ
  pool? : Option Pool
deriving DecidableEq

/-- What an operation may change. -/
structure World (τ : Type) where
  client : Client τ
  files : FileStore
  /-- What becomes of the next requests. -/
  foreseen : List Http.Outcome
  /-- The requests so far. -/
  calls : List Http.Call
  /-- The lines logged so far. -/
  emissions : List Emission
  /-- The pieces that the caller's writer has taken so far. -/
  written : List Octets

/-- A client that has not been used. -/
def Client.new {τ : Type} [Instant τ] : Client τ := ⟨.empty, none⟩

/-- A world before anything has happened in it. -/
def World.of {τ : Type} (client : Client τ) (files : FileStore) (foreseen : List Http.Outcome) :
    World τ :=
  ⟨client, files, foreseen, [], [], []⟩

/-- An operation: in its surroundings it has a result or a failure, and changes the world. -/
def Operation (τ α : Type) : Type := Surroundings τ → World τ → Except Failure α × World τ

namespace Operation

variable {τ α β : Type}

instance : Monad (Operation τ) where
  pure a := fun _ world => (.ok a, world)
  bind operation next := fun surroundings world =>
    match operation surroundings world with
    | (.ok a, after) => next a surroundings after
    | (.error failure, after) => (.error failure, after)

@[simp] theorem pure_apply (a : α) (surroundings : Surroundings τ) (world : World τ) :
    (pure a : Operation τ α) surroundings world = (.ok a, world) := rfl

/-- How operations follow each other. -/
theorem bind_apply (operation : Operation τ α) (next : α → Operation τ β)
    (surroundings : Surroundings τ) (world : World τ) :
    (operation >>= next) surroundings world =
      match operation surroundings world with
      | (.ok a, after) => next a surroundings after
      | (.error failure, after) => (.error failure, after) := rfl

/-- Nothing happens after an operation that only hands on its result. -/
theorem bind_pure_apply (operation : Operation τ α) : operation >>= pure = operation := by
  funext surroundings world
  rw [bind_apply]
  rcases operation surroundings world with ⟨_ | _, _⟩ <;> rfl

instance : LawfulMonad (Operation τ) :=
  LawfulMonad.mk' (Operation τ)
    (fun operation => bind_pure_apply operation)
    (fun _ _ => rfl)
    (fun operation next last => by
      funext surroundings world
      simp only [bind_apply]
      rcases operation surroundings world with ⟨_ | _, _⟩ <;> rfl)

/-- The failure of an operation. -/
def fail (failure : Failure) : Operation τ α := fun _ world => (.error failure, world)

/-- A fault is reported. -/
def raise (fault : Fault) : Operation τ α := fail (.fault fault)

/-- A result that may be a fault of some kind. -/
def ofExcept {ε : Type} (failure : ε → Failure) : Except ε α → Operation τ α
  | .ok a => pure a
  | .error cause => fail (failure cause)

/-- The surroundings. -/
def surroundings : Operation τ (Surroundings τ) :=
  fun surroundings world => (.ok surroundings, world)

/-- The configuration. -/
def settings : Operation τ Settings := fun surroundings world => (.ok surroundings.settings, world)

/-- A part of the world. -/
def observe (part : World τ → α) : Operation τ α := fun _ world => (.ok (part world), world)

/-- A change of the world. -/
def change (step : World τ → World τ) : Operation τ Unit := fun _ world => (.ok (), step world)

/-- Work that has to be finished on every way out. -/
def ensuring (finish : World τ → World τ) (operation : Operation τ α) : Operation τ α :=
  fun surroundings world =>
    let (outcome, after) := operation surroundings world
    (outcome, finish after)

/-- Work that has to be finished if it fails in one of the ways that are caught. -/
def onFailure (caught : Failure → Bool) (finish : World τ → World τ) (operation : Operation τ α) :
    Operation τ α :=
  fun surroundings world =>
    match operation surroundings world with
    | (.ok a, after) => (.ok a, after)
    | (.error failure, after) => (.error failure, if caught failure then finish after else after)

@[simp] theorem fail_apply (failure : Failure) (surroundings : Surroundings τ) (world : World τ) :
    (fail failure : Operation τ α) surroundings world = (.error failure, world) := rfl

/-- The finish of guarded work is reached on every way out. -/
theorem ensuring_apply (finish : World τ → World τ) (operation : Operation τ α)
    (surroundings : Surroundings τ) (world : World τ) :
    ensuring finish operation surroundings world =
      ((operation surroundings world).1, finish (operation surroundings world).2) := rfl

/-! ## Log lines -/

/-- A text is logged. The result is the text as it was logged. -/
def say (severity : Severity) (text : String) : Operation τ String := fun surroundings world =>
  let report := Log.report surroundings.settings surroundings.logger severity [.text text]
  (.ok report.text, { world with emissions := world.emissions ++ report.emissions })

/-- A whole number inside a text. -/
def numeral (n : Int) : Operation τ String := ofExcept .integer (Text.decimal? n)

/-! ## Exchanges -/

/-- A response, and the place of its request among all requests. -/
structure Arrival where
  call : Nat
  response : Http.Response

/-- A request is sent. The result is the response, if there is one. -/
def exchange (request : Http.Request) : Operation τ (Option Arrival) := fun surroundings world =>
  let outcome := world.foreseen.headD surroundings.unforeseen
  let after (closed : Option Nat) : World τ :=
    { world with
      foreseen := world.foreseen.tail
      calls := world.calls ++ [⟨request, closed⟩] }
  match outcome with
  | .absent => (.ok none, after none)
  | .failed fault => (.error (.fault fault), after none)
  | .response response => (.ok (some ⟨world.calls.length, response⟩), after (some 0))

/-- The world after a response has been closed. -/
def closeResponse (arrival : Arrival) (world : World τ) : World τ :=
  { world with
    calls := world.calls.modify arrival.call fun call =>
      { call with closed := call.closed.map (· + 1) } }

/-! ## Buffers -/

/-- The pool. It is created at its first use. -/
def pool : Operation τ Pool := fun surroundings world =>
  match world.client.pool? with
  | some pool => (.ok pool, world)
  | none =>
    match Pool.create? surroundings.settings.poolSize with
    | none => (.error .poolSize, world)
    | some pool => (.ok pool, { world with client.pool? := some pool })

/-- The world with another pool. -/
def withPool (world : World τ) (pool : Pool) : World τ :=
  { world with client.pool? := some pool }

/-- Work with a borrowed buffer, which is returned on every way out. -/
def borrowing (work : Nat → Operation τ α) : Operation τ α := do
  let idle ← pool
  fun surroundings world =>
    let ((outcome, after), returned) :=
      Pool.borrow (fun fault result => (.error (.buffer fault), result.2))
        (fun number lent =>
          let (outcome, after) := work number surroundings (withPool world lent)
          ((outcome, after), after.client.pool?.getD lent))
        idle
    (outcome, withPool after returned)

/-- A use of a buffer of the pool. -/
def useBuffer (number : Nat) (use : Buffer → Except BufferFault Buffer) : Operation τ Unit := do
  let before ← pool
  let after ← ofExcept .buffer (before.update number use)
  change (withPool · after)

/-- The octets of a buffer from its position on. -/
def bufferRest (number : Nat) : Operation τ Octets := do
  let current ← pool
  ofExcept .buffer (current.buffer number).rest

end Operation

end PlatformClient
