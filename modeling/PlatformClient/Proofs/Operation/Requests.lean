import PlatformClient.Proofs.Operation.Effect

/-!
# The requests of operations

A step of an operation is quiet, or it sends one request of a known kind unless it fails before.
A sequence with one such step among quiet ones is again of that kind, whatever becomes of the
request.

## Main definitions

* `World.requests`: the requests so far
* `World.sent`: the world after a request with some outcome
* `Operation.Quiet`: operations that send nothing
* `Operation.SendsOne`: operations that send one request of some kind, unless they fail before

## Main results

* `exchange_apply`, `getJson_world`, `postMultipart_world`: what the sending of a request does to
  the world
* `Quiet.bind_sendsOne`, `SendsOne.bind_quiet`: one request in a sequence
* `sendsOne_postJson`, `sendsOne_postMultipart`, `sendsOne_getStream`: the requests of the transport
* `keeps_fetchJson`, `keeps_getStream`: what requests leave alone
* `keeps_useBuffer`, `keeps_bufferRest`: what the use of a buffer leaves alone
* `SendsOne.borrowing`: work with a borrowed buffer sends what the work sends
-/

namespace PlatformClient

variable {τ α β γ : Type}

namespace World

/-- The requests so far. -/
def requests (world : World τ) : List Http.Request := world.calls.map (·.request)

/-- What becomes of the next request. -/
def next (surroundings : Surroundings τ) (world : World τ) : Http.Outcome :=
  world.foreseen.headD surroundings.unforeseen

/-- The world after a request with some outcome. -/
def sent (request : Http.Request) (outcome : Http.Outcome) (world : World τ) : World τ :=
  { world with
    foreseen := world.foreseen.tail
    calls := world.calls ++
      [⟨request, match outcome with
        | .response _ => some 0
        | _ => none⟩] }

@[simp] theorem requests_sent (request : Http.Request) (outcome : Http.Outcome)
    (world : World τ) : (world.sent request outcome).requests = world.requests ++ [request] := by
  simp [requests, sent]

@[simp] theorem requests_logged (lines : List Emission) (world : World τ) :
    (world.logged lines).requests = world.requests := rfl

@[simp] theorem next_logged (surroundings : Surroundings τ) (lines : List Emission)
    (world : World τ) : (world.logged lines).next surroundings = world.next surroundings := rfl

theorem sent_logged (request : Http.Request) (outcome : Http.Outcome) (lines : List Emission)
    (world : World τ) :
    (world.logged lines).sent request outcome = (world.sent request outcome).logged lines := rfl

end World

namespace Operation

/-- Closing a response does not change what has been requested. -/
@[simp] theorem requests_closeResponse (arrival : Arrival) (world : World τ) :
    (closeResponse arrival world).requests = world.requests := by
  simp only [World.requests, closeResponse]
  apply List.ext_getElem?
  intro k
  rw [List.getElem?_map, List.getElem?_map, List.getElem?_modify]
  by_cases h : arrival.call = k
  · cases world.calls[k]? <;> simp [h]
  · cases world.calls[k]? <;> simp [h]

@[simp] theorem requests_withPool (world : World τ) (pool : Pool) :
    (withPool world pool).requests = world.requests := rfl

/-- The result of a request with some outcome; responses carry the place of their request. -/
def received (place : Nat) : Http.Outcome → Except Failure (Option Arrival)
  | .absent => .ok none
  | .failed fault => .error (.fault fault)
  | .response response => .ok (some ⟨place, response⟩)

/-- What the sending of a request does to the world, and what comes of it. -/
theorem exchange_apply (request : Http.Request) (surroundings : Surroundings τ)
    (world : World τ) :
    exchange request surroundings world =
      (received world.calls.length (world.next surroundings),
        world.sent request (world.next surroundings)) := by
  unfold exchange World.next World.sent received
  cases world.foreseen.headD surroundings.unforeseen <;> rfl

/-! ## Operations that send nothing -/

/-- An operation that sends nothing. -/
abbrev Quiet (operation : Operation τ α) : Prop := Keeps World.requests operation

theorem LogsOnly.quiet {operation : Operation τ α} (h : LogsOnly operation) : Quiet operation :=
  h.keeps fun _ _ => rfl

/-! ## Operations that send one request -/

/-- An operation that sends one request of some kind, unless it fails before. -/
def SendsOne (kind : Surroundings τ → Http.Request → Prop) (operation : Operation τ α) : Prop :=
  ∀ surroundings world,
    (∃ request, kind surroundings request ∧
      (operation surroundings world).2.requests = world.requests ++ [request]) ∨
    ((∃ failure, (operation surroundings world).1 = .error failure) ∧
      (operation surroundings world).2.requests = world.requests)

variable {kind : Surroundings τ → Http.Request → Prop}

theorem SendsOne.mono {other : Surroundings τ → Http.Request → Prop} {operation : Operation τ α}
    (h : SendsOne kind operation)
    (hkind : ∀ surroundings request, kind surroundings request → other surroundings request) :
    SendsOne other operation := by
  intro surroundings world
  rcases h surroundings world with ⟨request, hrequest, hworld⟩ | hfail
  · exact .inl ⟨request, hkind _ _ hrequest, hworld⟩
  · exact .inr hfail

theorem sendsOne_exchange (request : Http.Request) :
    SendsOne (fun _ sent => sent = request) (exchange request : Operation τ (Option Arrival)) := by
  intro surroundings world
  rw [exchange_apply]
  exact .inl ⟨request, rfl, World.requests_sent _ _ _⟩

/-- One request behind steps that send nothing. -/
theorem Quiet.bind_sendsOne {operation : Operation τ α} {next : α → Operation τ β}
    (h : Quiet operation) (hnext : ∀ a, SendsOne kind (next a)) :
    SendsOne kind (operation >>= next) := by
  intro surroundings world
  rw [bind_apply]
  have hfirst := h surroundings world
  rcases hresult : operation surroundings world with ⟨failure | a, after⟩
  · rw [hresult] at hfirst
    exact .inr ⟨⟨failure, rfl⟩, hfirst⟩
  · rw [hresult] at hfirst
    have hsecond := hnext a surroundings after
    rwa [show after.requests = world.requests from hfirst] at hsecond

/-- One request before steps that send nothing. -/
theorem SendsOne.bind_quiet {operation : Operation τ α} {next : α → Operation τ β}
    (h : SendsOne kind operation) (hnext : ∀ a, Quiet (next a)) :
    SendsOne kind (operation >>= next) := by
  intro surroundings world
  rw [bind_apply]
  have hfirst := h surroundings world
  rcases hresult : operation surroundings world with ⟨failure | a, after⟩
  · rw [hresult] at hfirst
    rcases hfirst with hsent | ⟨-, hworld⟩
    · exact .inl hsent
    · exact .inr ⟨⟨failure, rfl⟩, hworld⟩
  · rw [hresult] at hfirst
    rcases hfirst with ⟨request, hrequest, hworld⟩ | ⟨⟨failure, hfail⟩, -⟩
    · exact .inl ⟨request, hrequest, (hnext a surroundings after).trans hworld⟩
    · cases hfail

/-- A request to the address of an endpoint. -/
theorem sendsOne_addressOf_bind {endpoint : Endpoint} {next : String → Operation τ α}
    (h : ∀ url, SendsOne (fun _ request => request.url = url) (next url)) :
    SendsOne (fun surroundings request => request.url = endpoint.address surroundings.settings)
      (addressOf endpoint >>= next) :=
  fun surroundings world => h (endpoint.address surroundings.settings) surroundings world

/-! ## The requests of the transport -/

theorem sendsOne_fetchJson (request : Http.Request) :
    SendsOne (fun _ sent => sent = request) (fetchJson request : Operation τ Json) := by
  refine (sendsOne_exchange request).bind_quiet fun arrival? => ?_
  exact ((logsOnly_checkStatus arrival?).bind fun arrival => logsOnly_readJson arrival).quiet

theorem sendsOne_postJson (url : String) (payload : Json) :
    SendsOne (fun _ request => request.url = url) (postJson url payload : Operation τ Json) := by
  refine (logsOnly_say _ _).quiet.bind_sendsOne fun _ => ?_
  refine logsOnly_surroundings.quiet.bind_sendsOne fun _ => ?_
  refine (logsOnly_ofExcept _ _).quiet.bind_sendsOne fun text => ?_
  refine logsOnly_settings.quiet.bind_sendsOne fun current => ?_
  exact (sendsOne_fetchJson _).mono fun _ _ h => h ▸ rfl

theorem sendsOne_postMultipart (url : String) (body : Octets) (contentType : String) :
    SendsOne (fun _ request => request.url = url)
      (postMultipart url body contentType : Operation τ Json) := by
  refine (logsOnly_say _ _).quiet.bind_sendsOne fun _ => ?_
  refine logsOnly_settings.quiet.bind_sendsOne fun current => ?_
  exact (sendsOne_fetchJson _).mono fun _ _ h => h ▸ rfl

theorem sendsOne_getStream (url : String) :
    SendsOne (fun _ request => request.url = url) (getStream url : Operation τ Arrival) := by
  refine (logsOnly_say _ _).quiet.bind_sendsOne fun _ => ?_
  refine logsOnly_settings.quiet.bind_sendsOne fun current => ?_
  refine ((sendsOne_exchange _).mono fun _ _ h => h ▸ rfl).bind_quiet fun arrival? => ?_
  refine (logsOnly_checkStatus arrival?).quiet.onFailure _ fun world => ?_
  cases arrival? with
  | none => rfl
  | some arrival => exact requests_closeResponse arrival world

/-- Up to the log, a request for a document changes the world as any request does. -/
theorem fetchJson_world (request : Http.Request) (surroundings : Surroundings τ)
    (world : World τ) :
    ∃ lines, (fetchJson request surroundings world).2 =
      (world.sent request (world.next surroundings)).logged lines := by
  unfold fetchJson
  rw [bind_apply, exchange_apply]
  cases hresult : received world.calls.length (world.next surroundings) with
  | error failure => exact ⟨[], (World.logged_nil _).symm⟩
  | ok arrival? =>
    exact ((logsOnly_checkStatus arrival?).bind fun arrival => logsOnly_readJson arrival) _ _

/-- Up to the log, a request that is reported first changes the world as any request does. -/
theorem say_fetchJson_world (text : String) (request : Settings → Http.Request)
    (surroundings : Surroundings τ) (world : World τ) :
    ∃ lines, ((do
        let _ ← say .trace text
        let current ← settings
        fetchJson (request current)) surroundings world).2 =
      (world.sent (request surroundings.settings) (world.next surroundings)).logged lines := by
  obtain ⟨shown, first, hsay⟩ := exists_say_apply .trace text surroundings world
  obtain ⟨second, hsecond⟩ := fetchJson_world (request surroundings.settings) surroundings
    (world.logged first)
  refine ⟨first ++ second, ?_⟩
  rw [bind_apply_of_ok hsay, ← World.logged_logged, ← World.sent_logged]
  exact hsecond

theorem getJson_world (url : String) (surroundings : Surroundings τ) (world : World τ) :
    ∃ lines, (getJson url surroundings world).2 =
      (world.sent (.get url surroundings.settings.timeout false)
        (world.next surroundings)).logged lines :=
  say_fetchJson_world _ (fun current => .get url current.timeout false) surroundings world

theorem postMultipart_world (url : String) (body : Octets) (contentType : String)
    (surroundings : Surroundings τ) (world : World τ) :
    ∃ lines, (postMultipart url body contentType surroundings world).2 =
      (world.sent (.post url surroundings.settings.timeout contentType body)
        (world.next surroundings)).logged lines :=
  say_fetchJson_world _ (fun current => .post url current.timeout contentType body) surroundings
    world

/-! ## What requests leave alone -/

section Transport

variable {part : World τ → γ} (hlog : ∀ lines world, part (World.logged lines world) = part world)
  (hsent : ∀ request outcome world, part (World.sent request outcome world) = part world)

include hsent in
theorem keeps_exchange (request : Http.Request) :
    Keeps part (exchange request : Operation τ (Option Arrival)) := by
  intro surroundings world
  rw [exchange_apply]
  exact hsent _ _ world

include hlog hsent

/-- A request for a document leaves alone what neither the log nor the calls concern. -/
theorem keeps_fetchJson (request : Http.Request) :
    Keeps part (fetchJson request : Operation τ Json) := by
  refine (keeps_exchange hsent request).bind fun arrival? => ?_
  exact ((logsOnly_checkStatus arrival?).bind fun arrival => logsOnly_readJson arrival).keeps hlog

theorem keeps_getJson (url : String) : Keeps part (getJson url : Operation τ Json) :=
  ((logsOnly_say _ _).keeps hlog).bind fun _ => (logsOnly_settings.keeps hlog).bind fun _ =>
    keeps_fetchJson hlog hsent _

theorem keeps_postJson (url : String) (payload : Json) :
    Keeps part (postJson url payload : Operation τ Json) := by
  refine ((logsOnly_say _ _).keeps hlog).bind fun _ => ?_
  refine (logsOnly_surroundings.keeps hlog).bind fun _ => ?_
  refine ((logsOnly_ofExcept _ _).keeps hlog).bind fun text => ?_
  exact (logsOnly_settings.keeps hlog).bind fun _ => keeps_fetchJson hlog hsent _

theorem keeps_postMultipart (url : String) (body : Octets) (contentType : String) :
    Keeps part (postMultipart url body contentType : Operation τ Json) :=
  ((logsOnly_say _ _).keeps hlog).bind fun _ => (logsOnly_settings.keeps hlog).bind fun _ =>
    keeps_fetchJson hlog hsent _

/-- A stream that is opened may be closed again. -/
theorem keeps_getStream
    (hclose : ∀ arrival world, part (closeResponse arrival world) = part world) (url : String) :
    Keeps part (getStream url : Operation τ Arrival) := by
  refine ((logsOnly_say _ _).keeps hlog).bind fun _ => ?_
  refine (logsOnly_settings.keeps hlog).bind fun _ => ?_
  refine (keeps_exchange hsent _).bind fun arrival? => ?_
  refine ((logsOnly_checkStatus arrival?).keeps hlog).onFailure _ fun world => ?_
  cases arrival? with
  | none => rfl
  | some arrival => exact hclose arrival world

end Transport

/-! ## Borrowed buffers -/

section Pools

variable {part : World τ → γ} (hpool : ∀ world pool, part (withPool world pool) = part world)
include hpool

theorem keeps_pool : Keeps part (pool : Operation τ Pool) := by
  intro surroundings world
  unfold pool
  cases world.client.pool? with
  | some idle => rfl
  | none =>
    cases Pool.create? surroundings.settings.poolSize with
    | none => rfl
    | some idle => exact hpool world idle

/-- Work with a borrowed buffer leaves alone what the work does, and the pool does not concern. -/
theorem Keeps.borrowing {work : Nat → Operation τ α} (h : ∀ number, Keeps part (work number)) :
    Keeps part (borrowing work) := by
  refine (keeps_pool hpool).bind fun idle => ?_
  intro surroundings world
  have hwork := (h idle.checkout.1 surroundings (withPool world idle.checkout.2)).trans
    (hpool world idle.checkout.2)
  simp only [Pool.borrow]
  split <;> exact (hpool _ _).trans hwork

variable (hlog : ∀ lines world, part (World.logged lines world) = part world)
include hlog

/-- The use of a buffer leaves alone what neither the log nor the pool concerns. -/
theorem keeps_useBuffer (number : Nat) (use : Buffer → Except BufferFault Buffer) :
    Keeps part (useBuffer number use : Operation τ Unit) := by
  refine (keeps_pool hpool).bind fun before => ?_
  refine ((logsOnly_ofExcept _ _).keeps hlog).bind fun after => ?_
  exact fun _ world => hpool world after

theorem keeps_bufferRest (number : Nat) : Keeps part (bufferRest number : Operation τ Octets) :=
  (keeps_pool hpool).bind fun _ => (logsOnly_ofExcept _ _).keeps hlog

end Pools

theorem quiet_pool : Quiet (pool : Operation τ Pool) := keeps_pool fun _ _ => rfl

/-- Work with a borrowed buffer sends what the work sends. -/
theorem SendsOne.borrowing {work : Nat → Operation τ α}
    (h : ∀ number, SendsOne kind (work number)) : SendsOne kind (borrowing work) := by
  refine quiet_pool.bind_sendsOne fun idle => ?_
  intro surroundings world
  have hwork := h idle.checkout.1 surroundings (withPool world idle.checkout.2)
  simp only [Pool.borrow]
  split
  · exact hwork
  · -- the return of the buffer fails, which counts instead of the result of the work
    rcases hwork with hsent | ⟨hfail, hworld⟩
    · exact .inl hsent
    · exact .inr ⟨⟨_, rfl⟩, hworld⟩

end Operation

end PlatformClient
