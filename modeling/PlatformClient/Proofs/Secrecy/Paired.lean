import PlatformClient.Proofs.Secrecy.Alike

/-!
# Operations that are run twice

An operation is run in two worlds that are alike, possibly with different tokens. Both runs end in
the same way: they fail alike, or have results that are related. What does not look
at the world at all ends in the same way by itself; everything else is built from few steps that
do.

## Main definitions

* `Operation.EndsAlike`, `Operation.Paired`: how two runs end
* `Operation.Steady`: relations of worlds that the log does not concern

## Main results

* `Paired.bind`, `Paired.bind_same`: sequences
* `Blind.paired`: what does not look at the world ends alike
* `paired_exchange`: requests that are alike have the same outcome
* `paired_fetchPending`: the request for a token brings documents that are alike
* `Paired.borrowing`, `paired_receive`, `paired_getStream`: steps that use the pool, the writer and
  the responses
-/

namespace PlatformClient.Operation

variable {τ α β γ δ : Type}

/-! ## The ends of two runs -/

/-- Two runs fail alike, or have results that are related in worlds that are. -/
inductive EndsAlike (After : World τ → World τ → Prop) (Related : α → β → Prop) :
    Except Failure α × World τ → Except Failure β × World τ → Prop
  | ok {a : α} {b : β} {world other : World τ} (hrelated : Related a b)
      (hworld : After world other) : EndsAlike After Related (.ok a, world) (.ok b, other)
  | error {failure failure' : Failure} {world other : World τ} (hfailure : failure.Alike failure')
      (hworld : world.Alike other) :
      EndsAlike After Related (.error failure, world) (.error failure', other)

/-- Two runs fail with the same failure. -/
theorem EndsAlike.same {After : World τ → World τ → Prop} {Related : α → β → Prop}
    (failure : Failure) {world other : World τ} (hworld : world.Alike other) :
    EndsAlike After Related (.error failure, world) (.error failure, other) :=
  .error (.inl rfl) hworld

/-- What is said of the worlds and results of two ends may be weakened. -/
theorem EndsAlike.weaken {After After' : World τ → World τ → Prop} {Related Weaker : α → β → Prop}
    {first : Except Failure α × World τ} {second : Except Failure β × World τ}
    (h : EndsAlike After Related first second)
    (hafter : ∀ world other, After world other → After' world other)
    (hrelated : ∀ a b, Related a b → Weaker a b) : EndsAlike After' Weaker first second := by
  cases h with
  | ok hfound hlast => exact .ok (hrelated _ _ hfound) (hafter _ _ hlast)
  | error hfailure halike => exact .error hfailure halike

/-- Two operations end alike in given surroundings, whenever their worlds are related before. -/
def Paired (surroundings : Surroundings τ) (Before After : World τ → World τ → Prop)
    (Related : α → β → Prop) (operation : Operation τ α) (other : Operation τ β) : Prop :=
  ∀ world world', Before world world' →
    EndsAlike After Related (operation surroundings world) (other surroundings world')

variable {surroundings : Surroundings τ} {Before Between After : World τ → World τ → Prop}
  {Related : α → β → Prop} {Related' : γ → δ → Prop} {operation : Operation τ α}
  {other : Operation τ β}

theorem Paired.bind {next : α → Operation τ γ} {next' : β → Operation τ δ}
    (h : Paired surroundings Before Between Related operation other)
    (hnext : ∀ a b, Related a b →
      Paired surroundings Between After Related' (next a) (next' b)) :
    Paired surroundings Before After Related' (operation >>= next) (other >>= next') := by
  intro world world' hworld
  have hfirst := h world world' hworld
  rw [bind_apply, bind_apply]
  generalize operation surroundings world = first at hfirst ⊢
  generalize other surroundings world' = second at hfirst ⊢
  cases hfirst with
  | ok hrelated hbetween => exact hnext _ _ hrelated _ _ hbetween
  | error hfailure halike => exact .error hfailure halike

/-- Sequences of operations whose first results are the same. -/
theorem Paired.bind_same {operation other : Operation τ α} {next : α → Operation τ γ}
    {next' : α → Operation τ δ} (h : Paired surroundings Before Between Eq operation other)
    (hnext : ∀ a, Paired surroundings Between After Related' (next a) (next' a)) :
    Paired surroundings Before After Related' (operation >>= next) (other >>= next') :=
  h.bind fun a _ hequal => hequal ▸ hnext a

theorem Paired.weaken {After' : World τ → World τ → Prop} {Weaker : α → β → Prop}
    (h : Paired surroundings Before After Related operation other)
    (hafter : ∀ world world', After world world' → After' world world')
    (hrelated : ∀ a b, Related a b → Weaker a b) :
    Paired surroundings Before After' Weaker operation other :=
  fun world world' hworld => (h world world' hworld).weaken hafter hrelated

theorem Paired.map {f : α → γ} {g : β → δ}
    (h : Paired surroundings Before After Related operation other)
    (hrelated : ∀ a b, Related a b → Related' (f a) (g b)) :
    Paired surroundings Before After Related' (f <$> operation) (g <$> other) := by
  intro world world' hworld
  have hends := h world world' hworld
  rw [map_apply, map_apply]
  generalize operation surroundings world = first at hends ⊢
  generalize other surroundings world' = second at hends ⊢
  cases hends with
  | ok hfound hlast => exact .ok (hrelated _ _ hfound) hlast
  | error hfailure halike => exact .error hfailure halike

/-! ## What does not look at the world -/

/-- A relation of worlds that holds of alike worlds only, and that the log does not concern. -/
structure Steady (Before : World τ → World τ → Prop) : Prop where
  alike : ∀ {world other}, Before world other → world.Alike other
  logged : ∀ {world other} lines, Before world other →
    Before (World.logged lines world) (World.logged lines other)

theorem steady_inStep : Steady (World.InStep (τ := τ)) where
  alike h := h.alike
  logged lines h := ⟨h.alike.logged lines, h.foreseen⟩

theorem steady_pending (surroundings : Surroundings τ) :
    Steady (World.Pending surroundings) where
  alike h := h.alike
  logged lines h := ⟨h.alike.logged lines, h.foreseen⟩

theorem steady_awaiting [Instant τ] (surroundings : Surroundings τ) :
    Steady (World.Awaiting surroundings) where
  alike h := h.alike
  logged lines h := ⟨h.alike.logged lines, h.foreseen⟩

/-- What does not look at the world ends alike, with the same result. -/
theorem Blind.paired (h : Blind operation) (hbefore : Steady Before) :
    Paired surroundings Before Before Eq operation operation := by
  intro world world' hworld
  obtain ⟨result, lines, happly⟩ := h surroundings
  rw [happly, happly]
  cases result with
  | ok a => exact .ok rfl (hbefore.logged lines hworld)
  | error failure => exact .same failure ((hbefore.alike hworld).logged lines)

/-- Steps that do not look at the world, before others. -/
theorem Blind.bind_paired {next : α → Operation τ γ} {next' : α → Operation τ δ}
    (h : Blind operation) (hbefore : Steady Before)
    (hnext : ∀ a, Paired surroundings Before After Related' (next a) (next' a)) :
    Paired surroundings Before After Related' (operation >>= next) (operation >>= next') :=
  (h.paired hbefore).bind_same hnext

/-- A failure leaves alike worlds behind, and no results that would have to be related. -/
theorem paired_fail (failure : Failure) (hbefore : Steady Before) :
    Paired surroundings Before After Related (fail failure) (fail failure) :=
  fun _ _ hworld => .same failure (hbefore.alike hworld)

/-- Parts of worlds are observed that are related in alike worlds. -/
theorem paired_observe {part : World τ → α} {part' : World τ → β} (hbefore : Steady Before)
    (hpart : ∀ world world', world.Alike world' → Related (part world) (part' world')) :
    Paired surroundings Before Before Related (observe part) (observe part') :=
  fun _ _ hworld => .ok (hpart _ _ (hbefore.alike hworld)) hworld

/-- Files that are observed are the same. -/
theorem paired_files (hbefore : Steady Before) :
    Paired surroundings Before Before Eq (observe fun world : World τ => world.files)
      (observe fun world => world.files) :=
  paired_observe hbefore fun _ _ halike => halike.files

/-- A change that keeps worlds related. -/
theorem paired_change {change change' : World τ → World τ}
    (h : ∀ world world', Before world world' → After (change world) (change' world')) :
    Paired surroundings Before After Eq (Operation.change change) (Operation.change change') :=
  fun world world' hworld => .ok rfl (h world world' hworld)

/-! ## Requests -/

/-- Responses that have arrived are the same, or alike. -/
def ArrivalsAlike (reading : Json.Reading) (arrival? other? : Option Arrival) : Prop :=
  arrival? = other? ∨ ∃ arrival arrival', arrival? = some arrival ∧ other? = some arrival' ∧
    Http.Response.Alike reading arrival.response arrival'.response

/-- Requests that are alike have the same outcome. -/
theorem paired_exchange {request request' : Http.Request} (h : request.Alike request') :
    Paired surroundings World.InStep World.InStep Eq (exchange request) (exchange request') := by
  intro world world' hworld
  have hnext : world.next surroundings = world'.next surroundings :=
    congrArg (fun foreseen => List.headD foreseen surroundings.unforeseen) hworld.foreseen
  have hplace : world.calls.length = world'.calls.length := hworld.alike.calls.length_eq
  have halike : (world.sent request (world'.next surroundings)).Alike
      (world'.sent request' (world'.next surroundings)) :=
    hworld.alike.sent h (.inl rfl : Http.Outcome.Alike surroundings.reading _ _)
  rw [exchange_apply, exchange_apply, hnext, hplace]
  cases received world'.calls.length (world'.next surroundings) with
  | error failure => exact .same failure halike
  | ok arrival? => exact .ok rfl ⟨halike, congrArg List.tail hworld.foreseen⟩

/-- The same request, whose outcome may differ in a token, brings responses that are alike. -/
theorem paired_exchangePending (request : Http.Request) :
    Paired surroundings (World.Pending surroundings) World.InStep
      (ArrivalsAlike surroundings.reading) (exchange request) (exchange request) := by
  intro world world' hworld
  have hplace : world.calls.length = world'.calls.length := hworld.alike.calls.length_eq
  obtain hsame | ⟨outcome, outcome', rest, hfirst, hsecond, houtcome⟩ := hworld.foreseen
  · -- without a difference to come, the worlds are in step already
    have hexchange : Paired surroundings World.InStep World.InStep Eq (exchange request)
        (exchange request) := paired_exchange (.inl rfl)
    exact (hexchange world world' ⟨hworld.alike, hsame⟩).weaken (fun _ _ => id) fun _ _ => .inl
  · -- the first outcome may differ, and is used up here
    have hnext : world.next surroundings = outcome := by
      unfold World.next
      rw [hfirst]
      rfl
    have hnext' : world'.next surroundings = outcome' := by
      unfold World.next
      rw [hsecond]
      rfl
    have halike : (world.sent request outcome).Alike (world'.sent request outcome') :=
      hworld.alike.sent (.inl rfl) houtcome
    have htail : (world.sent request outcome).foreseen =
        (world'.sent request outcome').foreseen := by
      change world.foreseen.tail = world'.foreseen.tail
      rw [hfirst, hsecond]
      rfl
    rw [exchange_apply, exchange_apply, hnext, hnext', hplace]
    obtain rfl | ⟨response, response', rfl, rfl, hresponse⟩ := houtcome
    · cases received world'.calls.length outcome with
      | error failure => exact .same failure halike
      | ok arrival? => exact .ok (.inl rfl) ⟨halike, htail⟩
    · exact .ok (.inr ⟨_, _, rfl, rfl, hresponse⟩) ⟨halike, htail⟩

/-- A document is fetched by requests that are alike. -/
theorem paired_fetchJson {request request' : Http.Request} (h : request.Alike request') :
    Paired surroundings World.InStep World.InStep Eq (fetchJson request) (fetchJson request') := by
  refine (paired_exchange h).bind_same fun arrival? => ?_
  refine (blind_checkStatus arrival?).bind_paired steady_inStep fun arrival => ?_
  exact (blind_readJson arrival).paired steady_inStep

/-- A document whose grant may differ in the token is fetched by the same request. -/
theorem paired_fetchPending (request : Http.Request) :
    Paired surroundings (World.Pending surroundings) World.InStep Json.GrantsAlike
      (fetchJson request) (fetchJson request) := by
  refine (paired_exchangePending request).bind fun arrival? other? harrivals => ?_
  obtain rfl | ⟨arrival, arrival', rfl, rfl, hresponse⟩ := harrivals
  · refine (blind_checkStatus arrival?).bind_paired steady_inStep fun arrival => ?_
    exact ((blind_readJson arrival).paired steady_inStep).weaken (fun _ _ => id) fun _ _ => .inl
  · by_cases hstatus : arrival.response.status = acceptedStatus
    · have hstatus' : arrival'.response.status = acceptedStatus := hresponse.status ▸ hstatus
      obtain ⟨document, document', hread, hread', halike⟩ := hresponse.document
      rw [checkStatus_of_eq hstatus, checkStatus_of_eq hstatus', pure_bind, pure_bind]
      intro world world' hworld
      rw [readJson_apply, readJson_apply, hread, hread']
      exact .ok halike hworld
    · have hstatus' : arrival'.response.status ≠ acceptedStatus := hresponse.status ▸ hstatus
      rw [checkStatus_of_ne hstatus, checkStatus_of_ne hstatus', hresponse.status,
        hresponse.reason]
      simp only [bind_assoc, raise_bind]
      refine (blind_numeral _).bind_paired steady_inStep fun _ => ?_
      refine (blind_say _ _).bind_paired steady_inStep fun _ => ?_
      exact paired_fail _ steady_inStep

/-- The document at one address is fetched; it may grant tokens that are alike. -/
theorem paired_getJson (url : String) :
    Paired surroundings (World.Pending surroundings) World.InStep Json.GrantsAlike (getJson url)
      (getJson url) := by
  refine (blind_say _ _).bind_paired (steady_pending surroundings) fun _ => ?_
  exact blind_settings.bind_paired (steady_pending surroundings) fun current =>
    paired_fetchPending _

section Addresses

variable {url url' : String} (h : AddressesAlike url url')
include h

/-- A document is posted to addresses that are alike. -/
theorem paired_postJson (payload : Json) :
    Paired surroundings World.InStep World.InStep Eq (postJson url payload)
      (postJson url' payload) := by
  unfold postJson
  rw [h.stripped]
  refine (blind_say _ _).bind_paired steady_inStep fun _ => ?_
  refine blind_surroundings.bind_paired steady_inStep fun _ => ?_
  refine (blind_ofExcept _ _).bind_paired steady_inStep fun text => ?_
  refine blind_settings.bind_paired steady_inStep fun current => ?_
  exact paired_fetchJson (Http.Request.alike_post h _ _ _)

/-- A body is posted to addresses that are alike. -/
theorem paired_postMultipart (body : Octets) (contentType : String) :
    Paired surroundings World.InStep World.InStep Eq (postMultipart url body contentType)
      (postMultipart url' body contentType) := by
  unfold postMultipart
  rw [h.stripped]
  refine (blind_say _ _).bind_paired steady_inStep fun _ => ?_
  refine blind_settings.bind_paired steady_inStep fun current => ?_
  exact paired_fetchJson (Http.Request.alike_post h _ _ _)

/-- A stream is opened at addresses that are alike. -/
theorem paired_getStream :
    Paired surroundings World.InStep World.InStep Eq (getStream url) (getStream url') := by
  unfold getStream
  rw [h.stripped]
  refine (blind_say _ _).bind_paired steady_inStep fun _ => ?_
  refine blind_settings.bind_paired steady_inStep fun current => ?_
  refine (paired_exchange (Http.Request.alike_get h _ _)).bind_same fun arrival? => ?_
  have hchecked : Paired surroundings World.InStep World.InStep Eq (checkStatus arrival?)
      (checkStatus arrival?) := (blind_checkStatus arrival?).paired steady_inStep
  intro world world' hworld
  have hends := hchecked world world' hworld
  unfold onFailure
  generalize checkStatus arrival? surroundings world = first at hends ⊢
  generalize checkStatus arrival? surroundings world' = second at hends ⊢
  cases hends with
  | ok hequal hlast => exact .ok hequal hlast
  | @error failure failure' last last' hfailure halike =>
    dsimp only
    rw [hfailure.isUnexpectedStatus]
    refine .error hfailure ?_
    cases failure'.isUnexpectedStatus with
    | false => exact halike
    | true =>
      cases arrival? with
      | none => exact halike
      | some arrival => exact halike.closeResponse arrival

end Addresses

/-- What has to be finished alike in worlds that are related. -/
theorem Paired.ensuring {finish : World τ → World τ}
    (h : Paired surroundings Before After Related operation other)
    (hafter : ∀ world world', After world world' → After (finish world) (finish world'))
    (halike : ∀ world world', world.Alike world' → (finish world).Alike (finish world')) :
    Paired surroundings Before After Related (ensuring finish operation)
      (Operation.ensuring finish other) := by
  intro world world' hworld
  have hends := h world world' hworld
  rw [ensuring_apply, ensuring_apply]
  generalize operation surroundings world = first at hends ⊢
  generalize other surroundings world' = second at hends ⊢
  cases hends with
  | ok hfound hlast => exact .ok hfound (hafter _ _ hlast)
  | error hfailure hlast => exact .error hfailure (halike _ _ hlast)

/-! ## The pool -/

theorem paired_pool :
    Paired surroundings World.InStep World.InStep Eq (pool : Operation τ Pool) pool := by
  intro world world' hworld
  have hpool := hworld.alike.client.pool
  unfold pool
  rw [hpool]
  cases world'.client.pool? with
  | some idle => exact .ok rfl hworld
  | none =>
    cases Pool.create? surroundings.settings.poolSize with
    | none => exact .same _ hworld.alike
    | some idle => exact .ok rfl ⟨hworld.alike.withPool idle, hworld.foreseen⟩

theorem paired_useBuffer (number : Nat) (use : Buffer → Except BufferFault Buffer) :
    Paired surroundings World.InStep World.InStep Eq (useBuffer number use : Operation τ Unit)
      (useBuffer number use) := by
  refine paired_pool.bind_same fun before => ?_
  refine (blind_ofExcept _ _).bind_paired steady_inStep fun after => ?_
  exact paired_change fun world world' hworld =>
    ⟨hworld.alike.withPool after, hworld.foreseen⟩

theorem paired_bufferRest (number : Nat) :
    Paired surroundings World.InStep World.InStep Eq (bufferRest number : Operation τ Octets)
      (bufferRest number) := by
  refine paired_pool.bind_same fun current => ?_
  exact (blind_ofExcept _ _).paired steady_inStep

theorem paired_writeMultipart (number : Nat) (boundary filename : String) (source : Source) :
    Paired surroundings World.InStep World.InStep Eq
      (writeMultipart number boundary filename source : Operation τ Unit)
      (writeMultipart number boundary filename source) := by
  unfold writeMultipart
  cases Multipart.boundaryFault? boundary.toList with
  | some fault => exact (blind_fail _).paired steady_inStep
  | none =>
    refine (paired_useBuffer _ _).bind_same fun _ => ?_
    refine (paired_useBuffer _ _).bind_same fun _ => ?_
    cases source.fault with
    | some fault => exact (blind_raise fault).paired steady_inStep
    | none => exact (paired_useBuffer _ _).bind_same fun _ => paired_useBuffer _ _

/-- Work that is done alike with a borrowed buffer. -/
theorem Paired.borrowing {work : Nat → Operation τ α} {work' : Nat → Operation τ β}
    (h : ∀ number, Paired surroundings World.InStep World.InStep Related (work number)
      (work' number)) :
    Paired surroundings World.InStep World.InStep Related (borrowing work)
      (Operation.borrowing work') := by
  refine paired_pool.bind_same fun idle => ?_
  intro world world' hworld
  have hends := h idle.checkout.1 (withPool world idle.checkout.2) (withPool world' idle.checkout.2)
    ⟨hworld.alike.withPool _, hworld.foreseen⟩
  simp only [Pool.borrow]
  generalize work idle.checkout.1 surroundings (withPool world idle.checkout.2) = first at hends ⊢
  generalize work' idle.checkout.1 surroundings (withPool world' idle.checkout.2) = second
    at hends ⊢
  cases hends with
  | @ok a b last last' hfound hlast =>
    simp only [hlast.alike.client.pool]
    cases (last'.client.pool?.getD idle.checkout.2).release idle.checkout.1 with
    | ok returned => exact .ok hfound ⟨hlast.alike.withPool returned, hlast.foreseen⟩
    | error fault => exact .same _ (hlast.alike.withPool _)
  | @error failure failure' last last' hfailure hlast =>
    simp only [hlast.client.pool]
    cases (last'.client.pool?.getD idle.checkout.2).release idle.checkout.1 with
    | ok returned => exact .error hfailure (hlast.withPool returned)
    | error fault => exact .same _ (hlast.withPool _)

/-! ## Downloads -/

/-- The caller's writer takes the same pieces in worlds that are in step. -/
theorem paired_give (pieces : List Octets) :
    Paired surroundings World.InStep World.InStep Eq
      (Operation.change fun world => { world with written := world.written ++ pieces })
      (Operation.change fun world => { world with written := world.written ++ pieces }) :=
  paired_change fun _ _ hworld =>
    { alike := { hworld.alike with written := congrArg (· ++ pieces) hworld.alike.written }
      foreseen := hworld.foreseen }

theorem paired_writePieces (writer : Writer) (pieces : List Octets) :
    Paired surroundings World.InStep World.InStep Eq (writePieces writer pieces : Operation τ Unit)
      (writePieces writer pieces) := by
  cases writer with
  | file trail =>
    refine paired_change fun world world' hworld => ?_
    rw [hworld.alike.files]
    exact ⟨hworld.alike.withFiles _, hworld.foreseen⟩
  | caller refusal =>
    have htaken : Paired surroundings World.InStep World.InStep Eq
        (observe (fun world : World τ => world.written.length))
        (observe fun world => world.written.length) :=
      paired_observe steady_inStep fun _ _ halike => congrArg List.length halike.written
    refine htaken.bind_same fun taken => ?_
    rcases refusal with _ | ⟨index, fault⟩
    · exact paired_give pieces
    · simp only
      split
      · exact (paired_give _).bind_same fun _ => (blind_raise fault).paired steady_inStep
      · exact paired_give pieces

theorem paired_receive (arrival : Arrival) (writer : Writer) :
    Paired surroundings World.InStep World.InStep Eq (receive arrival writer : Operation τ Nat)
      (receive arrival writer) := by
  unfold receive
  split
  · refine (blind_readStream arrival).bind_paired steady_inStep fun document => ?_
    refine (blind_readAs _ document).bind_paired steady_inStep fun envelope => ?_
    refine (blind_numeral _).bind_paired steady_inStep fun code => ?_
    refine (blind_say _ _).bind_paired steady_inStep fun _ => ?_
    exact (blind_raise _).paired steady_inStep
  · refine blind_surroundings.bind_paired steady_inStep fun current => ?_
    rcases current.delivery current.settings.chunkSize arrival.response.body with ⟨pieces, fault⟩
    cases isOffset current.settings.chunkSize with
    | false => exact (blind_fail _).paired steady_inStep
    | true =>
      refine (paired_writePieces writer pieces).bind_same fun _ => ?_
      cases fault with
      | some fault => exact (blind_raise fault).paired steady_inStep
      | none => exact (blind_pure _).paired steady_inStep

end PlatformClient.Operation
