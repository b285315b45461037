import Mathlib.Data.List.Forall2
import PlatformClient.Proofs.Independence.Respects
import PlatformClient.Proofs.Pool.Upkeep

/-!
# The pool is not seen

Two clients may have everything in common but their pools. As long as both pools are settled at the
configured size, no operation tells them apart: an upload sends its body as if there were no buffer
in between, and fails as it would without one. So whole runs of the two clients have the same
outcomes.

## Main definitions

* `World.SameButPool`, `Outcome.SameButPool`: what may differ in the pool
* `Client.Fits`: the pool of a client is settled at a size, once there is one
* `Session.SameButPool`: sessions that differ in pools of one size
* `Operation.sendDirectly`: what an upload does, but for the pool

## Main results

* `borrowing_sendFile_same`: work with a borrowed buffer differs from it in the pool only
* `Action.respects`: no operation of a client tells pools of one size apart
* `Session.SameButPool.play`, `Session.SameButPool.run`: neither does a turn, nor a run
-/

namespace PlatformClient

variable {τ α β : Type}

/-! ## What may differ in the pool -/

/-- A world without its pool. -/
def World.withoutPool (world : World τ) : World τ := { world with client.pool? := none }

/-- Worlds that have everything in common but their pools. -/
def World.SameButPool (world other : World τ) : Prop := world.withoutPool = other.withoutPool

/-- The pool of a client is settled at a size, once there is one. -/
def Client.Fits (size : Int) (client : Client τ) : Prop :=
  ∀ pool, client.pool? = some pool → ∃ capacity : Nat, size = capacity ∧ pool.Settled capacity

/-- Worlds that differ in pools of one size. -/
structure World.SameButFitting (size : Int) (world other : World τ) : Prop where
  same : world.SameButPool other
  fits : world.client.Fits size
  fits' : other.client.Fits size

theorem World.closeCompanions_sameButPool :
    CloseCompanions (SameButPool : World τ → World τ → Prop) where
  cache h := congrArg (·.client.cache) h
  foreseen h := congrArg (·.foreseen) h
  place h := congrArg (·.calls.length) h
  logged lines h := congrArg (World.logged lines) h
  sent request outcome h := congrArg (World.sent request outcome) h
  withCache cache h := congrArg (World.withCache cache) h
  files h := congrArg (·.files) h
  written h := congrArg (·.written) h
  withFiles files h := congrArg (World.withFiles files) h
  wrote pieces h := congrArg (World.wrote pieces) h
  closeResponse arrival h := congrArg (Operation.closeResponse arrival) h

theorem World.closeCompanions_sameButFitting (size : Int) :
    CloseCompanions (SameButFitting size : World τ → World τ → Prop) where
  cache h := closeCompanions_sameButPool.cache h.same
  foreseen h := closeCompanions_sameButPool.foreseen h.same
  place h := closeCompanions_sameButPool.place h.same
  logged lines h := ⟨closeCompanions_sameButPool.logged lines h.same, h.fits, h.fits'⟩
  sent request outcome h :=
    ⟨closeCompanions_sameButPool.sent request outcome h.same, h.fits, h.fits'⟩
  withCache cache h := ⟨closeCompanions_sameButPool.withCache cache h.same, h.fits, h.fits'⟩
  files h := closeCompanions_sameButPool.files h.same
  written h := closeCompanions_sameButPool.written h.same
  withFiles files h := ⟨closeCompanions_sameButPool.withFiles files h.same, h.fits, h.fits'⟩
  wrote pieces h := ⟨closeCompanions_sameButPool.wrote pieces h.same, h.fits, h.fits'⟩
  closeResponse arrival h :=
    ⟨closeCompanions_sameButPool.closeResponse arrival h.same, h.fits, h.fits'⟩

namespace Operation

/-! ## Uploads without a buffer -/

/-- A body is sent, with no buffer in between. -/
def sendBody (token : String) (medium : MediaType) (filename : String) (source : Source) :
    Operation τ Json := do
  let current ← surroundings
  match writeFailure? current.boundary source with
  | some failure => fail failure
  | none =>
    let url ← addressOf (.mediaUpload token medium.name)
    postMultipart url (Multipart.body current.boundary.toList filename.toList source.data)
      (Multipart.contentType current.boundary)

/-- A body is sent with no buffer in between, unless there could be no pool. -/
def sendDirectly (token : String) (medium : MediaType) (filename : String) (source : Source) :
    Operation τ Json := do
  if (← settings).poolSize < 0 then fail .poolSize
  sendBody token medium filename source

variable {surroundings : Surroundings τ}

/-- A buffer is not seen: the same is sent, or the writing fails in the same way. -/
theorem sendFile_same {size number : Nat} {lent : Pool} (hlent : Pool.LentOut size number lent)
    (hempty : lent.buffer number = .empty) (token : String) (medium : MediaType)
    (filename : String) (source : Source) (world : World τ) :
    (sendFile token medium filename source number surroundings (withPool world lent)).1 =
        (sendBody token medium filename source surroundings world).1 ∧
      (sendFile token medium filename source number surroundings
        (withPool world lent)).2.SameButPool
          (sendBody token medium filename source surroundings world).2 := by
  have hstart : lent.set number (.atEnd []) = lent := by
    have hatEnd : Buffer.atEnd [] = lent.buffer number := hempty.symm
    rw [hatEnd, Pool.set_buffer hlent.known]
  have hsurroundings (other : World τ) :
      Operation.surroundings surroundings other = (.ok surroundings, other) := rfl
  unfold sendBody
  rw [bind_apply_of_ok (hsurroundings world)]
  cases hfailure : writeFailure? surroundings.boundary source with
  | some failure =>
    obtain ⟨content, hwrite⟩ :=
      writeMultipart_of_failure hlent.known hfailure filename surroundings world
    rw [hstart] at hwrite
    rw [sendFile_of_error hwrite token medium]
    exact ⟨rfl, rfl⟩
  | none =>
    have hwrite := writeMultipart_of_writable hlent.known (writable_iff.mpr hfailure) filename
      surroundings world
    have hrest := bufferRest_ofOctets_apply hlent.known
      (Multipart.body surroundings.boundary.toList filename.toList source.data) surroundings world
    have haddress (other : World τ) :
        addressOf (.mediaUpload token medium.name) surroundings other =
          (.ok ((Endpoint.mediaUpload token medium.name).address surroundings.settings), other) :=
      rfl
    rw [hstart] at hwrite
    unfold sendFile
    rw [bind_apply_of_ok (hsurroundings _), bind_apply_of_ok hwrite,
      bind_apply_of_ok (haddress _), bind_apply_of_ok hrest]
    simp only
    rw [bind_apply_of_ok (haddress _)]
    obtain ⟨result, after, after', hafter, happly, happly'⟩ :=
      (respects_postMultipart (peers_of_companions
          World.closeCompanions_sameButPool.toCompanions surroundings) _ _ _ :
        Respects surroundings World.SameButPool _) (withPool world _) world rfl
    rw [happly, happly']
    exact ⟨rfl, hafter⟩

/-- The work of an upload with a buffer from a fitting pool differs from what is done without one in
the pool only, which fits again. -/
theorem borrowing_sendFile_same {size : Int} (hsize : surroundings.settings.poolSize = size)
    {world : World τ} (h : world.client.Fits size) (token : String) (medium : MediaType)
    (filename : String) (source : Source) :
    (borrowing (sendFile token medium filename source) surroundings world).1 =
        (sendDirectly token medium filename source surroundings world).1 ∧
      (borrowing (sendFile token medium filename source) surroundings world).2.SameButPool
        (sendDirectly token medium filename source surroundings world).2 ∧
      (borrowing (sendFile token medium filename source) surroundings world).2.client.Fits
        size := by
  have hsettings : settings surroundings world = (.ok surroundings.settings, world) := rfl
  unfold sendDirectly
  rw [bind_apply_of_ok hsettings]
  rcases Int.lt_or_le size 0 with hnegative | hpositive
  · have hnone : world.client.pool? = none := by
      cases hpool : world.client.pool? with
      | none => rfl
      | some pool =>
        obtain ⟨capacity, hcapacity, -⟩ := h pool hpool
        omega
    rw [borrowing_of_refused hnone (hsize ▸ hnegative), if_pos (hsize ▸ hnegative)]
    exact ⟨rfl, rfl, h⟩
  · obtain ⟨capacity, rfl⟩ := Int.eq_ofNat_of_zero_le hpositive
    have hsettled : world.client.Settled capacity := by
      intro pool hpool
      obtain ⟨found, hfound, hpool⟩ := h pool hpool
      exact Int.ofNat.inj hfound ▸ hpool
    rw [if_neg (by omega)]
    obtain ⟨number, lent, hlent, hempty, hborrow⟩ := exists_borrowing_apply (fun _ => hsize)
      hsettled (sendFile token medium filename source)
    have hsent := fileSent_sendFile hlent hempty token medium filename source surroundings world
    obtain ⟨content, hbuffer, hopen⟩ := hsent.buffer
    obtain ⟨returned, hreturned, happly⟩ := hborrow content hbuffer hopen
    obtain ⟨hresult, hworld⟩ := sendFile_same hlent hempty token medium filename source world
    rw [happly]
    refine ⟨hresult, hworld, ?_⟩
    rintro pool ⟨⟩
    exact ⟨capacity, rfl, hreturned⟩

theorem respects_sendDirectly (token : String) (medium : MediaType) (filename : String)
    (source : Source) :
    Respects surroundings World.SameButPool
      (sendDirectly token medium filename source : Operation τ Json) := by
  have hpeers := peers_of_companions World.closeCompanions_sameButPool.toCompanions surroundings
  refine (blind_settings.respects hpeers).bind fun current => ?_
  split
  · exact (blind_fail _).respects hpeers
  · refine (blind_surroundings.respects hpeers).bind fun found => ?_
    cases writeFailure? found.boundary source with
    | some failure => exact (blind_fail failure).respects hpeers
    | none =>
      refine ((blind_addressOf _).respects hpeers).bind fun url => ?_
      exact respects_postMultipart hpeers url _ _

/-- Pools of one size are not told apart by the work of an upload. -/
theorem respects_borrowing_sendFile {size : Int} (hsize : surroundings.settings.poolSize = size)
    (token : String) (medium : MediaType) (filename : String) (source : Source) :
    Respects surroundings (World.SameButFitting size)
      (borrowing (sendFile token medium filename source)) := by
  intro world other hworld
  obtain ⟨hresult, hafter, hfits⟩ :=
    borrowing_sendFile_same hsize hworld.fits token medium filename source
  obtain ⟨hresult', hafter', hfits'⟩ :=
    borrowing_sendFile_same hsize hworld.fits' token medium filename source
  obtain ⟨result, last, last', hlast, happly, happly'⟩ :=
    respects_sendDirectly token medium filename source world other hworld.same
  rw [happly] at hresult hafter
  rw [happly'] at hresult' hafter'
  have hsame := (hafter.trans hlast).trans hafter'.symm
  exact ⟨result, _, _, ⟨hsame, hfits, hfits'⟩, Prod.ext hresult rfl, Prod.ext hresult' rfl⟩

variable [Instant τ]

theorem respects_upload {size : Int} (hsize : surroundings.settings.poolSize = size) (kind : Json)
    (filename : String) (source : Option Source) :
    Respects surroundings (World.SameButFitting size) (upload kind filename source) :=
  respects_upload_of_borrowing
    (peers_of_companions (World.closeCompanions_sameButFitting size).toCompanions surroundings)
    (respects_borrowing_sendFile hsize) kind filename source

end Operation

/-- No operation of a client tells pools of one size apart. -/
theorem Action.respects [Instant τ] (action : Action) {size : Int} {surroundings : Surroundings τ}
    (hsize : surroundings.settings.poolSize = size) :
    Operation.Respects surroundings (World.SameButFitting size) action.operation :=
  Action.respects_of_upload
    (Operation.closePeers_of_companions (World.closeCompanions_sameButFitting size) surroundings)
    (Operation.respects_upload hsize) action

/-! ## Turns and runs -/

/-- Outcomes that have everything in common but the pools: the result, the calls, the log, the
files, what has been written and the cache. -/
structure Outcome.SameButPool (outcome other : Outcome τ) : Prop where
  result : outcome.result = other.result
  world : outcome.world.SameButPool other.world

/-- Sessions that have everything in common but pools of one size. -/
structure Session.SameButPool (size : Int) (session other : Session τ) : Prop where
  cache : session.client.cache = other.client.cache
  files : session.files = other.files
  fits : session.client.Fits size
  fits' : other.client.Fits size

variable [Instant τ] {size : Int} {session other : Session τ}

theorem Session.SameButPool.play (h : session.SameButPool size other) {turn : Turn τ}
    (hsize : turn.surroundings.settings.poolSize = size) :
    (turn.play session).SameButPool (turn.play other) ∧
      (turn.play session).session.SameButPool size (turn.play other).session := by
  have hbefore : World.SameButFitting size (.of session.client session.files turn.foreseen)
      (.of other.client other.files turn.foreseen) := by
    refine ⟨?_, h.fits, h.fits'⟩
    simp only [World.SameButPool, World.withoutPool, World.of, h.cache, h.files]
  obtain ⟨result, after, after', hafter, happly, happly'⟩ :=
    turn.action.respects hsize _ _ hbefore
  have hclose := World.closeCompanions_sameButFitting (τ := τ) size
  unfold Turn.play
  rw [happly, happly']
  exact ⟨⟨rfl, hafter.same⟩, ⟨hclose.cache hafter, hclose.files hafter, hafter.fits, hafter.fits'⟩⟩

/-- Runs from sessions that differ in pools of one size have the same outcomes. Behind each turn,
the sessions differ in pools of this size again. -/
theorem Session.SameButPool.run (h : session.SameButPool size other) {turns : List (Turn τ)}
    (hsize : ∀ turn ∈ turns, turn.surroundings.settings.poolSize = size) :
    List.Forall₂ Outcome.SameButPool (session.run turns).1 (other.run turns).1 ∧
      (session.run turns).2.SameButPool size (other.run turns).2 := by
  induction turns generalizing session other with
  | nil => exact ⟨.nil, h⟩
  | cons turn rest ih =>
    obtain ⟨hfirst, hsessions⟩ := h.play (hsize turn List.mem_cons_self)
    obtain ⟨hrest, hlast⟩ := ih hsessions fun later hlater =>
      hsize later (List.mem_cons_of_mem _ hlater)
    exact ⟨.cons hfirst hrest, hlast⟩

end PlatformClient
