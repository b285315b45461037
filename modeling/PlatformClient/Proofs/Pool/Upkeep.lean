import PlatformClient.Proofs.Upload.Bodies

/-!
# The upkeep of the pool

Only uploads use the pool, and each of them leaves it settled, whatever becomes of it. So the pool
of a client is settled between any two actions of a run, under whatever configurations: the size of
the pool is fixed when it is created.

## Main definitions

* `Operation.Upholds`: operations that keep a property of the world
* `Client.Tidy`: the pool of a client is settled, whatever its size

## Main results

* `Operation.borrowing_sendFile_apply`: the work of an upload with a tidy pool
* `Operation.upholds_upload`: uploads leave a tidy pool tidy
* `Operation.upholds_operation`: so does every operation of a client
* `Step.tidy_after`: so does every step
* `Session.tidy`: the pool is tidy in every step of a run
-/

namespace PlatformClient

variable {τ α β γ : Type}

/-- The pool of a client is settled, whatever its size, once there is one. -/
def Client.Tidy (client : Client τ) : Prop := ∃ size : Nat, client.Settled size

namespace Operation

/-! ## Properties that are kept -/

/-- An operation that keeps a property of the world, whatever its outcome. -/
def Upholds (Holds : World τ → Prop) (operation : Operation τ α) : Prop :=
  ∀ surroundings world, Holds world → Holds (operation surroundings world).2

variable {Holds : World τ → Prop}

theorem Upholds.after {operation : Operation τ α} (h : Upholds Holds operation)
    {surroundings : Surroundings τ} {world after : World τ} {result : Except Failure α}
    (hresult : operation surroundings world = (result, after)) (hworld : Holds world) :
    Holds after := by
  have hafter := h surroundings world hworld
  rwa [hresult] at hafter

theorem Upholds.bind {operation : Operation τ α} {next : α → Operation τ β}
    (h : Upholds Holds operation) (hnext : ∀ a, Upholds Holds (next a)) :
    Upholds Holds (operation >>= next) := by
  intro surroundings world hworld
  rw [bind_apply]
  have hfirst := h surroundings world hworld
  rcases hresult : operation surroundings world with ⟨failure | a, after⟩
  · rwa [hresult] at hfirst
  · rw [hresult] at hfirst
    exact hnext a surroundings after hfirst

theorem Upholds.map {operation : Operation τ α} (h : Upholds Holds operation) (f : α → β) :
    Upholds Holds (f <$> operation) := by
  intro surroundings world hworld
  rw [map_apply]
  exact h surroundings world hworld

/-- The pool of the world's client is tidy. -/
abbrev TidyWorld (world : World τ) : Prop := world.client.Tidy

/-- What leaves the pool alone leaves it tidy. -/
theorem Keeps.upholds {operation : Operation τ α}
    (h : Keeps (fun world => world.client.pool?) operation) : Upholds TidyWorld operation := by
  rintro surroundings world ⟨size, hsettled⟩
  refine ⟨size, fun pool hpool => hsettled pool ?_⟩
  rw [← hpool]
  exact (h surroundings world).symm

theorem LogsOnly.upholds {operation : Operation τ α} (h : LogsOnly operation) :
    Upholds TidyWorld operation :=
  (h.keeps fun _ _ => rfl : Keeps (fun world => world.client.pool?) operation).upholds

/-! ## The work of an upload -/

/-- A tidy pool has a size that fits the configuration, unless it does not exist and cannot be
created. -/
theorem exists_size_or_refused (surroundings : Surroundings τ) {world : World τ}
    (h : world.client.Tidy) :
    (world.client.pool? = none ∧ surroundings.settings.poolSize < 0) ∨
      ∃ size : Nat, (world.client.pool? = none → surroundings.settings.poolSize = size) ∧
        world.client.Settled size := by
  obtain ⟨size, hsettled⟩ := h
  cases hpool : world.client.pool? with
  | some pool => exact .inr ⟨size, nofun, hsettled⟩
  | none =>
    rcases Int.lt_or_le surroundings.settings.poolSize 0 with hnegative | hpositive
    · exact .inl ⟨rfl, hnegative⟩
    · refine .inr ⟨surroundings.settings.poolSize.toNat, fun _ => ?_, fun pool hsome => ?_⟩
      · exact (Int.toNat_of_nonneg hpositive).symm
      · cases hpool.symm.trans hsome

/-- Without a pool, and with a size that is negative, no buffer is borrowed. -/
theorem borrowing_of_refused {surroundings : Surroundings τ} {world : World τ}
    (hpool : world.client.pool? = none) (hsize : surroundings.settings.poolSize < 0)
    (work : Nat → Operation τ α) :
    borrowing work surroundings world = (.error .poolSize, world) := by
  have hnone : pool surroundings world = (.error .poolSize, world) := by
    unfold pool Pool.create?
    rw [hpool, if_pos hsize]
  exact bind_apply_of_error hnone

/-- The work of an upload with a tidy pool begins with a buffer, unless the pool cannot be created.
Its outcome is the outcome of the whole, and it leaves a tidy pool. -/
theorem borrowing_sendFile_apply (surroundings : Surroundings τ) {world : World τ}
    (h : world.client.Tidy) (token : String) (medium : MediaType) (filename : String)
    (source : Source) :
    borrowing (sendFile token medium filename source) surroundings world =
      (.error .poolSize, world) ∨
    ∃ number lent returned, (withPool world returned).client.Tidy ∧
      borrowing (sendFile token medium filename source) surroundings world =
        ((sendFile token medium filename source number surroundings (withPool world lent)).1,
          withPool (sendFile token medium filename source number surroundings
            (withPool world lent)).2 returned) := by
  rcases exists_size_or_refused surroundings h with
    ⟨hpool, hnegative⟩ | ⟨size, hsize, hsettled⟩
  · exact .inl (borrowing_of_refused hpool hnegative _)
  · obtain ⟨number, lent, hlent, hempty, hborrow⟩ :=
      exists_borrowing_apply hsize hsettled (sendFile token medium filename source)
    have hsent := fileSent_sendFile hlent hempty token medium filename source surroundings world
    obtain ⟨content, hbuffer, hopen⟩ := hsent.buffer
    obtain ⟨returned, hreturned, happly⟩ := hborrow content hbuffer hopen
    refine .inr ⟨number, lent, returned, ⟨size, ?_⟩, happly⟩
    rintro pool ⟨⟩
    exact hreturned

/-! ## The operations of a client -/

variable [Instant τ]

theorem upholds_requireToken : Upholds TidyWorld (requireToken : Operation τ String) :=
  Keeps.upholds pool_requireToken

/-- An upload leaves a tidy pool tidy. -/
theorem upholds_upload (kind : Json) (filename : String) (source : Option Source) :
    Upholds TidyWorld (upload kind filename source : Operation τ Upload) := by
  rcases upload_refused_or_accepted (τ := τ) kind filename source with
    ⟨fault, hrefused⟩ | ⟨medium, file, haccepted⟩
  · rw [hrefused]
    exact (logsOnly_raise fault).upholds
  · rw [haccepted]
    refine (logsOnly_say _ _).upholds.bind fun _ => upholds_requireToken.bind fun token => ?_
    refine Upholds.bind ?_ fun document => (blind_readReceipt medium document).logsOnly.upholds
    intro surroundings world hworld
    rcases borrowing_sendFile_apply surroundings hworld token medium filename file with
      hrefused | ⟨number, lent, returned, htidy, happly⟩
    · rw [hrefused]
      exact hworld
    · rw [happly]
      exact htidy

theorem upholds_download (mediaId : String) (writer : Option Writer) :
    Upholds TidyWorld (download mediaId writer : Operation τ Unit) := by
  refine Keeps.upholds (keeps_download (fun _ _ => rfl) (fun _ _ _ => rfl) (fun _ _ => rfl)
    (fun _ _ => rfl) (fun found _ => ?_) mediaId)
  exact keeps_writePieces (fun _ _ => rfl) (fun _ _ => rfl) (fun _ _ => rfl) found

/-- Every operation of a client leaves a tidy pool tidy. -/
theorem upholds_operation (action : Action) :
    Upholds TidyWorld (action.operation : Operation τ Answer) := by
  cases action with
  | requireToken => exact upholds_requireToken.map _
  | invalidateToken =>
    refine Upholds.map ?_ _
    exact (logsOnly_say _ _).upholds.bind fun _ => fun _ _ hworld => hworld
  | upload kind filename source => exact (upholds_upload kind filename source).map _
  | uploadFromFile kind path =>
    refine Upholds.map ?_ _
    refine (logsOnly_observe _).upholds.bind fun files => ?_
    exact (logsOnly_ofExcept _ _).upholds.bind fun data => upholds_upload _ _ _
  | download mediaId writer => exact (upholds_download mediaId writer).map _
  | downloadToFile mediaId path =>
    refine Upholds.map ?_ _
    refine (logsOnly_observe _).upholds.bind fun files => ?_
    refine (logsOnly_ofExcept _ _).upholds.bind fun opened => ?_
    exact Upholds.bind (fun _ _ hworld => hworld) fun _ => upholds_download _ _
  | uploadNews _ | uploadVideo _ | orderById _ | ordersByFilter _ | setDelivery _ _ _
  | closeOrder _ =>
    exact Keeps.upholds (PostsTo.keeps (fun _ _ => rfl) (fun _ _ _ => rfl) (fun _ _ => rfl)
      (Action.postsTo rfl))
  | getJson url =>
    exact Keeps.upholds ((keeps_getJson (fun _ _ => rfl) (fun _ _ _ => rfl) url).map _)
  | postJson url payload =>
    exact Keeps.upholds ((keeps_postJson (fun _ _ => rfl) (fun _ _ _ => rfl) url payload).map _)
  | postMultipart url body contentType =>
    refine Keeps.upholds (Keeps.map ?_ _)
    exact keeps_postMultipart (fun _ _ => rfl) (fun _ _ _ => rfl) url body contentType
  | getStream url =>
    refine Keeps.upholds (Keeps.map ?_ _)
    exact keeps_getStream (fun _ _ => rfl) (fun _ _ _ => rfl) (fun _ _ => rfl) url

end Operation

/-! ## Steps and runs -/

variable [Instant τ]

/-- Every step leaves a tidy pool tidy. -/
theorem Step.tidy_after {step : Step τ} (h : step.session.client.Tidy) : step.after.client.Tidy :=
  Operation.upholds_operation step.turn.action step.turn.surroundings step.before h

/-- **The upkeep of the pool.** In every run of a new client, whatever its actions and
configurations, the pool is settled between any two steps. -/
theorem Session.tidy (files : FileStore) (turns : List (Turn τ)) {step : Step τ}
    (h : step ∈ (Session.new files).steps turns) : step.session.client.Tidy := by
  have hnew : (Session.new files : Session τ).client.Settled 0 := nofun
  exact Session.holds_of_step (·.client.Tidy) (fun _ _ hsession => Step.tidy_after hsession)
    ⟨0, hnew⟩ h

end PlatformClient
