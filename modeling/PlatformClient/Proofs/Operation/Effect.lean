import PlatformClient.Operation.Transport

/-!
# What operations leave alone

Most steps of an operation touch a small part of the world. Reading an answer of the platform only
adds lines to the log and does not even look at the world, and what holds of single steps passes to
the sequences built from them.

## Main definitions

* `World.logged`: the world after further lines have been logged
* `Operation.Blind`: operations that add to the log, and do not look at the world
* `Operation.LogsOnly`: operations that change nothing but the log
* `Operation.Keeps`: operations that leave a part of the world as it is

## Main results

* `Blind.bind`, `LogsOnly.bind`, `Keeps.bind`: these properties pass through sequences
* `Blind.logsOnly`, `LogsOnly.keeps`: what the log does not concern is left alone
* `requireSuccess_eq_ok_iff`, `decode_eq_ok_iff`: the answers that are read without an error
-/

namespace PlatformClient

variable {τ α β γ : Type}

/-- The world after further lines have been logged. -/
def World.logged (lines : List Emission) (world : World τ) : World τ :=
  { world with emissions := world.emissions ++ lines }

@[simp] theorem World.logged_nil (world : World τ) : world.logged [] = world := by
  simp [logged]

@[simp] theorem World.logged_logged (world : World τ) (first second : List Emission) :
    (world.logged first).logged second = world.logged (first ++ second) := by
  simp [logged]

@[simp] theorem World.logged_client (world : World τ) (lines : List Emission) :
    (world.logged lines).client = world.client := rfl

@[simp] theorem World.logged_foreseen (world : World τ) (lines : List Emission) :
    (world.logged lines).foreseen = world.foreseen := rfl

/-- The answers without an error: their envelope can be read and reports success. -/
def Envelope.ReportsSuccess (document : Json) : Prop :=
  ∃ envelope, Envelope.document.read document = .ok envelope ∧ envelope.isSuccess = true

namespace Operation

/-! ## Sequences that end early -/

@[simp] theorem fail_bind (failure : Failure) (next : α → Operation τ β) :
    (fail failure : Operation τ α) >>= next = fail failure := rfl

@[simp] theorem raise_bind (fault : Fault) (next : α → Operation τ β) :
    (raise fault : Operation τ α) >>= next = raise fault := rfl

@[simp] theorem raise_map (fault : Fault) (f : α → β) :
    f <$> (raise fault : Operation τ α) = raise fault := rfl

theorem bind_apply_of_ok {operation : Operation τ α} {next : α → Operation τ β}
    {surroundings : Surroundings τ} {world after : World τ} {a : α}
    (h : operation surroundings world = (.ok a, after)) :
    (operation >>= next) surroundings world = next a surroundings after := by
  rw [bind_apply, h]

theorem bind_apply_of_error {operation : Operation τ α} {next : α → Operation τ β}
    {surroundings : Surroundings τ} {world after : World τ} {failure : Failure}
    (h : operation surroundings world = (.error failure, after)) :
    (operation >>= next) surroundings world = (.error failure, after) := by
  rw [bind_apply, h]

theorem map_apply (f : α → β) (operation : Operation τ α) (surroundings : Surroundings τ)
    (world : World τ) :
    (f <$> operation) surroundings world =
      ((operation surroundings world).1.map f, (operation surroundings world).2) := by
  change (operation >>= fun a => pure (f a)) surroundings world = _
  rw [bind_apply]
  rcases operation surroundings world with ⟨failure | a, after⟩ <;> rfl

/-- A sequence succeeds exactly if both of its parts do. -/
theorem bind_eq_ok_iff {operation : Operation τ α} {next : α → Operation τ β}
    {surroundings : Surroundings τ} {world : World τ} {b : β} :
    ((operation >>= next) surroundings world).1 = .ok b ↔
      ∃ a after, operation surroundings world = (.ok a, after) ∧
        (next a surroundings after).1 = .ok b := by
  rw [bind_apply]
  rcases operation surroundings world with ⟨failure | a, after⟩
  · simp
  · constructor
    · exact fun h => ⟨a, after, rfl, h⟩
    · rintro ⟨a', after', heq, h⟩
      cases heq
      exact h

/-! ## Operations that do not look at the world -/

/-- An operation whose result and whose log lines do not depend on the world, and that changes
nothing but the log. -/
def Blind (operation : Operation τ α) : Prop :=
  ∀ surroundings, ∃ result lines, ∀ world,
    operation surroundings world = (result, World.logged lines world)

theorem blind_pure (a : α) : Blind (pure a : Operation τ α) :=
  fun _ => ⟨.ok a, [], fun world => congrArg _ (World.logged_nil world).symm⟩

theorem blind_fail (failure : Failure) : Blind (fail failure : Operation τ α) :=
  fun _ => ⟨.error failure, [], fun world => congrArg _ (World.logged_nil world).symm⟩

theorem blind_raise (fault : Fault) : Blind (raise fault : Operation τ α) := blind_fail _

theorem blind_ofExcept {ε : Type} (failure : ε → Failure) (result : Except ε α) :
    Blind (ofExcept failure result : Operation τ α) := by
  cases result with
  | ok a => exact blind_pure a
  | error cause => exact blind_fail _

theorem blind_settings : Blind (settings : Operation τ Settings) :=
  fun surroundings => ⟨.ok surroundings.settings, [],
    fun world => congrArg _ (World.logged_nil world).symm⟩

theorem blind_surroundings : Blind (surroundings : Operation τ (Surroundings τ)) :=
  fun surroundings => ⟨.ok surroundings, [],
    fun world => congrArg _ (World.logged_nil world).symm⟩

theorem blind_say (severity : Severity) (text : String) :
    Blind (say severity text : Operation τ String) :=
  fun _ => ⟨_, _, fun _ => rfl⟩

theorem blind_numeral (n : Int) : Blind (numeral n : Operation τ String) := blind_ofExcept _ _

/-- A number within the limit for digits has a text. -/
theorem numeral_eq_pure {n : Int} (h : n.natAbs < Nat.pow 10 Text.digitLimit) :
    (numeral n : Operation τ String) = pure (Text.decimal n) := by
  have htext : Text.decimal? n = .ok (Text.decimal n) := Text.decimal?_eq_ok_iff.mpr ⟨h, rfl⟩
  unfold numeral
  rw [htext]
  rfl

theorem Blind.bind {operation : Operation τ α} {next : α → Operation τ β} (h : Blind operation)
    (hnext : ∀ a, Blind (next a)) : Blind (operation >>= next) := by
  intro surroundings
  obtain ⟨result, lines, happly⟩ := h surroundings
  cases result with
  | error failure =>
    exact ⟨.error failure, lines, fun world => bind_apply_of_error (happly world)⟩
  | ok a =>
    obtain ⟨last, more, hlast⟩ := hnext a surroundings
    refine ⟨last, lines ++ more, fun world => ?_⟩
    rw [bind_apply_of_ok (happly world), hlast, World.logged_logged]

theorem blind_addressOf (endpoint : Endpoint) : Blind (addressOf endpoint : Operation τ String) :=
  blind_settings.bind fun _ => blind_pure _

theorem blind_readAs (kind : Record.Document α) (document : Json) :
    Blind (readAs kind document : Operation τ α) :=
  blind_ofExcept _ _

theorem blind_readJson (arrival : Arrival) : Blind (readJson arrival : Operation τ Json) :=
  (blind_ofExcept _ _).bind fun _ => blind_surroundings.bind fun _ => blind_ofExcept _ _

theorem blind_readStream (arrival : Arrival) : Blind (readStream arrival : Operation τ Json) := by
  refine blind_surroundings.bind fun current => ?_
  rcases current.delivery documentPiece arrival.response.body with ⟨pieces, fault | _⟩
  · exact blind_readJson _
  · exact blind_raise _

/-- A response with another status is reported and refused. -/
theorem checkStatus_of_ne {arrival : Arrival} (h : arrival.response.status ≠ acceptedStatus) :
    (checkStatus (some arrival) : Operation τ Arrival) = (do
      let status ← numeral arrival.response.status
      let _ ← say .error ("  Status is not '200': HTTP_" ++ status ++ "!")
      raise (.unexpectedStatus arrival.response.status arrival.response.reason)) := by
  simp [checkStatus, h]

theorem checkStatus_of_eq {arrival : Arrival} (h : arrival.response.status = acceptedStatus) :
    (checkStatus (some arrival) : Operation τ Arrival) = pure arrival := by
  simp [checkStatus, h]

theorem blind_checkStatus (arrival? : Option Arrival) :
    Blind (checkStatus arrival? : Operation τ Arrival) := by
  cases arrival? with
  | none => exact (blind_say _ _).bind fun _ => blind_raise _
  | some arrival =>
    by_cases h : arrival.response.status = acceptedStatus
    · rw [checkStatus_of_eq h]
      exact blind_pure _
    · rw [checkStatus_of_ne h]
      exact (blind_numeral _).bind fun _ => (blind_say _ _).bind fun _ => blind_raise _

theorem blind_requireSuccess (document : Json) :
    Blind (requireSuccess document : Operation τ Envelope) := by
  refine (blind_readAs _ document).bind fun envelope => ?_
  split
  · refine (blind_numeral _).bind fun _ => (blind_say _ _).bind fun _ => ?_
    exact (blind_raise _).bind fun _ => blind_pure _
  · exact blind_pure _

theorem blind_decode (kind : Record.Document α) (document : Json) :
    Blind (decode kind document : Operation τ α) :=
  (blind_requireSuccess document).bind fun _ => blind_readAs kind document

/-! ## Operations that only add to the log -/

/-- An operation that changes nothing but the log. -/
def LogsOnly (operation : Operation τ α) : Prop :=
  ∀ surroundings world, ∃ lines, (operation surroundings world).2 = world.logged lines

theorem Blind.logsOnly {operation : Operation τ α} (h : Blind operation) : LogsOnly operation := by
  intro surroundings world
  obtain ⟨result, lines, happly⟩ := h surroundings
  exact ⟨lines, congrArg Prod.snd (happly world)⟩

theorem logsOnly_observe (part : World τ → α) : LogsOnly (observe part) :=
  fun _ world => ⟨[], (world.logged_nil).symm⟩

theorem logsOnly_pure (a : α) : LogsOnly (pure a : Operation τ α) := (blind_pure a).logsOnly

theorem logsOnly_fail (failure : Failure) : LogsOnly (fail failure : Operation τ α) :=
  (blind_fail failure).logsOnly

theorem logsOnly_raise (fault : Fault) : LogsOnly (raise fault : Operation τ α) :=
  (blind_raise fault).logsOnly

theorem logsOnly_ofExcept {ε : Type} (failure : ε → Failure) (result : Except ε α) :
    LogsOnly (ofExcept failure result : Operation τ α) :=
  (blind_ofExcept failure result).logsOnly

theorem logsOnly_settings : LogsOnly (settings : Operation τ Settings) := blind_settings.logsOnly

theorem logsOnly_surroundings : LogsOnly (surroundings : Operation τ (Surroundings τ)) :=
  blind_surroundings.logsOnly

theorem logsOnly_say (severity : Severity) (text : String) :
    LogsOnly (say severity text : Operation τ String) :=
  (blind_say severity text).logsOnly

theorem logsOnly_numeral (n : Int) : LogsOnly (numeral n : Operation τ String) :=
  (blind_numeral n).logsOnly

theorem logsOnly_readAs (kind : Record.Document α) (document : Json) :
    LogsOnly (readAs kind document : Operation τ α) :=
  (blind_readAs kind document).logsOnly

theorem logsOnly_readJson (arrival : Arrival) : LogsOnly (readJson arrival : Operation τ Json) :=
  (blind_readJson arrival).logsOnly

theorem logsOnly_checkStatus (arrival? : Option Arrival) :
    LogsOnly (checkStatus arrival? : Operation τ Arrival) :=
  (blind_checkStatus arrival?).logsOnly

theorem logsOnly_requireSuccess (document : Json) :
    LogsOnly (requireSuccess document : Operation τ Envelope) :=
  (blind_requireSuccess document).logsOnly

theorem logsOnly_decode (kind : Record.Document α) (document : Json) :
    LogsOnly (decode kind document : Operation τ α) :=
  (blind_decode kind document).logsOnly

/-- A text that is logged succeeds, and adds lines to the log. -/
theorem exists_say_apply (severity : Severity) (text : String) (surroundings : Surroundings τ)
    (world : World τ) :
    ∃ shown lines, say severity text surroundings world = (.ok shown, world.logged lines) :=
  ⟨_, _, rfl⟩

theorem LogsOnly.bind {operation : Operation τ α} {next : α → Operation τ β}
    (h : LogsOnly operation) (hnext : ∀ a, LogsOnly (next a)) : LogsOnly (operation >>= next) := by
  intro surroundings world
  obtain ⟨lines, hlines⟩ := h surroundings world
  rw [bind_apply]
  rcases hresult : operation surroundings world with ⟨failure | a, after⟩
  · exact ⟨lines, by rw [← hlines, hresult]⟩
  · rw [hresult] at hlines
    obtain rfl : after = world.logged lines := hlines
    obtain ⟨more, hmore⟩ := hnext a surroundings (world.logged lines)
    exact ⟨lines ++ more, hmore.trans (World.logged_logged world lines more)⟩

/-- What only adds to the log behind an operation leaves all else as the operation does. -/
theorem exists_bind_world (operation : Operation τ α) {next : α → Operation τ β}
    (hnext : ∀ a, LogsOnly (next a)) (surroundings : Surroundings τ) (world : World τ) :
    ∃ lines, ((operation >>= next) surroundings world).2 =
      (operation surroundings world).2.logged lines := by
  rw [bind_apply]
  rcases operation surroundings world with ⟨failure | a, after⟩
  · exact ⟨[], (World.logged_nil after).symm⟩
  · exact hnext a surroundings after

/-! ## The reading of answers -/

/-- An answer without an error has its envelope as result. -/
theorem requireSuccess_of_success {document : Json} {envelope : Envelope}
    (hread : Envelope.document.read document = .ok envelope) (h : envelope.isSuccess = true) :
    (requireSuccess document : Operation τ Envelope) = pure envelope := by
  simp [requireSuccess, readAs, hread, ofExcept, h]

/-- An error of the platform is reported and raised. -/
theorem requireSuccess_of_error {document : Json} {envelope : Envelope}
    (hread : Envelope.document.read document = .ok envelope) (h : envelope.isSuccess = false) :
    (requireSuccess document : Operation τ Envelope) = (do
      let code ← numeral envelope.code
      let _ ← say .warn ("Platform API error " ++ code ++ ": " ++ envelope.text)
      raise (.api envelope.code envelope.text)) := by
  simp [requireSuccess, readAs, hread, ofExcept, h]

theorem requireSuccess_of_refusal {document : Json} {refusal : Record.Refusal}
    (hread : Envelope.document.read document = .error refusal) :
    (requireSuccess document : Operation τ Envelope) = fail (.ofRefusal document refusal) := by
  simp [requireSuccess, readAs, hread, ofExcept]

/-- An answer is accepted exactly if its envelope can be read and reports success. -/
theorem requireSuccess_eq_ok_iff {document : Json} {surroundings : Surroundings τ}
    {world : World τ} {envelope : Envelope} :
    (requireSuccess document surroundings world).1 = .ok envelope ↔
      Envelope.document.read document = .ok envelope ∧ envelope.isSuccess = true := by
  cases hread : Envelope.document.read document with
  | error refusal => simp [requireSuccess_of_refusal hread]
  | ok found =>
    cases hsuccess : found.isSuccess with
    | true =>
      rw [requireSuccess_of_success hread hsuccess]
      constructor
      · rintro ⟨⟩
        exact ⟨rfl, hsuccess⟩
      · rintro ⟨⟨⟩, -⟩
        rfl
    | false =>
      rw [requireSuccess_of_error hread hsuccess]
      constructor
      · intro h
        obtain ⟨code, after, -, h⟩ := bind_eq_ok_iff.mp h
        obtain ⟨text, last, -, h⟩ := bind_eq_ok_iff.mp h
        cases h
      · rintro ⟨⟨⟩, h⟩
        rw [hsuccess] at h
        cases h

theorem readAs_eq_ok_iff {kind : Record.Document α} {document : Json}
    {surroundings : Surroundings τ} {world after : World τ} {a : α} :
    readAs kind document surroundings world = (.ok a, after) ↔
      kind.read document = .ok a ∧ after = world := by
  unfold readAs
  cases kind.read document with
  | error refusal => simp [ofExcept]
  | ok found => simp [ofExcept, eq_comm]

/-- An answer has a meaning exactly if it reports success and has the required form. -/
theorem decode_eq_ok_iff {kind : Record.Document α} {document : Json}
    {surroundings : Surroundings τ} {world : World τ} {a : α} :
    (decode kind document surroundings world).1 = .ok a ↔
      Envelope.ReportsSuccess document ∧ kind.read document = .ok a := by
  unfold decode
  rw [bind_eq_ok_iff]
  constructor
  · rintro ⟨envelope, after, hsuccess, hread⟩
    have henvelope := requireSuccess_eq_ok_iff.mp (congrArg Prod.fst hsuccess)
    have hkind := readAs_eq_ok_iff.mp (Prod.ext hread rfl)
    exact ⟨⟨envelope, henvelope⟩, hkind.1⟩
  · rintro ⟨⟨envelope, hread, hsuccess⟩, hkind⟩
    refine ⟨envelope, world, ?_, congrArg Prod.fst (readAs_eq_ok_iff.mpr ⟨hkind, rfl⟩)⟩
    rw [requireSuccess_of_success hread hsuccess]
    rfl

/-! ## Parts of the world that are left alone -/

/-- An operation that leaves a part of the world as it is. -/
def Keeps (part : World τ → γ) (operation : Operation τ α) : Prop :=
  ∀ surroundings world, part (operation surroundings world).2 = part world

/-- What the log does not concern is left alone by what changes nothing but the log. -/
theorem LogsOnly.keeps {operation : Operation τ α} (h : LogsOnly operation) {part : World τ → γ}
    (hpart : ∀ lines world, part (World.logged lines world) = part world) :
    Keeps part operation := by
  intro surroundings world
  obtain ⟨lines, hlines⟩ := h surroundings world
  rw [hlines, hpart]

theorem Keeps.bind {part : World τ → γ} {operation : Operation τ α} {next : α → Operation τ β}
    (h : Keeps part operation) (hnext : ∀ a, Keeps part (next a)) :
    Keeps part (operation >>= next) := by
  intro surroundings world
  rw [bind_apply]
  have hfirst := h surroundings world
  rcases hresult : operation surroundings world with ⟨failure | a, after⟩
  · rwa [hresult] at hfirst
  · rw [hresult] at hfirst
    exact (hnext a surroundings after).trans hfirst

theorem Keeps.map {part : World τ → γ} {operation : Operation τ α} (h : Keeps part operation)
    (f : α → β) : Keeps part (f <$> operation) := by
  intro surroundings world
  rw [map_apply]
  exact h surroundings world

/-- What has to be finished on every way out, if the finish leaves the part alone as well. -/
theorem Keeps.ensuring {part : World τ → γ} {finish : World τ → World τ}
    {operation : Operation τ α} (h : Keeps part operation)
    (hfinish : ∀ world, part (finish world) = part world) :
    Keeps part (ensuring finish operation) := by
  intro surroundings world
  rw [ensuring_apply]
  exact (hfinish _).trans (h surroundings world)

theorem Keeps.onFailure {part : World τ → γ} {operation : Operation τ α}
    (h : Keeps part operation) (caught : Failure → Bool) {finish : World τ → World τ}
    (hfinish : ∀ world, part (finish world) = part world) :
    Keeps part (onFailure caught finish operation) := by
  intro surroundings world
  unfold Operation.onFailure
  have hfirst := h surroundings world
  rcases hresult : operation surroundings world with ⟨failure | a, after⟩
  · rw [hresult] at hfirst
    simp only
    split
    · exact (hfinish after).trans hfirst
    · exact hfirst
  · rwa [hresult] at hfirst

end Operation

end PlatformClient
