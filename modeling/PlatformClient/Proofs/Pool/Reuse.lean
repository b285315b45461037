import PlatformClient.Proofs.Pool.Ownership

/-!
# Buffers are used again

A pool creates a buffer only when none is idle, and gives one up only when it is returned while the
idle ones are as many as the pool has room for. So each buffer that was ever created is idle, or
held, or has been dropped, and only one of these. As long as no more buffers are held at the same
time than the pool has room for, none is dropped, and no more are created than are held at some
time, however long the run is.

## Main definitions

* `Pool.Event.dropped`, `Pool.Lending.dropped`: the buffers that are dropped by an event, and in the
  course of a run
* `Pool.Lending.passed`: the points of a run
* `Pool.Accounted`: each buffer is idle, held or dropped
* `Pool.Reuse`: what holds of the buffers of a run

## Main results

* `Pool.checkout_cases`, `Pool.release_cases`: what becomes of a buffer
* `Pool.Accounted.result`, `Pool.accounted_of_reaches`: the account of an event, and of a run
* `Pool.dropped_eq_nil_of_held`: a bound for what is held bounds what is created
* `Pool.reuse_of_reaches`: the buffers of every run are used again
-/

namespace PlatformClient.Pool

/-! ## Buffers that are dropped -/

/-- The buffers that an event drops: one that is returned and is not idle then. -/
def Event.dropped (after : Lending) : Event → List Nat
  | .release number | .leave number => if number ∈ after.pool.idle then [] else [number]
  | .checkout | .enter | .use _ _ => []

namespace Lending

/-- The buffers that are dropped in the course of events. -/
def dropped (lending : Lending) : List Event → List Nat
  | [] => []
  | event :: rest =>
    match event.result lending with
    | .error _ => []
    | .ok after => event.dropped after ++ after.dropped rest

/-- The points that are passed in the course of events, from the first to the last. -/
def passed (lending : Lending) : List Event → List Lending
  | [] => [lending]
  | event :: rest =>
    lending ::
      match event.result lending with
      | .error _ => []
      | .ok after => after.passed rest

end Lending

variable {size number : Nat} {start lending after : Lending} {pool : Pool} {events : List Event}
  {event : Event}

theorem Lending.dropped_cons (h : event.result lending = .ok after) (rest : List Event) :
    lending.dropped (event :: rest) = event.dropped after ++ after.dropped rest := by
  rw [Lending.dropped, h]

theorem Lending.passed_cons (h : event.result lending = .ok after) (rest : List Event) :
    lending.passed (event :: rest) = lending :: after.passed rest := by
  rw [Lending.passed, h]

theorem Reaches.dropped_append (h : Reaches start events lending) (more : List Event) :
    start.dropped (events ++ more) = start.dropped events ++ lending.dropped more := by
  induction h generalizing more with
  | refl => rfl
  | step _ _ hresult ih =>
    rw [List.append_assoc, ih, ih, List.singleton_append, Lending.dropped_cons hresult,
      Lending.dropped_cons hresult, Lending.dropped, List.append_nil, List.append_assoc]

theorem Reaches.dropped_snoc (h : Reaches start events lending)
    (hresult : event.result lending = .ok after) :
    start.dropped (events ++ [event]) = start.dropped events ++ event.dropped after := by
  rw [h.dropped_append, Lending.dropped_cons hresult, Lending.dropped, List.append_nil]

/-- A run passes the point that it reaches last. -/
theorem Reaches.exists_passed (h : Reaches start events lending) :
    ∃ earlier, ∀ more, start.passed (events ++ more) = earlier ++ lending.passed more := by
  induction h with
  | refl => exact ⟨[], fun _ => rfl⟩
  | @step events event lending after _ _ hresult ih =>
    obtain ⟨earlier, hpassed⟩ := ih
    refine ⟨earlier ++ [lending], fun more => ?_⟩
    rw [List.append_assoc, hpassed, List.singleton_append, Lending.passed_cons hresult,
      List.append_assoc, List.singleton_append]

theorem Reaches.passed_snoc (h : Reaches start events lending)
    (hresult : event.result lending = .ok after) :
    start.passed (events ++ [event]) = start.passed events ++ [after] := by
  obtain ⟨earlier, hpassed⟩ := h.exists_passed
  have hfirst := hpassed []
  rw [List.append_nil] at hfirst
  rw [hpassed, hfirst, Lending.passed_cons hresult, Lending.passed, Lending.passed,
    List.append_assoc, List.singleton_append]

/-! ## What becomes of a buffer -/

/-- An idle buffer is lent out, or a new one if none is idle. -/
theorem checkout_cases (pool : Pool) :
    (∃ rest, pool.idle = pool.checkout.1 :: rest ∧ pool.checkout.2.idle = rest ∧
      pool.checkout.2.lent = pool.checkout.1 :: pool.lent ∧
      pool.checkout.2.buffers.length = pool.buffers.length) ∨
    pool.idle = [] ∧ pool.checkout.2.idle = [] ∧
      pool.checkout.2.lent = pool.buffers.length :: pool.lent ∧
      pool.checkout.2.buffers.length = pool.buffers.length + 1 := by
  unfold checkout
  cases hidle : pool.idle with
  | cons number rest => exact .inl ⟨rest, rfl, rfl, rfl, rfl⟩
  | nil => exact .inr ⟨rfl, hidle, rfl, List.length_append⟩

/-- A buffer that is returned is idle if there is room for it. -/
theorem release_cases {returned : Pool} (h : pool.release number = .ok returned) :
    returned.lent = pool.lent.erase number ∧ returned.buffers.length = pool.buffers.length ∧
      (pool.idle.length < pool.capacity ∧ returned.idle = number :: pool.idle ∨
        pool.capacity ≤ pool.idle.length ∧ returned.idle = pool.idle) := by
  obtain ⟨content, rfl⟩ :
      ∃ content, returned = keep number (takeBack number (pool.set number content)) := by
    unfold release update at h
    cases hcleared : (pool.buffer number).cleared with
    | error fault =>
      rw [hcleared] at h
      cases h
    | ok content =>
      rw [hcleared] at h
      cases h
      exact ⟨content, rfl⟩
  have hlength : (pool.set number content).buffers.length = pool.buffers.length :=
    List.length_set
  unfold keep
  split
  · rename_i hroom
    exact ⟨rfl, hlength, .inl ⟨hroom, rfl⟩⟩
  · rename_i hfull
    exact ⟨rfl, hlength, .inr ⟨Nat.le_of_not_lt hfull, rfl⟩⟩

/-- A use changes what is in a buffer, and nothing else. -/
theorem used_cases (number : Nat) (use : Buffer → Except BufferFault Buffer) (pool : Pool) :
    (used number use pool).2.idle = pool.idle ∧ (used number use pool).2.lent = pool.lent ∧
      (used number use pool).2.buffers.length = pool.buffers.length := by
  unfold used update
  cases use (pool.buffer number) with
  | error fault => exact ⟨rfl, rfl, rfl⟩
  | ok content => exact ⟨rfl, rfl, List.length_set⟩

/-- An event lends a buffer out, returns one, or uses one. -/
theorem Event.result_cases (h : event.result lending = .ok after) :
    (event = .checkout ∨ event = .enter) ∧ after.pool = lending.pool.checkout.2 ∨
    (∃ number, (event = .release number ∨ event = .leave number) ∧
      lending.pool.release number = .ok after.pool) ∨
    ∃ number act, event = .use number act ∧
      after.pool = (used number act.apply lending.pool).2 := by
  have hreturned : ∀ (number : Nat) (blocks : List Nat),
      (lending.pool.release number).map (fun pool => (⟨pool, blocks⟩ : Lending)) = .ok after →
      lending.pool.release number = .ok after.pool := by
    intro number blocks hresult
    cases hrelease : lending.pool.release number with
    | error fault =>
      rw [hrelease] at hresult
      cases hresult
    | ok returned =>
      rw [hrelease] at hresult
      cases hresult
      rfl
  cases event with
  | checkout =>
    cases h
    exact .inl ⟨.inl rfl, rfl⟩
  | enter =>
    cases h
    exact .inl ⟨.inr rfl, rfl⟩
  | release number => exact .inr (.inl ⟨number, .inl rfl, hreturned number _ h⟩)
  | leave number => exact .inr (.inl ⟨number, .inr rfl, hreturned number _ h⟩)
  | use number act =>
    cases h
    exact .inr (.inr ⟨number, act, rfl, rfl⟩)

/-- What is returned was held. -/
theorem Owned.held_of_allowed (h : Owned size lending) (hallowed : event.Allowed lending)
    (hreturn : event = .release number ∨ event = .leave number) :
    number ∈ lending.pool.lent := by
  rcases hreturn with rfl | rfl
  · exact hallowed.1
  · exact h.blocks.subset hallowed

theorem Event.dropped_of_return (hreturn : event = .release number ∨ event = .leave number)
    (after : Lending) :
    event.dropped after = if number ∈ after.pool.idle then [] else [number] := by
  rcases hreturn with rfl | rfl <;> rfl

theorem Event.dropped_of_lend (hlend : event = .checkout ∨ event = .enter) (after : Lending) :
    event.dropped after = [] := by
  rcases hlend with rfl | rfl <;> rfl

/-- A buffer is dropped exactly if it is returned while the idle ones are as many as the pool has
room for. -/
theorem mem_dropped_iff (h : Owned size lending) (hallowed : event.Allowed lending)
    (hresult : event.result lending = .ok after) :
    number ∈ event.dropped after ↔
      (event = .release number ∨ event = .leave number) ∧ lending.pool.idle.length = size := by
  rcases Event.result_cases hresult with
    ⟨hlend, -⟩ | ⟨returned, hreturn, hrelease⟩ | ⟨other, act, rfl, -⟩
  · rw [Event.dropped_of_lend hlend]
    rcases hlend with rfl | rfl <;> simp
  · have hheld := h.held_of_allowed hallowed hreturn
    have hnew : returned ∉ lending.pool.idle := fun hidle =>
      (List.nodup_append.mp h.distinct).2.2 _ hidle _ hheld rfl
    have hsame : (event = .release number ∨ event = .leave number) ↔ number = returned := by
      rcases hreturn with rfl | rfl <;> simp [eq_comm]
    rw [Event.dropped_of_return hreturn, hsame]
    obtain ⟨-, -, ⟨hroom, hidle⟩ | ⟨hfull, hidle⟩⟩ := release_cases hrelease
    · rw [hidle, if_pos List.mem_cons_self, h.capacity] at *
      exact iff_of_false List.not_mem_nil fun ⟨_, hlength⟩ => Nat.lt_irrefl _ (hlength ▸ hroom)
    · have hlength : lending.pool.idle.length = size :=
        Nat.le_antisymm h.capped (h.capacity ▸ hfull)
      rw [hidle, if_neg hnew, List.mem_singleton]
      exact (and_iff_left hlength).symm
  · rw [Event.dropped]
    simp

/-! ## The account of all buffers -/

/-- Each buffer that was ever created is idle, held or dropped, and only one of these. -/
def Accounted (lending : Lending) (dropped : List Nat) : Prop :=
  (lending.pool.idle ++ lending.pool.lent ++ dropped).Perm
    (List.range lending.pool.buffers.length)

theorem Accounted.length_eq {dropped : List Nat} (h : Accounted lending dropped) :
    lending.pool.buffers.length =
      lending.pool.lent.length + lending.pool.idle.length + dropped.length := by
  have hlength := List.Perm.length_eq h
  simp only [List.length_append, List.length_range] at hlength
  omega

/-- An event moves one buffer at most: a new one is held, an idle one is held, or one that was held
is idle or dropped. -/
theorem Accounted.result {dropped : List Nat} (h : Accounted lending dropped)
    (howned : Owned size lending) (hallowed : event.Allowed lending)
    (hresult : event.result lending = .ok after) :
    Accounted after (dropped ++ event.dropped after) := by
  unfold Accounted at h ⊢
  rcases Event.result_cases hresult with
    ⟨hlend, hpool⟩ | ⟨number, hreturn, hrelease⟩ | ⟨number, act, rfl, hpool⟩
  · rw [Event.dropped_of_lend hlend, List.append_nil, hpool]
    rcases checkout_cases lending.pool with
      ⟨rest, hidle, hrest, hlent, hlength⟩ | ⟨hidle, hnone, hlent, hlength⟩
    · rw [hrest, hlent, hlength]
      rw [hidle] at h
      exact (List.perm_middle.append_right dropped).trans h
    · rw [hnone, hlent, hlength, List.range_succ, List.nil_append, List.cons_append]
      rw [hidle, List.nil_append] at h
      exact (List.perm_append_singleton _ _).symm.trans (h.append_right _)
  · have hheld := howned.held_of_allowed hallowed hreturn
    have hnew : number ∉ lending.pool.idle := fun hidle =>
      (List.nodup_append.mp howned.distinct).2.2 _ hidle _ hheld rfl
    have hsame : (lending.pool.idle ++ lending.pool.lent ++ dropped).Perm
        (number :: (lending.pool.idle ++ lending.pool.lent.erase number ++ dropped)) :=
      (((List.perm_cons_erase hheld).append_left _).trans List.perm_middle).append_right _
    rw [Event.dropped_of_return hreturn]
    obtain ⟨hlent, hlength, ⟨-, hidle⟩ | ⟨-, hidle⟩⟩ := release_cases hrelease
    · rw [hidle, if_pos List.mem_cons_self, hlent, hlength, List.append_nil]
      exact hsame.symm.trans h
    · rw [hidle, if_neg hnew, hlent, hlength, ← List.append_assoc]
      exact ((List.perm_append_singleton _ _).trans hsame.symm).trans h
  · obtain ⟨hidle, hlent, hlength⟩ := used_cases number act.apply lending.pool
    rw [hpool, hidle, hlent, hlength, Event.dropped, List.append_nil]
    exact h

/-- The account of a run. -/
theorem accounted_of_reaches (h : Reaches ⟨ofCapacity size, []⟩ events lending) :
    Accounted lending (Lending.dropped ⟨ofCapacity size, []⟩ events) := by
  induction h with
  | refl => exact List.Perm.refl []
  | step hrun hallowed hresult ih =>
    rw [hrun.dropped_snoc hresult]
    exact ih.result ((owned_ofCapacity size).of_reaches hrun) hallowed hresult

/-! ## Runs in which few buffers are held -/

/-- A buffer is created only when none is idle, and is lent out. -/
theorem created_cases (hresult : event.result lending = .ok after) :
    after.pool.buffers.length = lending.pool.buffers.length ∨
      (event = .checkout ∨ event = .enter) ∧ lending.pool.idle = [] ∧ after.pool.idle = [] ∧
        after.pool.buffers.length = lending.pool.buffers.length + 1 := by
  rcases Event.result_cases hresult with
    ⟨hlend, hpool⟩ | ⟨number, -, hrelease⟩ | ⟨number, act, -, hpool⟩
  · rw [hpool]
    rcases checkout_cases lending.pool with ⟨-, -, -, -, hlength⟩ | ⟨hidle, hnone, -, hlength⟩
    · exact .inl hlength
    · exact .inr ⟨hlend, hidle, hnone, hlength⟩
  · exact .inl (release_cases hrelease).2.1
  · rw [hpool]
    exact .inl (used_cases number act.apply lending.pool).2.2

/-- As long as no more buffers are held than the pool has room for, none is dropped, and no more are
created. -/
theorem dropped_eq_nil_of_held {bound : Nat} (hbound : bound ≤ size)
    (h : Reaches ⟨ofCapacity size, []⟩ events lending)
    (hheld : ∀ point ∈ Lending.passed ⟨ofCapacity size, []⟩ events,
      point.pool.lent.length ≤ bound) :
    lending.pool.buffers.length ≤ bound ∧ Lending.dropped ⟨ofCapacity size, []⟩ events = [] := by
  induction h with
  | refl => exact ⟨Nat.zero_le _, rfl⟩
  | @step events event lending after hrun hallowed hresult ih =>
    rw [hrun.passed_snoc hresult] at hheld
    obtain ⟨hcreated, hnone⟩ := ih fun point hpoint => hheld point (List.mem_append_left _ hpoint)
    have howned := (owned_ofCapacity size).of_reaches hrun
    have hcount := (accounted_of_reaches hrun).length_eq
    rw [hnone, List.length_nil, Nat.add_zero] at hcount
    have hkept : event.dropped after = [] := by
      refine List.eq_nil_iff_forall_not_mem.mpr fun number hdropped => ?_
      obtain ⟨hreturn, hfull⟩ := (mem_dropped_iff howned hallowed hresult).mp hdropped
      have hpos := List.length_pos_of_mem (howned.held_of_allowed hallowed hreturn)
      omega
    have hdropped : Lending.dropped ⟨ofCapacity size, []⟩ (events ++ [event]) = [] := by
      rw [hrun.dropped_snoc hresult, hnone, hkept, List.append_nil]
    refine ⟨?_, hdropped⟩
    rcases created_cases hresult with hsame | ⟨-, -, hidle, -⟩
    · exact hsame ▸ hcreated
    · have hlast := (accounted_of_reaches (.step hrun hallowed hresult)).length_eq
      rw [hdropped, hidle] at hlast
      exact hlast ▸ hheld after (List.mem_append_right _ List.mem_cons_self)

/-! ## Every run -/

/-- What holds of the buffers of a run with a new pool, at the point that it has reached. -/
structure Reuse (size : Nat) (events : List Event) (lending : Lending) : Prop where
  /-- The buffers that were ever created are those that are held, idle or dropped. -/
  counted : lending.pool.buffers.length = lending.pool.lent.length + lending.pool.idle.length +
    (Lending.dropped ⟨ofCapacity size, []⟩ events).length
  /-- Each of them is only one of these. -/
  accounted : Accounted lending (Lending.dropped ⟨ofCapacity size, []⟩ events)
  /-- Next, a buffer is dropped exactly if it is returned to a full pool. -/
  drops : ∀ (event : Event) (after : Lending) (number : Nat), event.Allowed lending →
    event.result lending = .ok after → (number ∈ event.dropped after ↔
      (event = .release number ∨ event = .leave number) ∧ lending.pool.idle.length = size)
  /-- A buffer is created only if one is asked for and none is idle. -/
  creates : ∀ (event : Event) (after : Lending), event.Allowed lending →
    event.result lending = .ok after →
    after.pool.buffers.length = lending.pool.buffers.length ∨
      (event = .checkout ∨ event = .enter) ∧ lending.pool.idle = [] ∧ after.pool.idle = [] ∧
        after.pool.buffers.length = lending.pool.buffers.length + 1
  /-- If the pool has room for all that are held at the same time, no more than so many are created,
  and none is dropped. -/
  bounded : ∀ bound ≤ size, (∀ point ∈ Lending.passed ⟨ofCapacity size, []⟩ events,
      point.pool.lent.length ≤ bound) →
    lending.pool.buffers.length ≤ bound ∧ Lending.dropped ⟨ofCapacity size, []⟩ events = []

/-- **Buffers are used again.** This holds at every point of a run with a new pool, of any size,
length and order. -/
theorem reuse_of_reaches (h : Reaches ⟨ofCapacity size, []⟩ events lending) :
    Reuse size events lending where
  counted := (accounted_of_reaches h).length_eq
  accounted := accounted_of_reaches h
  drops _ _ _ hallowed hresult :=
    mem_dropped_iff ((owned_ofCapacity size).of_reaches h) hallowed hresult
  creates _ _ _ hresult := created_cases hresult
  bounded _ hbound hheld := dropped_eq_nil_of_held hbound h hheld

/-- Three borrowers follow each other with one buffer; and of two buffers that are held at the same
time, the second one is dropped when the pool has room for one. -/
theorem reuse_of_borrowers :
    (∃ lending, Reaches ⟨ofCapacity 1, []⟩
        [.enter, .leave 0, .checkout, .use 0 (.write [7]), .release 0, .enter] lending ∧
      lending.pool.buffers.length ≤ 1) ∧
    ∃ lending, Reaches ⟨ofCapacity 1, []⟩ [.checkout, .enter, .release 0, .leave 1] lending ∧
      lending.pool.buffers.length = 0 + 1 + [1].length := by
  constructor
  · have hrun : Reaches ⟨ofCapacity 1, []⟩
        [.enter, .leave 0, .checkout, .use 0 (.write [7]), .release 0, .enter]
        ⟨⟨1, [.empty], [], [0]⟩, [0]⟩ :=
      .cons trivial rfl (.cons (by decide) rfl (.cons trivial rfl (.cons (by decide) rfl
        (.cons (by decide) rfl (.cons trivial rfl .refl)))))
    exact ⟨_, hrun, ((reuse_of_reaches hrun).bounded 1 (Nat.le_refl 1) (by decide)).1⟩
  · have hrun : Reaches ⟨ofCapacity 1, []⟩ [.checkout, .enter, .release 0, .leave 1]
        ⟨⟨1, [.empty, .empty], [0], []⟩, []⟩ :=
      .cons trivial rfl (.cons trivial rfl (.cons (by decide) rfl (.cons (by decide) rfl .refl)))
    exact ⟨_, hrun, (reuse_of_reaches hrun).counted⟩

end PlatformClient.Pool
