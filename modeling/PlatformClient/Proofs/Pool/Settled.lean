import PlatformClient.Proofs.Operation.Requests

/-!
# Settled pools

Between the operations of a client its pool is settled: no buffer is lent out, and the idle ones are
empty. One operation borrows at most one buffer at a time, so a single idle buffer is all there ever
is. While it is lent out the borrower may do with its content as it likes; the return empties it,
whatever has become of the work.

## Main definitions

* `Pool.Settled`: nothing is lent out, and at most one empty buffer is idle
* `Pool.LentOut`: one buffer is lent out, and none is idle
* `Client.Settled`: the pool of a client is settled, once there is one

## Main results

* `Pool.Settled.checkout`: a settled pool lends out an empty buffer
* `Pool.LentOut.release`: its return settles the pool
* `Operation.exists_borrowing_apply`: work with a borrowed buffer begins with an empty one and ends
  with a settled pool
-/

namespace PlatformClient

variable {τ α : Type}

namespace Pool

/-- Nothing is lent out, and no more than one buffer is idle, which is empty; none is if the size of
the pool is zero. -/
structure Settled (size : Nat) (pool : Pool) : Prop where
  capacity : pool.capacity = size
  lent : pool.lent = []
  known : ∀ number ∈ pool.idle, number < pool.buffers.length
  empty : ∀ number ∈ pool.idle, pool.buffer number = .empty
  idle : pool.idle.length ≤ min 1 size

/-- One buffer is lent out, and none is idle. -/
structure LentOut (size number : Nat) (pool : Pool) : Prop where
  capacity : pool.capacity = size
  lent : pool.lent = [number]
  known : number < pool.buffers.length
  idle : pool.idle = []

theorem settled_ofCapacity (size : Nat) : (ofCapacity size).Settled size where
  capacity := rfl
  lent := rfl
  known := nofun
  empty := nofun
  idle := Nat.zero_le _

theorem buffer_set {pool : Pool} {number : Nat} (h : number < pool.buffers.length)
    (content : Buffer) : (pool.set number content).buffer number = content := by
  simp [set, buffer, h]

theorem set_set (pool : Pool) (number : Nat) (first second : Buffer) :
    (pool.set number first).set number second = pool.set number second := by
  simp [set]

theorem set_buffer {pool : Pool} {number : Nat} (h : number < pool.buffers.length) :
    pool.set number (pool.buffer number) = pool := by
  simp [set, buffer, h]

variable {size number : Nat} {pool : Pool}

theorem LentOut.set (h : LentOut size number pool) (content : Buffer) :
    LentOut size number (pool.set number content) where
  capacity := h.capacity
  lent := h.lent
  known := by
    rw [Pool.set, List.length_set]
    exact h.known
  idle := h.idle

/-- A settled pool lends out an empty buffer. -/
theorem Settled.checkout (h : pool.Settled size) :
    LentOut size pool.checkout.1 pool.checkout.2 ∧
      pool.checkout.2.buffer pool.checkout.1 = .empty := by
  have hidle := h.idle
  unfold Pool.checkout
  cases hlist : pool.idle with
  | nil =>
    refine ⟨⟨h.capacity, ?_, ?_, hlist⟩, ?_⟩
    · simp [lend, add, h.lent]
    · simp [lend, add]
    · simp [lend, add, buffer]
  | cons number rest =>
    rw [hlist, List.length_cons] at hidle
    obtain rfl : rest = [] := List.length_eq_zero_iff.mp (by omega)
    have hmem : number ∈ pool.idle := by
      rw [hlist]
      exact List.mem_cons_self
    refine ⟨⟨h.capacity, ?_, h.known number hmem, rfl⟩, h.empty number hmem⟩
    simp [lend, h.lent]

/-- The return of the buffer that is lent out settles the pool. -/
theorem LentOut.release (h : LentOut size number pool)
    (hopen : (pool.buffer number).closed = false) :
    ∃ returned, pool.release number = .ok returned ∧ returned.Settled size := by
  refine ⟨_, release_of_open hopen, ?_⟩
  have hset := h.set .empty
  have hlent : (takeBack number (pool.set number .empty)).lent = [] := by
    simp [takeBack, hset.lent]
  have hidle : (takeBack number (pool.set number .empty)).idle = [] := hset.idle
  unfold keep
  split
  · -- there is room: the emptied buffer is the idle one
    rename_i hroom
    have hsize : 0 < size := by
      rw [← hset.capacity]
      exact Nat.lt_of_le_of_lt (Nat.zero_le _) hroom
    rw [hidle]
    refine ⟨hset.capacity, hlent, fun other hother => ?_, fun other hother => ?_, ?_⟩
    · obtain rfl := List.mem_singleton.mp hother
      exact hset.known
    · obtain rfl := List.mem_singleton.mp hother
      exact buffer_set h.known .empty
    · rw [List.length_singleton]
      omega
  · -- there is no room, so the size is zero: none is idle
    refine ⟨hset.capacity, hlent, fun other hother => ?_, fun other hother => ?_, ?_⟩
    · rw [hidle] at hother
      cases hother
    · rw [hidle] at hother
      cases hother
    · rw [hidle]
      exact Nat.zero_le _

end Pool

/-- The pool of a client is settled, once there is one. -/
def Client.Settled (size : Nat) (client : Client τ) : Prop :=
  ∀ pool, client.pool? = some pool → pool.Settled size

namespace Operation

variable {size : Nat}

theorem withPool_of_some {world : World τ} {current : Pool}
    (h : world.client.pool? = some current) : withPool world current = world := by
  obtain ⟨⟨cache, pool?⟩, _⟩ := world
  cases h
  rfl

theorem pool_apply_of_some {surroundings : Surroundings τ} {world : World τ} {current : Pool}
    (h : world.client.pool? = some current) :
    pool surroundings world = (.ok current, world) := by
  unfold pool
  rw [h]

/-- A settled pool is found, or created if the configured size is not negative. -/
theorem exists_pool_apply {surroundings : Surroundings τ} {world : World τ}
    (hsize : world.client.pool? = none → surroundings.settings.poolSize = size)
    (h : world.client.Settled size) :
    ∃ idle, idle.Settled size ∧
      pool surroundings world = (.ok idle, withPool world idle) := by
  cases hpool : world.client.pool? with
  | some idle =>
    refine ⟨idle, h idle hpool, ?_⟩
    rw [pool_apply_of_some hpool, withPool_of_some hpool]
  | none =>
    refine ⟨.ofCapacity size, Pool.settled_ofCapacity size, ?_⟩
    have hcreate : Pool.create? surroundings.settings.poolSize = some (.ofCapacity size) := by
      unfold Pool.create?
      rw [hsize hpool, if_neg (by omega), Int.toNat_natCast]
    unfold pool
    rw [hpool, hcreate]
    rfl

theorem useBuffer_apply {surroundings : Surroundings τ} {world : World τ} {current : Pool}
    (h : world.client.pool? = some current) {number : Nat}
    {use : Buffer → Except BufferFault Buffer} {content : Buffer}
    (huse : use (current.buffer number) = .ok content) :
    useBuffer number use surroundings world =
      (.ok (), withPool world (current.set number content)) := by
  unfold useBuffer
  rw [bind_apply_of_ok (pool_apply_of_some h)]
  unfold Pool.update
  rw [huse]
  rfl

theorem bufferRest_apply {surroundings : Surroundings τ} {world : World τ} {current : Pool}
    (h : world.client.pool? = some current) {number : Nat} {octets : Octets}
    (hrest : (current.buffer number).rest = .ok octets) :
    bufferRest number surroundings world = (.ok octets, world) := by
  unfold bufferRest
  rw [bind_apply_of_ok (pool_apply_of_some h), hrest]
  rfl

/-- Work with a borrowed buffer begins with an empty one. If it leaves an open one behind, the pool
is settled afterwards, whatever has become of the work. -/
theorem exists_borrowing_apply {surroundings : Surroundings τ} {world : World τ}
    (hsize : world.client.pool? = none → surroundings.settings.poolSize = size)
    (h : world.client.Settled size) (work : Nat → Operation τ α) :
    ∃ number lent, Pool.LentOut size number lent ∧ lent.buffer number = .empty ∧
      ∀ content, (work number surroundings (withPool world lent)).2.client.pool? =
          some (lent.set number content) → content.closed = false →
        ∃ returned, returned.Settled size ∧
          borrowing work surroundings world =
            ((work number surroundings (withPool world lent)).1,
              withPool (work number surroundings (withPool world lent)).2 returned) := by
  obtain ⟨idle, hidle, hpool⟩ := exists_pool_apply hsize h
  obtain ⟨hlent, hempty⟩ := hidle.checkout
  refine ⟨idle.checkout.1, idle.checkout.2, hlent, hempty, ?_⟩
  intro content hafter hopen
  have hclosed : ((idle.checkout.2.set idle.checkout.1 content).buffer idle.checkout.1).closed =
      false := by
    rw [Pool.buffer_set hlent.known]
    exact hopen
  obtain ⟨returned, hrelease, hreturned⟩ := (hlent.set content).release hclosed
  refine ⟨returned, hreturned, (bind_apply_of_ok hpool).trans ?_⟩
  have hwithPool : withPool (withPool world idle) idle.checkout.2 =
      withPool world idle.checkout.2 := rfl
  simp only [Pool.borrow, hwithPool, hafter, Option.getD_some, hrelease]

end Operation

end PlatformClient
