import PlatformClient.Pool.Borrowing
import PlatformClient.Proofs.Pool.Settled

/-!
# Who holds a buffer

A buffer of a pool is idle, or it is lent out and then has one holder. Holders check out buffers and
release them, enter and leave borrow blocks, and write to what they hold, seek and read in it, in
any order. A block returns its buffer when it is left, whatever has become of the buffer until then;
so the buffer of a block is not released by hand, or it would be idle twice.

An event of this kind may happen whenever it is allowed, and is then never refused. Whatever has
happened before, the idle buffers are empty, there are no more of them than the pool has room for,
and none of them is held or idle twice. So the next borrower gets an empty buffer of its own.

## Main definitions

* `Pool.Lending`: a pool with the buffers that its open borrow blocks hold
* `Pool.Event`: what holders do, with `Pool.Event.Allowed` and `Pool.Event.result`
* `Pool.Reaches`: runs of allowed events
* `Pool.Owned`: each buffer is idle and empty, or it has one holder

## Main results

* `Pool.Owned.result`: an allowed event is not refused, and what it leaves is owned
* `Pool.Owned.of_reaches`: so is what a run leaves
* `Pool.Owned.borrow`: a borrowing is a run of events, whatever the outcome of its work
* `Pool.ownership_of_reaches`: what holds at every point of a run
* `Pool.shared_of_released_block`: what becomes of a buffer that is released by hand in its block
-/

namespace PlatformClient.Pool

/-! ## Events -/

/-- What the holder of a buffer does with it. -/
inductive Use where
  | write (data : Octets)
  | seek (position : Int)
  | read (size : Int)

/-- The buffer after a use. -/
def Use.apply : Use → Buffer → Except BufferFault Buffer
  | .write data => Buffer.write data
  | .seek position => Buffer.seek position
  | .read size => fun buffer => (buffer.read size).map Prod.snd

/-- A pool, and the buffers that its open borrow blocks hold. The buffers of all holders, blocks or
not, are those that are lent out. -/
structure Lending where
  pool : Pool
  blocks : List Nat

/-- What happens to a pool. A borrow block is entered and left, by whatever path. -/
inductive Event where
  | checkout
  | release (number : Nat)
  | enter
  | leave (number : Nat)
  | use (number : Nat) (use : Use)

/-- Only a buffer that is held is released or used, and none that a block holds is released by hand.
Only a block that has been entered is left. -/
def Event.Allowed (lending : Lending) : Event → Prop
  | .checkout => True
  | .release number => number ∈ lending.pool.lent ∧ number ∉ lending.blocks
  | .enter => True
  | .leave number => number ∈ lending.blocks
  | .use number _ => number ∈ lending.pool.lent

instance : ∀ (lending : Lending) (event : Event), Decidable (event.Allowed lending)
  | _, .checkout => inferInstanceAs (Decidable True)
  | lending, .release number =>
    inferInstanceAs (Decidable (number ∈ lending.pool.lent ∧ number ∉ lending.blocks))
  | _, .enter => inferInstanceAs (Decidable True)
  | lending, .leave number => inferInstanceAs (Decidable (number ∈ lending.blocks))
  | lending, .use number _ => inferInstanceAs (Decidable (number ∈ lending.pool.lent))

/-- What has become of the pool and its blocks. A block that is left releases its buffer, held or
not. A use that is refused changes nothing. -/
def Event.result (lending : Lending) : Event → Except BufferFault Lending
  | .checkout => .ok { lending with pool := lending.pool.checkout.2 }
  | .release number => (lending.pool.release number).map fun pool => { lending with pool := pool }
  | .enter => .ok ⟨lending.pool.checkout.2, lending.pool.checkout.1 :: lending.blocks⟩
  | .leave number =>
    (lending.pool.release number).map fun pool => ⟨pool, lending.blocks.erase number⟩
  | .use number act => .ok { lending with pool := (used number act.apply lending.pool).2 }

/-- A run of allowed events. -/
inductive Reaches (start : Lending) : List Event → Lending → Prop
  | refl : Reaches start [] start
  | step {events : List Event} {event : Event} {lending after : Lending} :
      Reaches start events lending → event.Allowed lending → event.result lending = .ok after →
        Reaches start (events ++ [event]) after

theorem Reaches.trans {first middle last : Lending} {events more : List Event}
    (h : Reaches first events middle) (hmore : Reaches middle more last) :
    Reaches first (events ++ more) last := by
  induction hmore with
  | refl => rwa [List.append_nil]
  | step _ hallowed hresult ih =>
    rw [← List.append_assoc]
    exact .step ih hallowed hresult

theorem Reaches.cons {first middle last : Lending} {event : Event} {events : List Event}
    (hallowed : event.Allowed first) (hresult : event.result first = .ok middle)
    (h : Reaches middle events last) : Reaches first (event :: events) last :=
  (Reaches.step .refl hallowed hresult).trans h

/-! ## What every event preserves -/

/-- Each buffer is idle and empty, or it is open and has one holder. No more are idle than the pool
has room for. -/
structure Owned (size : Nat) (lending : Lending) : Prop where
  capacity : lending.pool.capacity = size
  capped : lending.pool.idle.length ≤ size
  distinct : (lending.pool.idle ++ lending.pool.lent).Nodup
  known : ∀ number ∈ lending.pool.idle ++ lending.pool.lent, number < lending.pool.buffers.length
  empty : ∀ number ∈ lending.pool.idle, lending.pool.buffer number = .empty
  isOpen : ∀ number ∈ lending.pool.lent, (lending.pool.buffer number).closed = false
  blocks : lending.blocks.Sublist lending.pool.lent

theorem owned_ofCapacity (size : Nat) : Owned size ⟨ofCapacity size, []⟩ where
  capacity := rfl
  capped := Nat.zero_le _
  distinct := List.nodup_nil
  known := nofun
  empty := nofun
  isOpen := nofun
  blocks := List.nil_sublist _

theorem buffer_set_of_ne {pool : Pool} {number other : Nat} (h : other ≠ number)
    (content : Buffer) : (pool.set number content).buffer other = pool.buffer other := by
  simp [set, buffer, List.getD_eq_getElem?_getD, List.getElem?_set_ne h.symm]

theorem buffer_add_of_lt {pool : Pool} {number : Nat} (h : number < pool.buffers.length)
    (content : Buffer) : (pool.add content).2.buffer number = pool.buffer number := by
  simp [add, buffer, List.getD_eq_getElem?_getD, List.getElem?_append_left h]

theorem buffer_add (pool : Pool) (content : Buffer) :
    (pool.add content).2.buffer (pool.add content).1 = content := by
  simp [add, buffer]

variable {size number : Nat} {lending after : Lending} {pool : Pool} {blocks : List Nat}

/-- A buffer that nobody holds and that is empty is lent out. -/
theorem Owned.lend {rest : List Nat} (h : Owned size ⟨pool, blocks⟩)
    (hidle : pool.idle = number :: rest) :
    number ∉ pool.lent ∧ ∀ more : List Nat, more.Sublist (number :: pool.lent) →
      Owned size ⟨Pool.lend number { pool with idle := rest }, more⟩ := by
  obtain ⟨hcapacity, hcapped, hdistinct, hknown, hempty, hopen, -⟩ := h
  dsimp only at hcapacity hcapped hdistinct hknown hempty hopen
  rw [hidle] at hcapped hdistinct hknown hempty
  have hsame : (rest ++ number :: pool.lent).Perm (number :: rest ++ pool.lent) :=
    List.perm_middle
  refine ⟨fun hmem => ?_, fun more hmore => ⟨hcapacity, ?_, ?_, ?_, ?_, ?_, hmore⟩⟩
  · exact (List.nodup_append.mp hdistinct).2.2 _ List.mem_cons_self _ hmem rfl
  · exact Nat.le_of_succ_le hcapped
  · exact hsame.nodup_iff.mpr hdistinct
  · exact fun other hother => hknown other (hsame.mem_iff.mp hother)
  · exact fun other hother => hempty other (List.mem_cons_of_mem _ hother)
  · intro other hother
    rcases List.mem_cons.mp hother with rfl | hheld
    · exact congrArg Buffer.closed (hempty other List.mem_cons_self)
    · exact hopen other hheld

/-- A new buffer is lent out when none is idle. -/
theorem Owned.lendNew (h : Owned size ⟨pool, blocks⟩) (hidle : pool.idle = []) :
    pool.buffers.length ∉ pool.lent ∧
      ∀ more : List Nat, more.Sublist (pool.buffers.length :: pool.lent) →
        Owned size ⟨Pool.lend pool.buffers.length (pool.add .empty).2, more⟩ := by
  obtain ⟨hcapacity, hcapped, hdistinct, hknown, -, hopen, -⟩ := h
  dsimp only at hcapacity hcapped hdistinct hknown hopen
  rw [hidle, List.nil_append] at hdistinct hknown
  have hnew : pool.buffers.length ∉ pool.lent := fun hmem =>
    absurd (hknown _ hmem) (Nat.lt_irrefl _)
  have hlength : (pool.add .empty).2.buffers.length = pool.buffers.length + 1 :=
    List.length_append
  have hnone : (Pool.lend pool.buffers.length (pool.add .empty).2).idle = [] := hidle
  refine ⟨hnew, fun more hmore => ⟨hcapacity, hcapped, ?_, ?_, ?_, ?_, hmore⟩⟩
  · rw [hnone]
    exact List.nodup_cons.mpr ⟨hnew, hdistinct⟩
  · rw [hnone]
    intro other hother
    rcases List.mem_cons.mp hother with rfl | hheld
    · exact hlength ▸ Nat.lt_succ_self _
    · exact hlength ▸ Nat.lt_succ_of_lt (hknown other hheld)
  · rw [hnone]
    nofun
  · intro other hother
    rcases List.mem_cons.mp hother with rfl | hheld
    · exact congrArg Buffer.closed (buffer_add pool .empty)
    · exact (congrArg Buffer.closed (buffer_add_of_lt (hknown other hheld) _)).trans
        (hopen other hheld)

/-- A checkout lends out an empty buffer that nobody holds. -/
theorem Owned.checkout (h : Owned size ⟨pool, blocks⟩) :
    pool.checkout.2.lent = pool.checkout.1 :: pool.lent ∧ pool.checkout.1 ∉ pool.lent ∧
      pool.checkout.2.buffer pool.checkout.1 = .empty ∧
      ∀ more : List Nat, more.Sublist (pool.checkout.1 :: pool.lent) →
        Owned size ⟨pool.checkout.2, more⟩ := by
  unfold Pool.checkout
  cases hidle : pool.idle with
  | nil =>
    obtain ⟨hnew, howned⟩ := h.lendNew hidle
    exact ⟨rfl, hnew, buffer_add pool .empty, howned⟩
  | cons number rest =>
    obtain ⟨hfree, howned⟩ := h.lend hidle
    exact ⟨rfl, hfree, h.empty number (hidle ▸ List.mem_cons_self), howned⟩

/-- The holder of a buffer may leave anything in it, as long as it stays open. -/
theorem Owned.set (h : Owned size ⟨pool, blocks⟩) (hlent : number ∈ pool.lent) {content : Buffer}
    (hopen : content.closed = false) : Owned size ⟨pool.set number content, blocks⟩ := by
  refine ⟨h.capacity, h.capped, h.distinct, fun other hother => ?_, fun other hother => ?_,
    fun other hother => ?_, h.blocks⟩
  · exact Nat.lt_of_lt_of_eq (h.known other hother) List.length_set.symm
  · have hne : other ≠ number := (List.nodup_append.mp h.distinct).2.2 _ hother _ hlent
    exact (buffer_set_of_ne hne content).trans (h.empty other hother)
  · by_cases heq : other = number
    · rw [heq]
      exact (congrArg Buffer.closed (buffer_set (h.known number
        (List.mem_append_right _ hlent)) content)).trans hopen
    · exact (congrArg Buffer.closed (buffer_set_of_ne heq content)).trans (h.isOpen other hother)

/-- An empty buffer that is no longer held may be idle. -/
theorem Owned.keep_takeBack (h : Owned size ⟨pool, blocks⟩) (hlent : number ∈ pool.lent)
    (hempty : pool.buffer number = .empty) :
    Owned size ⟨keep number (takeBack number pool), blocks.erase number⟩ := by
  have hsame : (pool.idle ++ pool.lent).Perm (number :: (pool.idle ++ pool.lent.erase number)) :=
    ((List.perm_cons_erase hlent).append_left pool.idle).trans List.perm_middle
  have hdistinct := hsame.nodup_iff.mp h.distinct
  have hknown : ∀ other ∈ number :: (pool.idle ++ pool.lent.erase number),
      other < pool.buffers.length := fun other hother => h.known other (hsame.mem_iff.mpr hother)
  have hopen : ∀ other ∈ pool.lent.erase number, (pool.buffer other).closed = false :=
    fun other hother => h.isOpen other (List.mem_of_mem_erase hother)
  have hblocks : (blocks.erase number).Sublist (pool.lent.erase number) := h.blocks.erase number
  unfold Pool.keep
  split
  · rename_i hroom
    refine ⟨h.capacity, h.capacity ▸ hroom, hdistinct, hknown, fun other hother => ?_, hopen,
      hblocks⟩
    rcases List.mem_cons.mp hother with rfl | hidle
    · exact hempty
    · exact h.empty other hidle
  · exact ⟨h.capacity, h.capped, (List.nodup_cons.mp hdistinct).2,
      fun other hother => hknown other (List.mem_cons_of_mem _ hother), h.empty, hopen, hblocks⟩

/-- The return of a buffer that is held is not refused, and nobody holds it afterwards. -/
theorem Owned.release (h : Owned size ⟨pool, blocks⟩) (hlent : number ∈ pool.lent) :
    ∃ returned, pool.release number = .ok returned ∧ returned.lent = pool.lent.erase number ∧
      Owned size ⟨returned, blocks.erase number⟩ := by
  refine ⟨_, release_of_open (h.isOpen number hlent), ?_, ?_⟩
  · unfold Pool.keep
    split <;> rfl
  · have hcleared : Owned size ⟨pool.set number .empty, blocks⟩ := h.set hlent rfl
    exact hcleared.keep_takeBack hlent
      (buffer_set (h.known number (List.mem_append_right _ hlent)) .empty)

/-- No use closes a buffer. -/
theorem Use.closed_apply (act : Use) {buffer after : Buffer} (hopen : buffer.closed = false)
    (h : act.apply buffer = .ok after) : after.closed = false := by
  cases act with
  | write data =>
    simp only [Use.apply, Buffer.write, hopen, Bool.false_eq_true, if_false] at h
    split at h
    · cases h
    · injection h with hafter
      exact hafter ▸ rfl
  | seek position =>
    simp only [Use.apply, Buffer.seek, hopen, Bool.false_eq_true, if_false] at h
    split at h
    · cases h
    · split at h
      · cases h
      · injection h with hafter
        exact hafter ▸ rfl
  | read size =>
    simp only [Use.apply, Buffer.read, Buffer.use, hopen, Bool.false_eq_true, if_false] at h
    split at h
    · cases h
    · injection h with hafter
      exact hafter ▸ rfl

/-- Holders change nothing but the buffers they hold. -/
theorem Owned.used (h : Owned size ⟨pool, blocks⟩) (hlent : number ∈ pool.lent)
    {use : Buffer → Except BufferFault Buffer}
    (huse : ∀ content, use (pool.buffer number) = .ok content → content.closed = false) :
    (Pool.used number use pool).2.lent = pool.lent ∧
      Owned size ⟨(Pool.used number use pool).2, blocks⟩ := by
  unfold Pool.used update
  cases hresult : use (pool.buffer number) with
  | error fault => exact ⟨rfl, h⟩
  | ok content => exact ⟨rfl, h.set hlent (huse content hresult)⟩

/-! ## Events and runs -/

/-- An allowed event is not refused, and what it leaves is owned. -/
theorem Owned.result (h : Owned size lending) {event : Event} (hallowed : event.Allowed lending) :
    ∃ after, event.result lending = .ok after ∧ Owned size after := by
  cases event with
  | checkout =>
    obtain ⟨-, -, -, howned⟩ := h.checkout
    exact ⟨_, rfl, howned _ (h.blocks.cons _)⟩
  | enter =>
    obtain ⟨-, -, -, howned⟩ := h.checkout
    exact ⟨_, rfl, howned _ (h.blocks.cons_cons _)⟩
  | release number =>
    obtain ⟨returned, hrelease, -, howned⟩ := h.release hallowed.1
    rw [List.erase_of_not_mem hallowed.2] at howned
    exact ⟨_, congrArg (Except.map _) hrelease, howned⟩
  | leave number =>
    obtain ⟨returned, hrelease, -, howned⟩ := h.release (h.blocks.subset hallowed)
    exact ⟨_, congrArg (Except.map _) hrelease, howned⟩
  | use number act =>
    exact ⟨_, rfl, (h.used hallowed fun _ =>
      act.closed_apply (h.isOpen number hallowed)).2⟩

/-- What a run leaves is owned. -/
theorem Owned.of_reaches {events : List Event} (h : Owned size lending)
    (hrun : Reaches lending events after) : Owned size after := by
  induction hrun with
  | refl => exact h
  | step _ hallowed hresult ih =>
    obtain ⟨next, hnext, howned⟩ := ih.result hallowed
    cases hresult.symm.trans hnext
    exact howned

/-! ## Borrowings -/

/-- Work with buffers has led from one pool to another, and all holders still hold what they
held. -/
def Worked (blocks : List Nat) (pool after : Pool) : Prop :=
  (∃ events, Reaches ⟨pool, blocks⟩ events ⟨after, blocks⟩) ∧ after.lent = pool.lent

theorem Worked.refl (blocks : List Nat) (pool : Pool) : Worked blocks pool pool :=
  ⟨⟨[], .refl⟩, rfl⟩

theorem Worked.trans {first middle last : Pool} (h : Worked blocks first middle)
    (hmore : Worked blocks middle last) : Worked blocks first last := by
  obtain ⟨⟨events, hrun⟩, hlent⟩ := h
  obtain ⟨⟨more, hruns⟩, hlents⟩ := hmore
  exact ⟨⟨events ++ more, hrun.trans hruns⟩, hlents.trans hlent⟩

theorem Worked.owned {after : Pool} (h : Owned size ⟨pool, blocks⟩)
    (hworked : Worked blocks pool after) : Owned size ⟨after, blocks⟩ := by
  obtain ⟨⟨events, hrun⟩, -⟩ := hworked
  exact h.of_reaches hrun

/-- A borrowing is a block that is entered and left, whatever the outcome of its work, which stays
the outcome. -/
theorem Owned.borrow {β : Type} {refused : BufferFault → β → β} {work : Nat → Pool → β × Pool}
    (h : Owned size ⟨pool, blocks⟩)
    (hwork : ∀ number lent, number ∈ lent.lent → Owned size ⟨lent, number :: blocks⟩ →
      Worked (number :: blocks) lent (work number lent).2) :
    Worked blocks pool (Pool.borrow refused work pool).2 ∧
      (Pool.borrow refused work pool).1 = (work pool.checkout.1 pool.checkout.2).1 := by
  obtain ⟨hlent, -, -, howned⟩ := h.checkout
  have hentered := howned (pool.checkout.1 :: blocks) (h.blocks.cons_cons _)
  have hworked := hwork pool.checkout.1 pool.checkout.2 (hlent ▸ List.mem_cons_self) hentered
  have hheld := hworked.2.trans hlent
  obtain ⟨returned, hrelease, hreturned, -⟩ :=
    (hworked.owned hentered).release (hheld ▸ List.mem_cons_self)
  obtain ⟨⟨events, hrun⟩, -⟩ := hworked
  rw [borrow_eq hrelease]
  refine ⟨⟨⟨.enter :: (events ++ [.leave pool.checkout.1]), ?_⟩, ?_⟩, rfl⟩
  · refine Reaches.cons trivial rfl (.step hrun List.mem_cons_self ?_)
    simp only [Event.result, hrelease, Except.map, List.erase_cons_head]
  · rw [hreturned, hheld, List.erase_cons_head]

theorem Owned.worked_write (h : Owned size ⟨pool, blocks⟩) (hlent : number ∈ pool.lent)
    (data : Octets) : Worked blocks pool (Pool.used number (Buffer.write data) pool).2 := by
  have hused := (h.used hlent fun _ =>
    Use.closed_apply (.write data) (h.isOpen number hlent)).1
  exact ⟨⟨[.use number (.write data)], .cons hlent rfl .refl⟩, hused⟩

/-- To look at a buffer changes nothing. -/
theorem Owned.used_opened (h : Owned size ⟨pool, blocks⟩) (hlent : number ∈ pool.lent) :
    (Pool.used number Buffer.opened pool).2 = pool := by
  have hlooked : pool.update number Buffer.opened = .ok (pool.set number (pool.buffer number)) := by
    unfold update Buffer.opened Buffer.use
    rw [h.isOpen number hlent]
    rfl
  unfold Pool.used
  rw [hlooked]
  exact set_buffer (h.known number (List.mem_append_right _ hlent))

theorem worked_andThen {first : Pool → Except WorkFault Sight × Pool}
    {others : Pool → Except WorkFault (List Sight) × Pool}
    (hfirst : Worked blocks pool (first pool).2)
    (hothers : ∀ middle, Worked blocks pool middle → Worked blocks middle (others middle).2) :
    Worked blocks pool (andThen first others pool).2 := by
  unfold andThen
  rcases hresult : first pool with ⟨fault | sight, middle⟩
  · rwa [hresult] at hfirst
  · rw [hresult] at hfirst
    have hrest := hfirst.trans (hothers middle hfirst)
    dsimp only
    rcases hlater : others middle with ⟨fault | sights, last⟩
    · rwa [hlater] at hrest
    · rwa [hlater] at hrest

mutual

/-- The work of a borrower, with all that it borrows further, is a run after which it holds what it
held. -/
theorem Owned.worked_work {size number : Nat} {pool : Pool} {blocks : List Nat}
    (h : Owned size ⟨pool, blocks⟩) (hlent : number ∈ pool.lent) :
    ∀ task : Task, Worked blocks pool (work number task pool).2
  | .write data => h.worked_write hlent data
  | .giveUp _ => .refl blocks pool
  | .borrow tasks => h.worked_nested tasks

theorem Owned.worked_nested {size number : Nat} {pool : Pool} {blocks : List Nat}
    (h : Owned size ⟨pool, blocks⟩) (tasks : List Task) :
    Worked blocks pool (work number (.borrow tasks) pool).2 := by
  rw [work]
  refine (h.borrow fun inner lent hheld hentered => ?_).1
  refine worked_andThen ?_ fun middle hworked => ?_
  · rw [show (entrySight inner lent).2 = (Pool.used inner Buffer.opened lent).2 from rfl,
      hentered.used_opened hheld]
    exact .refl _ _
  · exact (hworked.owned hentered).worked_workAll (hworked.2 ▸ hheld) tasks

theorem Owned.worked_workAll {size number : Nat} {pool : Pool} {blocks : List Nat}
    (h : Owned size ⟨pool, blocks⟩) (hlent : number ∈ pool.lent) :
    ∀ tasks : List Task, Worked blocks pool (workAll number tasks pool).2
  | [] => .refl blocks pool
  | task :: rest => worked_andThen (h.worked_work hlent task) fun _ hworked =>
      (hworked.owned h).worked_workAll (hworked.2 ▸ hlent) rest

end

/-! ## Every point of a run -/

/-- Who holds which buffer: the idle ones are empty, no more than allowed, and nobody's, so that
another borrower gets an empty buffer of its own. Nothing that is allowed is refused, and a block
that is left holds nothing. -/
structure Ownership (size : Nat) (lending : Lending) : Prop where
  distinct : lending.pool.idle.Nodup
  disjoint : ∀ number ∈ lending.pool.idle, number ∉ lending.pool.lent
  alone : lending.pool.lent.Nodup
  capped : lending.pool.idle.length ≤ size
  empty : ∀ number ∈ lending.pool.idle, lending.pool.buffer number = .empty
  lends : lending.pool.checkout.1 ∉ lending.pool.lent ∧
    lending.pool.checkout.2.buffer lending.pool.checkout.1 = .empty
  accepts : ∀ event : Event, event.Allowed lending → ∃ after, event.result lending = .ok after
  leaves : ∀ number ∈ lending.blocks, ∀ after, (Event.leave number).result lending = .ok after →
    number ∉ after.pool.lent ∧ ∀ other ∈ lending.pool.lent, other ≠ number → other ∈ after.pool.lent
  borrows : ∀ tasks, Worked lending.blocks lending.pool (lending.pool.borrowing tasks).2

theorem Owned.ownership (h : Owned size lending) : Ownership size lending := by
  obtain ⟨hidle, halone, hdisjoint⟩ := List.nodup_append.mp h.distinct
  obtain ⟨-, hfree, hempty, -⟩ := h.checkout
  refine ⟨hidle, fun number hnumber hlent => hdisjoint number hnumber number hlent rfl, halone,
    h.capped, h.empty, ⟨hfree, hempty⟩, fun event hallowed => ?_,
    fun number hblock after hafter => ?_, fun tasks => h.worked_nested tasks⟩
  · obtain ⟨after, hafter, -⟩ := h.result hallowed
    exact ⟨after, hafter⟩
  · obtain ⟨returned, hrelease, hlent, -⟩ := h.release (h.blocks.subset hblock)
    cases hafter.symm.trans (congrArg (Except.map _) hrelease)
    rw [hlent]
    exact ⟨halone.not_mem_erase, fun other hother hne => (List.mem_erase_of_ne hne).mpr hother⟩

/-- **Who holds a buffer.** This holds at every point of a run with a new pool, of any length and in
any order. -/
theorem ownership_of_reaches {events : List Event}
    (h : Reaches ⟨ofCapacity size, []⟩ events lending) : Ownership size lending :=
  ((owned_ofCapacity size).of_reaches h).ownership

/-- Two buffers are returned to a pool that has room for one, the later of them by a block. -/
theorem ownership_of_two_holders :
    Reaches ⟨ofCapacity 1, []⟩
        [.checkout, .enter, .use 0 (.write [7]), .use 1 (.seek 3), .release 0, .leave 1]
        ⟨⟨1, [.empty, .empty], [0], []⟩, []⟩ ∧
      Ownership 1 ⟨⟨1, [.empty, .empty], [0], []⟩, []⟩ := by
  have hlent : Reaches ⟨ofCapacity 1, []⟩ [.checkout, .enter]
      ⟨⟨1, [.empty, .empty], [], [1, 0]⟩, [1]⟩ :=
    .cons trivial rfl (.cons trivial rfl .refl)
  have hused : Reaches ⟨⟨1, [.empty, .empty], [], [1, 0]⟩, [1]⟩
      [.use 0 (.write [7]), .use 1 (.seek 3)]
      ⟨⟨1, [⟨[7], 1, false⟩, ⟨[], 3, false⟩], [], [1, 0]⟩, [1]⟩ :=
    .cons (by decide) rfl (.cons (by decide) rfl .refl)
  have hreturned : Reaches ⟨⟨1, [⟨[7], 1, false⟩, ⟨[], 3, false⟩], [], [1, 0]⟩, [1]⟩
      [.release 0, .leave 1] ⟨⟨1, [.empty, .empty], [0], []⟩, []⟩ :=
    .cons (by decide) rfl (.cons (by decide) rfl .refl)
  have hrun := hlent.trans (hused.trans hreturned)
  exact ⟨hrun, ownership_of_reaches hrun⟩

/-- A buffer that is released by hand in its block is released again when the block is left: it is
idle twice, and the next two borrowers share it. -/
theorem shared_of_released_block :
    let entered : Lending := ⟨⟨2, [.empty], [], [0]⟩, [0]⟩
    let released : Lending := ⟨⟨2, [.empty], [0], []⟩, [0]⟩
    let left : Lending := ⟨⟨2, [.empty], [0, 0], []⟩, []⟩
    (Event.enter.result ⟨ofCapacity 2, []⟩ = .ok entered ∧
      0 ∈ entered.pool.lent ∧ (Event.release 0).result entered = .ok released ∧
      0 ∈ released.blocks ∧ (Event.leave 0).result released = .ok left) ∧
    ¬ left.pool.idle.Nodup ∧
      left.pool.checkout.1 = 0 ∧ 0 ∈ left.pool.checkout.2.lent ∧
      left.pool.checkout.2.checkout.1 = 0 := by
  refine ⟨⟨rfl, ?_, rfl, ?_, rfl⟩, ?_, rfl, ?_, rfl⟩
  all_goals decide

end PlatformClient.Pool
