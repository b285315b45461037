import PlatformClient.Pool.Buffer

/-!
# The pool of buffers

Buffers are lent out, and idle ones are kept for the next borrower, up to the capacity of the pool.
The buffer released last is lent out first. Every buffer has a number, given in the order of
creation.

## Main definitions

* `Pool`: the buffers, and which of them are idle or lent out
* `Pool.create`: a pool of a given capacity
* `Pool.checkout`, `Pool.release`: lending and return
* `Pool.update`: a use of one buffer
-/

namespace PlatformClient

/-- The buffers by number, the numbers of the idle ones, the one released last first, and the
numbers of those that are lent out, the one lent last first. -/
structure Pool where
  capacity : Nat
  buffers : List Buffer
  idle : List Nat
  lent : List Nat
deriving DecidableEq

namespace Pool

/-- A pool without buffers. -/
def ofCapacity (capacity : Nat) : Pool := ⟨capacity, [], [], []⟩

/-- A pool of a given size, unless the size is negative. -/
def create? (size : Int) : Option Pool := if size < 0 then none else some (ofCapacity size.toNat)

/-- The wording of the refusal of a negative size. -/
def sizeRefusal : String := "Pool size must not be negative"

/-- The buffer of a number. -/
def buffer (pool : Pool) (number : Nat) : Buffer := pool.buffers.getD number .empty

/-- The pool with a further buffer, and the number of that buffer. -/
def add (content : Buffer) (pool : Pool) : Nat × Pool :=
  (pool.buffers.length, { pool with buffers := pool.buffers ++ [content] })

/-- The pool with another buffer under a number. -/
def set (number : Nat) (content : Buffer) (pool : Pool) : Pool :=
  { pool with buffers := pool.buffers.set number content }

/-- The pool with a number among those lent out. -/
def lend (number : Nat) (pool : Pool) : Pool := { pool with lent := number :: pool.lent }

/-- The pool with a number no longer among those lent out. -/
def takeBack (number : Nat) (pool : Pool) : Pool := { pool with lent := pool.lent.erase number }

/-- A buffer is lent out: an idle one, or else a new one. -/
def checkout (pool : Pool) : Nat × Pool :=
  match pool.idle with
  | number :: rest => (number, lend number { pool with idle := rest })
  | [] => (pool.buffers.length, lend pool.buffers.length (pool.add .empty).2)

/-- The pool after a buffer has been used. -/
def update (number : Nat) (use : Buffer → Except BufferFault Buffer) (pool : Pool) :
    Except BufferFault Pool :=
  (use (pool.buffer number)).map (pool.set number ·)

/-- A number is kept among the idle ones, unless there are enough. -/
def keep (number : Nat) (pool : Pool) : Pool :=
  if pool.idle.length < pool.capacity then { pool with idle := number :: pool.idle } else pool

/-- A buffer is returned: it is cleared, and idle from now on if there is room for it. -/
def release (number : Nat) (pool : Pool) : Except BufferFault Pool :=
  (pool.update number Buffer.cleared).map fun cleared => keep number (takeBack number cleared)

/-- What a release does to an open buffer. -/
theorem release_of_open {pool : Pool} {number : Nat} (h : (pool.buffer number).closed = false) :
    pool.release number = .ok (keep number (takeBack number (pool.set number .empty))) := by
  simp [release, update, Buffer.cleared, Buffer.use, Except.map, h, Buffer.empty]

end Pool

end PlatformClient
