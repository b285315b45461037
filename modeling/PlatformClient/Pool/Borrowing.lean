import PlatformClient.Pool.Basic

/-!
# Borrowing

A borrower gets a buffer, works with it, and returns it on every way out, also when the work fails.
Borrowings may be nested.

## Main definitions

* `Pool.borrow`: work with a borrowed buffer
* `Pool.Task`: the parts of a borrower's work
* `Pool.Sight`: what a borrower sees
* `Pool.work`: what is seen in the course of the work

## Main results

* `Pool.borrow_eq`: what happens to the pool, whatever the work's outcome
-/

namespace PlatformClient.Pool

/-- Work with a borrowed buffer. The buffer is returned whatever the outcome of the work; if the
return is refused, that becomes the outcome. -/
def borrow {β : Type} (refused : BufferFault → β → β) (work : Nat → Pool → β × Pool) (pool : Pool) :
    β × Pool :=
  let (number, lent) := pool.checkout
  let (outcome, used) := work number lent
  match used.release number with
  | .ok returned => (outcome, returned)
  | .error fault => (refused fault outcome, used)

/-- What happens to the pool, whatever the work's outcome. -/
theorem borrow_eq {β : Type} {refused : BufferFault → β → β} {work : Nat → Pool → β × Pool}
    {pool returned : Pool}
    (h : (work pool.checkout.1 pool.checkout.2).2.release pool.checkout.1 = .ok returned) :
    borrow refused work pool = ((work pool.checkout.1 pool.checkout.2).1, returned) := by
  simp [borrow, h]

/-- A part of a borrower's work: to write, to borrow a further buffer, or to give up. -/
inductive Task where
  | write (data : Octets)
  | borrow (tasks : List Task)
  | giveUp (message : String)

instance : Inhabited Task := ⟨.borrow []⟩

/-- What a borrower sees: its buffer at first, its buffer after a write with the count of idle
buffers, and what is seen in a further borrowing with the count at its end. -/
inductive Sight where
  | entry (number : Nat) (buffer : Buffer)
  | written (number : Nat) (buffer : Buffer) (idle : Nat)
  | nested (sights : List Sight) (idle : Nat)

/-- Why work ends early. -/
inductive WorkFault where
  | buffer (fault : BufferFault)
  | gaveUp (message : String)
deriving DecidableEq

/-- A use of a buffer in the course of work. -/
def used (number : Nat) (use : Buffer → Except BufferFault Buffer) (pool : Pool) :
    Except WorkFault Buffer × Pool :=
  match pool.update number use with
  | .ok after => (.ok (after.buffer number), after)
  | .error fault => (.error (.buffer fault), pool)

/-- One part of the work comes before the others. -/
def andThen (first : Pool → Except WorkFault Sight × Pool)
    (others : Pool → Except WorkFault (List Sight) × Pool) (pool : Pool) :
    Except WorkFault (List Sight) × Pool :=
  match first pool with
  | (.error fault, after) => (.error fault, after)
  | (.ok sight, after) =>
    match others after with
    | (.error fault, last) => (.error fault, last)
    | (.ok sights, last) => (.ok (sight :: sights), last)

/-- What is seen of the buffer at first. -/
def entrySight (number : Nat) (pool : Pool) : Except WorkFault Sight × Pool :=
  let (outcome, after) := used number Buffer.opened pool
  (outcome.map (.entry number), after)

mutual

/-- What one part of the work shows, done with the buffer of the number. -/
def work (number : Nat) : Task → Pool → Except WorkFault Sight × Pool
  | .write data, pool =>
    let (outcome, after) := used number (Buffer.write data) pool
    (outcome.map fun buffer => .written number buffer after.idle.length, after)
  | .borrow tasks, pool =>
    borrow (fun fault _ => .error (.buffer fault))
      (fun number pool =>
        let (outcome, after) := andThen (entrySight number) (workAll number tasks) pool
        (outcome.map fun sights => .nested sights after.idle.length, after))
      pool
  | .giveUp message, pool => (.error (.gaveUp message), pool)

/-- What all parts of the work show in turn. -/
def workAll (number : Nat) : List Task → Pool → Except WorkFault (List Sight) × Pool
  | [], pool => (.ok [], pool)
  | task :: rest, pool => andThen (work number task) (workAll number rest) pool

end

/-- What is seen in a borrowing. -/
def borrowing (tasks : List Task) : Pool → Except WorkFault Sight × Pool := work 0 (.borrow tasks)

end PlatformClient.Pool
