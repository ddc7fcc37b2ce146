/-
The work queue: keys that wait to be processed.

A key waits at most once.  A key that is added while it is being processed
waits again as soon as that is over, so that no key is processed twice at a
time.

* `Queue`: the keys that wait, are due, are handed out, and were requeued;
* `Queue.add`, `Queue.next?`, `Queue.done`: a key on its way;
* `Queue.addRateLimited`, `Queue.requeues`, `Queue.forget`: failed keys;
* `Queue.shutdown`: no further keys are taken.
-/
import SidecarPolicy.Queue.Backoff

namespace SidecarPolicy

/-- Why a key is refused. -/
inductive AddError where
  | full
  | shutDown
  deriving DecidableEq, Repr

def AddError.message : AddError → String
  | .full => "work queue is full"
  | .shutDown => "work queue is shut down"

/-- A queue of keys: `pending` in the order in which they are handed out;
`dirty` are those that must be processed, because they wait or were added again
while being processed; `processing` are handed out; `requeued` names a key once
for each time that it was requeued. -/
structure Queue (κ : Type) where
  capacity : Nat := 16
  backoff : Backoff := {}
  pending : List κ := []
  dirty : List κ := []
  processing : List κ := []
  requeued : List κ := []
  closed : Bool := false
  deriving DecidableEq, Inhabited, Repr

namespace Queue

variable {κ : Type}

/-- The number of keys that wait. -/
def length (q : Queue κ) : Nat := q.pending.length

variable [DecidableEq κ]

/-- Adds a key unless it is due already.  The number of keys that are due is
bounded by the capacity. -/
def add (q : Queue κ) (k : κ) : Except AddError (Queue κ) :=
  if q.closed then .error .shutDown
  else if k ∈ q.dirty then .ok q
  else if q.capacity ≤ q.dirty.length then .error .full
  else if k ∈ q.processing then .ok { q with dirty := k :: q.dirty }
  else .ok { q with dirty := k :: q.dirty, pending := q.pending ++ [k] }

/-- Adds a key if it is not refused. -/
def offer (q : Queue κ) (k : κ) : Queue κ :=
  match q.add k with
  | .ok q' => q'
  | .error _ => q

/-- Hands out the key that has waited longest. -/
def next? (q : Queue κ) : Option (κ × Queue κ) :=
  match q.pending with
  | [] => none
  | k :: rest =>
      some (k, { q with
        pending := rest
        dirty := q.dirty.erase k
        processing := q.processing.insert k })

/-- Marks a key as processed; it waits again if it is due again. -/
def done (q : Queue κ) (k : κ) : Queue κ :=
  let q := { q with processing := q.processing.erase k }
  if k ∈ q.dirty then { q with pending := q.pending ++ [k] } else q

/-- How often a key was requeued since it was last forgotten. -/
def requeues (q : Queue κ) (k : κ) : Nat := q.requeued.count k

/-- Counts a requeue of a key, and tells after which delay it is to be added. -/
def addRateLimited (q : Queue κ) (k : κ) : Nat × Queue κ :=
  (q.backoff.delay (q.requeues k), { q with requeued := k :: q.requeued })

/-- Forgets how often a key was requeued. -/
def forget (q : Queue κ) (k : κ) : Queue κ :=
  { q with requeued := q.requeued.filter (· ≠ k) }

/-- No further keys are taken; those that wait are still handed out. -/
def shutdown (q : Queue κ) : Queue κ := { q with closed := true }

@[simp] theorem requeues_forget_self (q : Queue κ) (k : κ) :
    (q.forget k).requeues k = 0 := by
  simp [requeues, forget, List.count_eq_zero]

theorem requeues_addRateLimited (q : Queue κ) (k : κ) :
    (q.addRateLimited k).2.requeues k = q.requeues k + 1 := by
  simp [requeues, addRateLimited]

end Queue

end SidecarPolicy
