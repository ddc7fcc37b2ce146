/-
Workers that wait for the keys of a queue, under a clock that stands still
until nobody has anything to do.

A key that begins to wait wakes the worker that has waited longest; if no
worker waits, one wake-up is kept for the next one.  A woken worker looks
again, and waits anew if there is nothing for it.

* `Worker`: a numbered task, or the caller of a step;
* `Dispatch`: the clock, the queue, its workers, and the keys to be added
  later;
* `Dispatch.look`, `Dispatch.settle`, `Dispatch.advance`: a worker looks for a
  key; everything runs that can run now; the clock moves;
* `Dispatch.Step`, `Dispatch.Reply`, `Dispatch.step`: what may be asked of a
  dispatch, and the answers.
-/
import SidecarPolicy.KeyMap
import SidecarPolicy.Queue.Basic
import SidecarPolicy.Queue.Timers

namespace SidecarPolicy

/-- Natural numbers are ordered by size. -/
instance : KeyOrder Nat where
  irrefl := Nat.lt_irrefl
  trans := Nat.lt_trans
  connected h h' := Nat.le_antisymm (Nat.not_lt.1 h') (Nat.not_lt.1 h)

/-- Who waits for a key. -/
inductive Worker where
  | task (number : Nat)
  | caller
  deriving DecidableEq, Repr

/-- A queue with its workers.  `signal` is a wake-up that is kept for the next
worker; `awake` are woken and have not looked yet; `timers` are the keys to be
added later, the earliest first.  A task that has finished has its key, or
`none` if there will be no more; `served` says the same of the caller. -/
structure Dispatch (κ : Type) where
  now : Nat := 0
  queue : Queue κ := {}
  signal : Bool := false
  waiting : List Worker := []
  awake : List Worker := []
  timers : Timers κ := []
  started : Nat := 0
  finished : KeyMap Nat (Option κ) := .empty
  served : Option (Option κ) := none

namespace Dispatch

variable {κ : Type}

/-! ### Workers -/

/-- A worker finishes with a key, or without one. -/
def finish (d : Dispatch κ) (w : Worker) (k : Option κ) : Dispatch κ :=
  match w with
  | .task n => { d with finished := d.finished.insert n k }
  | .caller => { d with served := some k }

/-- Wakes the worker that has waited longest. -/
def wake (d : Dispatch κ) : Dispatch κ :=
  match d.waiting with
  | [] => { d with signal := true }
  | w :: rest => { d with waiting := rest, awake := d.awake ++ [w] }

/-- Wakes all workers. -/
def wakeAll (d : Dispatch κ) : Dispatch κ :=
  { d with waiting := [], awake := d.awake ++ d.waiting }

/-- Puts a changed queue in place, and wakes a worker if one more key waits. -/
def put (d : Dispatch κ) (q : Queue κ) : Dispatch κ :=
  if d.queue.length < q.length then wake { d with queue := q } else { d with queue := q }

variable [DecidableEq κ]

/-- A worker looks for a key.  It uses up the kept wake-up if it has to wait. -/
def look (d : Dispatch κ) (w : Worker) : Dispatch κ :=
  match d.queue.next? with
  | some (k, q) => { d with queue := q }.finish w (some k)
  | none =>
      if d.queue.closed then d.finish w none
      else { d with signal := false, waiting := d.waiting ++ [w] }

/-! ### Time -/

/-- Everything runs that can run now: the timers that are due add their keys,
then the woken workers look. -/
def settle (d : Dispatch κ) : Dispatch κ :=
  let due := d.timers.takeWhile (·.1 ≤ d.now)
  let later := d.timers.dropWhile (·.1 ≤ d.now)
  let fired := due.foldl (fun d t => d.put (d.queue.offer t.2)) { d with timers := later }
  fired.awake.foldl look { fired with awake := [] }

/-- The clock moves to an instant at which something may happen. -/
def advance (d : Dispatch κ) (instant : Nat) : Dispatch κ :=
  settle { d with now := instant }

/-- The instants at which a timer is due, in order. -/
def instants (d : Dispatch κ) : List Nat := (d.timers.map (·.1)).eraseDups

/-- Time passes up to an instant. -/
def sleepUntil (d : Dispatch κ) (instant : Nat) : Dispatch κ :=
  ((d.instants.filter (· ≤ instant)).foldl advance d).advance instant

/-- The caller waits for a key up to a deadline, before which the clock stops
as soon as there is an answer. -/
def awaitCaller (d : Dispatch κ) (deadline : Nat) : Dispatch κ :=
  let d := (d.instants.filter (· < deadline)).foldl
    (fun d t => if d.served.isSome then d else d.advance t) d
  if d.served.isSome then d
  else settle { d with
    now := deadline
    waiting := d.waiting.filter (· ≠ .caller) }

/-! ### Steps -/

/-- What may be asked of a dispatch. -/
inductive Step (κ : Type) where
  | add (k : κ)
  | addRateLimited (k : κ)
  | requeues (k : κ)
  | forget (k : κ)
  | done (k : κ)
  | shutdown
  | next (within : Nat)
  | wait
  | sleep (ms : Nat)
  deriving Repr

/-- The answers: of a request for a key, the key, or that there will be no more,
or that there was none in time. -/
inductive Reply (κ : Type) where
  | nothing
  | added (refusal : Option AddError)
  | count (n : Nat)
  | key (k : κ)
  | closed
  | timeout
  deriving Repr

/-- What a step does at once, and its answer. -/
def perform (d : Dispatch κ) : Step κ → Reply κ × Dispatch κ
  | .add k =>
      match d.queue.add k with
      | .ok q => (.added none, d.put q)
      | .error e => (.added (some e), d)
  | .addRateLimited k =>
      let (delay, q) := d.queue.addRateLimited k
      (.nothing, { d with queue := q, timers := Timers.insert (d.now + delay, k) d.timers })
  | .requeues k => (.count (d.queue.requeues k), d)
  | .forget k => (.nothing, { d with queue := d.queue.forget k })
  | .done k => (.nothing, d.put (d.queue.done k))
  | .shutdown => (.nothing, { d with queue := d.queue.shutdown }.wakeAll)
  | .next within =>
      let d := ({ d with served := none }.look .caller).awaitCaller (d.now + within)
      (match d.served with
        | none => .timeout
        | some none => .closed
        | some (some k) => .key k, d)
  | .wait => (.nothing, { d with started := d.started + 1 }.look (.task d.started))
  | .sleep ms => (.nothing, d.sleepUntil (d.now + ms))

/-- A step, after which everything runs that can run without the clock's
moving.  Only the tasks that finish during the step are kept as finished. -/
def step (d : Dispatch κ) (s : Step κ) : Reply κ × Dispatch κ :=
  let (reply, d) := perform { d with finished := .empty } s
  (reply, d.settle)

end Dispatch

end SidecarPolicy
