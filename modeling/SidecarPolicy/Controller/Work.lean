/-
What a controller does in the foreground, while time passes.

* `Controller.perform`, `Controller.performBy`: a program, also under a limit of
  time;
* `Controller.process`, `Controller.awaitKey`: a key, and waiting for one;
* `Controller.run`: keys are processed until it is time to stop.
-/
import SidecarPolicy.Admission.Decision
import SidecarPolicy.Controller.Basic

namespace SidecarPolicy.Controller

variable {α : Type}

/-- The time passes that a call takes. -/
def await (c : Controller) : Controller :=
  if c.delay = 0 then c else c.sleepUntil (c.now + c.delay)

def perform : Program ClusterError α → Controller → Except ClusterError α × Controller
  | .done r, c => (r, c)
  | .call call next, c =>
      let c := (c.record call).await
      perform (next (c.answer call).1) (c.answer call).2

/-- Performs a program unless it would have to wait beyond a deadline; then the
call that is waited for has no effect. -/
def performBy (deadline : Nat) :
    Program ClusterError α → Controller → Except (LookupError ClusterError) α × Controller
  | .done r, c => (r.mapError .cluster, c)
  | .call call next, c =>
      let c := c.record call
      if c.delay ≠ 0 ∧ deadline < c.now + c.delay then
        (.error .timedOut, c.sleepUntil deadline)
      else
        let c := c.await
        performBy deadline (next (c.answer call).1) (c.answer call).2

/-- A deferred answer, the look-up being given up after the controller's
timeout. -/
def resolve (c : Controller) : Deferred ClusterError α → α × Controller
  | .ready a => (a, c)
  | .lookup p answer =>
      let (found, c) := performBy (c.now + c.timeout) p c
      (answer found, c)

/-- Processes a key to the end. -/
def process (c : Controller) (k : ObjectKey) : Controller :=
  let state := c.registry.get? k
  let (result, c) := perform (Reconcile.program state) c
  c.conclude k state result

/-- Begins to process a key in the background. -/
def processInBackground (c : Controller) (k : ObjectKey) : Controller :=
  let state := c.registry.get? k
  proceed k state (Reconcile.program state) c

/-- Brings the cluster in line with a key's state, and does not try again. -/
def reconcile (c : Controller) (k : ObjectKey) : Except ClusterError Unit × Controller :=
  let state := c.registry.get? k
  let (result, c) := perform (Reconcile.program state) c
  (result, { c with registry := Reconcile.settle c.registry k state result })

/-- Whether waiting for a key is over. -/
def hasNews (c : Controller) : Bool :=
  !c.registry.queue.pending.isEmpty || c.registry.queue.closed

/-- What waiting for a key comes to. -/
inductive Handout where
  | key (k : ObjectKey)
  | closed
  | timeout
  deriving Repr

/-- Waits for a key, up to a deadline.  Nothing happens meanwhile if a key is
there; else everything that is due happens before the queue is looked at again. -/
def awaitKey (c : Controller) (deadline : Nat) : Handout × Controller :=
  let c := if c.hasNews then c else c.pass deadline hasNews
  match c.registry.queue.next? with
  | some (k, queue) => (.key k, { c with registry := { c.registry with queue } })
  | none => (if c.registry.queue.closed then .closed else .timeout, c)

/-- A key that waits or is due is processed at most so often before it succeeds
or is dropped; so this bounds how many keys are processed without one being
added. -/
def rounds (c : Controller) : Nat :=
  (Reconcile.maxRequeues + 1)
    * (c.registry.queue.pending.length + c.registry.queue.dirty.length + c.timers.length + 1)

/-- Processes keys, at most so many, until it is time to stop. -/
def runFor (deadline : Nat) : Nat → Controller → Controller
  | 0, c => c
  | n + 1, c =>
      if deadline ≤ c.now then c
      else
        match c.awaitKey deadline with
        | (.key k, c) => runFor deadline n (c.process k)
        | (_, c) => c

/-- Processes keys until it is time to stop, a key at work being finished
first, and shuts the queue down. -/
def run (c : Controller) (time : Nat) : Controller :=
  let c := runFor (c.now + time) c.rounds c
  { c with registry := { c.registry with queue := c.registry.queue.shutdown } }

end SidecarPolicy.Controller
