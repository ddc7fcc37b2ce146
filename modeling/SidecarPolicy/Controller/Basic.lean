/-
A controller at work on a cluster in memory, under a clock that stands still
until nothing can happen.

Calls to the cluster may take time and may fail on demand.  Keys are processed
in the background while other work is done.

* `Faults`: which calls are to fail;
* `Job`, `Event`: work that waits for an answer, and what happens later;
* `Controller`: everything that a later answer can show;
* `Controller.proceed`, `Controller.fire`: work goes on, an event happens;
* `Controller.pass`: time passes, and events happen, until the controller stops
  or a limit is reached.
-/
import SidecarPolicy.Admission.Reader
import SidecarPolicy.Cluster.State
import SidecarPolicy.Queue.Timers
import SidecarPolicy.Reconcile
import SidecarPolicy.Sidecar.Config

namespace SidecarPolicy

/-- Which calls are to fail: so many, after so many that succeed. -/
structure Faults where
  skips : Nat := 0
  count : Nat := 0
  deriving DecidableEq, Inhabited, Repr

/-- Whether the next call fails, and the faults that are left. -/
def Faults.next (f : Faults) : Bool × Faults :=
  if f.count = 0 then (false, f)
  else if f.skips = 0 then (true, { f with count := f.count - 1 })
  else (false, { f with skips := f.skips - 1 })

/-- A key that is processed in the background: the state that was read for it,
the call that is waited for, and how its answer is used. -/
structure Job where
  key : ObjectKey
  state : Option PolicyState
  call : Call
  next : Except ClusterError call.Answer → Program ClusterError Unit

/-- What happens later: a failed key begins to wait for so long, it is added again,
or a job has its answer. -/
inductive Event where
  | retry (k : ObjectKey) (delay : Nat)
  | requeue (k : ObjectKey)
  | resume (job : Job)

/-- A controller with its cluster.  `ghosts` are deployments that are listed but
not found; `reader` reads what is to be reviewed; `timeout` limits look-ups and `delay`
is the time that a call takes; `calls` are the calls so far, in order. -/
structure Controller where
  now : Nat := 0
  registry : Registry := {}
  cluster : Cluster := {}
  ghosts : List ObjectKey := []
  sidecar : SidecarConfig := {}
  reader : Admission.Reader := .worded (fun _ => "") fun _ => ""
  timeout : Nat := 1000
  delay : Nat := 0
  faults : Faults := {}
  calls : List Call := []
  timers : Timers Event := []

/-- The deployment that a call wants, if it wants a single one. -/
def Call.wanted? : Call → Option ObjectKey
  | .getDeployment ns name => some ⟨ns, name⟩
  | .patchDeployment ns name _ => some ⟨ns, name⟩
  | .updateDeployment d => some d.metadata.key
  | _ => none

namespace Controller

/-! ### Calls -/

def record (c : Controller) (call : Call) : Controller :=
  { c with calls := c.calls ++ [call] }

/-- What a call meets that does not fail by itself. -/
def reach (c : Controller) (call : Call) : Except ClusterError call.Answer × Cluster :=
  match call.wanted? with
  | none => Cluster.answer call c.cluster
  | some k =>
      if c.ghosts.contains k then (.error (.notFound k), c.cluster)
      else Cluster.answer call c.cluster

/-- The answer to a call, and the controller afterwards. -/
def answer (c : Controller) (call : Call) : Except ClusterError call.Answer × Controller :=
  match c.faults.next with
  | (true, faults) => (.error .injected, { c with faults })
  | (false, faults) => ((c.reach call).1, { c with faults, cluster := (c.reach call).2 })

/-! ### Processing a key -/

/-- The controller after the program of a key has ended.  A failed key begins to wait
when everything else has happened that is due. -/
def conclude (c : Controller) (k : ObjectKey) (state : Option PolicyState)
    (result : Except ClusterError Unit) : Controller :=
  match Reconcile.conclude c.registry k state result with
  | (none, registry) => { c with registry }
  | (some delay, registry) =>
      { c with registry, timers := Timers.insert (c.now, .retry k delay) c.timers }

/-- A program goes on in the background until it waits for an answer. -/
def proceed (k : ObjectKey) (state : Option PolicyState) :
    Program ClusterError Unit → Controller → Controller
  | .done r, c => c.conclude k state r
  | .call call next, c =>
      let c := c.record call
      if c.delay = 0 then proceed k state (next (c.answer call).1) (c.answer call).2
      else { c with
        timers := Timers.insert (c.now + c.delay, .resume ⟨k, state, call, next⟩) c.timers }

/-- A failed key is added again. -/
def requeue (c : Controller) (k : ObjectKey) : Controller :=
  { c with registry := { c.registry with queue := c.registry.queue.offer k } }

/-- A failed key is added again after some time, at once if that is none. -/
def retry (c : Controller) (k : ObjectKey) (delay : Nat) : Controller :=
  if delay = 0 then c.requeue k
  else { c with timers := Timers.insert (c.now + delay, .requeue k) c.timers }

/-- What an event does. -/
def fire (c : Controller) : Event → Controller
  | .retry k delay => c.retry k delay
  | .requeue k => c.requeue k
  | .resume job =>
      proceed job.key job.state (job.next (c.answer job.call).1) (c.answer job.call).2

/-! ### Time

An event that happens before a limit may set another one, but a job is resumed
no earlier than one unit of time later, and so is a failed key added again that has
to wait; and no key that waits resumes anything.  So the work before a limit gets
less with every event.
-/

/-- How much an event that is due at an instant may bring about up to a limit. -/
def weight (limit : Nat) : Nat × Event → Nat
  | (due, .retry ..) | (due, .requeue _) => 2 * (limit + 1 - due) - 1
  | (due, .resume _) => 2 * (limit + 1 - due)

/-- How much may happen up to a limit. -/
def work (limit : Nat) (timers : Timers Event) : Nat :=
  timers.total (weight limit)

theorem answer_timers (c : Controller) (call : Call) :
    (c.answer call).2.timers = c.timers := by
  unfold answer; split <;> rfl

theorem answer_now (c : Controller) (call : Call) : (c.answer call).2.now = c.now := by
  unfold answer; split <;> rfl

theorem conclude_now (c : Controller) (k : ObjectKey) (state : Option PolicyState)
    (result : Except ClusterError Unit) : (c.conclude k state result).now = c.now := by
  unfold conclude; split <;> rfl

theorem proceed_now (k : ObjectKey) (state : Option PolicyState)
    (p : Program ClusterError Unit) (c : Controller) : (proceed k state p c).now = c.now := by
  induction p generalizing c with
  | done r => exact conclude_now c k state r
  | call call next ih =>
    unfold proceed
    dsimp only
    split
    · rw [ih, answer_now]; rfl
    · rfl

theorem fire_now (c : Controller) (e : Event) : (c.fire e).now = c.now := by
  cases e with
  | retry k delay => show (c.retry k delay).now = _; unfold retry; split <;> rfl
  | requeue k => rfl
  | resume job => rw [fire, proceed_now, answer_now]

theorem work_insert (limit : Nat) (t : Nat × Event) (timers : Timers Event) :
    work limit (Timers.insert t timers) = weight limit t + work limit timers :=
  Timers.total_insert (weight limit) t timers

theorem work_conclude_lt {limit : Nat} {c : Controller} (h : c.now ≤ limit) (k : ObjectKey)
    (state : Option PolicyState) (result : Except ClusterError Unit) :
    work limit (c.conclude k state result).timers
      < 2 * (limit + 1 - c.now) + work limit c.timers := by
  unfold conclude
  split
  · show work limit c.timers < _
    omega
  · rename_i delay _ _
    show work limit (Timers.insert (c.now, .retry k delay) c.timers) < _
    rw [work_insert]
    simp only [weight]
    omega

theorem work_proceed_lt {limit : Nat} (k : ObjectKey) (state : Option PolicyState)
    (p : Program ClusterError Unit) {c : Controller} (h : c.now ≤ limit) :
    work limit (proceed k state p c).timers
      < 2 * (limit + 1 - c.now) + work limit c.timers := by
  -- a call that takes no time is gone on with; for one that takes time a timer is set
  induction p generalizing c with
  | done r => exact work_conclude_lt h k state r
  | call call next ih =>
    unfold proceed
    dsimp only
    split
    · have := ih ((c.record call).answer call).1 (c := ((c.record call).answer call).2)
        (by rw [answer_now]; exact h)
      rw [answer_now, answer_timers] at this
      exact this
    · rename_i hdelay
      show work limit (Timers.insert (c.now + c.delay, .resume ⟨k, state, call, next⟩)
        c.timers) < _
      have : c.delay ≠ 0 := hdelay
      rw [work_insert]
      simp only [weight]
      omega

theorem work_fire_lt {limit due : Nat} (c : Controller) (e : Event) (h : c.now ≤ limit)
    (hdue : due ≤ c.now) :
    work limit (c.fire e).timers < weight limit (due, e) + work limit c.timers := by
  cases e with
  | retry k delay =>
    show work limit (c.retry k delay).timers < _
    unfold retry
    split
    · show work limit c.timers < _
      simp only [weight]
      omega
    · show work limit (Timers.insert (c.now + delay, .requeue k) c.timers) < _
      rw [work_insert]
      simp only [weight]
      omega
  | requeue k =>
    show work limit c.timers < _
    simp only [weight]
    omega
  | resume job =>
    have := work_proceed_lt job.key job.state (job.next (c.answer job.call).1)
      (show (c.answer job.call).2.now ≤ limit by rw [answer_now]; exact h)
    rw [answer_now, answer_timers] at this
    simp only [fire, weight]
    omega

/-- Time passes up to a limit: the events that are due happen in turn, and the
clock moves to each of them that is due before the limit, until the controller
is to stop, and at last to the limit. -/
def pass (limit : Nat) (stop : Controller → Bool) (c : Controller) : Controller :=
  match _h : c.timers with
  | [] => if stop c then c else { c with now := max c.now limit }
  | (due, e) :: rest =>
      if due ≤ c.now ∨ (due < limit ∧ stop c = false) then
        pass limit stop (fire { c with now := max c.now due, timers := rest } e)
      else if stop c then c
      else { c with now := max c.now limit }
termination_by work (max c.now limit) c.timers
decreasing_by
  rename_i hdue
  have hlimit : max (max c.now due) limit = max c.now limit := by omega
  rw [fire_now, _h]
  show work (max (max c.now due) limit) _ < work _ ((due, e) :: rest)
  rw [hlimit]
  exact work_fire_lt { c with now := max c.now due, timers := rest } e
    (by show max c.now due ≤ _; omega) (by show due ≤ max c.now due; omega)

/-- Everything happens that is due now. -/
def settle (c : Controller) : Controller := c.pass c.now fun _ => true

/-- Time passes up to an instant; what is due then has not happened yet. -/
def sleepUntil (c : Controller) (instant : Nat) : Controller := c.pass instant fun _ => false

end Controller

end SidecarPolicy
