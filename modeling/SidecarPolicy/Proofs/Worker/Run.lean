/-
One worker and one watch on a registry, lock by lock.

The watch reports policies at any time.  Meanwhile the worker takes a key, reads
its state, brings the cluster in line with it, whatever comes of that, and settles
with the key in several small steps; between any two of them the watch may report
something, or a timer may add a failed key again.

* `Worker.Report`: what the watch reports, and the event that it stands for;
* `Worker.Phase`, `Worker.Event`, `Worker.State`: what the worker is about to do,
  what has happened, and both with the registry and the timers;
* `Worker.Step`, `Worker.Reachable`: the steps, and the states they lead to;
* `Worker.steps_conclude`: **undisturbed, the small steps settle with a key as a
  whole does**.
-/
import Mathlib.Tactic
import SidecarPolicy.Cluster.State
import SidecarPolicy.Reconcile

namespace SidecarPolicy.Worker

/-! ### The watch -/

/-- What the watch reports: a policy as it is, or that a key is gone. -/
inductive Report where
  | applied (p : Policy)
  | deleted (k : ObjectKey)
  deriving DecidableEq, Repr

namespace Report

def take (r : Registry) : Report → Registry
  | .applied p => r.apply p
  | .deleted k => r.delete k

/-- The event that a report stands for.  A replay stands for none, and neither does
the end of a key that is not live. -/
def event? (r : Registry) : Report → Option PolicyEvent
  | .applied p =>
      match r.get? p.key with
      | some (.live old) => if Registry.isReplay old p then none else some (.updated old p)
      | _ => some (.created p)
  | .deleted k =>
      match r.get? k with
      | some (.live p) => some (.deleted p)
      | _ => none

/-- A report is the observation of its event. -/
lemma take_eq (r : Registry) (w : Report) : w.take r = (w.event? r).elim r r.observe := by
  cases w with
  | applied p =>
      rw [take, event?, Registry.apply]
      rcases r.get? p.key with _ | old | _
      · rfl
      · cases hreplay : Registry.isReplay old p <;> simp [hreplay]
      · rfl
  | deleted k =>
      rw [take, event?, Registry.delete]
      rcases r.get? k with _ | _ | _ <;> rfl

end Report

/-! ### The worker -/

/-- What the worker is about to do: to take a key; to read the state of the key that
it has taken; to bring the cluster in line with it; to forget the failures of a
key that has succeeded; to decide on one that has failed, and then to count the
failure, or to forget the failures and to give up the policy if it is deleted; and
at last to mark the key as done. -/
inductive Phase where
  | idle
  | taken (k : ObjectKey)
  | reconciling (k : ObjectKey) (state : Option PolicyState)
  | succeeded (k : ObjectKey)
  | failed (k : ObjectKey)
  | retrying (k : ObjectKey)
  | dropping (k : ObjectKey)
  | givingUp (k : ObjectKey)
  | finishing (k : ObjectKey)
  deriving DecidableEq, Repr

/-- The key that the worker is processing. -/
def Phase.key? : Phase → Option ObjectKey
  | .idle => none
  | .taken k | .reconciling k _ | .succeeded k | .failed k | .retrying k | .dropping k
  | .givingUp k | .finishing k => some k

/-- What has happened: the state of a key was changed by a report; the worker has
read it; it has succeeded with it, or failed; it has failed too often. -/
inductive Event where
  | changed (k : ObjectKey)
  | read (k : ObjectKey) (state : Option PolicyState)
  | succeeded (k : ObjectKey)
  | failed (k : ObjectKey)
  | exhausted (k : ObjectKey)
  deriving DecidableEq, Repr

/-- A registry with its worker, the failed keys that timers are going to add again,
and what has happened, the latest event first. -/
structure State where
  registry : Registry := {}
  phase : Phase := .idle
  timers : List ObjectKey := []
  history : List Event := []

namespace State

def withQueue (s : State) (q : Queue ObjectKey) : State :=
  { s with registry := { s.registry with queue := q } }

/-- The watch reports something. -/
def watch (s : State) (w : Report) : State where
  registry := w.take s.registry
  phase := s.phase
  timers := s.timers
  history := match w.event? s.registry with
    | none => s.history
    | some e => .changed e.policy.key :: s.history

/-- The worker reads the state of a key. -/
def read (s : State) (k : ObjectKey) : State :=
  { s with
    phase := .reconciling k (s.registry.get? k)
    history := .read k (s.registry.get? k) :: s.history }

/-- The worker has succeeded with a key that was in a state. -/
def succeed (s : State) (k : ObjectKey) (state : Option PolicyState) : State :=
  { s with
    registry := Reconcile.settle s.registry k state (.ok () : Except ClusterError Unit)
    phase := .succeeded k
    history := .succeeded k :: s.history }

/-- The worker has failed with a key. -/
def fail (s : State) (k : ObjectKey) : State :=
  { s with phase := .failed k, history := .failed k :: s.history }

/-- The failures of a key that has succeeded are forgotten. -/
def forget (s : State) (k : ObjectKey) : State :=
  { s.withQueue (s.registry.queue.forget k) with phase := .finishing k }

/-- A failed key is to be tried again. -/
def retry (s : State) (k : ObjectKey) : State := { s with phase := .retrying k }

/-- The failure of a key is counted, and a timer is set that will add it. -/
def postpone (s : State) (k : ObjectKey) : State :=
  { s.withQueue (s.registry.queue.addRateLimited k).2 with
    phase := .finishing k
    timers := k :: s.timers }

/-- A key has failed too often. -/
def exhaust (s : State) (k : ObjectKey) : State :=
  { s with phase := .dropping k, history := .exhausted k :: s.history }

/-- The failures of a key that is dropped are forgotten. -/
def drop (s : State) (k : ObjectKey) : State :=
  { s.withQueue (s.registry.queue.forget k) with phase := .givingUp k }

/-- The policy of a key that is dropped is given up if it is deleted. -/
def giveUp (s : State) (k : ObjectKey) : State :=
  { s with registry := s.registry.forgetDeleted k, phase := .finishing k }

/-- A key is marked as done. -/
def finish (s : State) (k : ObjectKey) : State :=
  { s.withQueue (s.registry.queue.done k) with phase := .idle }

/-- A timer adds its key. -/
def fire (s : State) (k : ObjectKey) : State :=
  { s.withQueue (s.registry.queue.offer k) with timers := s.timers.erase k }

def shutdown (s : State) : State := s.withQueue s.registry.queue.shutdown

end State

/-- The steps of the watch, of the worker, and of the timers. -/
inductive Step : State → State → Prop
  | watch (s : State) (w : Report) : Step s (s.watch w)
  | next {s : State} {k : ObjectKey} {q : Queue ObjectKey} (hphase : s.phase = .idle)
      (hnext : s.registry.queue.next? = some (k, q)) :
      Step s { s.withQueue q with phase := .taken k }
  | read {s : State} {k : ObjectKey} (hphase : s.phase = .taken k) : Step s (s.read k)
  | succeed {s : State} {k : ObjectKey} {state : Option PolicyState}
      (hphase : s.phase = .reconciling k state) : Step s (s.succeed k state)
  | fail {s : State} {k : ObjectKey} {state : Option PolicyState}
      (hphase : s.phase = .reconciling k state) : Step s (s.fail k)
  | forget {s : State} {k : ObjectKey} (hphase : s.phase = .succeeded k) : Step s (s.forget k)
  | retry {s : State} {k : ObjectKey} (hphase : s.phase = .failed k)
      (hcount : s.registry.queue.requeues k < Reconcile.maxRequeues) : Step s (s.retry k)
  | postpone {s : State} {k : ObjectKey} (hphase : s.phase = .retrying k) :
      Step s (s.postpone k)
  | exhaust {s : State} {k : ObjectKey} (hphase : s.phase = .failed k)
      (hcount : Reconcile.maxRequeues ≤ s.registry.queue.requeues k) : Step s (s.exhaust k)
  | drop {s : State} {k : ObjectKey} (hphase : s.phase = .dropping k) : Step s (s.drop k)
  | giveUp {s : State} {k : ObjectKey} (hphase : s.phase = .givingUp k) : Step s (s.giveUp k)
  | finish {s : State} {k : ObjectKey} (hphase : s.phase = .finishing k) :
      Step s (s.finish k)
  | fire {s : State} {k : ObjectKey} (htimer : k ∈ s.timers) : Step s (s.fire k)
  | shutdown (s : State) : Step s s.shutdown

/-- The states that the steps lead to, from an empty registry with a queue of a
given capacity. -/
inductive Reachable (capacity : Nat) (backoff : Backoff) : State → Prop
  | start : Reachable capacity backoff { registry := { queue := { capacity, backoff } } }
  | step {s t : State} (h : Reachable capacity backoff s) (hst : Step s t) :
      Reachable capacity backoff t

/-! ### Settling with a key -/

/-- **Undisturbed, the small steps settle with a key as a whole does**: they lead to
the registry that is concluded with, and set a timer if the key is to be added
again. -/
theorem steps_conclude {s : State} {k : ObjectKey} {state : Option PolicyState}
    (hphase : s.phase = .reconciling k state) (result : Except ClusterError Unit) :
    ∃ t, Relation.ReflTransGen Step s t ∧ t.phase = .idle ∧
      t.registry = (Reconcile.conclude s.registry k state result).2 ∧
      t.timers = ((Reconcile.conclude s.registry k state result).1.map fun _ => k).toList ++
        s.timers := by
  cases result with
  | ok =>
      refine ⟨((s.succeed k state).forget k).finish k, ?_, rfl, rfl, rfl⟩
      exact .tail (.tail (.single (.succeed hphase)) (.forget rfl)) (.finish rfl)
  | error e =>
      have hsettle : Reconcile.settle s.registry k state (.error e) = s.registry := by
        cases state with
        | none => rfl
        | some state => cases state <;> rfl
      -- a failure leaves the states alone; the count decides what comes next
      by_cases hcount : s.registry.queue.requeues k < Reconcile.maxRequeues
      · refine ⟨(((s.fail k).retry k).postpone k).finish k, ?_, rfl, ?_, ?_⟩
        · exact .tail (.tail (.tail (.single (.fail hphase)) (.retry rfl hcount))
            (.postpone rfl)) (.finish rfl)
        · simp only [Reconcile.conclude, hsettle, Reconcile.retry, if_pos hcount]
          rfl
        · simp only [Reconcile.conclude, hsettle, Reconcile.retry, if_pos hcount]
          rfl
      · refine ⟨((((s.fail k).exhaust k).drop k).giveUp k).finish k, ?_, rfl, ?_, ?_⟩
        · exact .tail (.tail (.tail (.tail (.single (.fail hphase))
            (.exhaust rfl (Nat.not_lt.mp hcount))) (.drop rfl)) (.giveUp rfl)) (.finish rfl)
        · simp only [Reconcile.conclude, hsettle, Reconcile.retry, if_neg hcount]
          rfl
        · simp only [Reconcile.conclude, hsettle, Reconcile.retry, if_neg hcount]
          rfl

end SidecarPolicy.Worker
