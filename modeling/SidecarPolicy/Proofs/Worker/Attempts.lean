/-
What the worker has read, and how often it has failed.

Failures are counted per key, whatever state of the key was read: the count goes on
while policies are changed, deleted and applied again, until the worker succeeds with
the key or drops it.

* `Worker.lastRead`, `Worker.failures`: the state that was read last, and the failures
  of a key since the worker has last succeeded with it or dropped it;
* `Worker.Exhausted`: the worker has failed once too often;
* `Worker.Step.counted`, `Worker.Step.aside`: **a step keeps the count of failures right**,
  and leaves the counts of other keys alone;
* `Worker.Tracked`, `Worker.Tracked.of_step`: the registry, the queue and the phase
  agree with what has happened, and every step keeps it so;
* `Worker.Reachable.tracked`: **so it is in every state that can be reached**.
-/
import SidecarPolicy.Proofs.Registry
import SidecarPolicy.Proofs.Worker.Delivery

namespace SidecarPolicy.Worker

/-! ### Reads and failures -/

/-- The state that the worker has read last. -/
def lastRead : List Event → Option PolicyState
  | [] => none
  | .read _ state :: _ => state
  | _ :: earlier => lastRead earlier

/-- How often the worker has failed with a key since it has last succeeded with it, or
has last dropped it. -/
def failures (k : ObjectKey) : List Event → Nat
  | [] => 0
  | .failed k' :: earlier => failures k earlier + if k' = k then 1 else 0
  | .succeeded k' :: earlier | .exhausted k' :: earlier => if k' = k then 0 else failures k earlier
  | _ :: earlier => failures k earlier

/-- The worker has just failed with a key more often than it tries again, and has decided
to drop it.  Since then there may have been changes. -/
def Exhausted (k : ObjectKey) : List Event → Prop
  | .exhausted k' :: earlier => k' = k ∧ Reconcile.maxRequeues < failures k earlier
  | .changed _ :: earlier => Exhausted k earlier
  | _ => False

/-- The failures of a key since the worker has last succeeded with it or dropped it, by what
the queue counts: the failure at hand is not yet counted there, and the failures of a key
that has just succeeded or is dropped are not yet forgotten. -/
def Phase.tally (requeues : Nat) (k : ObjectKey) : Phase → Nat
  | .succeeded k' | .dropping k' => if k' = k then 0 else requeues
  | .failed k' | .retrying k' => requeues + if k' = k then 1 else 0
  | _ => requeues

/-- The worker has decided to drop a key, and is not done with it. -/
def Phase.Drops (k : ObjectKey) : Phase → Prop
  | .dropping k' | .givingUp k' => k' = k
  | _ => False

/-! ### Counting -/

/-- The count of a key that the worker is not at is what the queue counts. -/
lemma Phase.tally_of_ne {phase : Phase} {k : ObjectKey} (h : phase.key? ≠ some k) (n : Nat) :
    phase.tally n k = n := by
  cases phase with
  | succeeded k' | dropping k' => exact if_neg fun heq => h (congrArg some heq)
  | failed k' | retrying k' =>
      rw [tally, if_neg fun heq => h (congrArg some heq), Nat.add_zero]
  | idle | taken | reconciling | givingUp | finishing => rfl

lemma Report.requeues_take (r : Registry) (w : Report) (k : ObjectKey) :
    (w.take r).queue.requeues k = r.queue.requeues k := by
  rw [take_eq]
  cases w.event? r with
  | none => rfl
  | some e => exact Queue.requeues_offer r.queue e.policy.key k

lemma failures_watch (s : State) (w : Report) (k : ObjectKey) :
    failures k (s.watch w).history = failures k s.history := by
  rw [State.watch]
  cases w.event? s.registry <;> rfl

/-- **A step keeps the count of failures right.** -/
lemma Step.counted {s t : State} (hst : Step s t) {k : ObjectKey}
    (h : failures k s.history = s.phase.tally (s.registry.queue.requeues k) k) :
    failures k t.history = t.phase.tally (t.registry.queue.requeues k) k := by
  -- a failure is counted by the phase until the queue counts it
  cases hst with
  | watch w =>
      refine (failures_watch s w k).trans (h.trans (congrArg (s.phase.tally · k) ?_))
      exact (w.requeues_take s.registry k).symm
  | next hphase hnext =>
      rw [hphase] at h
      exact h.trans (Queue.requeues_next? hnext k).symm
  | read hphase => rwa [hphase] at h
  | succeed hphase =>
      rw [hphase] at h
      rw [State.succeed, settle_queue, failures, h]
      rfl
  | fail hphase =>
      rw [hphase] at h
      rw [State.fail, failures, h]
      rfl
  | @forget k' hphase =>
      rw [hphase] at h
      exact h.trans (Queue.requeues_forget _ k' k).symm
  | retry hphase => rwa [hphase] at h
  | @postpone k' hphase =>
      rw [hphase] at h
      exact h.trans (Queue.requeues_addRateLimited_eq _ k' k).symm
  | exhaust hphase =>
      rw [hphase, Phase.tally] at h
      rw [State.exhaust, failures, Phase.tally]
      split_ifs with hk
      · rfl
      · rwa [if_neg hk] at h
  | @drop k' hphase =>
      rw [hphase] at h
      exact h.trans (Queue.requeues_forget _ k' k).symm
  | giveUp hphase =>
      rw [hphase] at h
      rw [State.giveUp, Registry.forgetDeleted_queue]
      exact h
  | @finish k' hphase =>
      rw [hphase] at h
      exact h.trans (Queue.requeues_done _ k' k).symm
  | @fire k' htimer =>
      exact h.trans (congrArg (s.phase.tally · k) (Queue.requeues_offer _ k' k).symm)
  | shutdown => exact h

/-- A step leaves the counts of the keys alone that the worker is not at. -/
lemma Step.aside {s t : State} (hst : Step s t) {k : ObjectKey} (hk : s.phase.key? ≠ some k) :
    failures k t.history = failures k s.history ∧
      t.registry.queue.requeues k = s.registry.queue.requeues k := by
  cases hst with
  | watch w => exact ⟨failures_watch s w k, w.requeues_take s.registry k⟩
  | next hphase hnext => exact ⟨rfl, Queue.requeues_next? hnext k⟩
  | read | retry | shutdown => exact ⟨rfl, rfl⟩
  | @succeed k' state hphase =>
      have hne : k' ≠ k := fun heq => hk (by rw [hphase, heq]; rfl)
      exact ⟨if_neg hne, congrArg (Queue.requeues · k) (settle_queue _ k' state)⟩
  | @fail k' _ hphase =>
      have hne : k' ≠ k := fun heq => hk (by rw [hphase, heq]; rfl)
      rw [State.fail, failures, if_neg hne]
      exact ⟨rfl, rfl⟩
  | @forget k' hphase | @drop k' hphase =>
      have hne : k' ≠ k := fun heq => hk (by rw [hphase, heq]; rfl)
      exact ⟨rfl, (Queue.requeues_forget _ k' k).trans (if_neg hne)⟩
  | @postpone k' hphase =>
      have hne : k' ≠ k := fun heq => hk (by rw [hphase, heq]; rfl)
      refine ⟨rfl, (Queue.requeues_addRateLimited_eq _ k' k).trans ?_⟩
      rw [if_neg hne, Nat.add_zero]
  | @exhaust k' hphase =>
      have hne : k' ≠ k := fun heq => hk (by rw [hphase, heq]; rfl)
      exact ⟨if_neg hne, rfl⟩
  | @giveUp k' hphase =>
      have hqueue := Registry.forgetDeleted_queue s.registry k'
      exact ⟨rfl, congrArg (Queue.requeues · k) hqueue⟩
  | @finish k' hphase => exact ⟨rfl, Queue.requeues_done _ k' k⟩
  | @fire k' htimer => exact ⟨rfl, Queue.requeues_offer _ k' k⟩

/-! ### The invariant -/

/-- Policies are kept at their keys; the worker reconciles what it has read last; a state
that was read and not changed is still the one that was read; the queue counts the
failures; and a key that is dropped has failed once too often. -/
structure Tracked (s : State) : Prop where
  keyed : s.registry.Keyed
  reading : ∀ {k st}, s.phase = .reconciling k st → lastRead s.history = st
  current : ∀ {k st}, s.registry.get? k = some st → isRead k s.history = true →
    lastRead s.history = some st
  counted : ∀ k, failures k s.history = s.phase.tally (s.registry.queue.requeues k) k
  exhausted : ∀ {k}, s.phase.Drops k → Exhausted k s.history

/-- In the beginning nothing has been read, and nothing has failed. -/
lemma tracked_start (capacity : Nat) (backoff : Backoff) :
    Tracked { registry := { queue := { capacity, backoff } } } where
  keyed _ _ h := by cases h
  reading h := by cases h
  current h := by cases h
  counted k := rfl
  exhausted h := False.elim h

/-! ### The watch and the timers -/

/-- A change of the queue leaves everything as it was, if it counts what it has counted. -/
lemma Tracked.withQueue {s : State} (hs : Tracked s) {q : Queue ObjectKey}
    (hq : q.requeued = s.registry.queue.requeued) : Tracked (s.withQueue q) where
  keyed := hs.keyed
  reading := hs.reading
  current := hs.current
  counted k := by
    rw [State.withQueue, Queue.requeues, hq]
    exact hs.counted k
  exhausted := hs.exhausted

/-- A timer puts its key into the queue, and nothing else happens. -/
lemma Tracked.fire {s : State} (hs : Tracked s) (k : ObjectKey) : Tracked (s.fire k) := by
  have hoffer := hs.withQueue (Queue.offer_requeued s.registry.queue k)
  exact ⟨hoffer.keyed, hoffer.reading, hoffer.current, hoffer.counted, hoffer.exhausted⟩

/-- A report changes one key, and neither what has been read nor what has failed. -/
lemma Tracked.watch {s : State} (hs : Tracked s) (w : Report) : Tracked (s.watch w) := by
  rw [State.watch, w.take_eq]
  cases w.event? s.registry with
  | none => exact hs
  | some e =>
      refine ⟨hs.keyed.observe e, hs.reading, fun {k st} hst hread => ?_, fun k => ?_,
        hs.exhausted⟩
      · -- the key of the event has not been read since, so that this is another one
        obtain ⟨hne, hread⟩ : e.policy.key ≠ k ∧ isRead k s.history = true := by
          simpa [isRead] using hread
        exact hs.current ((Registry.get?_observe_of_ne hne.symm).symm.trans hst) hread
      · exact (hs.counted k).trans
          (congrArg (s.phase.tally · k) (Queue.requeues_offer _ e.policy.key k).symm)

/-! ### The worker -/

/-- The worker goes on without reading anything, and at most a policy is given up. -/
lemma Tracked.advance {s t : State} (hs : Tracked s)
    (hpolicies : ∀ {k st}, t.registry.get? k = some st → s.registry.get? k = some st)
    (hlast : lastRead t.history = lastRead s.history)
    (hread : ∀ k, isRead k t.history = isRead k s.history)
    (hphase : ∀ k st, t.phase ≠ .reconciling k st)
    (hcounted : ∀ k, failures k t.history = t.phase.tally (t.registry.queue.requeues k) k)
    (hexhausted : ∀ {k}, t.phase.Drops k → Exhausted k t.history) :
    Tracked t where
  keyed _ _ hst := hs.keyed (hpolicies hst)
  reading h := absurd h (hphase _ _)
  current hst h := hlast.trans (hs.current (hpolicies hst) ((hread _).symm.trans h))
  counted := hcounted
  exhausted := hexhausted

lemma get?_of_settle {r : Registry} {k k' : ObjectKey} {state : Option PolicyState}
    {st : PolicyState}
    (h : (Reconcile.settle r k state (.ok () : Except ClusterError Unit)).get? k' = some st) :
    r.get? k' = some st := by
  rcases state with _ | _ | _
  · exact h
  · exact h
  · exact Registry.get?_of_forgetDeleted h

section Worker

variable {s : State} {k : ObjectKey} {state : Option PolicyState}

lemma Tracked.next (hs : Tracked s) (hphase : s.phase = .idle) {q : Queue ObjectKey}
    (hnext : s.registry.queue.next? = some (k, q)) :
    Tracked { s.withQueue q with phase := .taken k } :=
  hs.advance id rfl (fun _ => rfl) (fun _ _ => Phase.noConfusion)
    (fun k' => (Step.next hphase hnext).counted (hs.counted k')) False.elim

/-- The worker has read a state, and reconciles it. -/
lemma Tracked.read (hs : Tracked s) (hphase : s.phase = .taken k) : Tracked (s.read k) where
  keyed := hs.keyed
  reading h := by
    obtain ⟨-, rfl⟩ := Phase.reconciling.inj h
    rfl
  current hst hread := by
    obtain rfl := of_decide_eq_true hread
    exact hst
  counted k' := (Step.read hphase).counted (hs.counted k')
  exhausted h := False.elim h

/-- The failures of a key that has succeeded are over, though not yet forgotten. -/
lemma Tracked.succeed (hs : Tracked s) (hphase : s.phase = .reconciling k state) :
    Tracked (s.succeed k state) :=
  hs.advance get?_of_settle rfl (fun _ => rfl) (fun _ _ => Phase.noConfusion)
    (fun k' => (Step.succeed hphase).counted (hs.counted k')) False.elim

lemma Tracked.fail (hs : Tracked s) (hphase : s.phase = .reconciling k state) :
    Tracked (s.fail k) :=
  hs.advance id rfl (fun _ => rfl) (fun _ _ => Phase.noConfusion)
    (fun k' => (Step.fail hphase).counted (hs.counted k')) False.elim

lemma Tracked.forget (hs : Tracked s) (hphase : s.phase = .succeeded k) :
    Tracked (s.forget k) :=
  hs.advance id rfl (fun _ => rfl) (fun _ _ => Phase.noConfusion)
    (fun k' => (Step.forget hphase).counted (hs.counted k')) False.elim

lemma Tracked.retry (hs : Tracked s) (hphase : s.phase = .failed k)
    (hcount : s.registry.queue.requeues k < Reconcile.maxRequeues) : Tracked (s.retry k) :=
  hs.advance id rfl (fun _ => rfl) (fun _ _ => Phase.noConfusion)
    (fun k' => (Step.retry hphase hcount).counted (hs.counted k')) False.elim

lemma Tracked.postpone (hs : Tracked s) (hphase : s.phase = .retrying k) :
    Tracked (s.postpone k) :=
  hs.advance id rfl (fun _ => rfl) (fun _ _ => Phase.noConfusion)
    (fun k' => (Step.postpone hphase).counted (hs.counted k')) False.elim

/-- A key that is dropped has failed once more than the queue counts. -/
lemma Tracked.exhaust (hs : Tracked s) (hphase : s.phase = .failed k)
    (hcount : Reconcile.maxRequeues ≤ s.registry.queue.requeues k) : Tracked (s.exhaust k) := by
  have hfailures := hs.counted k
  rw [hphase, Phase.tally, if_pos rfl] at hfailures
  refine hs.advance id rfl (fun _ => rfl) (fun _ _ => Phase.noConfusion)
    (fun k' => (Step.exhaust hphase hcount).counted (hs.counted k')) (fun h => ?_)
  obtain rfl : k = _ := h
  exact ⟨rfl, by omega⟩

lemma Tracked.drop (hs : Tracked s) (hphase : s.phase = .dropping k) : Tracked (s.drop k) :=
  hs.advance id rfl (fun _ => rfl) (fun _ _ => Phase.noConfusion)
    (fun k' => (Step.drop hphase).counted (hs.counted k')) fun h => hs.exhausted (hphase ▸ h)

lemma Tracked.giveUp (hs : Tracked s) (hphase : s.phase = .givingUp k) :
    Tracked (s.giveUp k) :=
  hs.advance Registry.get?_of_forgetDeleted rfl (fun _ => rfl) (fun _ _ => Phase.noConfusion)
    (fun k' => (Step.giveUp hphase).counted (hs.counted k')) False.elim

lemma Tracked.finish (hs : Tracked s) (hphase : s.phase = .finishing k) :
    Tracked (s.finish k) :=
  hs.advance id rfl (fun _ => rfl) (fun _ _ => Phase.noConfusion)
    (fun k' => (Step.finish hphase).counted (hs.counted k')) False.elim

end Worker

/-! ### Runs -/

/-- **Every step keeps the invariant.** -/
theorem Tracked.of_step {s t : State} (hs : Tracked s) (hst : Step s t) : Tracked t := by
  cases hst with
  | watch w => exact hs.watch w
  | next hphase hnext => exact hs.next hphase hnext
  | read hphase => exact hs.read hphase
  | succeed hphase => exact hs.succeed hphase
  | fail hphase => exact hs.fail hphase
  | forget hphase => exact hs.forget hphase
  | retry hphase hcount => exact hs.retry hphase hcount
  | postpone hphase => exact hs.postpone hphase
  | exhaust hphase hcount => exact hs.exhaust hphase hcount
  | drop hphase => exact hs.drop hphase
  | giveUp hphase => exact hs.giveUp hphase
  | finish hphase => exact hs.finish hphase
  | @fire k htimer => exact hs.fire k
  | shutdown => exact hs.withQueue rfl

/-- **The registry, the queue and the phase agree with what has happened**, in every state
that can be reached. -/
theorem Reachable.tracked {capacity : Nat} {backoff : Backoff} {s : State}
    (h : Reachable capacity backoff s) : Tracked s := by
  induction h with
  | start => exact tracked_start capacity backoff
  | step _ hst ih => exact ih.of_step hst

end SidecarPolicy.Worker
