/-
Any number of workers on one registry, lock by lock, under a clock.

Each of them goes on as a single worker does, with the registry that it shares with the
others.  A failed key is added again by a timer, which is over no sooner than the delay has
passed that the queue has told, and perhaps later; meanwhile the key may have come back by
a report, so that there are several timers for it at a time.

* `Alarm`: a timer, with the instant at which it was set and its delay;
* `Crew`, `Crew.view`: workers that share a registry, and what one of them sees;
* `Crew.Step`, `Crew.Reachable`: the steps, and the states they lead to;
* `Worker.Step.processing`: which keys are being processed after a step of one worker;
* `Crew.Sound`, `Crew.Sound.of_step`: **the counts agree with what has happened, and no key
  is processed by two workers**, and every step keeps it so.
-/
import SidecarPolicy.Proofs.Worker.Attempts

namespace SidecarPolicy

open Worker

/-! ### Crews -/

/-- A timer: the key that it is going to add, the instant at which it was set, and the delay
after which it is over. -/
structure Alarm where
  key : ObjectKey
  set : Nat
  delay : Nat
  deriving DecidableEq, Repr

/-- The instant before which a timer is not over. -/
def Alarm.due (a : Alarm) : Nat := a.set + a.delay

/-- Workers that share a registry.  `alarms` are all timers that were ever set, the latest
first; each of them either is among `timers`, or is over and among `fired`. -/
structure Crew (ω : Type) where
  now : Nat := 0
  registry : Registry := {}
  phases : ω → Phase := fun _ => .idle
  history : List Worker.Event := []
  alarms : List Alarm := []
  timers : List Alarm := []
  fired : List Alarm := []

namespace Crew

variable {ω : Type}

/-- How often a key was requeued since it was last forgotten. -/
def requeues (s : Crew ω) (k : ObjectKey) : Nat := s.registry.queue.requeues k

/-- What one of the workers sees.  Timers are no business of a worker, except that it sets
them. -/
def view (s : Crew ω) (w : ω) : State where
  registry := s.registry
  phase := s.phases w
  history := s.history

/-- A timer is over, and adds its key. -/
def fire (s : Crew ω) (a : Alarm) : Crew ω :=
  { s with
    registry := { s.registry with queue := s.registry.queue.offer a.key }
    timers := s.timers.erase a
    fired := a :: s.fired }

variable [DecidableEq ω]

/-- The timers that a worker has set when it comes to a state. -/
def alarmsFrom (s : Crew ω) (v : State) : List Alarm :=
  v.timers.map fun k => ⟨k, s.now, (s.registry.queue.addRateLimited k).1⟩

/-- The crew when one of the workers has come to a state. -/
def take (s : Crew ω) (w : ω) (v : State) : Crew ω :=
  { s with
    registry := v.registry
    phases := Function.update s.phases w v.phase
    history := v.history
    alarms := s.alarmsFrom v ++ s.alarms
    timers := s.alarmsFrom v ++ s.timers }

/-- The steps: one of the workers makes a step, or the watch reports something, or the queue
is shut down, which a worker may see as well; a timer is over; time passes. -/
inductive Step : Crew ω → Crew ω → Prop
  | work (s : Crew ω) (w : ω) {v : State} (h : Worker.Step (s.view w) v) : Step s (s.take w v)
  | fire {s : Crew ω} {a : Alarm} (htimer : a ∈ s.timers) (hdue : a.due ≤ s.now) :
      Step s (s.fire a)
  | tick (s : Crew ω) : Step s { s with now := s.now + 1 }

/-- The states that the steps lead to, from an empty registry with a queue of a given
capacity and backoff. -/
inductive Reachable (capacity : Nat) (backoff : Backoff) : Crew ω → Prop
  | start : Reachable capacity backoff { registry := { queue := { capacity, backoff } } }
  | step {s t : Crew ω} (h : Reachable capacity backoff s) (hst : Step s t) :
      Reachable capacity backoff t

@[simp] lemma phases_take_self (s : Crew ω) (w : ω) (v : State) :
    (s.take w v).phases w = v.phase :=
  Function.update_self ..

lemma phases_take_of_ne {w w' : ω} (hne : w' ≠ w) (s : Crew ω) (v : State) :
    (s.take w v).phases w' = s.phases w' :=
  Function.update_of_ne hne ..

/-- Which workers are at a key, when one of them has come to a state. -/
lemma key?_take {s : Crew ω} {w w' : ω} {v : State} {k : ObjectKey} :
    ((s.take w v).phases w').key? = some k ↔
      w' = w ∧ v.phase.key? = some k ∨ w' ≠ w ∧ (s.phases w').key? = some k := by
  by_cases hw : w' = w
  · subst hw
    simp
  · simp [hw, phases_take_of_ne]

end Crew

/-! ### What a worker does to the queue -/

namespace Worker

variable {s t : State} {k : ObjectKey}

lemma Report.processing_take (r : Registry) (w : Report) :
    (w.take r).queue.processing = r.queue.processing := by
  rw [take_eq]
  cases w.event? r with
  | none => rfl
  | some e => exact (Queue.offer_frame r.queue e.policy.key).2.2.1

lemma Report.consistent_take {r : Registry} (h : r.queue.Consistent) (w : Report) :
    (w.take r).queue.Consistent := by
  rw [take_eq]
  cases w.event? r with
  | none => exact h
  | some e => exact h.offer e.policy.key

/-- A worker that holds the key that it is at keeps the queue consistent. -/
lemma Step.consistent (hst : Step s t) (hq : s.registry.queue.Consistent)
    (hheld : ∀ k, s.phase.key? = some k → k ∈ s.registry.queue.processing) :
    t.registry.queue.Consistent := by
  cases hst with
  | watch w => exact Report.consistent_take hq w
  | next hphase hnext => exact hq.of_next? hnext
  | @succeed k state hphase =>
      show (Reconcile.settle s.registry k state _).queue.Consistent
      rwa [settle_queue]
  | @forget k hphase | @drop k hphase => exact hq.forget k
  | @postpone k hphase => exact hq.addRateLimited k
  | @giveUp k hphase =>
      show (s.registry.forgetDeleted k).queue.Consistent
      rwa [Registry.forgetDeleted_queue]
  | @finish k hphase => exact hq.done (hheld k (by rw [hphase]; rfl))
  | @fire k htimer => exact hq.offer k
  | shutdown => exact hq.shutdown
  | read | fail | retry | exhaust => exact hq

/-- **After a step of a worker those keys are being processed that it is at, and those that
others are at.** -/
lemma Step.processing (hst : Step s t) (hq : s.registry.queue.Consistent)
    (hheld : ∀ k, s.phase.key? = some k → k ∈ s.registry.queue.processing) (k : ObjectKey) :
    k ∈ t.registry.queue.processing ↔ t.phase.key? = some k ∨
      k ∈ s.registry.queue.processing ∧ s.phase.key? ≠ some k := by
  have hsame (hkey : t.phase.key? = s.phase.key?)
      (hprocessing : t.registry.queue.processing = s.registry.queue.processing) :
      k ∈ t.registry.queue.processing ↔ t.phase.key? = some k ∨
        k ∈ s.registry.queue.processing ∧ s.phase.key? ≠ some k := by
    rw [hkey, hprocessing, or_and_left, and_iff_left (em _)]
    exact (or_iff_right_of_imp (hheld k)).symm
  -- only to take a key and to be done with it makes a difference
  cases hst with
  | watch w => exact hsame rfl (w.processing_take s.registry)
  | @next k' q hphase hnext =>
      rw [hphase, State.withQueue, Queue.mem_processing_of_next? hnext]
      simp [Phase.key?, eq_comm]
  | @succeed k' state hphase =>
      exact hsame (by rw [hphase]; rfl) (congrArg Queue.processing (settle_queue _ k' state))
  | @giveUp k' hphase =>
      have hqueue := Registry.forgetDeleted_queue s.registry k'
      exact hsame (by rw [hphase]; rfl) (congrArg Queue.processing hqueue)
  | @finish k' hphase =>
      refine (hq.mem_processing_done k' k).trans ?_
      rw [hphase]
      simp [State.finish, Phase.key?, eq_comm, and_comm]
  | @fire k' htimer => exact hsame rfl (Queue.offer_frame _ k').2.2.1
  | shutdown => exact hsame rfl rfl
  | read hphase | fail hphase | forget hphase | retry hphase _ | postpone hphase
  | exhaust hphase _ | drop hphase => exact hsame (by rw [hphase]; rfl) rfl

/-- A worker takes a key only if nobody is at it. -/
lemma Step.key?_of_next (hst : Step s t) (hq : s.registry.queue.Consistent)
    (hk : t.phase.key? = some k) :
    s.phase.key? = some k ∨ k ∉ s.registry.queue.processing := by
  cases hst with
  | watch | fire | shutdown => exact .inl hk
  | @next k' q hphase hnext =>
      obtain rfl := Option.some.inj hk
      exact .inr (hq.next?_mem hnext).2
  | read hphase | succeed hphase | fail hphase | forget hphase | retry hphase _ | postpone hphase
  | exhaust hphase _ | drop hphase | giveUp hphase => exact .inl (by rw [hphase]; exact hk)
  | finish hphase => cases hk

/-- A worker counts a failure only as long as the count is below the limit. -/
lemma Step.bounded (hst : Step s t)
    (hbound : s.registry.queue.requeues k ≤ Reconcile.maxRequeues)
    (hretrying : s.phase = .retrying k → s.registry.queue.requeues k < Reconcile.maxRequeues) :
    t.registry.queue.requeues k ≤ Reconcile.maxRequeues ∧
      (t.phase = .retrying k → t.registry.queue.requeues k < Reconcile.maxRequeues) := by
  have hless (hle : t.registry.queue.requeues k ≤ s.registry.queue.requeues k)
      (hphase : t.phase = .retrying k → s.phase = .retrying k) :
      t.registry.queue.requeues k ≤ Reconcile.maxRequeues ∧
        (t.phase = .retrying k → t.registry.queue.requeues k < Reconcile.maxRequeues) :=
    ⟨hle.trans hbound, fun h => hle.trans_lt (hretrying (hphase h))⟩
  -- one step only counts up, and the count has been compared before it
  cases hst with
  | watch w => exact hless (w.requeues_take s.registry k).le id
  | next hphase hnext => exact hless (Queue.requeues_next? hnext k).le Phase.noConfusion
  | @succeed k' state hphase =>
      exact hless (congrArg (Queue.requeues · k) (settle_queue _ k' state)).le Phase.noConfusion
  | @forget k' hphase | @drop k' hphase =>
      refine hless ((Queue.requeues_forget _ k' k).trans_le ?_) Phase.noConfusion
      split_ifs
      · exact Nat.zero_le _
      · exact le_rfl
  | @retry k' hphase hcount =>
      refine ⟨hbound, fun h => ?_⟩
      obtain rfl := Phase.retrying.inj h
      exact hcount
  | @postpone k' hphase =>
      refine ⟨(Queue.requeues_addRateLimited_eq _ k' k).trans_le ?_, Phase.noConfusion⟩
      split_ifs with hk
      · exact hretrying (hk ▸ hphase)
      · exact hbound
  | @giveUp k' hphase =>
      have hqueue := Registry.forgetDeleted_queue s.registry k'
      exact hless (congrArg (Queue.requeues · k) hqueue).le Phase.noConfusion
  | @finish k' hphase => exact hless (Queue.requeues_done _ k' k).le Phase.noConfusion
  | @fire k' htimer => exact hless (Queue.requeues_offer _ k' k).le id
  | shutdown => exact hless le_rfl id
  | read | fail | exhaust => exact hless le_rfl Phase.noConfusion

/-- No step changes the delays. -/
lemma Step.backoff (hst : Step s t) : t.registry.queue.backoff = s.registry.queue.backoff := by
  cases hst with
  | watch w =>
      rw [State.watch, w.take_eq]
      cases w.event? s.registry with
      | none => rfl
      | some e => exact Queue.offer_backoff _ e.policy.key
  | next hphase hnext => exact (Queue.next?_frame hnext).2.2.1
  | @succeed k' state hphase => exact congrArg Queue.backoff (settle_queue _ k' state)
  | @giveUp k' hphase => exact congrArg Queue.backoff (Registry.forgetDeleted_queue _ k')
  | @finish k' hphase => exact (Queue.done_frame _ k').2.2.2.1
  | @fire k' htimer => exact Queue.offer_backoff _ k'
  | read | fail | forget | retry | postpone | exhaust | drop | shutdown => rfl

/-- A worker goes on with the key that it is at until it is done. -/
lemma Step.key?_or_idle (hst : Step s t) (hk : s.phase.key? = some k) :
    t.phase.key? = some k ∨ t.phase = .idle := by
  cases hst with
  | watch | fire | shutdown => exact .inl hk
  | next hphase hnext =>
      rw [hphase] at hk
      cases hk
  | read hphase | succeed hphase | fail hphase | forget hphase | retry hphase _ | postpone hphase
  | exhaust hphase _ | drop hphase | giveUp hphase => exact .inl (by rw [hphase] at hk; exact hk)
  | finish hphase => exact .inr rfl

/-- A worker sets a timer only for a key that it tries again. -/
lemma Step.timers (hst : Step s t) (hnone : s.timers = []) :
    ∀ k ∈ t.timers, s.phase = .retrying k := by
  cases hst with
  | @postpone k' hphase =>
      intro k hk
      rw [State.postpone, hnone] at hk
      rw [hphase, List.mem_singleton.mp hk]
  | @fire k' htimer =>
      rw [hnone] at htimer
      cases htimer
  | _ =>
      intro k hk
      cases hnone ▸ hk

end Worker

/-! ### The invariant -/

namespace Crew

variable {ω : Type}

/-- The queue is consistent, each key that is being processed has one worker at it, the queue
counts the failures and never more than the limit, and every timer that was set either is
still to come, or was over when it was due. -/
structure Sound (s : Crew ω) : Prop where
  consistent : s.registry.queue.Consistent
  processing : ∀ k, k ∈ s.registry.queue.processing ↔ ∃ w, (s.phases w).key? = some k
  sole : ∀ {k w w'}, (s.phases w).key? = some k → (s.phases w').key? = some k → w = w'
  counted : ∀ {w k}, (s.phases w).key? = some k →
    failures k s.history = (s.phases w).tally (s.requeues k) k
  free : ∀ {k}, k ∉ s.registry.queue.processing → failures k s.history = s.requeues k
  bounded : ∀ k, s.requeues k ≤ Reconcile.maxRequeues
  retrying : ∀ {w k}, s.phases w = .retrying k → s.requeues k < Reconcile.maxRequeues
  alarms : s.alarms.Perm (s.fired ++ s.timers)
  punctual : ∀ a ∈ s.fired, a.due ≤ s.now

/-- In the beginning nobody is at work. -/
lemma sound_start (capacity : Nat) (backoff : Backoff) :
    Sound ({ registry := { queue := { capacity, backoff } } } : Crew ω) where
  consistent := Queue.consistent_empty capacity backoff
  processing k := by simp [Phase.key?]
  sole h := by cases h
  counted h := by cases h
  free _ := rfl
  bounded k := Nat.zero_le _
  retrying h := by cases h
  alarms := .nil
  punctual a ha := absurd ha List.not_mem_nil

variable {s t : Crew ω}

lemma Sound.held (hs : s.Sound) (w : ω) (k : ObjectKey) (hk : (s.phases w).key? = some k) :
    k ∈ s.registry.queue.processing :=
  (hs.processing k).mpr ⟨w, hk⟩

/-- For a worker the count of a key is right, unless another one is at the key. -/
lemma Sound.counted_or_free (hs : s.Sound) {w : ω} {k : ObjectKey}
    (hk : (s.phases w).key? = some k ∨ k ∉ s.registry.queue.processing) :
    failures k s.history = (s.phases w).tally (s.requeues k) k := by
  obtain hk | hfree := hk
  · exact hs.counted hk
  · rw [Phase.tally_of_ne fun hk => hfree (hs.held w k hk)]
    exact hs.free hfree

/-- A timer that is over adds its key, and counts nothing. -/
lemma Sound.fire (hs : s.Sound) {a : Alarm} (htimer : a ∈ s.timers) (hdue : a.due ≤ s.now) :
    (s.fire a).Sound := by
  obtain ⟨-, -, hprocessing, -⟩ := Queue.offer_frame s.registry.queue a.key
  have hrequeues := Queue.requeues_offer s.registry.queue a.key
  refine ⟨hs.consistent.offer a.key, fun k => ?_, hs.sole, fun {w k} hk => ?_, fun {k} hk => ?_,
    fun k => ?_, fun {w k} hk => ?_, ?_, ?_⟩
  · exact (congrArg (k ∈ ·) hprocessing).to_iff.trans (hs.processing k)
  · exact (hs.counted hk).trans (congrArg ((s.phases w).tally · k) (hrequeues k).symm)
  · exact (hs.free (hprocessing ▸ hk)).trans (hrequeues k).symm
  · exact (hrequeues k).trans_le (hs.bounded k)
  · exact (hrequeues k).trans_lt (hs.retrying hk)
  · have htimers : (s.fired ++ s.timers).Perm (s.fired ++ a :: s.timers.erase a) :=
      (List.perm_cons_erase htimer).append_left s.fired
    exact (hs.alarms.trans htimers).trans List.perm_middle
  · exact List.forall_mem_cons.mpr ⟨hdue, hs.punctual⟩

variable [DecidableEq ω]

/-- A step of one worker keeps the invariant. -/
lemma Sound.work (hs : s.Sound) {w : ω} {v : State} (hst : Worker.Step (s.view w) v) :
    (s.take w v).Sound := by
  have hheld := hs.held w
  have hprocessing := hst.processing hs.consistent hheld
  have hcount (k) (hk : (s.phases w).key? = some k ∨ k ∉ s.registry.queue.processing) :
      failures k v.history = v.phase.tally (v.registry.queue.requeues k) k :=
    hst.counted (hs.counted_or_free hk)
  -- the other workers are at other keys, before and after
  have haside {w' k} (hne : w' ≠ w) (hk : (s.phases w').key? = some k) :
      failures k v.history = failures k s.history ∧ v.registry.queue.requeues k = s.requeues k :=
    hst.aside fun hown => hne (hs.sole hk hown)
  have hapart {w' k} (hne : w' ≠ w) (hk : (s.phases w').key? = some k) :
      v.phase.key? ≠ some k := fun hown =>
    (hst.key?_of_next hs.consistent hown).elim (fun hbefore => hne (hs.sole hk hbefore))
      fun hfree => hfree (hs.held w' k hk)
  refine ⟨hst.consistent hs.consistent hheld, fun k => (hprocessing k).trans ?_,
    fun {k w₁ w₂} h₁ h₂ => ?_, fun {w' k} hk => ?_, fun {k} hk => ?_, fun k => ?_,
    fun {w' k} hk => ?_, ?_, hs.punctual⟩
  · simp only [key?_take]
    constructor
    · rintro (hown | ⟨hk, hnot⟩)
      · exact ⟨w, .inl ⟨rfl, hown⟩⟩
      · obtain ⟨w', hw'⟩ := (hs.processing k).mp hk
        exact ⟨w', .inr ⟨fun heq => hnot (heq ▸ hw'), hw'⟩⟩
    · rintro ⟨w', ⟨-, hown⟩ | ⟨hne, hw'⟩⟩
      · exact .inl hown
      · exact .inr ⟨hs.held w' k hw', fun hown => hne (hs.sole hw' hown)⟩
  · obtain ⟨rfl, hown₁⟩ | ⟨hne₁, hk₁⟩ := key?_take.mp h₁ <;>
      obtain ⟨rfl, hown₂⟩ | ⟨hne₂, hk₂⟩ := key?_take.mp h₂
    · rfl
    · exact absurd hown₁ (hapart hne₂ hk₂)
    · exact absurd hown₂ (hapart hne₁ hk₁)
    · exact hs.sole hk₁ hk₂
  · obtain ⟨rfl, hown⟩ | ⟨hne, hk⟩ := key?_take.mp hk
    · rw [phases_take_self]
      exact hcount k (hst.key?_of_next hs.consistent hown)
    · obtain ⟨hfailures, hrequeues⟩ := haside hne hk
      rw [phases_take_of_ne hne]
      exact hfailures.trans ((hs.counted hk).trans
        (congrArg ((s.phases w').tally · k) hrequeues.symm))
  · -- nobody is at the key any more, so that its worker, if there was one, is done with it
    rw [show (s.take w v).registry = v.registry from rfl, hprocessing, not_or] at hk
    refine (hcount k ?_).trans (Phase.tally_of_ne hk.1 _)
    by_cases hbefore : (s.phases w).key? = some k
    · exact .inl hbefore
    · exact .inr fun hmem => hk.2 ⟨hmem, hbefore⟩
  · exact (hst.bounded (hs.bounded k) hs.retrying).1
  · by_cases hne : w' = w
    · subst hne
      rw [phases_take_self] at hk
      exact (hst.bounded (hs.bounded k) hs.retrying).2 hk
    · rw [phases_take_of_ne hne] at hk
      exact (haside hne (by rw [hk]; rfl)).2.trans_lt (hs.retrying hk)
  · exact (hs.alarms.append_left _).trans (List.perm_append_comm_assoc ..)

/-- **Every step keeps the invariant.** -/
theorem Sound.of_step (hs : s.Sound) (hst : Step s t) : t.Sound := by
  cases hst with
  | work w h => exact hs.work h
  | fire htimer hdue => exact hs.fire htimer hdue
  | tick =>
      exact ⟨hs.consistent, hs.processing, hs.sole, hs.counted, hs.free, hs.bounded, hs.retrying,
        hs.alarms, fun a ha => (hs.punctual a ha).trans (Nat.le_succ _)⟩

lemma backoff_of_step (hst : Step s t) : t.registry.queue.backoff = s.registry.queue.backoff := by
  cases hst with
  | work w h => exact h.backoff
  | @fire a htimer hdue => exact Queue.offer_backoff _ a.key
  | tick => rfl

/-- Every state that can be reached is sound, and has the delays that the queue was made
with. -/
theorem Reachable.sound {capacity : Nat} {backoff : Backoff}
    (h : Reachable capacity backoff s) : s.Sound ∧ s.registry.queue.backoff = backoff := by
  induction h with
  | start => exact ⟨sound_start capacity backoff, rfl⟩
  | step _ hst ih => exact ⟨ih.1.of_step hst, (backoff_of_step hst).trans ih.2⟩

end Crew

end SidecarPolicy
