/-
Keys that were refused, and reports that say nothing new.

The registry records a policy before the queue is asked to take its key, and what it has
recorded tells which reports are replays.  So the queue may refuse the key of a policy that
is then taken for known: the next report of the same policy is a replay, and asks the queue
for nothing.

* `Worker.Spares`, `Worker.Quiet`: steps that do not change a key, and runs of them;
* `Worker.event?_applied_live`: a policy that is recorded is news only without a version;
* `Worker.Stranded`, `Worker.Stranded.of_quiet`: a live policy that nobody is going to
  reconcile, and that it remains so in such a run;
* `Worker.Reachable.due_of_untaken`: a key that is due remains so until the worker takes it;
* `Worker.Reachable.refused`: **a refused policy is queued by its next report exactly if it
  carries no version**;
* `Worker.not_redelivered`: one that is not, although there is room for it.
-/
import SidecarPolicy.Proofs.Worker.Tombstone

namespace SidecarPolicy.Worker

open Registry

variable {s t : State} {p : Policy} {k : ObjectKey}

/-! ### Quiet runs -/

/-- A step that does not change the state of a key by a report.  The policy of the key may be
reported again, as it is. -/
structure Spares (k : ObjectKey) (s t : State) : Prop where
  step : Step s t
  unchanged : t.history ≠ .changed k :: s.history

/-- A run of such steps. -/
abbrev Quiet (k : ObjectKey) : State → State → Prop := Relation.ReflTransGen (Spares k)

lemma watch_of_event?_eq_none {w : Report} (h : w.event? s.registry = none) : s.watch w = s := by
  rw [State.watch, w.take_eq, h]
  rfl

lemma event?_applied_live {r : Registry} (hlive : r.get? p.key = some (.live p)) :
    (Report.applied p).event? r = if p.version.isSome then none else some (.updated p p) := by
  simp [Report.event?, hlive, isReplay]

/-- A report that is an event of its key is recorded, and its key offered to the queue. -/
lemma watch_of_event? {w : Report} {e : PolicyEvent} (h : w.event? s.registry = some e) :
    s.watch w =
      { s with
        registry := s.registry.observe e
        history := .changed e.policy.key :: s.history } := by
  rw [State.watch, w.take_eq, h]
  rfl

/-- A step that spares a key leaves a live policy of the key alone. -/
lemma Spares.get?_live (h : Spares k s t) (hlive : s.registry.get? k = some (.live p)) :
    t.registry.get? k = some (.live p) := by
  obtain hsame | ⟨w, e, rfl, hevent, hk, -⟩ | ⟨q, -, rfl⟩ | ⟨-, rfl⟩ := get?_of_step h.step k
  · exact hsame.trans hlive
  · refine absurd ?_ h.unchanged
    rw [watch_of_event? hevent, hk]
  · exact get?_forgetDeleted_live hlive
  · exact get?_forgetDeleted_live hlive

/-- A run that spares a key leaves a live policy of the key alone. -/
lemma Quiet.get?_live (h : Quiet k s t) (hlive : s.registry.get? k = some (.live p)) :
    t.registry.get? k = some (.live p) := by
  induction h with
  | refl => exact hlive
  | tail _ hst ih => exact hst.get?_live ih

lemma Reachable.quiet {capacity : Nat} {backoff : Backoff} (h : Reachable capacity backoff s)
    (hquiet : Quiet k s t) : Reachable capacity backoff t := by
  induction hquiet with
  | refl => exact h
  | tail _ hst ih => exact ih.step hst.step

/-! ### Where a key comes from -/

/-- What is due was due, or has been changed by a report, or had a timer. -/
lemma Step.due_cases (hst : Step s t) (hq : s.registry.queue.Consistent)
    (hk : k ∈ t.registry.queue.dirty) :
    k ∈ s.registry.queue.dirty ∨ t.history = .changed k :: s.history ∨ k ∈ s.timers := by
  cases hst with
  | watch w =>
      cases hevent : w.event? s.registry with
      | none => exact .inl (watch_of_event?_eq_none hevent ▸ hk)
      | some e =>
          rw [watch_of_event? hevent] at hk ⊢
          obtain rfl | hdue := (Queue.offer_frame _ e.policy.key).1 k hk
          · exact .inr (.inl rfl)
          · exact .inl hdue
  | next hphase hnext => exact .inl ((hq.mem_dirty_of_next? hnext k).mp hk).2
  | @succeed k' state hphase => exact .inl (settle_queue _ k' state ▸ hk)
  | @giveUp k' hphase => exact .inl (forgetDeleted_queue _ k' ▸ hk)
  | @finish k' hphase => exact .inl ((Queue.done_frame _ k').1 ▸ hk)
  | @fire k' htimer =>
      obtain rfl | hdue := (Queue.offer_frame _ k').1 k hk
      · exact .inr (.inr htimer)
      · exact .inl hdue
  | read | fail | forget | retry | postpone | exhaust | drop | shutdown => exact .inl hk

/-- What has a timer had one, or the worker was at it. -/
lemma Step.timer_cases (hst : Step s t) (hk : k ∈ t.timers) :
    k ∈ s.timers ∨ s.phase.key? = some k := by
  cases hst with
  | @postpone k' hphase =>
      obtain rfl | htimer := List.mem_cons.mp hk
      · exact .inr (hphase ▸ rfl)
      · exact .inl htimer
  | fire htimer => exact .inl (List.mem_of_mem_erase hk)
  | watch | next | read | succeed | fail | forget | retry | exhaust | drop | giveUp | finish
  | shutdown => exact .inl hk

/-- What the worker is at it was at, or it was due. -/
lemma Step.attended_cases (hst : Step s t) (hq : s.registry.queue.Consistent)
    (hk : t.phase.key? = some k) : s.phase.key? = some k ∨ k ∈ s.registry.queue.dirty := by
  cases hst with
  | watch | fire | shutdown => exact .inl hk
  | next hphase hnext =>
      obtain rfl := Option.some.inj hk
      exact .inr (hq.next?_mem hnext).1
  | read hphase | succeed hphase | fail hphase | forget hphase | retry hphase _ | postpone hphase
  | exhaust hphase _ | drop hphase | giveUp hphase => exact .inl (by rw [hphase]; exact hk)
  | finish hphase => cases hk

/-- What is due remains so until the worker takes it. -/
lemma Step.due_or_taken (hst : Step s t) (hq : s.registry.queue.Consistent)
    (hk : k ∈ s.registry.queue.dirty) :
    k ∈ t.registry.queue.dirty ∨ t.phase = .taken k := by
  cases hst with
  | watch w =>
      cases hevent : w.event? s.registry with
      | none => exact .inl ((watch_of_event?_eq_none hevent).symm ▸ hk)
      | some e =>
          rw [watch_of_event? hevent]
          exact .inl ((Queue.offer_frame _ e.policy.key).2.1 hk)
  | @next k' q hphase hnext =>
      by_cases hne : k = k'
      · exact .inr (congrArg Phase.taken hne.symm)
      · exact .inl ((hq.mem_dirty_of_next? hnext k).mpr ⟨hne, hk⟩)
  | @succeed k' state hphase => exact .inl ((settle_queue s.registry k' state).symm ▸ hk)
  | @giveUp k' hphase => exact .inl ((forgetDeleted_queue s.registry k').symm ▸ hk)
  | @finish k' hphase => exact .inl ((Queue.done_frame _ k').1.symm ▸ hk)
  | @fire k' htimer => exact .inl ((Queue.offer_frame _ k').2.1 hk)
  | read | fail | forget | retry | postpone | exhaust | drop | shutdown => exact .inl hk

/-! ### Stranded policies -/

/-- A live policy that nobody is going to reconcile: its key is not due, no timer is going to
add it, and the worker is not at it. -/
structure Stranded (p : Policy) (s : State) : Prop where
  live : s.registry.get? p.key = some (.live p)
  notDue : p.key ∉ s.registry.queue.dirty
  noTimer : p.key ∉ s.timers
  unattended : s.phase.key? ≠ some p.key

/-- A stranded policy remains so, unless its key is changed. -/
lemma Stranded.of_spares (hs : Stranded p s) (hq : s.registry.queue.Consistent)
    (hst : Spares p.key s t) : Stranded p t where
  live := hst.get?_live hs.live
  notDue hk := (hst.step.due_cases hq hk).elim hs.notDue
    fun h => h.elim hst.unchanged hs.noTimer
  noTimer hk := (hst.step.timer_cases hk).elim hs.noTimer hs.unattended
  unattended hk := (hst.step.attended_cases hq hk).elim hs.unattended hs.notDue

/-- **A stranded policy is never reconciled**, unless its key is changed. -/
theorem Stranded.of_quiet {capacity : Nat} {backoff : Backoff}
    (h : Reachable capacity backoff s) (hs : Stranded p s) (hquiet : Quiet p.key s t) :
    Stranded p t := by
  induction hquiet with
  | refl => exact hs
  | tail hearlier hst ih => exact ih.of_spares (h.quiet hearlier).sound.1.consistent hst

/-! ### The next report -/

/-- A run in which the worker does not take a key. -/
abbrev Untaken (k : ObjectKey) : State → State → Prop :=
  Relation.ReflTransGen fun s t => Step s t ∧ t.phase ≠ .taken k

/-- **What is due remains so until the worker takes it**, however long that takes. -/
theorem Reachable.due_of_untaken {capacity : Nat} {backoff : Backoff}
    (h : Reachable capacity backoff s) (hk : k ∈ s.registry.queue.dirty)
    (hrun : Untaken k s t) : k ∈ t.registry.queue.dirty := by
  have hdue : Reachable capacity backoff t ∧ k ∈ t.registry.queue.dirty := by
    induction hrun with
    | refl => exact ⟨h, hk⟩
    | tail _ hst ih =>
        obtain ⟨hreachable, hdue⟩ := ih
        exact ⟨hreachable.step hst.1,
          (hst.1.due_or_taken hreachable.sound.1.consistent hdue).resolve_right hst.2⟩
  exact hdue.2

/-- An open queue with room takes the key of an event. -/
lemma due_of_event? {w : Report} {e : PolicyEvent} (hevent : w.event? s.registry = some e)
    (hopen : s.registry.queue.closed = false)
    (hroom : s.registry.queue.dirty.length < s.registry.queue.capacity) :
    e.policy.key ∈ (s.watch w).registry.queue.dirty := by
  obtain ⟨q, hadd⟩ := Queue.exists_add_eq_ok (k := e.policy.key) hopen fun _ => hroom
  have hoffer : s.registry.queue.offer e.policy.key = q := by rw [Queue.offer, hadd]
  rw [watch_of_event? hevent]
  show e.policy.key ∈ (s.registry.queue.offer e.policy.key).dirty
  rw [hoffer]
  exact (Queue.mem_dirty_of_add hadd _).mpr (.inl rfl)

lemma not_due_of_full {q : Queue ObjectKey} (h : q.add k = .error .full) : k ∉ q.dirty := by
  intro hdue
  rw [Queue.add, if_pos hdue] at h
  split_ifs at h
  cases h

/-- A policy whose key is refused is recorded, and the queue is as it was. -/
lemma watch_applied_refused (hnews : (Report.applied p).event? s.registry ≠ none)
    (hfull : s.registry.queue.add p.key = .error .full) :
    (s.watch (.applied p)).registry.get? p.key = some (.live p) ∧
      (s.watch (.applied p)).registry.queue = s.registry.queue := by
  obtain ⟨e, hevent⟩ := Option.ne_none_iff_exists'.mp hnews
  obtain ⟨q, hq, hpolicy, hstate⟩ | ⟨k, q, hq, -⟩ := Report.event?_cases hevent
  · obtain rfl := Report.applied.inj hq
    rw [watch_of_event? hevent, ← hstate, ← congrArg Policy.key hpolicy]
    refine ⟨get?_observe_self _ e, ?_⟩
    show s.registry.queue.offer e.policy.key = _
    rw [hpolicy, Queue.offer, hfull]
  · cases hq

/-- **What becomes of a policy whose key is refused.**  It is recorded, and the queue is as it
was.  As long as no report changes the key, the next report of a policy without a version
makes the key due, given that the queue is open and has room, and it is due until the worker
takes it; but the next report of a policy with a version changes nothing at all.  Unless the
worker was at the key when it was refused, or it had a timer, the policy is stranded: it is
never reconciled, however often it is reported. -/
theorem Reachable.refused {capacity : Nat} {backoff : Backoff}
    (h : Reachable capacity backoff s) (hnews : (Report.applied p).event? s.registry ≠ none)
    (hfull : s.registry.queue.add p.key = .error .full) :
    (s.watch (.applied p)).registry.get? p.key = some (.live p) ∧
      (s.watch (.applied p)).registry.queue = s.registry.queue ∧
      ∀ t, Quiet p.key (s.watch (.applied p)) t →
        (p.version = none → t.registry.queue.closed = false →
          t.registry.queue.dirty.length < t.registry.queue.capacity →
            ∀ u, Untaken p.key (t.watch (.applied p)) u → p.key ∈ u.registry.queue.dirty) ∧
          (p.version ≠ none → t.watch (.applied p) = t) ∧
          (p.key ∉ s.timers → s.phase.key? ≠ some p.key → Stranded p t) := by
  obtain ⟨hlive, hqueue⟩ := watch_applied_refused hnews hfull
  have hwatched := h.step (.watch s (.applied p))
  refine ⟨hlive, hqueue, fun t hquiet => ?_⟩
  have hevent := event?_applied_live (hquiet.get?_live hlive)
  refine ⟨fun hversion hopen hroom u hrun => ?_, fun hversion => ?_, fun htimer hphase => ?_⟩
  · rw [hversion] at hevent
    exact ((hwatched.quiet hquiet).step (.watch t (.applied p))).due_of_untaken
      (due_of_event? hevent hopen hroom) hrun
  · rw [if_pos (Option.isSome_iff_ne_none.mpr hversion)] at hevent
    exact watch_of_event?_eq_none hevent
  · have hstranded : Stranded p (s.watch (.applied p)) :=
      ⟨hlive, hqueue ▸ not_due_of_full hfull, htimer, hphase⟩
    exact hstranded.of_quiet hwatched hquiet

/-! ### A policy that is not heard of again -/

/-- Another policy. -/
def other : Policy := { early with name := some "other-policy" }

/-- The first policy waits in a queue that has no room for another one. -/
def crowded : State := { registry := { queue := { capacity := 1 } } : State }.watch (.applied early)

/-- The worker has taken the first policy, after the other one has been reported. -/
def relieved : State where
  registry := {
    policies := (KeyMap.empty.insert early.key (.live early)).insert other.key (.live other)
    queue := { capacity := 1, processing := [early.key] } }
  phase := .taken early.key
  history := [.changed other.key, .changed early.key]

lemma reachable_crowded : Reachable 1 {} crowded := .step .start (.watch _ _)

lemma quiet_relieved : Quiet other.key (crowded.watch (.applied other)) relieved :=
  .single ⟨.next rfl rfl, by decide⟩

/-- The other policy is refused, and is stranded when there is room for it. -/
theorem refused_other :
    (Report.applied other).event? crowded.registry ≠ none ∧
      crowded.registry.queue.add other.key = .error .full ∧
      relieved.watch (.applied other) = relieved ∧ Stranded other relieved := by
  have hnews : (Report.applied other).event? crowded.registry ≠ none := by decide
  have hfull : crowded.registry.queue.add other.key = .error .full := by decide
  obtain ⟨-, -, hlater⟩ := reachable_crowded.refused hnews hfull
  obtain ⟨-, hreport, hstranded⟩ := hlater relieved quiet_relieved
  exact ⟨hnews, hfull, hreport (by decide), hstranded (by decide) (by decide)⟩

/-- **A refused policy need not be queued by its next report**, although the queue has room
for it by then, and nobody is at its key or going to add it. -/
theorem not_redelivered :
    ¬ ∀ (capacity : Nat) (backoff : Backoff) (s t : State) (p : Policy),
      Reachable capacity backoff s → (Report.applied p).event? s.registry ≠ none →
        s.registry.queue.add p.key = .error .full → Quiet p.key (s.watch (.applied p)) t →
          t.registry.queue.closed = false →
            t.registry.queue.dirty.length < t.registry.queue.capacity → Stranded p t →
              p.key ∈ (t.watch (.applied p)).registry.queue.dirty := by
  intro hredelivered
  have hstranded : Stranded other relieved := ⟨by decide, by decide, by decide, by decide⟩
  have hdue := hredelivered 1 {} crowded relieved other reachable_crowded (by decide) (by decide)
    quiet_relieved (by decide) (by decide) hstranded
  exact absurd hdue (by decide)

end SidecarPolicy.Worker
