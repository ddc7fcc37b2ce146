/-
No change of a policy is lost on its way to the worker.

A change is answered when the worker has read it and has then succeeded, or has
failed once too often.  Until then its key is due, or a timer is going to add it,
or the worker owes it: it has taken the key, and has not yet read its state, or
not yet decided what becomes of it.

* `Worker.answered`: whether the latest change of a key has been answered;
* `Worker.observed`: the keys of which a change has ever been observed;
* `Worker.Phase.Owes`: the keys that the worker owes an answer;
* `Worker.Sound`, `Worker.Sound.of_step`: the invariant, and that every step keeps
  it;
* `Worker.Reachable.delivers`: **a key with an unanswered change waits, is at the
  worker, or has a timer**.
-/
import SidecarPolicy.Proofs.Queue.Consistency
import SidecarPolicy.Proofs.Registry
import SidecarPolicy.Proofs.Worker.Run

namespace SidecarPolicy.Worker

/-! ### Changes and answers -/

/-- Whether the latest read was one of the key, with no change of it since. -/
def isRead (k : ObjectKey) : List Event → Bool
  | [] => false
  | .read k' _ :: _ => k' = k
  | .changed k' :: earlier => k' ≠ k && isRead k earlier
  | _ :: earlier => isRead k earlier

/-- Whether the latest change of the key has been read in an attempt that then
succeeded, or that then was the last one before the key was dropped. -/
def answered (k : ObjectKey) : List Event → Bool
  | [] => false
  | .changed k' :: earlier => k' ≠ k && answered k earlier
  | .succeeded k' :: earlier => (k' = k && isRead k earlier) || answered k earlier
  | .exhausted k' :: earlier => (k' = k && isRead k earlier) || answered k earlier
  | _ :: earlier => answered k earlier

/-- The key that an event changes. -/
def Event.changed? : Event → Option ObjectKey
  | .changed k => some k
  | _ => none

/-- The keys of which a change has ever been observed. -/
def observed (history : List Event) : List ObjectKey :=
  (history.filterMap Event.changed?).dedup

/-- The keys that the worker owes an answer, as far as they are neither due nor
going to be added: the one that it has taken, until it has read its state; after
that only as long as there was no change since, and until it has succeeded, or
has failed and that has been dealt with. -/
def Phase.Owes (history : List Event) (k : ObjectKey) : Phase → Prop
  | .taken k' | .retrying k' => k' = k
  | .reconciling k' _ | .failed k' => k' = k ∧ isRead k history = true
  | .idle | .succeeded _ | .dropping _ | .givingUp _ | .finishing _ => False

lemma mem_observed {history : List Event} {k : ObjectKey} :
    k ∈ observed history ↔ .changed k ∈ history := by
  rw [observed, List.mem_dedup, List.mem_filterMap]
  constructor
  · rintro ⟨e, he, hk⟩
    cases e <;> cases hk
    exact he
  · exact fun h => ⟨_, h, rfl⟩

lemma observed_le (later earlier : List Event) :
    (observed earlier).length ≤ (observed (later ++ earlier)).length := by
  refine (List.subperm_of_subset (List.nodup_dedup _) fun k hk => ?_).length_le
  exact mem_observed.mpr (List.mem_append_right later (mem_observed.mp hk))

/-- What is answered stays so, unless the key changes. -/
lemma answered_cons {e : Event} {k : ObjectKey} (he : e ≠ .changed k) {history : List Event}
    (h : answered k history = true) : answered k (e :: history) = true := by
  cases e with
  | changed k' =>
      have hne : k' ≠ k := fun heq => he (heq ▸ rfl)
      simp [answered, hne, h]
  | _ => simp [answered, h]

/-- What has been read stays so, unless the key changes or another one is read. -/
lemma isRead_changed {k k' : ObjectKey} (hne : k' ≠ k) (history : List Event) :
    isRead k (.changed k' :: history) = isRead k history := by
  simp [isRead, hne]

/-- A change of another key does not settle what the worker owes. -/
lemma Phase.Owes.changed {history : List Event} {k k' : ObjectKey} {phase : Phase}
    (h : phase.Owes history k) (hne : k' ≠ k) : phase.Owes (.changed k' :: history) k := by
  cases phase with
  | taken | retrying => exact h
  | reconciling | failed => exact ⟨h.1, (isRead_changed hne history).trans h.2⟩
  | idle | succeeded | dropping | givingUp | finishing => exact h.elim

lemma Phase.Owes.key? {history : List Event} {k : ObjectKey} {phase : Phase}
    (h : phase.Owes history k) : phase.key? = some k := by
  cases phase with
  | taken k' | retrying k' => exact congrArg some h
  | reconciling k' _ | failed k' => exact congrArg some h.1
  | idle | succeeded | dropping | givingUp | finishing => exact h.elim

/-! ### The invariant -/

/-- The queue is consistent, and the worker alone processes keys; whatever is on
its way has been observed; and, as long as the queue is open and large enough, a
key whose latest change has not been answered is due, or has a timer, or the
worker owes it. -/
structure Sound (s : State) : Prop where
  consistent : s.registry.queue.Consistent
  processing : ∀ k, k ∈ s.registry.queue.processing ↔ s.phase.key? = some k
  dirty_changed : ∀ k ∈ s.registry.queue.dirty, .changed k ∈ s.history
  timers_changed : ∀ k ∈ s.timers, .changed k ∈ s.history
  phase_changed : ∀ k, s.phase.key? = some k → .changed k ∈ s.history
  kept : s.registry.queue.closed = false →
    (observed s.history).length ≤ s.registry.queue.capacity →
      ∀ k, .changed k ∈ s.history → answered k s.history = false →
        k ∈ s.registry.queue.dirty ∨ k ∈ s.timers ∨ s.phase.Owes s.history k

/-- In the beginning there is nothing to be lost. -/
lemma sound_start (capacity : Nat) (backoff : Backoff) :
    Sound { registry := { queue := { capacity, backoff } } } where
  consistent := Queue.consistent_empty capacity backoff
  processing k := by simp [Phase.key?]
  dirty_changed k hk := absurd hk List.not_mem_nil
  timers_changed k hk := absurd hk List.not_mem_nil
  phase_changed k hk := by cases hk
  kept _ _ k hk := absurd hk List.not_mem_nil

/-- An open queue that has room for every observed key accepts each of them. -/
lemma mem_dirty_offer {q : Queue ObjectKey} (hq : q.Consistent) (hopen : q.closed = false)
    {history : List Event} (hroom : (observed history).length ≤ q.capacity)
    (hdirty : ∀ k ∈ q.dirty, .changed k ∈ history) {k : ObjectKey}
    (hk : .changed k ∈ history) : k ∈ (q.offer k).dirty := by
  have haccepts : ∃ q', q.add k = .ok q' := by
    refine Queue.exists_add_eq_ok hopen fun hnew => ?_
    have hsub : k :: q.dirty ⊆ observed history := by
      intro k' hk'
      obtain rfl | hk' := List.mem_cons.mp hk'
      · exact mem_observed.mpr hk
      · exact mem_observed.mpr (hdirty k' hk')
    have hnodup : (k :: q.dirty).Nodup := List.nodup_cons.mpr ⟨hnew, hq.dirty_nodup⟩
    calc q.dirty.length
        < (k :: q.dirty).length := Nat.lt_succ_self _
      _ ≤ (observed history).length := (List.subperm_of_subset hnodup hsub).length_le
      _ ≤ q.capacity := hroom
  obtain ⟨q', hadd⟩ := haccepts
  rw [Queue.offer, hadd]
  exact (Queue.mem_dirty_of_add hadd k).mpr (.inl rfl)

/-! ### What the worker does by itself -/

/-- What is answered stays so while no key changes. -/
lemma answered_append {events history : List Event} {k : ObjectKey}
    (hquiet : ∀ e ∈ events, e ≠ .changed k) (h : answered k history = true) :
    answered k (events ++ history) = true := by
  induction events with
  | nil => exact h
  | cons e events ih =>
      obtain ⟨he, hevents⟩ := List.forall_mem_cons.mp hquiet
      exact answered_cons he (ih hevents)

/-- The worker goes on from a phase with the key that it is processing, and no key
changes.  The queue stays as it is, but for the count of failures; and what the
worker owed, it has answered, or owes still, or there is a timer for it. -/
lemma Sound.advance {s t : State} {phase : Phase} (hs : Sound s) (hphase : s.phase = phase)
    (events : List Event) (hhistory : t.history = events ++ s.history)
    (hquiet : ∀ e ∈ events, ∀ k, e ≠ .changed k)
    (hqueue : ∃ requeued, t.registry.queue = { s.registry.queue with requeued := requeued })
    (hkey : t.phase.key? = phase.key?) (htimers : s.timers ⊆ t.timers)
    (hset : ∀ k ∈ t.timers, k ∈ s.timers ∨ phase.key? = some k)
    (howes : ∀ k, phase.Owes s.history k →
      answered k t.history = true ∨ k ∈ t.timers ∨ t.phase.Owes t.history k) : Sound t := by
  subst hphase
  obtain ⟨requeued, hqueue⟩ := hqueue
  have hchanged : ∀ {k}, .changed k ∈ s.history → .changed k ∈ t.history := fun hk =>
    hhistory ▸ List.mem_append_right events hk
  refine ⟨?_, ?_, ?_, ?_, ?_, ?_⟩
  · rw [hqueue]
    have hq := hs.consistent
    exact ⟨hq.pending_nodup, hq.dirty_nodup, hq.processing_nodup, hq.mem_pending, hq.dirty_le⟩
  · rw [hqueue, hkey]
    exact hs.processing
  · rw [hqueue]
    exact fun k hk => hchanged (hs.dirty_changed k hk)
  · exact fun k hk => hchanged ((hset k hk).elim (hs.timers_changed k) (hs.phase_changed k))
  · rw [hkey]
    exact fun k hk => hchanged (hs.phase_changed k hk)
  · intro hopen hroom k hk hunanswered
    rw [hqueue] at hopen hroom ⊢
    -- nothing has been changed in between, so what is owed was owed before
    have hearlier : .changed k ∈ s.history := by
      rw [hhistory, List.mem_append] at hk
      exact hk.resolve_left fun he => hquiet _ he k rfl
    have hopenBefore : answered k s.history = false := by
      refine Bool.eq_false_iff.mpr fun hanswered => ?_
      have hstill := answered_append (fun e he => hquiet e he k) hanswered
      rw [← hhistory, hunanswered] at hstill
      cases hstill
    have hroomBefore : (observed s.history).length ≤ s.registry.queue.capacity :=
      (observed_le events s.history).trans (hhistory ▸ hroom)
    obtain hdirty | htimer | howed := hs.kept hopen hroomBefore k hearlier hopenBefore
    · exact .inl hdirty
    · exact .inr (.inl (htimers htimer))
    · exact .inr ((howes k howed).resolve_left (Bool.eq_false_iff.mp hunanswered))

lemma settle_queue (r : Registry) (k : ObjectKey) (state : Option PolicyState) :
    (Reconcile.settle r k state (.ok () : Except ClusterError Unit)).queue = r.queue := by
  rcases state with _ | _ | _
  · rfl
  · rfl
  · exact Registry.forgetDeleted_queue r k

section Worker

variable {s : State} {k : ObjectKey} {state : Option PolicyState}

lemma Sound.read (hs : Sound s) (hphase : s.phase = .taken k) : Sound (s.read k) := by
  refine hs.advance hphase [.read k (s.registry.get? k)] rfl (by simp) ⟨_, rfl⟩ rfl
    (List.Subset.refl _) (fun _ => .inl) ?_
  rintro _ rfl
  exact .inr (.inr ⟨rfl, decide_eq_true rfl⟩)

/-- The end of an attempt answers the change that was read in it. -/
lemma answered_of_isRead {history : List Event} (h : isRead k history = true) :
    answered k (.succeeded k :: history) = true ∧
      answered k (.exhausted k :: history) = true := by
  simp [answered, h]

lemma Sound.succeed (hs : Sound s) (hphase : s.phase = .reconciling k state) :
    Sound (s.succeed k state) := by
  refine hs.advance hphase [.succeeded k] rfl (by simp)
    ⟨s.registry.queue.requeued, settle_queue s.registry k state⟩ rfl
    (List.Subset.refl _) (fun _ => .inl) ?_
  rintro _ ⟨rfl, hread⟩
  exact .inl (answered_of_isRead hread).1

lemma Sound.fail (hs : Sound s) (hphase : s.phase = .reconciling k state) :
    Sound (s.fail k) := by
  refine hs.advance hphase [.failed k] rfl (by simp) ⟨_, rfl⟩ rfl
    (List.Subset.refl _) (fun _ => .inl) ?_
  exact fun _ howed => .inr (.inr howed)

lemma Sound.forget (hs : Sound s) (hphase : s.phase = .succeeded k) : Sound (s.forget k) :=
  hs.advance hphase [] rfl (by simp) ⟨_, rfl⟩ rfl (List.Subset.refl _) (fun _ => .inl)
    fun _ howed => howed.elim

/-- A failed key that is to be tried again is still owed. -/
lemma Sound.retry (hs : Sound s) (hphase : s.phase = .failed k) : Sound (s.retry k) :=
  hs.advance hphase [] rfl (by simp) ⟨_, rfl⟩ rfl (List.Subset.refl _) (fun _ => .inl)
    fun _ howed => .inr (.inr howed.1)

/-- A key that is tried again has a timer. -/
lemma Sound.postpone (hs : Sound s) (hphase : s.phase = .retrying k) :
    Sound (s.postpone k) := by
  refine hs.advance hphase [] rfl (by simp) ⟨_, rfl⟩ rfl (List.subset_cons_self _ _) ?_ ?_
  · intro k' hk'
    obtain rfl | hk' := List.mem_cons.mp hk'
    · exact .inr rfl
    · exact .inl hk'
  · rintro _ rfl
    exact .inr (.inl List.mem_cons_self)

lemma Sound.exhaust (hs : Sound s) (hphase : s.phase = .failed k) : Sound (s.exhaust k) := by
  refine hs.advance hphase [.exhausted k] rfl (by simp) ⟨_, rfl⟩ rfl
    (List.Subset.refl _) (fun _ => .inl) ?_
  rintro _ ⟨rfl, hread⟩
  exact .inl (answered_of_isRead hread).2

lemma Sound.drop (hs : Sound s) (hphase : s.phase = .dropping k) : Sound (s.drop k) :=
  hs.advance hphase [] rfl (by simp) ⟨_, rfl⟩ rfl (List.Subset.refl _) (fun _ => .inl)
    fun _ howed => howed.elim

lemma Sound.giveUp (hs : Sound s) (hphase : s.phase = .givingUp k) : Sound (s.giveUp k) :=
  hs.advance hphase [] rfl (by simp)
    ⟨s.registry.queue.requeued, Registry.forgetDeleted_queue s.registry k⟩ rfl (List.Subset.refl _)
    (fun _ => .inl) fun _ howed => howed.elim

end Worker

/-! ### What happens at the queue -/

/-- A report puts the key that it changes into the queue. -/
lemma Sound.watch {s : State} (hs : Sound s) (w : Report) : Sound (s.watch w) := by
  rw [State.watch, w.take_eq]
  cases hevent : w.event? s.registry with
  | none => exact hs
  | some e =>
      obtain ⟨hnew, hstay, hprocessing, hcapacity, hclosed⟩ :=
        Queue.offer_frame s.registry.queue e.policy.key
      refine ⟨hs.consistent.offer _, fun k => ?_, fun k hk => ?_, fun k hk => ?_,
        fun k hk => ?_, fun hopen hroom k hk hunanswered => ?_⟩
      · exact (congrArg (k ∈ ·) hprocessing).to_iff.trans (hs.processing k)
      · obtain rfl | hk := hnew k hk
        · exact List.mem_cons_self
        · exact List.mem_cons_of_mem _ (hs.dirty_changed k hk)
      · exact List.mem_cons_of_mem _ (hs.timers_changed k hk)
      · exact List.mem_cons_of_mem _ (hs.phase_changed k hk)
      · have hopen : s.registry.queue.closed = false := hclosed.symm.trans hopen
        have hroom : (observed (.changed e.policy.key :: s.history)).length ≤
          s.registry.queue.capacity := hcapacity ▸ hroom
        by_cases hkey : k = e.policy.key
        · subst hkey
          refine .inl (mem_dirty_offer hs.consistent hopen hroom ?_ hk)
          exact fun k' hk' => List.mem_cons_of_mem _ (hs.dirty_changed k' hk')
        · -- the key of another policy is where it has been before
          have hne : e.policy.key ≠ k := Ne.symm hkey
          have hk : .changed k ∈ s.history :=
            (List.mem_cons.mp hk).resolve_left fun heq => hkey (Event.changed.inj heq)
          have hunanswered : answered k s.history = false := by
            simpa [answered, hne] using hunanswered
          have hroom := (observed_le [.changed e.policy.key] s.history).trans hroom
          refine (hs.kept hopen hroom k hk hunanswered).imp (fun hdirty => hstay hdirty)
            (Or.imp_right fun howed => howed.changed hne)

/-- The worker owes the key that it has taken. -/
lemma Sound.next {s : State} (hs : Sound s) (hphase : s.phase = .idle) {k : ObjectKey}
    {q : Queue ObjectKey} (hnext : s.registry.queue.next? = some (k, q)) :
    Sound { s.withQueue q with phase := .taken k } := by
  obtain ⟨-, hcapacity, -, hclosed⟩ := Queue.next?_frame hnext
  have hdirty := hs.consistent.mem_dirty_of_next? hnext
  have hprocessing := Queue.mem_processing_of_next? hnext
  have hfirst := (hs.consistent.next?_mem hnext).1
  have hnone : ∀ k', k' ∉ s.registry.queue.processing := by
    intro k' hk'
    rw [hs.processing k', hphase] at hk'
    cases hk'
  refine ⟨hs.consistent.of_next? hnext, fun k' => ?_, fun k' hk' => ?_, hs.timers_changed,
    fun k' hk' => ?_, fun hopen hroom k' hk' hunanswered => ?_⟩
  · refine (hprocessing k').trans ((or_iff_left (hnone k')).trans ?_)
    exact ⟨fun heq => heq ▸ rfl, fun heq => (Option.some.inj heq).symm⟩
  · exact hs.dirty_changed k' ((hdirty k').mp hk').2
  · obtain rfl : k = k' := Option.some.inj hk'
    exact hs.dirty_changed k hfirst
  · obtain hdue | htimer | howed := hs.kept (hclosed.symm.trans hopen) (hcapacity ▸ hroom) k'
      hk' hunanswered
    · -- what was due is due still, but for the key that is taken, and that one is owed
      by_cases heq : k = k'
      · exact .inr (.inr heq)
      · exact .inl ((hdirty k').mpr ⟨Ne.symm heq, hdue⟩)
    · exact .inr (.inl htimer)
    · rw [hphase] at howed
      exact howed.elim

/-- A key that is done with is owed no longer. -/
lemma Sound.finish {s : State} (hs : Sound s) {k : ObjectKey}
    (hphase : s.phase = .finishing k) : Sound (s.finish k) := by
  obtain ⟨hdirty, -, hcapacity, -, hclosed⟩ := Queue.done_frame s.registry.queue k
  have hkey : s.phase.key? = some k := by rw [hphase]; rfl
  refine ⟨hs.consistent.done ((hs.processing k).mpr hkey), fun k' => ?_, fun k' hk' => ?_,
    hs.timers_changed, fun k' hk' => ?_, fun hopen hroom k' hk' hunanswered => ?_⟩
  · refine (hs.consistent.mem_processing_done k k').trans ?_
    rw [hs.processing k', hkey]
    refine iff_of_false (fun ⟨hne, heq⟩ => hne (Option.some.inj heq).symm) ?_
    exact fun h => by cases h
  · exact hs.dirty_changed k' (hdirty ▸ hk')
  · cases hk'
  · obtain hdue | htimer | howed := hs.kept (hclosed.symm.trans hopen) (hcapacity ▸ hroom) k'
      hk' hunanswered
    · exact .inl (hdirty.symm ▸ hdue)
    · exact .inr (.inl htimer)
    · rw [hphase] at howed
      exact howed.elim

/-- A timer puts its key into the queue. -/
lemma Sound.fire {s : State} (hs : Sound s) {k : ObjectKey} (hk : k ∈ s.timers) :
    Sound (s.fire k) := by
  obtain ⟨hnew, hstay, hprocessing, hcapacity, hclosed⟩ :=
    Queue.offer_frame s.registry.queue k
  have hchanged := hs.timers_changed k hk
  refine ⟨hs.consistent.offer k, fun k' => ?_, fun k' hk' => ?_, fun k' hk' => ?_,
    hs.phase_changed, fun hopen hroom k' hk' hunanswered => ?_⟩
  · exact (congrArg (k' ∈ ·) hprocessing).to_iff.trans (hs.processing k')
  · obtain rfl | hk' := hnew k' hk'
    · exact hchanged
    · exact hs.dirty_changed k' hk'
  · exact hs.timers_changed k' (List.mem_of_mem_erase hk')
  · have hstillOpen : s.registry.queue.closed = false := hclosed.symm.trans hopen
    have hstillRoom : (observed s.history).length ≤ s.registry.queue.capacity :=
      hcapacity ▸ hroom
    obtain hdue | htimer | howed := hs.kept hstillOpen hstillRoom k' hk' hunanswered
    · exact .inl (hstay hdue)
    · -- a timer that is over has put its key into the queue
      by_cases heq : k' = k
      · obtain rfl := heq
        exact .inl (mem_dirty_offer hs.consistent hstillOpen hstillRoom hs.dirty_changed
          hchanged)
      · exact .inr (.inl ((List.mem_erase_of_ne heq).mpr htimer))
    · exact .inr (.inr howed)

lemma Sound.shutdown {s : State} (hs : Sound s) : Sound s.shutdown :=
  ⟨hs.consistent.shutdown, hs.processing, hs.dirty_changed, hs.timers_changed,
    hs.phase_changed, fun hopen => by cases hopen⟩

/-! ### Runs -/

/-- **Every step keeps the invariant.** -/
theorem Sound.of_step {s t : State} (hs : Sound s) (hst : Step s t) : Sound t := by
  cases hst with
  | watch w => exact hs.watch w
  | next hphase hnext => exact hs.next hphase hnext
  | read hphase => exact hs.read hphase
  | succeed hphase => exact hs.succeed hphase
  | fail hphase => exact hs.fail hphase
  | forget hphase => exact hs.forget hphase
  | retry hphase => exact hs.retry hphase
  | postpone hphase => exact hs.postpone hphase
  | exhaust hphase => exact hs.exhaust hphase
  | drop hphase => exact hs.drop hphase
  | giveUp hphase => exact hs.giveUp hphase
  | finish hphase => exact hs.finish hphase
  | fire htimer => exact hs.fire htimer
  | shutdown => exact hs.shutdown

/-- No step changes the capacity. -/
lemma capacity_of_step {s t : State} (hst : Step s t) :
    t.registry.queue.capacity = s.registry.queue.capacity := by
  cases hst with
  | watch w =>
      rw [State.watch, w.take_eq]
      cases w.event? s.registry with
      | none => rfl
      | some e => exact (Queue.offer_frame _ _).2.2.2.1
  | next hphase hnext => exact (Queue.next?_frame hnext).2.1
  | @succeed k state hphase => exact congrArg Queue.capacity (settle_queue _ k state)
  | @giveUp k hphase => exact congrArg Queue.capacity (Registry.forgetDeleted_queue _ k)
  | @finish k hphase => exact (Queue.done_frame _ k).2.2.1
  | @fire k htimer => exact (Queue.offer_frame _ k).2.2.2.1
  | read | fail | forget | retry | postpone | exhaust | drop | shutdown => rfl

/-- Every reachable state is sound, and has the capacity that the queue was made
with. -/
lemma Reachable.sound {capacity : Nat} {backoff : Backoff} {s : State}
    (h : Reachable capacity backoff s) : Sound s ∧ s.registry.queue.capacity = capacity := by
  induction h with
  | start => exact ⟨sound_start capacity backoff, rfl⟩
  | step _ hst ih => exact ⟨ih.1.of_step hst, (capacity_of_step hst).trans ih.2⟩

/-- **No change is lost.**  In every state that can be reached, as long as the queue
is open and its capacity is at least the number of keys that have ever been
observed, a key whose latest change has not been answered waits in the queue, is
the one that the worker is at, or has a timer. -/
theorem Reachable.delivers {capacity : Nat} {backoff : Backoff} {s : State}
    (h : Reachable capacity backoff s) (hopen : s.registry.queue.closed = false)
    (hroom : (observed s.history).length ≤ capacity) {k : ObjectKey}
    (hchanged : .changed k ∈ s.history) (hunanswered : answered k s.history = false) :
    k ∈ s.registry.queue.pending ∨ s.phase.key? = some k ∨ k ∈ s.timers := by
  obtain ⟨hs, hcapacity⟩ := h.sound
  obtain hdue | htimer | howed := hs.kept hopen (hcapacity.symm ▸ hroom) k hchanged hunanswered
  · -- a key that is due waits, unless it is held back for the worker that is at it
    by_cases hprocessing : k ∈ s.registry.queue.processing
    · exact .inr (.inl ((hs.processing k).mp hprocessing))
    · exact .inl ((hs.consistent.mem_pending k).mpr ⟨hdue, hprocessing⟩)
  · exact .inr (.inr htimer)
  · exact .inr (.inl howed.key?)

/-- A policy. -/
def early : Policy where
  name := some "web-policy"
  «namespace» := some "monitoring"
  version := some "1"

/-- The policy with a later version. -/
def late : Policy := { early with version := some "2" }

/-- While the worker fails with a policy, its deletion is reported: the key has a
timer, and waits as well. -/
theorem delivers_late : ∃ s, Reachable 1 {} s ∧ s.registry.queue.closed = false
    ∧ (observed s.history).length ≤ 1 ∧ .changed early.key ∈ s.history
    ∧ answered early.key s.history = false ∧ s.timers = [early.key]
    ∧ (early.key ∈ s.registry.queue.pending ∨ s.phase.key? = some early.key ∨
      early.key ∈ s.timers) := by
  have hstart : Reachable 1 {} _ := .start
  have hread := ((hstart.step (.watch _ (.applied early))).step (.next rfl rfl)).step (.read rfl)
  have hfailed := ((hread.step (.watch _ (.applied late))).step
    (.watch _ (.deleted early.key))).step (.fail rfl)
  have hdone := ((hfailed.step (.retry rfl (by decide))).step (.postpone rfl)).step (.finish rfl)
  exact ⟨_, hdone, by decide, by decide, by decide, by decide, by decide,
    hdone.delivers (by decide) (by decide) (by decide) (by decide)⟩

end SidecarPolicy.Worker
