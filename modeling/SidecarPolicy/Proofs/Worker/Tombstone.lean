/-
When a deleted policy leaves the registry.

A deleted policy is kept for the sake of its clean-up.  It gives way to a policy that is
applied again; it is given up when it has been cleaned up; and it is given up when its key
is dropped.  The limit of retries is one of the key: failures from before the deletion
count, so that a deleted policy can be given up after its first clean-up has failed.

* `Worker.get?_of_step`: what a step can do to the state of a key;
* `Worker.failedCleanups`, `Worker.exists_dropped`: how often a clean-up has failed, and a
  policy that is dropped after its first;
* `Worker.Reachable.tombstone_leaves`: **the three reasons for which a deleted policy
  leaves**;
* `Worker.given_up_early`: its clean-up need not have failed as often as its key.
-/
import SidecarPolicy.Proofs.Worker.Attempts

namespace SidecarPolicy.Worker

/-! ### What a step does to the state of a key -/

/-- An event is reported if a policy is applied, or if one that is live is deleted. -/
lemma Report.event?_cases {w : Report} {r : Registry} {e : PolicyEvent}
    (h : w.event? r = some e) :
    (∃ p, w = .applied p ∧ e.policy = p ∧ e.state = .live p) ∨
      ∃ k p, w = .deleted k ∧ r.get? k = some (.live p) ∧ e = .deleted p := by
  cases w with
  | applied p =>
      left
      rw [event?] at h
      rcases hst : r.get? p.key with _ | old | old
      · obtain rfl : .created p = e := by simpa [hst] using h
        exact ⟨p, rfl, rfl, rfl⟩
      · cases hreplay : Registry.isReplay old p with
        | true => simp [hst, hreplay] at h
        | false =>
            obtain rfl : .updated old p = e := by simpa [hst, hreplay] using h
            exact ⟨p, rfl, rfl, rfl⟩
      · obtain rfl : .created p = e := by simpa [hst] using h
        exact ⟨p, rfl, rfl, rfl⟩
  | deleted k =>
      right
      rw [event?] at h
      rcases hst : r.get? k with _ | p | p
      · simp [hst] at h
      · obtain rfl : .deleted p = e := by simpa [hst] using h
        exact ⟨k, p, rfl, hst, rfl⟩
      · simp [hst] at h

/-- A step leaves the state of a key alone, unless the watch reports an event of the key,
or the worker has cleaned up a deleted policy of the key, or drops the key. -/
lemma get?_of_step {s t : State} (hst : Step s t) (k : ObjectKey) :
    t.registry.get? k = s.registry.get? k ∨
      (∃ w e, t = s.watch w ∧ w.event? s.registry = some e ∧ e.policy.key = k ∧
        t.registry.get? k = some e.state) ∨
      (∃ q, s.phase = .reconciling k (some (.deleted q)) ∧
        t = s.succeed k (some (.deleted q))) ∨
      (s.phase = .givingUp k ∧ t = s.giveUp k) := by
  cases hst with
  | watch w =>
      rw [State.watch, w.take_eq]
      cases hevent : w.event? s.registry with
      | none => exact .inl rfl
      | some e =>
          by_cases hk : k = e.policy.key
          · subst hk
            refine .inr (.inl ⟨w, e, ?_, hevent, rfl, Registry.get?_observe_self _ e⟩)
            rw [State.watch, w.take_eq, hevent]
          · exact .inl (Registry.get?_observe_of_ne hk)
  | @succeed k' state hphase =>
      obtain _ | _ | q := state
      · exact .inl rfl
      · exact .inl rfl
      · by_cases hk : k = k'
        · subst hk
          exact .inr (.inr (.inl ⟨q, hphase, rfl⟩))
        · exact .inl (Registry.get?_forgetDeleted_of_ne hk)
  | @giveUp k' hphase =>
      by_cases hk : k = k'
      · subst hk
        exact .inr (.inr (.inr ⟨hphase, rfl⟩))
      · exact .inl (Registry.get?_forgetDeleted_of_ne hk)
  | next | read | fail | forget | retry | postpone | exhaust | drop | finish | fire | shutdown =>
      exact .inl rfl

/-! ### Failed clean-ups -/

/-- How often the worker has failed to clean up a deleted policy. -/
def failedCleanups (k : ObjectKey) (p : Policy) : List Event → Nat
  | [] => 0
  | .failed k' :: earlier =>
      failedCleanups k p earlier +
        if k' = k ∧ lastRead earlier = some (.deleted p) then 1 else 0
  | _ :: earlier => failedCleanups k p earlier

/-- The worker has failed with a live policy so many times, and its key waits again. -/
def strained (n : Nat) : State where
  registry := {
    policies := KeyMap.empty.insert early.key (.live early)
    queue := {
      pending := [early.key]
      dirty := [early.key]
      requeued := List.replicate n early.key } }
  history := (List.replicate n
    [.failed early.key, .read early.key (some (.live early))]).flatten ++ [.changed early.key]

/-- The worker can fail as often as it tries again, and the key waits once more. -/
lemma reachable_strained : ∀ n ≤ Reconcile.maxRequeues, Reachable 16 {} (strained n)
  | 0, _ => .step .start (.watch _ (.applied early))
  | n + 1, hn => by
      have hstrained := reachable_strained n (Nat.le_of_succ_le hn)
      have hcount : (strained n).registry.queue.requeues early.key < Reconcile.maxRequeues := by
        rw [strained, Queue.requeues, List.count_replicate_self]
        exact hn
      have hfailed := ((hstrained.step (.next rfl rfl)).step (.read rfl)).step (.fail rfl)
      have hdone := ((hfailed.step (.retry rfl hcount)).step (.postpone rfl)).step (.finish rfl)
      exact hdone.step (.fire List.mem_cons_self)

/-- A policy with which the worker has failed as often as it tries again is deleted.  The
first clean-up fails, the key is dropped, and so the policy is going to be given up. -/
lemma exists_dropped : ∃ s, Reachable 16 {} s ∧ s.phase = .givingUp early.key ∧
    s.registry.get? early.key = some (.deleted early) ∧
    (s.giveUp early.key).registry.get? early.key = none ∧
    failedCleanups early.key early s.history = 1 := by
  have hstrained := reachable_strained Reconcile.maxRequeues le_rfl
  have hread := ((hstrained.step (.watch _ (.deleted early.key))).step (.next rfl rfl)).step
    (.read rfl)
  have hdropped := ((hread.step (.fail rfl)).step (.exhaust rfl (by decide))).step (.drop rfl)
  exact ⟨_, hdropped, rfl, rfl, rfl, by decide⟩

/-! ### The end of a deleted policy -/

/-- **A deleted policy leaves for one of three reasons.**  The policy is applied again; or
the clean-up of a deleted policy of its key has succeeded, and of this one, unless it was
changed since it was read; or its key is dropped, after the worker has failed with the key
more often than it tries again. -/
theorem Reachable.tombstone_leaves {capacity : Nat} {backoff : Backoff} {s t : State}
    (h : Reachable capacity backoff s) (hst : Step s t) {k : ObjectKey} {p : Policy}
    (hdeleted : s.registry.get? k = some (.deleted p))
    (hleaves : t.registry.get? k ≠ some (.deleted p)) :
    (∃ p', p'.key = k ∧ t = s.watch (.applied p') ∧ t.registry.get? k = some (.live p')) ∨
      (∃ q, s.phase = .reconciling k (some (.deleted q)) ∧
        t = s.succeed k (some (.deleted q)) ∧ (isRead k s.history = true → q = p)) ∨
      (s.phase = .givingUp k ∧ t = s.giveUp k ∧ Exhausted k s.history) := by
  have hs := h.tracked
  obtain hsame | ⟨w, e, rfl, hevent, hk, hstate⟩ | ⟨q, hphase, rfl⟩ | ⟨hphase, rfl⟩ :=
    get?_of_step hst k
  · exact absurd (hsame.trans hdeleted) hleaves
  · obtain ⟨p', rfl, rfl, hlive⟩ | ⟨k', p', rfl, hlive, rfl⟩ := Report.event?_cases hevent
    · exact .inl ⟨e.policy, hk, rfl, hlive ▸ hstate⟩
    · -- only what is live is deleted, and the policy of this key is not
      have hkey : p'.key = k' := hs.keyed hlive
      rw [← hkey, show p'.key = k from hk, hdeleted] at hlive
      cases hlive
  · refine .inr (.inl ⟨q, hphase, rfl, fun hread => ?_⟩)
    have hcurrent := hs.current hdeleted hread
    rw [hs.reading hphase] at hcurrent
    exact PolicyState.deleted.inj (Option.some.inj hcurrent)
  · exact .inr (.inr ⟨hphase, rfl, hs.exhausted (hphase ▸ rfl)⟩)

/-- A deleted policy leaves because its key is dropped. -/
theorem tombstone_leaves_dropped : ∃ s t, Reachable 16 {} s ∧ Step s t ∧
    s.registry.get? early.key = some (.deleted early) ∧ t.registry.get? early.key = none ∧
    Exhausted early.key s.history := by
  obtain ⟨s, hs, hphase, hdeleted, hgone, -⟩ := exists_dropped
  refine ⟨s, _, hs, .giveUp hphase, hdeleted, hgone, ?_⟩
  obtain ⟨p, -, -, hlive⟩ | ⟨q, hreconciling, -⟩ | ⟨-, -, hexhausted⟩ :=
    hs.tombstone_leaves (.giveUp hphase) hdeleted fun hstays => by cases hgone.symm.trans hstays
  · cases hgone.symm.trans hlive
  · cases hphase.symm.trans hreconciling
  · exact hexhausted

/-- **A deleted policy can be given up early**: it is not so that a deleted policy leaves
only if it is applied again, if its clean-up has succeeded, or if its clean-up has failed
more often than the worker tries again. -/
theorem given_up_early :
    ¬ ∀ (capacity : Nat) (backoff : Backoff) (s t : State) (k : ObjectKey) (p : Policy),
      Reachable capacity backoff s → Step s t → s.registry.get? k = some (.deleted p) →
        t.registry.get? k ≠ some (.deleted p) →
          (∃ p', p'.key = k ∧ t = s.watch (.applied p')) ∨
            (s.phase = .reconciling k (some (.deleted p)) ∧
              t = s.succeed k (some (.deleted p))) ∨
            Reconcile.maxRequeues + 1 ≤ failedCleanups k p s.history := by
  intro honly
  obtain ⟨s, hs, hphase, hdeleted, hgone, hfailed⟩ := exists_dropped
  obtain ⟨p, -, hwatch⟩ | ⟨hreconciling, -⟩ | hcount :=
    honly 16 {} s _ early.key early hs (.giveUp hphase) hdeleted
      fun hstays => by cases hgone.symm.trans hstays
  · -- the watch does not move the worker on
    have hstill : s.phase = .finishing early.key := (congrArg State.phase hwatch).symm
    cases hphase.symm.trans hstill
  · cases hphase.symm.trans hreconciling
  · rw [hfailed] at hcount
    exact absurd hcount (by decide)

end SidecarPolicy.Worker
