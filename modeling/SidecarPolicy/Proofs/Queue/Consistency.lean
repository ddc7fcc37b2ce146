/-
The three collections of a queue in step with each other.

A key that must be processed either waits or is being processed; it is listed
in `dirty` in both cases, and in `pending` only in the first.  Every operation
keeps it so, provided that only keys that are handed out are marked as done.

* `Queue.Consistent`: no collection names a key twice, `pending` is `dirty`
  without `processing`, and `dirty` is within the capacity;
* `Queue.add_eq_ok`, `Queue.next?_eq_some`: what it means that a key is
  accepted, and that a key is handed out;
* `Queue.Consistent.of_add`, `Queue.Consistent.of_next?`,
  `Queue.Consistent.done`: the operations on the way of a key keep a queue
  consistent.
-/
import Mathlib.Data.List.Nodup
import Mathlib.Tactic
import SidecarPolicy.Queue.Basic

namespace SidecarPolicy.Queue

variable {κ : Type}

/-- The collections of the queue are in step: each names a key at most once,
the keys that wait are those that are due and not being processed, and no more
keys are due than the capacity allows. -/
structure Consistent (q : Queue κ) : Prop where
  pending_nodup : q.pending.Nodup
  dirty_nodup : q.dirty.Nodup
  processing_nodup : q.processing.Nodup
  mem_pending : ∀ k, k ∈ q.pending ↔ k ∈ q.dirty ∧ k ∉ q.processing
  dirty_le : q.dirty.length ≤ q.capacity

lemma consistent_empty (capacity : Nat) (backoff : Backoff) :
    Consistent ({ capacity, backoff } : Queue κ) where
  pending_nodup := List.nodup_nil
  dirty_nodup := List.nodup_nil
  processing_nodup := List.nodup_nil
  mem_pending k := by simp
  dirty_le := Nat.zero_le _

/-- The keys that wait are among the keys that are due, so they are within the
capacity too. -/
lemma Consistent.pending_le {q : Queue κ} (h : q.Consistent) :
    q.pending.length ≤ q.capacity := by
  have hsub : q.pending ⊆ q.dirty := fun k hk => ((h.mem_pending k).mp hk).1
  have hle : q.pending.length ≤ q.dirty.length :=
    (List.subperm_of_subset h.pending_nodup hsub).length_le
  exact hle.trans h.dirty_le

lemma Consistent.shutdown {q : Queue κ} (hq : q.Consistent) : q.shutdown.Consistent :=
  ⟨hq.pending_nodup, hq.dirty_nodup, hq.processing_nodup, hq.mem_pending, hq.dirty_le⟩

variable [DecidableEq κ]

/-! ### Accepting a key -/

/-- A queue that accepts a key has it due already, or has room for it. -/
lemma add_eq_ok {q q' : Queue κ} {k : κ} :
    q.add k = .ok q' ↔ q.closed = false ∧
      (k ∈ q.dirty ∧ q' = q ∨
        k ∉ q.dirty ∧ q.dirty.length < q.capacity ∧
          q' = { q with
            dirty := k :: q.dirty
            pending := if k ∈ q.processing then q.pending else q.pending ++ [k] }) := by
  rw [add]
  by_cases hclosed : q.closed
  · simp [hclosed]
  by_cases hdirty : k ∈ q.dirty
  · simp [hclosed, hdirty, eq_comm]
  by_cases hfull : q.capacity ≤ q.dirty.length
  · simp [hclosed, hdirty, hfull, Nat.not_lt.mpr hfull]
  · have hroom := Nat.not_le.mp hfull
    by_cases hprocessing : k ∈ q.processing <;>
      simp [hclosed, hdirty, hfull, hroom, hprocessing, eq_comm]

lemma exists_add_eq_ok {q : Queue κ} {k : κ} (hclosed : q.closed = false)
    (hroom : k ∉ q.dirty → q.dirty.length < q.capacity) : ∃ q', q.add k = .ok q' := by
  by_cases hk : k ∈ q.dirty
  · exact ⟨q, add_eq_ok.mpr ⟨hclosed, .inl ⟨hk, rfl⟩⟩⟩
  · exact ⟨_, add_eq_ok.mpr ⟨hclosed, .inr ⟨hk, hroom hk, rfl⟩⟩⟩

/-- Accepting a key changes neither which keys are handed out, nor the failures,
nor the bound. -/
lemma add_frame {q q' : Queue κ} {k : κ} (h : q.add k = .ok q') :
    q'.processing = q.processing ∧ q'.requeued = q.requeued ∧ q'.capacity = q.capacity ∧
      q'.backoff = q.backoff ∧ q'.closed = q.closed := by
  obtain ⟨-, ⟨-, rfl⟩ | ⟨-, -, rfl⟩⟩ := add_eq_ok.mp h <;> exact ⟨rfl, rfl, rfl, rfl, rfl⟩

/-- An accepted key is due, and the others are due as before. -/
lemma mem_dirty_of_add {q q' : Queue κ} {k : κ} (h : q.add k = .ok q') (k' : κ) :
    k' ∈ q'.dirty ↔ k' = k ∨ k' ∈ q.dirty := by
  obtain ⟨-, ⟨hk, rfl⟩ | ⟨-, -, rfl⟩⟩ := add_eq_ok.mp h
  · refine ⟨Or.inr, ?_⟩
    rintro (rfl | hk')
    · exact hk
    · exact hk'
  · exact List.mem_cons

/-- Accepting a key keeps a queue consistent. -/
lemma Consistent.of_add {q q' : Queue κ} {k : κ} (hq : q.Consistent)
    (h : q.add k = .ok q') : q'.Consistent := by
  obtain ⟨-, ⟨-, rfl⟩ | ⟨hk, hroom, rfl⟩⟩ := add_eq_ok.mp h
  · exact hq
  · have hnew : k ∉ q.pending := fun hmem => hk ((hq.mem_pending k).mp hmem).1
    by_cases hprocessing : k ∈ q.processing
    · rw [if_pos hprocessing]
      refine ⟨hq.pending_nodup, List.nodup_cons.mpr ⟨hk, hq.dirty_nodup⟩,
        hq.processing_nodup, fun k' => ?_, hroom⟩
      -- the new key is due, but it is handed out, so it does not wait
      rw [hq.mem_pending k', List.mem_cons]
      constructor
      · exact fun ⟨hd, hp⟩ => ⟨.inr hd, hp⟩
      · rintro ⟨rfl | hd, hp⟩
        · exact absurd hprocessing hp
        · exact ⟨hd, hp⟩
    · rw [if_neg hprocessing]
      refine ⟨List.nodup_append'.mpr ⟨hq.pending_nodup, List.nodup_singleton k, ?_⟩,
        List.nodup_cons.mpr ⟨hk, hq.dirty_nodup⟩, hq.processing_nodup, fun k' => ?_, hroom⟩
      · exact List.disjoint_singleton.mpr hnew
      · rw [List.mem_append, List.mem_singleton, hq.mem_pending k', List.mem_cons]
        constructor
        · rintro (⟨hd, hp⟩ | rfl)
          · exact ⟨.inr hd, hp⟩
          · exact ⟨.inl rfl, hprocessing⟩
        · rintro ⟨rfl | hd, hp⟩
          · exact .inr rfl
          · exact .inl ⟨hd, hp⟩

/-- Offering a key adds at most this key to those that are due, and changes
neither which keys are handed out, nor the bound. -/
lemma offer_frame (q : Queue κ) (k : κ) :
    (∀ k' ∈ (q.offer k).dirty, k' = k ∨ k' ∈ q.dirty) ∧ q.dirty ⊆ (q.offer k).dirty ∧
      (q.offer k).processing = q.processing ∧ (q.offer k).capacity = q.capacity ∧
      (q.offer k).closed = q.closed := by
  rw [offer]
  cases hadd : q.add k with
  | error reason => exact ⟨fun _ => .inr, List.Subset.refl _, rfl, rfl, rfl⟩
  | ok q' =>
      obtain ⟨hprocessing, -, hcapacity, -, hclosed⟩ := add_frame hadd
      have hdirty := mem_dirty_of_add hadd
      exact ⟨fun k' => (hdirty k').mp, fun k' hk' => (hdirty k').mpr (.inr hk'),
        hprocessing, hcapacity, hclosed⟩

lemma offer_requeued (q : Queue κ) (k : κ) : (q.offer k).requeued = q.requeued := by
  rw [offer]
  cases hadd : q.add k with
  | error reason => rfl
  | ok q' => exact (add_frame hadd).2.1

lemma offer_backoff (q : Queue κ) (k : κ) : (q.offer k).backoff = q.backoff := by
  rw [offer]
  cases hadd : q.add k with
  | error reason => rfl
  | ok q' => exact (add_frame hadd).2.2.2.1

/-- Offering a key keeps a queue consistent, be it accepted or not. -/
lemma Consistent.offer {q : Queue κ} (hq : q.Consistent) (k : κ) : (q.offer k).Consistent := by
  rw [Queue.offer]
  cases hadd : q.add k with
  | error reason => exact hq
  | ok q' => exact hq.of_add hadd

/-! ### Handing a key out -/

/-- The key that is handed out is the first of those that wait; it is due no
longer, and being processed. -/
lemma next?_eq_some {q q' : Queue κ} {k : κ} :
    q.next? = some (k, q') ↔ ∃ rest, q.pending = k :: rest ∧
      q' = { q with
        pending := rest
        dirty := q.dirty.erase k
        processing := q.processing.insert k } := by
  rw [next?]
  cases hpending : q.pending with
  | nil => simp
  | cons k₀ rest =>
      simp only [Option.some.injEq, Prod.mk.injEq, List.cons.injEq]
      constructor
      · rintro ⟨rfl, rfl⟩
        exact ⟨rest, ⟨rfl, rfl⟩, rfl⟩
      · rintro ⟨_, ⟨rfl, rfl⟩, rfl⟩
        exact ⟨rfl, rfl⟩

lemma next?_eq_none {q : Queue κ} : q.next? = none ↔ q.pending = [] := by
  rw [next?]
  cases q.pending <;> simp

lemma next?_frame {q q' : Queue κ} {k : κ} (h : q.next? = some (k, q')) :
    q'.requeued = q.requeued ∧ q'.capacity = q.capacity ∧ q'.backoff = q.backoff ∧
      q'.closed = q.closed := by
  obtain ⟨rest, -, rfl⟩ := next?_eq_some.mp h
  exact ⟨rfl, rfl, rfl, rfl⟩

/-- A key is handed out only if it is due and nobody holds it. -/
lemma Consistent.next?_mem {q q' : Queue κ} {k : κ} (hq : q.Consistent)
    (h : q.next? = some (k, q')) : k ∈ q.dirty ∧ k ∉ q.processing := by
  obtain ⟨rest, hpending, -⟩ := next?_eq_some.mp h
  exact (hq.mem_pending k).mp (hpending ▸ List.mem_cons_self)

/-- A key that is handed out is due no longer; the others are due as before. -/
lemma Consistent.mem_dirty_of_next? {q q' : Queue κ} {k : κ} (hq : q.Consistent)
    (h : q.next? = some (k, q')) (k' : κ) : k' ∈ q'.dirty ↔ k' ≠ k ∧ k' ∈ q.dirty := by
  obtain ⟨rest, -, rfl⟩ := next?_eq_some.mp h
  exact hq.dirty_nodup.mem_erase_iff

/-- A key that is handed out is being processed, beside those that were. -/
lemma mem_processing_of_next? {q q' : Queue κ} {k : κ} (h : q.next? = some (k, q'))
    (k' : κ) : k' ∈ q'.processing ↔ k' = k ∨ k' ∈ q.processing := by
  obtain ⟨rest, -, rfl⟩ := next?_eq_some.mp h
  exact List.mem_insert_iff

/-- Handing a key out keeps a queue consistent. -/
lemma Consistent.of_next? {q q' : Queue κ} {k : κ} (hq : q.Consistent)
    (h : q.next? = some (k, q')) : q'.Consistent := by
  obtain ⟨hk, hfree⟩ := hq.next?_mem h
  have hdirty := hq.mem_dirty_of_next? h
  have hprocessing := mem_processing_of_next? h
  obtain ⟨rest, hpending, rfl⟩ := next?_eq_some.mp h
  have hnodup : (k :: rest).Nodup := hpending ▸ hq.pending_nodup
  obtain ⟨hfirst, hrest⟩ := List.nodup_cons.mp hnodup
  refine ⟨hrest, hq.dirty_nodup.erase k, hq.processing_nodup.insert, fun k' => ?_, ?_⟩
  · have hmem : k' ∈ k :: rest ↔ k' ∈ q.dirty ∧ k' ∉ q.processing :=
      hpending ▸ hq.mem_pending k'
    rw [List.mem_cons] at hmem
    rw [hdirty k', hprocessing k', not_or]
    constructor
    · intro hk'
      have hne : k' ≠ k := fun heq => hfirst (heq ▸ hk')
      exact ⟨⟨hne, (hmem.mp (.inr hk')).1⟩, hne, (hmem.mp (.inr hk')).2⟩
    · rintro ⟨⟨hne, hd⟩, -, hp⟩
      exact (hmem.mpr ⟨hd, hp⟩).resolve_left hne
  · exact (List.erase_sublist.length_le).trans hq.dirty_le

/-! ### Giving a key back -/

/-- Giving a key back changes neither which keys are due, nor the failures, nor
the bound. -/
lemma done_frame (q : Queue κ) (k : κ) :
    (q.done k).dirty = q.dirty ∧ (q.done k).requeued = q.requeued ∧
      (q.done k).capacity = q.capacity ∧ (q.done k).backoff = q.backoff ∧
      (q.done k).closed = q.closed := by
  rw [done]
  split_ifs <;> exact ⟨rfl, rfl, rfl, rfl, rfl⟩

lemma pending_done {q : Queue κ} {k : κ} (hk : k ∈ q.dirty) :
    (q.done k).pending = q.pending ++ [k] := by
  rw [done, if_pos hk]

/-- A key that is given back is not being processed; the others are as before. -/
lemma Consistent.mem_processing_done {q : Queue κ} (hq : q.Consistent) (k k' : κ) :
    k' ∈ (q.done k).processing ↔ k' ≠ k ∧ k' ∈ q.processing := by
  rw [done]
  split_ifs <;> exact hq.processing_nodup.mem_erase_iff

/-- Giving back a key that is handed out keeps a queue consistent: if it is due
again, it waits from now on. -/
lemma Consistent.done {q : Queue κ} {k : κ} (hq : q.Consistent) (hk : k ∈ q.processing) :
    (q.done k).Consistent := by
  have hprocessing := hq.mem_processing_done k
  have hnew : k ∉ q.pending := fun hmem => ((hq.mem_pending k).mp hmem).2 hk
  rw [Queue.done] at hprocessing ⊢
  -- a key that is due again has not waited as long as it was handed out
  split_ifs at hprocessing ⊢ with hdirty
  · refine ⟨List.nodup_append'.mpr ⟨hq.pending_nodup, List.nodup_singleton k, ?_⟩,
      hq.dirty_nodup, hq.processing_nodup.erase k, fun k' => ?_, hq.dirty_le⟩
    · exact List.disjoint_singleton.mpr hnew
    · rw [hprocessing k', List.mem_append, List.mem_singleton, hq.mem_pending k']
      by_cases heq : k' = k
      · subst heq
        simp [show k' ∈ q.dirty from hdirty]
      · simp [heq]
  · refine ⟨hq.pending_nodup, hq.dirty_nodup, hq.processing_nodup.erase k, fun k' => ?_,
      hq.dirty_le⟩
    rw [hprocessing k', hq.mem_pending k']
    by_cases heq : k' = k
    · subst heq
      simp [show k' ∉ q.dirty from hdirty]
    · simp [heq]

/-! ### Failures -/

lemma Consistent.addRateLimited {q : Queue κ} (hq : q.Consistent) (k : κ) :
    (q.addRateLimited k).2.Consistent :=
  ⟨hq.pending_nodup, hq.dirty_nodup, hq.processing_nodup, hq.mem_pending, hq.dirty_le⟩

lemma Consistent.forget {q : Queue κ} (hq : q.Consistent) (k : κ) :
    (q.forget k).Consistent :=
  ⟨hq.pending_nodup, hq.dirty_nodup, hq.processing_nodup, hq.mem_pending, hq.dirty_le⟩

lemma requeues_addRateLimited_eq (q : Queue κ) (k k' : κ) :
    (q.addRateLimited k).2.requeues k' = q.requeues k' + if k = k' then 1 else 0 := by
  simp [requeues, addRateLimited, List.count_cons]

lemma requeues_offer (q : Queue κ) (k k' : κ) : (q.offer k).requeues k' = q.requeues k' := by
  rw [requeues, offer_requeued, requeues]

lemma requeues_next? {q q' : Queue κ} {k : κ} (h : q.next? = some (k, q')) (k' : κ) :
    q'.requeues k' = q.requeues k' := by
  rw [requeues, (next?_frame h).1, requeues]

lemma requeues_done (q : Queue κ) (k k' : κ) : (q.done k).requeues k' = q.requeues k' := by
  rw [requeues, (done_frame q k).2.1, requeues]

lemma requeues_forget (q : Queue κ) (k k' : κ) :
    (q.forget k).requeues k' = if k = k' then 0 else q.requeues k' := by
  by_cases hk : k = k'
  · subst hk
    rw [if_pos rfl, requeues_forget_self]
  · rw [if_neg hk, requeues, forget, List.count_filter (by simpa using Ne.symm hk), requeues]

end SidecarPolicy.Queue
