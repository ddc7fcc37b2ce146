/-
Keys that are marked as done although nobody is at them.

A queue does not look whether a key that is marked as done is being processed.  If the key is
not due, nothing happens.  If it is, it waits already, and now it waits once more: it will be
handed out twice, the second time while the first worker is still at it.

* `Queue.Request`, `Queue.serve`: what may be asked of a queue, and what it does;
* `Queue.after`, `Queue.handed`: the queue after some requests, and the keys that they are
  handed;
* `Queue.Attentive`, `Queue.attentive_after`: keys that are due and not being processed wait,
  **whatever is asked of the queue**;
* `Queue.tolerates`, `Queue.Consistent.after`: requests of which a stray one meets no key that
  is due keep the queue consistent;
* `Queue.stray_done`: **to mark a key as done that nobody is at does no harm exactly if the key
  is not due**;
* `Queue.not_harmless`: it does harm to a key that waits.
-/
import SidecarPolicy.Proofs.Queue.Consistency

namespace SidecarPolicy.Queue

variable {κ : Type}

/-! ### Requests -/

/-- What may be asked of a queue.  A timer that is over adds its key like anybody else. -/
inductive Request (κ : Type) where
  | add (k : κ)
  | addRateLimited (k : κ)
  | next
  | done (k : κ)
  | forget (k : κ)
  | shutdown
  deriving DecidableEq, Repr

variable [DecidableEq κ]

/-- The key that a request is handed, if any, and the queue afterwards. -/
def serve (q : Queue κ) : Request κ → Option κ × Queue κ
  | .add k => (none, q.offer k)
  | .addRateLimited k => (none, (q.addRateLimited k).2)
  | .next =>
      match q.next? with
      | some (k, q') => (some k, q')
      | none => (none, q)
  | .done k => (none, q.done k)
  | .forget k => (none, q.forget k)
  | .shutdown => (none, q.shutdown)

def after (q : Queue κ) (rs : List (Request κ)) : Queue κ :=
  rs.foldl (fun q r => (q.serve r).2) q

/-- The keys that are handed out upon some requests. -/
def handed : Queue κ → List (Request κ) → List κ
  | _, [] => []
  | q, r :: rs => (q.serve r).1.toList ++ handed (q.serve r).2 rs

/-- The keys that are handed out are those that have waited longest. -/
lemma handed_nexts (q : Queue κ) (n : Nat) :
    q.handed (List.replicate n .next) = q.pending.take n := by
  induction n generalizing q with
  | zero => rfl
  | succ n ih =>
      rw [List.replicate_succ, handed, ih, serve, next?]
      cases hpending : q.pending with
      | nil => simp [hpending]
      | cons k rest => rfl

/-- When some keys have been handed out, the others wait. -/
lemma pending_nexts (q : Queue κ) (n : Nat) :
    (q.after (List.replicate n .next)).pending = q.pending.drop n := by
  induction n generalizing q with
  | zero => rfl
  | succ n ih =>
      refine (ih (q.serve .next).2).trans ?_
      rw [serve, next?]
      cases hpending : q.pending with
      | nil => simp [hpending]
      | cons k rest => rfl

/-- The keys that have been handed out are being processed, and so are those that were. -/
lemma mem_processing_nexts (q : Queue κ) (n : Nat) {k : κ}
    (hk : k ∈ q.processing ∨ k ∈ q.pending.take n) :
    k ∈ (q.after (List.replicate n .next)).processing := by
  induction n generalizing q with
  | zero => simpa [after] using hk
  | succ n ih =>
      refine ih (q.serve .next).2 ?_
      rw [serve, next?]
      cases hpending : q.pending with
      | nil =>
          rw [hpending, List.take_nil] at hk
          exact .inl (hk.resolve_right List.not_mem_nil)
      | cons k' rest =>
          rw [hpending, List.take_succ_cons, List.mem_cons] at hk
          obtain hk | rfl | hk := hk
          · exact .inl (List.mem_insert_of_mem hk)
          · exact .inl List.mem_insert_self
          · exact .inr hk

/-! ### Whatever is asked -/

/-- The keys that are due and not being processed wait. -/
def Attentive (q : Queue κ) : Prop := ∀ k ∈ q.dirty, k ∉ q.processing → k ∈ q.pending

/-- Adding a key leaves no key that is due unattended. -/
lemma Attentive.offer {q : Queue κ} (hq : q.Attentive) (k : κ) : (q.offer k).Attentive := by
  rw [Queue.offer]
  cases hadd : q.add k with
  | error reason => exact hq
  | ok q' =>
      obtain ⟨-, ⟨-, rfl⟩ | ⟨-, -, rfl⟩⟩ := add_eq_ok.mp hadd
      · exact hq
      · intro k' hdirty hfree
        by_cases hk : k ∈ q.processing
        · -- the new key is being processed, so the other one has been due before
          have hne : k' ≠ k := fun h => hfree (h ▸ hk)
          rw [if_pos hk]
          exact hq k' (List.mem_of_ne_of_mem hne hdirty) hfree
        · rw [if_neg hk]
          obtain rfl | hdirty := List.mem_cons.mp hdirty
          · exact List.mem_append_right _ List.mem_cons_self
          · exact List.mem_append_left _ (hq k' hdirty hfree)

/-- Handing a key out leaves no key that is due unattended. -/
lemma Attentive.of_next? {q q' : Queue κ} {k : κ} (hq : q.Attentive)
    (h : q.next? = some (k, q')) : q'.Attentive := by
  obtain ⟨rest, hpending, rfl⟩ := next?_eq_some.mp h
  intro k' hdirty hfree
  obtain ⟨hne, hfree⟩ := not_or.mp (List.mem_insert_iff.not.mp hfree)
  have hwaits : k' ∈ q.pending := hq k' (List.mem_of_mem_erase hdirty) hfree
  rw [hpending] at hwaits
  exact List.mem_of_ne_of_mem hne hwaits

/-- Marking a key as done leaves no key that is due unattended, be it a stray one or not. -/
lemma Attentive.done {q : Queue κ} (hq : q.Attentive) (k : κ) : (q.done k).Attentive := by
  intro k' hdirty hfree
  rw [(done_frame q k).1] at hdirty
  by_cases heq : k' = k
  · subst heq
    rw [pending_done hdirty]
    exact List.mem_append_right _ List.mem_cons_self
  · have hwaits : k' ∈ q.pending := by
      refine hq k' hdirty fun hprocessing => hfree ?_
      rw [Queue.done]
      split_ifs <;> exact (List.mem_erase_of_ne heq).mpr hprocessing
    rw [Queue.done]
    split_ifs
    · exact List.mem_append_left _ hwaits
    · exact hwaits

/-- Whatever is asked of the queue, no key that is due is left unattended. -/
lemma Attentive.serve {q : Queue κ} (hq : q.Attentive) (r : Request κ) :
    (q.serve r).2.Attentive := by
  cases r with
  | add k => exact hq.offer k
  | next =>
      rw [Queue.serve]
      cases hnext : q.next? with
      | none => exact hq
      | some handed => exact hq.of_next? hnext
  | done k => exact hq.done k
  | addRateLimited k | forget k | shutdown => exact hq

/-- **Keys that are due and not being processed wait**, whatever has been asked of the queue. -/
theorem attentive_after {q : Queue κ} (hq : q.Attentive) (rs : List (Request κ)) :
    (q.after rs).Attentive := by
  induction rs generalizing q with
  | nil => exact hq
  | cons r rs ih => exact ih (hq.serve r)

/-! ### Stray requests -/

/-- Whether a request is in order.  One that marks a key as done is in order if somebody is at
the key, or if it is not due. -/
def admits (q : Queue κ) : Request κ → Bool
  | .done k => k ∈ q.processing ∨ k ∉ q.dirty
  | _ => true

/-- Whether all of some requests are in order, each when its turn comes. -/
def tolerates : Queue κ → List (Request κ) → Bool
  | _, [] => true
  | q, r :: rs => q.admits r && tolerates (q.serve r).2 rs

/-- Marking a key as done changes nothing if nobody is at the key and it is not due. -/
lemma done_eq_self {q : Queue κ} {k : κ} (hfree : k ∉ q.processing) (hk : k ∉ q.dirty) :
    q.done k = q := by
  rw [done, List.erase_of_not_mem hfree]
  exact if_neg hk

/-- A request that is in order keeps a queue consistent. -/
lemma Consistent.serve {q : Queue κ} (hq : q.Consistent) {r : Request κ}
    (hr : q.admits r = true) : (q.serve r).2.Consistent := by
  cases r with
  | add k => exact hq.offer k
  | addRateLimited k => exact hq.addRateLimited k
  | next =>
      rw [Queue.serve]
      cases hnext : q.next? with
      | none => exact hq
      | some handed => exact hq.of_next? hnext
  | done k =>
      rw [Queue.serve]
      by_cases hk : k ∈ q.processing
      · exact hq.done hk
      · rw [done_eq_self hk ((of_decide_eq_true hr).resolve_left hk)]
        exact hq
  | forget k => exact hq.forget k
  | shutdown => exact hq.shutdown

/-- **Stray requests keep a queue consistent**, as long as they meet no key that is due. -/
theorem Consistent.after {q : Queue κ} (hq : q.Consistent) {rs : List (Request κ)}
    (hrs : q.tolerates rs = true) : (q.after rs).Consistent := by
  induction rs generalizing q with
  | nil => exact hq
  | cons r rs ih =>
      obtain ⟨hr, hrs⟩ := Bool.and_eq_true_iff.mp hrs
      exact ih (hq.serve hr) hrs

/-- **What it does to mark a key as done that nobody is at**, whatever has been asked of the
queue before.  It makes no difference to the keys that are handed out later exactly if the key
is not due; then it does nothing at all.  A key that is due waits already, and waits once more
from then on; after the keys that waited have been handed out it is being processed, and is the
next one to be handed out.  As long as no stray request meets a key that is due, no key waits
twice, and none is handed out that is being processed. -/
theorem stray_done (capacity : Nat) (backoff : Backoff) (earlier : List (Request κ)) {k : κ}
    (hfree : k ∉ (after { capacity, backoff } earlier).processing) :
    let q : Queue κ := after { capacity, backoff } earlier
    ((∀ later, (q.done k).handed later = q.handed later) ↔ k ∉ q.dirty) ∧
      (k ∉ q.dirty → q.done k = q) ∧
      (k ∈ q.dirty → k ∈ q.pending ∧ (q.done k).pending = q.pending ++ [k] ∧
        let q' := (q.done k).after (List.replicate q.pending.length .next)
        k ∈ q'.processing ∧ ∃ q'', q'.next? = some (k, q'')) ∧
      (tolerates { capacity, backoff } earlier = true →
        q.pending.Nodup ∧ ∀ k' q', q.next? = some (k', q') → k' ∉ q.processing) := by
  intro q
  have hattentive : q.Attentive :=
    attentive_after (fun _ hdirty => absurd hdirty List.not_mem_nil) earlier
  refine ⟨⟨fun hsame hk => ?_, fun hk later => ?_⟩, done_eq_self hfree, fun hk => ?_,
    fun hearlier => ?_⟩
  · -- one key more is handed out if all are asked for
    have hlater := hsame (List.replicate (q.pending.length + 1) .next)
    rw [handed_nexts, handed_nexts, pending_done hk] at hlater
    have hlength := congrArg List.length hlater
    simp at hlength
  · rw [done_eq_self hfree hk]
  · have hwaits : k ∈ q.pending := hattentive k hk hfree
    have hpending : (q.done k).pending = q.pending ++ [k] := pending_done hk
    refine ⟨hwaits, hpending, mem_processing_nexts _ _ (.inr ?_), _,
      next?_eq_some.mpr ⟨[], ?_, rfl⟩⟩
    · rw [hpending, List.take_left]
      exact hwaits
    · rw [pending_nexts, hpending, List.drop_left]
  · have hq : q.Consistent := (consistent_empty capacity backoff).after hearlier
    exact ⟨hq.pending_nodup, fun k' q' hnext => (hq.next?_mem hnext).2⟩

/-- Of two keys that wait, one is marked as done: it is handed out twice.  For a third key that
makes no difference. -/
theorem stray_done_twice :
    let q : Queue Nat := after { capacity := 2 } [.add 1, .add 2, .done 3]
    (q.done 1).pending = [1, 2, 1] ∧
      1 ∈ ((q.done 1).after [.next, .next]).processing ∧
      (∃ q', ((q.done 1).after [.next, .next]).next? = some (1, q')) ∧
      q.done 3 = q ∧ q.pending.Nodup := by
  intro q
  obtain ⟨-, -, hdue, -⟩ := stray_done (k := 1) 2 {} [.add 1, .add 2, .done 3] (by decide)
  obtain ⟨-, hsame, -, htolerated⟩ :=
    stray_done (k := 3) 2 {} [.add 1, .add 2, .done 3] (by decide)
  obtain ⟨-, hpending, hprocessing, hnext⟩ := hdue (by decide)
  exact ⟨hpending, hprocessing, hnext, hsame (by decide), (htolerated (by decide)).1⟩

/-- **To mark a key as done that nobody is at may do harm**, although nothing else has gone
astray before. -/
theorem not_harmless :
    ¬ ∀ (capacity : Nat) (backoff : Backoff) (earlier : List (Request Nat)) (k : Nat),
      tolerates { capacity, backoff } earlier = true →
        k ∉ (after { capacity, backoff } earlier).processing →
          let q : Queue Nat := after { capacity, backoff } earlier
          (q.done k).pending = q.pending ∧ (q.done k).pending.Nodup ∧
            ∀ later, (q.done k).handed later = q.handed later := by
  intro hharmless
  obtain ⟨hpending, -⟩ := hharmless 1 {} [.add 1] 1 (by decide) (by decide)
  exact absurd hpending (by decide)

end SidecarPolicy.Queue
