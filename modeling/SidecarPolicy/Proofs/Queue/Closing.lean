/-
What a queue still hands out when it has been closed.

A closed queue accepts no key, and hands out those that are due.  A worker that finds none
waiting is told that there will be no more.  But a key that was accepted again while it was
being processed is due as well, and waits as soon as it is given back: it is handed out to
whoever asks then, although others have been sent away.

* `Queue.reply?`: what a worker is told that asks for a key;
* `Queue.Shared.Later`: the states that a shared queue can get into from another one;
* `Queue.Shared.Spends`, `Queue.Shared.Reachable.spends`: **a closed queue spends what is
  due, and nothing else**;
* `Queue.Shared.Reachable.drained_iff`: what is handed out after a worker has been told that
  there will be no more keys;
* `Queue.Shared.not_drained`: that may be something.
-/
import SidecarPolicy.Proofs.Queue.History
import SidecarPolicy.Proofs.Queue.Poised

namespace SidecarPolicy

namespace Queue

variable {ω κ : Type}

/-! ### What a worker is told -/

/-- What a worker is told that asks for a key: a key, or that there will be no more.  As long
as it can be told neither, it waits. -/
def reply? (q : Queue κ) : Option (Option κ) :=
  match q.pending with
  | k :: _ => some (some k)
  | [] => if q.closed then some none else none

lemma reply?_eq_key {q : Queue κ} {k : κ} :
    q.reply? = some (some k) ↔ ∃ rest, q.pending = k :: rest := by
  rw [reply?]
  cases hpending : q.pending with
  | nil => cases q.closed <;> simp
  | cons k' rest => simp

/-- A worker is told that there will be no more if the queue is closed and no key waits. -/
lemma reply?_eq_closed {q : Queue κ} :
    q.reply? = some none ↔ q.closed = true ∧ q.pending = [] := by
  rw [reply?]
  cases hpending : q.pending with
  | nil => cases q.closed <;> simp
  | cons k rest => simp

variable [DecidableEq κ]

lemma add_of_closed {q : Queue κ} (hclosed : q.closed = true) (k : κ) :
    q.add k = .error .shutDown :=
  if_pos hclosed

end Queue

/-- A worker that looks for a key, and has no answer yet, is told what the queue replies. -/
theorem Dispatch.answer_look {κ : Type} [DecidableEq κ] {d : Dispatch κ} {w : Worker}
    (hw : d.answer w = none) : (d.look w).answer w = d.queue.reply? := by
  rw [look, Queue.next?, Queue.reply?]
  cases d.queue.pending with
  | cons k rest => exact answer_finish_self _ w (some k)
  | nil =>
      cases d.queue.closed with
      | true => exact answer_finish_self d w none
      | false => cases w <;> exact hw

namespace Queue.Shared

variable {ω κ : Type} [DecidableEq κ] {s t u : Shared ω κ} {k : κ}

/-! ### Later states -/

/-- The states that a shared queue can get into from another one. -/
abbrev Later : Shared ω κ → Shared ω κ → Prop := Relation.ReflTransGen Step

lemma Reachable.later {capacity : Nat} {backoff : Backoff} (h : Reachable capacity backoff s)
    (hlater : Later s t) : Reachable capacity backoff t := by
  induction hlater with
  | refl => exact h
  | tail _ hst ih => exact ih.step hst

/-- How often a key has been handed out, and once more if it is due. -/
def outstanding (s : Shared ω κ) (k : κ) : Nat :=
  handouts s.history k + if k ∈ s.queue.dirty then 1 else 0

/-- From one state to another in which the queue is closed: no key has become due, and the
keys that are due no longer have been handed out, each once. -/
structure Spends (s t : Shared ω κ) : Prop where
  closed : t.queue.closed = true
  dirty : t.queue.dirty ⊆ s.queue.dirty
  outstanding : ∀ k, t.outstanding k = s.outstanding k

lemma Spends.refl (hclosed : s.queue.closed = true) : Spends s s :=
  ⟨hclosed, List.Subset.refl _, fun _ => rfl⟩

lemma Spends.trans (h : Spends s t) (h' : Spends t u) : Spends s u where
  closed := h'.closed
  dirty _ hk := h.dirty (h'.dirty hk)
  outstanding k := (h'.outstanding k).trans (h.outstanding k)

/-- Nothing is spent by an event that hands out no key, if the same keys are due after it. -/
lemma Spends.of_event {e : Event ω κ} (he : ∀ k, e.hands k = false)
    (hclosed : t.queue.closed = true) (hdirty : t.queue.dirty = s.queue.dirty)
    (hhistory : t.history = e :: s.history) : Spends s t where
  closed := hclosed
  dirty := hdirty ▸ List.Subset.refl _
  outstanding k := by simp [Shared.outstanding, handouts, hdirty, hhistory, he]

lemma spends_offer (hclosed : s.queue.closed = true) (k : κ) : Spends s (s.offer k) := by
  have hoffer : s.offer k = { s with history := .refused k .shutDown :: s.history } := by
    rw [offer, add_of_closed hclosed]
  rw [hoffer]
  exact .of_event (fun _ => rfl) hclosed rfl rfl

/-- A key that is handed out was due, and is so no longer. -/
lemma Sound.spends_ask (hs : s.Sound) (hclosed : s.queue.closed = true) (w : ω) :
    Spends s (s.ask w) := by
  rw [Shared.ask]
  cases hnext : s.queue.next? with
  | none => exact .refl hclosed
  | some handed =>
      obtain ⟨k, q⟩ := handed
      have hk : k ∈ s.queue.dirty := (hs.consistent.next?_mem hnext).1
      have hdirty := hs.consistent.mem_dirty_of_next? hnext
      refine ⟨(next?_frame hnext).2.2.2.trans hclosed, fun k' hk' => ((hdirty k').mp hk').2,
        fun k' => ?_⟩
      by_cases heq : k' = k
      · subst heq
        simp [outstanding, handouts, Event.hands, hdirty, hk]
      · have hne : k ≠ k' := fun h => heq h.symm
        simp [outstanding, handouts, Event.hands, hdirty, heq, hne]

/-- Whatever happens at a closed queue, it spends what is due. -/
lemma Sound.spends (hs : s.Sound) (hclosed : s.queue.closed = true) (hst : Step s t) :
    Spends s t := by
  cases hst with
  | add k => exact spends_offer hclosed k
  | addRateLimited k => exact .of_event (e := .failed k) (fun _ => rfl) hclosed rfl rfl
  | @fire k h =>
      have hrest : Spends s { s with later := s.later.erase k } :=
        ⟨hclosed, List.Subset.refl _, fun _ => rfl⟩
      exact hrest.trans (spends_offer hrest.closed k)
  | next w => exact hs.spends_ask hclosed w
  | @done w k h =>
      obtain ⟨hdirty, -, -, -, hsame⟩ := done_frame s.queue k
      exact .of_event (e := .returned k) (fun _ => rfl) (hsame.trans hclosed) hdirty rfl
  | forget k => exact .of_event (e := .forgotten k) (fun _ => rfl) hclosed rfl rfl
  | shutdown => exact .of_event (e := .closed) (fun _ => rfl) rfl rfl rfl

/-- **A closed queue spends what is due, and nothing else.** -/
theorem Reachable.spends {capacity : Nat} {backoff : Backoff} (h : Reachable capacity backoff s)
    (hclosed : s.queue.closed = true) (hlater : Later s t) : Spends s t := by
  induction hlater with
  | refl => exact .refl hclosed
  | tail hearlier hst ih => exact ih.trans ((h.later hearlier).sound.1.spends ih.closed hst)

/-! ### When a worker has been sent away -/

/-- If no key waits, the keys that are due are being processed. -/
lemma Sound.exists_holds (hs : s.Sound) (hpending : s.queue.pending = [])
    (hk : Due s.history k) : ∃ w, Holds s.history w k := by
  rw [← hs.held k]
  by_contra hfree
  have hwaits : k ∈ s.queue.pending :=
    (hs.consistent.mem_pending k).mpr ⟨(hs.due k).mpr hk, hfree⟩
  rw [hpending] at hwaits
  exact List.not_mem_nil hwaits

/-- If no key waits, one that is due and is given back is the next one. -/
lemma reply?_giveBack (hpending : s.queue.pending = []) (hk : k ∈ s.queue.dirty) :
    (s.giveBack k).queue.reply? = some (some k) := by
  refine reply?_eq_key.mpr ⟨[], ?_⟩
  rw [giveBack, pending_done hk, hpending, List.nil_append]

/-- **What is handed out after a worker has been told that there will be no more keys.**  There
are no more exactly if no key was due by then.  A key is handed out afterwards exactly if it was
due, that is, if it was accepted since it was last handed out; then some worker held it when the
other one was sent away.  And no key is handed out more than once. -/
theorem Reachable.drained_iff {capacity : Nat} {backoff : Backoff}
    (h : Reachable capacity backoff s) (htold : s.queue.reply? = some none) :
    ((∀ t, Later s t → ∀ k, t.queue.reply? ≠ some (some k)) ↔ ∀ k, ¬ Due s.history k) ∧
      ∀ k, ((∃ t, Later s t ∧ t.queue.reply? = some (some k)) ↔ Due s.history k) ∧
        (Due s.history k → ∃ w, Holds s.history w k) ∧
        ∀ t, Later s t → t.outstanding k = s.outstanding k := by
  obtain ⟨hclosed, hpending⟩ := reply?_eq_closed.mp htold
  have hs : s.Sound := h.sound.1
  -- a closed queue accepts nothing, and what is due in it is held by somebody
  have hmore (k : κ) : (∃ t, Later s t ∧ t.queue.reply? = some (some k)) ↔ Due s.history k := by
    constructor
    · rintro ⟨t, hlater, hkey⟩
      obtain ⟨rest, hrest⟩ := reply?_eq_key.mp hkey
      have hwaits : k ∈ t.queue.pending := hrest ▸ List.mem_cons_self
      have hdue : k ∈ t.queue.dirty :=
        (((h.later hlater).sound.1.consistent.mem_pending k).mp hwaits).1
      exact (hs.due k).mp ((h.spends hclosed hlater).dirty hdue)
    · intro hdue
      obtain ⟨w, hw⟩ := hs.exists_holds hpending hdue
      exact ⟨_, .single (.done s hw), reply?_giveBack hpending ((hs.due k).mpr hdue)⟩
  refine ⟨⟨fun hnone k hdue => ?_, fun hnone t hlater k hkey => ?_⟩, fun k => ⟨hmore k,
    hs.exists_holds hpending, fun t hlater => (h.spends hclosed hlater).outstanding k⟩⟩
  · obtain ⟨t, hlater, hkey⟩ := (hmore k).mpr hdue
    exact hnone t hlater k hkey
  · exact hnone k ((hmore k).mp ⟨t, hlater, hkey⟩)

/-- A worker is at a key when the queue is closed. -/
def calm : Shared Nat Nat :=
  let opened : Shared Nat Nat := { queue := { capacity := 2 } }
  ((opened.offer 1).ask 0).close

/-- A worker is at a key, which has been added again, when the queue is closed. -/
def rushed : Shared Nat Nat :=
  let opened : Shared Nat Nat := { queue := { capacity := 2 } }
  (((opened.offer 1).ask 0).offer 1).close

lemma reachable_calm : Reachable 2 {} calm :=
  ((Reachable.start.step (.add _ 1)).step (.next _ 0)).step (.shutdown _)

lemma reachable_rushed : Reachable 2 {} rushed :=
  (((Reachable.start.step (.add _ 1)).step (.next _ 0)).step (.add _ 1)).step (.shutdown _)

/-- Another worker is sent away in either case.  After the calm closing there are no more keys,
and after the rushed one there is one. -/
theorem drained_iff_calm :
    calm.queue.reply? = some none ∧ (∀ t, Later calm t → ∀ k, t.queue.reply? ≠ some (some k)) ∧
      rushed.queue.reply? = some none ∧
      (∃ t, Later rushed t ∧ t.queue.reply? = some (some 1)) ∧ Holds rushed.history 0 1 := by
  have hcalm : calm.queue.reply? = some none := by decide
  have hrushed : rushed.queue.reply? = some none := by decide
  have hnone (k : Nat) : ¬ Due calm.history k :=
    fun hdue => List.not_mem_nil ((reachable_calm.sound.1.due k).mpr hdue)
  obtain ⟨hdrained, -⟩ := reachable_calm.drained_iff hcalm
  obtain ⟨-, hmore⟩ := reachable_rushed.drained_iff hrushed
  exact ⟨hcalm, hdrained.mpr hnone, hrushed, (hmore 1).1.mpr (by decide), by decide⟩

/-- **There may be more keys after a worker has been told that there will be none.** -/
theorem not_drained :
    ¬ ∀ (capacity : Nat) (backoff : Backoff) (s t : Shared Nat Nat) (k : Nat),
      Reachable capacity backoff s → s.queue.reply? = some none → Later s t →
        t.queue.reply? ≠ some (some k) := by
  intro hdrained
  have hlater : Later rushed (rushed.giveBack 1) :=
    .single (.done _ (show Holds rushed.history 0 1 by decide))
  exact hdrained 2 {} rushed _ 1 reachable_rushed (by decide) hlater (by decide)

end Queue.Shared

end SidecarPolicy
