/-
Histories of a queue that any number of workers share.

Keys are added at any time, also while they are being processed, by a timer
that comes late, or when the queue is full; workers take keys and give them
back in any order.  What a key is entitled to can be read off the history: it
is due if it was accepted since it was last handed out, and a worker holds it
if it was handed to that worker and has not been given back since.

* `Queue.Event`: what a history is made of, the latest event first;
* `Queue.Due`, `Queue.Holds`: what a history says of a key;
* `Queue.Shared`, `Queue.Shared.Step`, `Queue.Shared.Reachable`: a queue with
  its timers and its history, and the states that it can get into;
* `Queue.Shared.Sound`, `Queue.Shared.Sound.of_step`: the invariant of a shared
  queue, and that every step keeps it;
* `Queue.Shared.Reachable.accounts`: in every reachable state the collections
  of the queue are in step with each other and with the history.
-/
import SidecarPolicy.Proofs.Queue.Consistency

namespace SidecarPolicy.Queue

variable {ω κ : Type}

/-! ### Events, and what a history says -/

/-- What happens at a queue: a key is accepted, or refused; it is counted as
failed, to be added later; it is handed to a worker, and given back; its
failures are forgotten; the queue is closed. -/
inductive Event (ω κ : Type) where
  | accepted (k : κ)
  | refused (k : κ) (reason : AddError)
  | failed (k : κ)
  | handed (w : ω) (k : κ)
  | returned (k : κ)
  | forgotten (k : κ)
  | closed
  deriving DecidableEq, Repr

section Histories

variable [DecidableEq κ]

namespace Event

/-- Whether the event accepts a key. -/
def accepts (k : κ) : Event ω κ → Bool
  | .accepted k' => k' = k
  | _ => false

/-- Whether the event hands a key to some worker. -/
def hands (k : κ) : Event ω κ → Bool
  | .handed _ k' => k' = k
  | _ => false

/-- Whether the event gives a key back. -/
def returns (k : κ) : Event ω κ → Bool
  | .returned k' => k' = k
  | _ => false

/-- Whether the event neither accepts a key, nor hands one out, nor gives one
back. -/
def isAside : Event ω κ → Bool
  | .accepted _ | .handed .. | .returned _ => false
  | _ => true

end Event

/-- The key was accepted since it was last handed out. -/
def Due (history : List (Event ω κ)) (k : κ) : Prop :=
  .accepted k ∈ history.takeWhile fun e => !e.hands k

/-- The worker was handed the key, which has not been given back since. -/
def Holds (history : List (Event ω κ)) (w : ω) (k : κ) : Prop :=
  .handed w k ∈ history.takeWhile fun e => !e.returns k

instance [DecidableEq ω] (history : List (Event ω κ)) (k : κ) : Decidable (Due history k) :=
  inferInstanceAs (Decidable (_ ∈ _))

instance [DecidableEq ω] (history : List (Event ω κ)) (w : ω) (k : κ) :
    Decidable (Holds history w k) :=
  inferInstanceAs (Decidable (_ ∈ _))

/-- How often a key was accepted. -/
def acceptances (history : List (Event ω κ)) (k : κ) : Nat :=
  history.countP (·.accepts k)

/-- How often a key was handed out. -/
def handouts (history : List (Event ω κ)) (k : κ) : Nat :=
  history.countP (·.hands k)

/-- A key becomes due by being accepted, and stays so until it is handed out. -/
lemma due_cons (e : Event ω κ) (history : List (Event ω κ)) (k : κ) :
    Due (e :: history) k ↔ ¬ e.hands k ∧ (e = .accepted k ∨ Due history k) := by
  cases h : e.hands k <;> simp [Due, h, eq_comm]

/-- A worker holds a key that it is handed, until the key is given back. -/
lemma holds_cons (e : Event ω κ) (history : List (Event ω κ)) (w : ω) (k : κ) :
    Holds (e :: history) w k ↔
      ¬ e.returns k ∧ (e = .handed w k ∨ Holds history w k) := by
  cases h : e.returns k <;> simp [Holds, h, eq_comm]

lemma due_cons_of_isAside {e : Event ω κ} (he : e.isAside) (history : List (Event ω κ))
    (k : κ) : Due (e :: history) k ↔ Due history k := by
  rw [due_cons]
  cases e <;> simp_all [Event.isAside, Event.hands]

/-- Events aside put no key into a worker's hands, and take none away. -/
lemma holds_cons_of_isAside {e : Event ω κ} (he : e.isAside) (history : List (Event ω κ))
    (w : ω) (k : κ) : Holds (e :: history) w k ↔ Holds history w k := by
  rw [holds_cons]
  cases e <;> simp_all [Event.isAside, Event.returns]

end Histories

/-! ### A shared queue -/

/-- A queue with the keys that timers are going to add, and with its history,
the latest event first. -/
structure Shared (ω κ : Type) where
  queue : Queue κ
  later : List κ := []
  history : List (Event ω κ) := []
  deriving DecidableEq, Repr

namespace Shared

variable [DecidableEq κ]

/-- Somebody adds a key. -/
def offer (s : Shared ω κ) (k : κ) : Shared ω κ :=
  match s.queue.add k with
  | .ok q => { s with queue := q, history := .accepted k :: s.history }
  | .error reason => { s with history := .refused k reason :: s.history }

/-- A failure of a key is counted, and a timer is set that will add the key. -/
def postpone (s : Shared ω κ) (k : κ) : Shared ω κ where
  queue := (s.queue.addRateLimited k).2
  later := k :: s.later
  history := .failed k :: s.history

/-- A timer is over, and adds its key. -/
def fire (s : Shared ω κ) (k : κ) : Shared ω κ :=
  offer { s with later := s.later.erase k } k

/-- A worker asks for a key, and is handed one if there is any. -/
def ask (s : Shared ω κ) (w : ω) : Shared ω κ :=
  match s.queue.next? with
  | none => s
  | some (k, q) => { s with queue := q, history := .handed w k :: s.history }

/-- A key is given back. -/
def giveBack (s : Shared ω κ) (k : κ) : Shared ω κ :=
  { s with queue := s.queue.done k, history := .returned k :: s.history }

/-- The failures of a key are forgotten. -/
def forget (s : Shared ω κ) (k : κ) : Shared ω κ :=
  { s with queue := s.queue.forget k, history := .forgotten k :: s.history }

/-- The queue is closed. -/
def close (s : Shared ω κ) : Shared ω κ :=
  { s with queue := s.queue.shutdown, history := .closed :: s.history }

/-- The steps of a shared queue.  Only a key that some worker holds is given
back, and only a timer that was set is over; nothing else is asked. -/
inductive Step : Shared ω κ → Shared ω κ → Prop
  | add (s : Shared ω κ) (k : κ) : Step s (s.offer k)
  | addRateLimited (s : Shared ω κ) (k : κ) : Step s (s.postpone k)
  | fire (s : Shared ω κ) {k : κ} (h : k ∈ s.later) : Step s (s.fire k)
  | next (s : Shared ω κ) (w : ω) : Step s (s.ask w)
  | done (s : Shared ω κ) {w : ω} {k : κ} (h : Holds s.history w k) : Step s (s.giveBack k)
  | forget (s : Shared ω κ) (k : κ) : Step s (s.forget k)
  | shutdown (s : Shared ω κ) : Step s s.close

/-- The states that a queue of a given capacity can get into. -/
inductive Reachable (capacity : Nat) (backoff : Backoff) : Shared ω κ → Prop
  | start : Reachable capacity backoff { queue := { capacity, backoff } }
  | step {s t : Shared ω κ} (h : Reachable capacity backoff s) (hst : Step s t) :
      Reachable capacity backoff t

/-! ### The invariant -/

/-- The queue is consistent, what it keeps agrees with its history, no key is
in the hands of two workers, and no key is handed out, or about to be, more
often than it was accepted. -/
structure Sound (s : Shared ω κ) : Prop where
  consistent : s.queue.Consistent
  due : ∀ k, k ∈ s.queue.dirty ↔ Due s.history k
  held : ∀ k, k ∈ s.queue.processing ↔ ∃ w, Holds s.history w k
  sole : ∀ k w w', Holds s.history w k → Holds s.history w' k → w = w'
  balance : ∀ k, handouts s.history k + (if k ∈ s.queue.dirty then 1 else 0)
    ≤ acceptances s.history k

lemma sound_start (capacity : Nat) (backoff : Backoff) :
    Sound ({ queue := { capacity, backoff } } : Shared ω κ) where
  consistent := consistent_empty capacity backoff
  due k := by simp [Due]
  held k := by simp [Holds]
  sole k w w' h := by simp [Holds] at h
  balance k := by simp [handouts, acceptances]

/-- An event aside, at which no key comes or goes, keeps a shared queue sound. -/
lemma Sound.of_isAside {s t : Shared ω κ} {e : Event ω κ} (hs : s.Sound) (he : e.isAside)
    (hqueue : t.queue.Consistent) (hdirty : t.queue.dirty = s.queue.dirty)
    (hprocessing : t.queue.processing = s.queue.processing)
    (hhistory : t.history = e :: s.history) : t.Sound where
  consistent := hqueue
  due k := by rw [hdirty, hhistory, due_cons_of_isAside he, hs.due]
  held k := by simp only [hprocessing, hhistory, holds_cons_of_isAside he, hs.held]
  sole k w w' := by
    simp only [hhistory, holds_cons_of_isAside he]
    exact hs.sole k w w'
  balance k := by
    have hb := hs.balance k
    have hhands : e.hands k = false := by cases e <;> simp_all [Event.isAside, Event.hands]
    have haccepts : e.accepts k = false := by
      cases e <;> simp_all [Event.isAside, Event.accepts]
    simpa [hhistory, hdirty, handouts, acceptances, hhands, haccepts] using hb

/-- Adding a key keeps a shared queue sound, whether the key is accepted or
refused. -/
lemma Sound.offer {s : Shared ω κ} (hs : s.Sound) (k : κ) : (s.offer k).Sound := by
  rw [Shared.offer]
  cases hadd : s.queue.add k with
  | error reason => exact hs.of_isAside rfl hs.consistent rfl rfl rfl
  | ok q =>
      obtain ⟨hprocessing, -⟩ := add_frame hadd
      have hdirty := mem_dirty_of_add hadd
      refine ⟨hs.consistent.of_add hadd, fun k' => ?_, fun k' => ?_, fun k' w w' => ?_,
        fun k' => ?_⟩
      · simp only [hdirty, due_cons, Event.hands, Bool.false_eq_true, not_false_eq_true,
          true_and, Event.accepted.injEq, @eq_comm _ k k', hs.due]
      · simp only [hprocessing, holds_cons, Event.returns, Bool.false_eq_true,
          not_false_eq_true, true_and, reduceCtorEq, false_or, hs.held]
      · simp only [holds_cons, reduceCtorEq, false_or]
        exact fun h h' => hs.sole k' w w' h.2 h'.2
      · -- if the key was due before, it was accepted once more than necessary
        have hb := hs.balance k'
        by_cases heq : k = k'
        · subst heq
          simp only [handouts, acceptances, List.countP_cons, Event.hands, Event.accepts,
            hdirty, decide_true, true_or, if_true] at hb ⊢
          split_ifs at hb <;> simp <;> omega
        · have hne : k' ≠ k := fun h => heq h.symm
          simpa [handouts, acceptances, List.countP_cons, Event.hands, Event.accepts,
            hdirty, heq, hne] using hb

/-- Handing out a key keeps a shared queue sound: nobody held the key. -/
lemma Sound.ask {s : Shared ω κ} (hs : s.Sound) (w : ω) : (s.ask w).Sound := by
  rw [Shared.ask]
  cases hnext : s.queue.next? with
  | none => exact hs
  | some handed =>
      obtain ⟨k, q⟩ := handed
      obtain ⟨hk, hfree⟩ := hs.consistent.next?_mem hnext
      have hdirty := hs.consistent.mem_dirty_of_next? hnext
      have hprocessing := mem_processing_of_next? hnext
      have hnobody : ∀ w', ¬ Holds s.history w' k := fun w' hw' =>
        hfree ((hs.held k).mpr ⟨w', hw'⟩)
      refine ⟨hs.consistent.of_next? hnext, fun k' => ?_, fun k' => ?_, fun k' w₁ w₂ => ?_,
        fun k' => ?_⟩
      · simp only [hdirty, due_cons, Event.hands, decide_eq_true_eq, reduceCtorEq, false_or,
          hs.due, ne_eq, @eq_comm _ k k']
      · simp only [hprocessing, holds_cons, Event.returns, Bool.false_eq_true,
          not_false_eq_true, true_and, Event.handed.injEq, hs.held]
        constructor
        · rintro (rfl | ⟨w', hw'⟩)
          · exact ⟨w, .inl ⟨rfl, rfl⟩⟩
          · exact ⟨w', .inr hw'⟩
        · rintro ⟨w', ⟨-, rfl⟩ | hw'⟩
          · exact .inl rfl
          · exact .inr ⟨w', hw'⟩
      · simp only [holds_cons, Event.returns, Bool.false_eq_true, not_false_eq_true, true_and,
          Event.handed.injEq]
        rintro (⟨rfl, rfl⟩ | h₁) (⟨rfl, hkk⟩ | h₂)
        · rfl
        · exact absurd h₂ (hnobody w₂)
        · exact absurd (hkk ▸ h₁) (hnobody w₁)
        · exact hs.sole k' w₁ w₂ h₁ h₂
      · -- the key that is handed out was accepted, and is due no longer
        have hb := hs.balance k'
        by_cases heq : k = k'
        · subst heq
          rw [if_pos hk] at hb
          simpa [handouts, acceptances, List.countP_cons, Event.hands, Event.accepts,
            hdirty] using hb
        · have hne : k' ≠ k := fun h => heq h.symm
          simpa [handouts, acceptances, List.countP_cons, Event.hands, Event.accepts,
            hdirty, heq, hne] using hb

/-- Giving back a key that a worker holds keeps a shared queue sound. -/
lemma Sound.giveBack {s : Shared ω κ} (hs : s.Sound) {w : ω} {k : κ}
    (hw : Holds s.history w k) : (s.giveBack k).Sound := by
  have hk : k ∈ s.queue.processing := (hs.held k).mpr ⟨w, hw⟩
  obtain ⟨hdirty, -⟩ := done_frame s.queue k
  have hprocessing := hs.consistent.mem_processing_done k
  refine ⟨hs.consistent.done hk, fun k' => ?_, fun k' => ?_, fun k' w₁ w₂ => ?_, fun k' => ?_⟩
  · simp only [Shared.giveBack, hdirty, due_cons, Event.hands, Bool.false_eq_true,
      not_false_eq_true, true_and, reduceCtorEq, false_or, hs.due]
  · simp only [Shared.giveBack, hprocessing, holds_cons, Event.returns, decide_eq_true_eq,
      reduceCtorEq, false_or, exists_and_left, hs.held, ne_eq, @eq_comm _ k k']
  · simp only [Shared.giveBack, holds_cons, reduceCtorEq, false_or]
    exact fun h₁ h₂ => hs.sole k' w₁ w₂ h₁.2 h₂.2
  · simpa [Shared.giveBack, hdirty, handouts, acceptances, List.countP_cons, Event.hands,
      Event.accepts] using hs.balance k'

/-- Every step keeps a shared queue sound. -/
lemma Sound.of_step {s t : Shared ω κ} (hs : s.Sound) (hst : Step s t) : t.Sound := by
  cases hst with
  | add k => exact hs.offer k
  | addRateLimited k =>
      exact hs.of_isAside (e := .failed k) rfl (hs.consistent.addRateLimited k) rfl rfl rfl
  | @fire k h =>
      have hrest : Sound { s with later := s.later.erase k } :=
        ⟨hs.consistent, hs.due, hs.held, hs.sole, hs.balance⟩
      exact hrest.offer k
  | next w => exact hs.ask w
  | done h => exact hs.giveBack h
  | forget k =>
      exact hs.of_isAside (e := .forgotten k) rfl (hs.consistent.forget k) rfl rfl rfl
  | shutdown => exact hs.of_isAside (e := .closed) rfl hs.consistent.shutdown rfl rfl rfl

/-- No step changes the capacity. -/
lemma capacity_of_step {s t : Shared ω κ} (hst : Step s t) :
    t.queue.capacity = s.queue.capacity := by
  have hoffer : ∀ (s : Shared ω κ) (k : κ), (s.offer k).queue.capacity = s.queue.capacity := by
    intro s k
    rw [Shared.offer]
    cases hadd : s.queue.add k with
    | error reason => rfl
    | ok q => exact (add_frame hadd).2.2.1
  cases hst with
  | add k => exact hoffer s k
  | fire h => exact hoffer _ _
  | next w =>
      rw [Shared.ask]
      cases hnext : s.queue.next? with
      | none => rfl
      | some handed => exact (next?_frame hnext).2.1
  | @done w k h => exact (done_frame s.queue k).2.2.1
  | addRateLimited | forget | shutdown => rfl

/-- Every reachable state is sound, and has the capacity that the queue was made
with. -/
lemma Reachable.sound {capacity : Nat} {backoff : Backoff} {s : Shared ω κ}
    (h : Reachable capacity backoff s) : s.Sound ∧ s.queue.capacity = capacity := by
  induction h with
  | start => exact ⟨sound_start capacity backoff, rfl⟩
  | step _ hst ih => exact ⟨ih.1.of_step hst, (capacity_of_step hst).trans ih.2⟩

/-- **The queue keeps its accounts** in every state that any workers can bring
it into.  No key waits twice; the keys that wait are those that are due and not
being processed; not more keys are due, or wait, than the capacity allows; a key
is due if and only if it was accepted since it was last handed out, and it has
been handed out no more often than it was accepted; the keys being processed are
those that some worker holds, each in the hands of a single one; and no key is
handed out that a worker holds. -/
theorem Reachable.accounts {capacity : Nat} {backoff : Backoff} {s : Shared ω κ}
    (h : Reachable capacity backoff s) :
    s.queue.pending.Nodup
      ∧ (∀ k, k ∈ s.queue.pending ↔ k ∈ s.queue.dirty ∧ k ∉ s.queue.processing)
      ∧ s.queue.dirty.Nodup ∧ s.queue.dirty.length ≤ capacity
      ∧ s.queue.pending.length ≤ capacity
      ∧ (∀ k, k ∈ s.queue.dirty ↔ Due s.history k)
      ∧ (∀ k, handouts s.history k + (if k ∈ s.queue.dirty then 1 else 0)
          ≤ acceptances s.history k)
      ∧ (∀ k, k ∈ s.queue.processing ↔ ∃ w, Holds s.history w k)
      ∧ (∀ k w w', Holds s.history w k → Holds s.history w' k → w = w')
      ∧ (∀ k q, s.queue.next? = some (k, q) → ∀ w, ¬ Holds s.history w k) := by
  obtain ⟨hs, hcapacity⟩ := h.sound
  have hq := hs.consistent
  refine ⟨hq.pending_nodup, hq.mem_pending, hq.dirty_nodup, hcapacity ▸ hq.dirty_le,
    hcapacity ▸ hq.pending_le, hs.due, hs.balance, hs.held, hs.sole, ?_⟩
  intro k q hnext w hw
  exact (hq.next?_mem hnext).2 ((hs.held k).mpr ⟨w, hw⟩)

/-- A queue of two keys at work: while `1` is being processed it is added again,
and a timer is set for it; `2` is added, and `3` is refused; the timer comes
late, and `1` is given back. -/
def busy : Shared Nat Nat :=
  let opened : Shared Nat Nat := { queue := { capacity := 2 } }
  let processing := (opened.offer 1).ask 0
  let full := (((processing.offer 1).postpone 1).offer 2).offer 3
  (full.fire 1).giveBack 1

/-- The busy queue can come about, and keeps its accounts. -/
theorem busy_accounts : Reachable 2 {} busy ∧ busy.queue.pending = [2, 1]
    ∧ (∀ k, k ∈ busy.queue.pending ↔ k ∈ busy.queue.dirty ∧ k ∉ busy.queue.processing)
    ∧ busy.queue.pending.length ≤ 2 ∧ (∀ k, k ∈ busy.queue.dirty ↔ Due busy.history k)
    ∧ (∀ k q, busy.queue.next? = some (k, q) → ∀ w, ¬ Holds busy.history w k) := by
  have hopened : Reachable 2 {} ({ queue := { capacity := 2 } } : Shared Nat Nat) := .start
  have hprocessing := (hopened.step (.add _ 1)).step (.next _ 0)
  have hfull := (((hprocessing.step (.add _ 1)).step (.addRateLimited _ 1)).step
    (.add _ 2)).step (.add _ 3)
  have hfired := hfull.step (.fire _ (show 1 ∈ _ by decide))
  have hreach : Reachable 2 {} busy :=
    hfired.step (.done _ (show Holds _ 0 1 by decide))
  obtain ⟨-, hpending, -, -, hlength, hdue, -, -, -, hnext⟩ := hreach.accounts
  exact ⟨hreach, by decide, hpending, hlength, hdue, hnext⟩

end Shared

end SidecarPolicy.Queue
