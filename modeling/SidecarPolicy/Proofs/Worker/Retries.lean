/-
How often a key is tried again.

The failures of a key are counted by the queue, its timers are set one by one, and it comes
and goes on its own account.  What a worker that settles with a key is going to leave behind
can be told as soon as it has succeeded or failed: neither the watch, nor timers, nor other
workers have a part in it.

* `Crew.alarmsOf`, `Crew.delays`: the timers that were set for a key, and their delays;
* `Worker.Phase.Settles`, `Crew.outlook`: a worker settles with a key, and what it is going
  to leave behind;
* `Crew.Sound.outlook_of_step`: **no step changes that**;
* `Crew.Until`: a run up to the moment at which a worker is done with the key that it is at;
* `Crew.Readds`, `Crew.Sound.readds`: a timer that is over is gone, and has added its key;
* `Crew.Sound.timers_cases`: **a timer goes only by adding its key**;
* `Crew.Reachable.retries`: **the count is right and bounded, each failure sets one timer or
  is the last one, and a key that is done with is no longer being processed**.
-/
import SidecarPolicy.Proofs.Worker.Crew

namespace SidecarPolicy

/-- As long as the count has no more than 32 bits, the delay is doubled each time. -/
lemma Backoff.delay_of_lt (b : Backoff) {n : Nat} (h : n < 32) :
    b.delay n = min (b.base * 2 ^ n) b.max := by
  rw [delay, factor, if_pos h]
  rfl

open Worker

/-- A worker settles with a key: it has succeeded with it, or failed, and is not done yet. -/
def Worker.Phase.Settles (k : ObjectKey) : Phase → Prop
  | .succeeded k' | .failed k' | .retrying k' | .dropping k' | .givingUp k' | .finishing k' =>
      k' = k
  | .idle | .taken _ | .reconciling .. => False

lemma Worker.Phase.Settles.key? {phase : Phase} {k : ObjectKey} (h : phase.Settles k) :
    phase.key? = some k := by
  cases phase with
  | idle | taken | reconciling => exact h.elim
  | succeeded | failed | retrying | dropping | givingUp | finishing => exact congrArg some h

lemma Worker.Phase.Settles.eq {phase : Phase} {k k' : ObjectKey} (h : phase.Settles k)
    (hk : phase.key? = some k') : k' = k :=
  Option.some.inj (hk.symm.trans h.key?)

namespace Crew

variable {ω : Type} {s t u : Crew ω} {w : ω} {k : ObjectKey}

/-! ### What a worker is going to leave behind -/

/-- The timers that were set for a key, the latest first. -/
def alarmsOf (s : Crew ω) (k : ObjectKey) : List Alarm := s.alarms.filter (·.key = k)

/-- The delays of the timers that were set for a key, the latest first. -/
def delays (s : Crew ω) (k : ObjectKey) : List Nat := (s.alarmsOf k).map (·.delay)

/-- The count of a key, and the delays of its timers, as a worker that settles with it is
going to leave them behind. -/
def outlook (s : Crew ω) (w : ω) (k : ObjectKey) : Nat × List Nat :=
  let more := (s.requeues k + 1, s.registry.queue.backoff.delay (s.requeues k) :: s.delays k)
  match s.phases w with
  | .succeeded _ | .dropping _ => (0, s.delays k)
  | .failed _ => if s.requeues k < Reconcile.maxRequeues then more else (0, s.delays k)
  | .retrying _ => more
  | _ => (s.requeues k, s.delays k)

/-- It is told by the phase of the worker, the count, the delays and the timers. -/
lemma outlook_congr (hphase : t.phases w = s.phases w) (hrequeues : t.requeues k = s.requeues k)
    (hbackoff : t.registry.queue.backoff = s.registry.queue.backoff)
    (halarms : t.alarmsOf k = s.alarmsOf k) : t.outlook w k = s.outlook w k := by
  rw [outlook, outlook, delays, delays, hphase, hrequeues, hbackoff, halarms]

variable [DecidableEq ω]

/-- A worker sets no timers for the keys of the others. -/
lemma alarmsOf_take {v : State} (hst : Worker.Step (s.view w) v) (hk : s.phases w ≠ .retrying k) :
    (s.take w v).alarmsOf k = s.alarmsOf k := by
  have hnone : (s.alarmsFrom v).filter (·.key = k) = [] := by
    refine List.filter_eq_nil_iff.mpr fun a ha => ?_
    obtain ⟨k', hk', rfl⟩ := List.mem_map.mp ha
    have hretrying : s.phases w = .retrying k' := hst.timers rfl k' hk'
    have hne : k' ≠ k := fun heq => hk (heq ▸ hretrying)
    simpa using hne
  show (s.alarmsFrom v ++ s.alarms).filter (·.key = k) = s.alarms.filter (·.key = k)
  rw [List.filter_append, hnone, List.nil_append]

/-- A worker that tries a key again sets one timer for it. -/
lemma alarmsOf_postpone (s : Crew ω) (w : ω) (k : ObjectKey) :
    (s.take w ((s.view w).postpone k)).alarmsOf k =
      ⟨k, s.now, s.registry.queue.backoff.delay (s.requeues k)⟩ :: s.alarmsOf k :=
  List.filter_cons_of_pos (decide_eq_true rfl)

/-- A worker that settles with a key goes on to what it was going to leave behind. -/
lemma outlook_take {v : State} (hst : Worker.Step (s.view w) v) (hk : (s.phases w).Settles k) :
    (v.phase.Settles k ∨ v.phase = .idle) ∧ (s.take w v).outlook w k = s.outlook w k := by
  have hbackoff := hst.backoff
  -- what the phase foretells is what the next step does
  cases hst with
  | watch r =>
      refine ⟨.inl hk, outlook_congr (phases_take_self ..) ?_ hbackoff rfl⟩
      exact r.requeues_take s.registry k
  | shutdown => exact ⟨.inl hk, outlook_congr (phases_take_self ..) rfl hbackoff rfl⟩
  | fire htimer => cases htimer
  | next hphase _ | read hphase | succeed hphase | fail hphase =>
      rw [show s.phases w = _ from hphase] at hk
      exact hk.elim
  | @forget k' hphase =>
      have hphase : s.phases w = .succeeded k' := hphase
      obtain rfl := hk.eq (congrArg Phase.key? hphase)
      simp only [outlook, phases_take_self, hphase, State.forget, State.withQueue]
      exact ⟨.inl rfl, Prod.ext (Queue.requeues_forget_self _ k') rfl⟩
  | @retry k' hphase hcount =>
      have hphase : s.phases w = .failed k' := hphase
      obtain rfl := hk.eq (congrArg Phase.key? hphase)
      have hcount : s.requeues k' < Reconcile.maxRequeues := hcount
      simp only [outlook, phases_take_self, hphase, State.retry, if_pos hcount]
      exact ⟨.inl rfl, rfl⟩
  | @postpone k' hphase =>
      have hphase : s.phases w = .retrying k' := hphase
      obtain rfl := hk.eq (congrArg Phase.key? hphase)
      simp only [outlook, phases_take_self, hphase, State.postpone, State.withQueue]
      exact ⟨.inl rfl, Prod.ext (Queue.requeues_addRateLimited _ k')
        (congrArg (List.map Alarm.delay) (alarmsOf_postpone s w k'))⟩
  | @exhaust k' hphase hcount =>
      have hphase : s.phases w = .failed k' := hphase
      obtain rfl := hk.eq (congrArg Phase.key? hphase)
      have hcount : ¬ s.requeues k' < Reconcile.maxRequeues := Nat.not_lt.mpr hcount
      simp only [outlook, phases_take_self, hphase, State.exhaust, if_neg hcount]
      exact ⟨.inl rfl, rfl⟩
  | @drop k' hphase =>
      have hphase : s.phases w = .dropping k' := hphase
      obtain rfl := hk.eq (congrArg Phase.key? hphase)
      simp only [outlook, phases_take_self, hphase, State.drop, State.withQueue]
      exact ⟨.inl rfl, Prod.ext (Queue.requeues_forget_self _ k') rfl⟩
  | @giveUp k' hphase =>
      have hphase : s.phases w = .givingUp k' := hphase
      obtain rfl := hk.eq (congrArg Phase.key? hphase)
      simp only [outlook, phases_take_self, hphase, State.giveUp]
      have hqueue := Registry.forgetDeleted_queue s.registry k'
      exact ⟨.inl rfl, Prod.ext (congrArg (Queue.requeues · k') hqueue) rfl⟩
  | @finish k' hphase =>
      have hphase : s.phases w = .finishing k' := hphase
      obtain rfl := hk.eq (congrArg Phase.key? hphase)
      simp only [outlook, phases_take_self, hphase, State.finish, State.withQueue]
      exact ⟨.inr trivial, Prod.ext (Queue.requeues_done _ k' k') rfl⟩

/-- **No step changes what a worker that settles with a key is going to leave behind.** -/
lemma Sound.outlook_of_step (hs : s.Sound) (hst : Step s t) (hk : (s.phases w).Settles k) :
    ((t.phases w).Settles k ∨ t.phases w = .idle) ∧ t.outlook w k = s.outlook w k := by
  have hbackoff := backoff_of_step hst
  cases hst with
  | @work w' v h =>
      by_cases hw : w = w'
      · subst hw
        rw [phases_take_self]
        exact outlook_take h hk
      · -- the other worker is at another key
        have hapart : (s.phases w').key? ≠ some k := fun hk' => hw (hs.sole hk.key? hk')
        have hphase := phases_take_of_ne hw s v
        refine ⟨.inl (hphase ▸ hk), outlook_congr hphase (h.aside hapart).2 hbackoff ?_⟩
        exact alarmsOf_take h fun hretrying => hapart (by rw [hretrying]; rfl)
  | @fire a htimer hdue =>
      exact ⟨.inl hk, outlook_congr rfl (Queue.requeues_offer _ a.key k) hbackoff rfl⟩
  | tick => exact ⟨.inl hk, rfl⟩

/-- A worker goes on with the key that it is at until it is done, and then the key is no
longer being processed. -/
lemma Sound.key?_of_step (hs : s.Sound) (hst : Step s t) (hk : (s.phases w).key? = some k) :
    (t.phases w).key? = some k ∨
      t.phases w = .idle ∧ k ∉ t.registry.queue.processing := by
  cases hst with
  | @work w' v h =>
      by_cases hw : w = w'
      · subst hw
        rw [phases_take_self]
        refine (h.key?_or_idle hk).imp_right fun hidle => ⟨hidle, fun hmem => ?_⟩
        obtain hown | ⟨-, hother⟩ := (h.processing hs.consistent (hs.held w) k).mp hmem
        · rw [hidle] at hown
          cases hown
        · exact hother hk
      · exact .inl (phases_take_of_ne hw s v ▸ hk)
  | fire | tick => exact .inl hk

/-! ### Runs -/

/-- A run up to the moment at which a worker is done with the key that it is at, and not
beyond. -/
def Until (w : ω) : Crew ω → Crew ω → Prop :=
  Relation.ReflTransGen fun s t => s.phases w ≠ .idle ∧ Step s t

lemma Sound.of_until (hs : s.Sound) (hrun : Until w s t) : t.Sound := by
  induction hrun with
  | refl => exact hs
  | tail _ hst ih => exact ih.of_step hst.2

/-- When the worker is done, it has left behind what it was going to. -/
lemma Sound.outlook_of_until (hs : s.Sound) (hrun : Until w s t) (hk : (s.phases w).Settles k) :
    ((t.phases w).Settles k ∨ t.phases w = .idle) ∧ t.outlook w k = s.outlook w k := by
  induction hrun with
  | refl => exact ⟨.inl hk, rfl⟩
  | tail hrun hst ih =>
      obtain ⟨hsettles | hidle, hsame⟩ := ih
      · obtain ⟨hnext, hstep⟩ := (hs.of_until hrun).outlook_of_step hst.2 hsettles
        exact ⟨hnext, hstep.trans hsame⟩
      · exact absurd hidle hst.1

/-- When the worker is done, its key is no longer being processed. -/
lemma Sound.not_processing_of_until (hs : s.Sound) (hrun : Until w s t)
    (hk : (s.phases w).key? = some k) :
    (t.phases w).key? = some k ∨
      t.phases w = .idle ∧ k ∉ t.registry.queue.processing := by
  induction hrun with
  | refl => exact .inl hk
  | tail hrun hst ih =>
      obtain hkey | ⟨hidle, -⟩ := ih
      · exact (hs.of_until hrun).key?_of_step hst.2 hkey
      · exact absurd hidle hst.1

/-- The timers that are set during a run are set at instants of it. -/
lemma alarms_of_until (hrun : Until w s t) : s.now ≤ t.now ∧
    ∃ new, t.alarms = new ++ s.alarms ∧ ∀ a ∈ new, s.now ≤ a.set ∧ a.set ≤ t.now := by
  induction hrun with
  | refl => exact ⟨le_rfl, [], rfl, fun _ ha => absurd ha List.not_mem_nil⟩
  | @tail u t hrun hst ih =>
      obtain ⟨hnow, new, hnew, hset⟩ := ih
      cases hst.2 with
      | @work w' v h =>
          refine ⟨hnow, u.alarmsFrom v ++ new, ?_, List.forall_mem_append.mpr ⟨?_, hset⟩⟩
          · exact (congrArg (u.alarmsFrom v ++ ·) hnew).trans (List.append_assoc ..).symm
          · intro a ha
            obtain ⟨k', -, rfl⟩ := List.mem_map.mp ha
            exact ⟨hnow, le_rfl⟩
      | fire => exact ⟨hnow, new, hnew, hset⟩
      | tick =>
          exact ⟨hnow.trans (Nat.le_succ _), new, hnew, fun a ha =>
            ⟨(hset a ha).1, (hset a ha).2.trans (Nat.le_succ _)⟩⟩

/-! ### Timers that are over -/

/-- A timer is over.  It alone is gone, and its key has been offered to the queue; all else is as
it was.  Unless the queue is closed or full the key is due then: it waits, or a worker is at it, so
that it is going to wait when the worker is done. -/
structure Readds (a : Alarm) (s t : Crew ω) : Prop where
  timers : t.timers = s.timers.erase a
  fired : t.fired = a :: s.fired
  alarms : t.alarms = s.alarms
  phases : t.phases = s.phases
  history : t.history = s.history
  policies : t.registry.policies = s.registry.policies
  queue : t.registry.queue = s.registry.queue.offer a.key
  added : s.registry.queue.closed = false →
    (a.key ∉ s.registry.queue.dirty →
      s.registry.queue.dirty.length < s.registry.queue.capacity) →
    a.key ∈ t.registry.queue.pending ∨
      a.key ∈ t.registry.queue.dirty ∧ ∃ w, (t.phases w).key? = some a.key

omit [DecidableEq ω] in
lemma Sound.readds (hs : s.Sound) (a : Alarm) : Readds a s (s.fire a) where
  timers := rfl
  fired := rfl
  alarms := rfl
  phases := rfl
  history := rfl
  policies := rfl
  queue := rfl
  added hopen hroom := by
    obtain ⟨q, hadd⟩ := Queue.exists_add_eq_ok hopen hroom
    have hqueue : (s.fire a).registry.queue = q := by
      show s.registry.queue.offer a.key = q
      rw [Queue.offer, hadd]
    have hdue : a.key ∈ q.dirty := (Queue.mem_dirty_of_add hadd a.key).mpr (.inl rfl)
    rw [hqueue]
    -- a key that is being processed waits when its worker is done with it
    by_cases hprocessing : a.key ∈ q.processing
    · rw [(Queue.add_frame hadd).1, hs.processing] at hprocessing
      exact .inr ⟨hdue, hprocessing⟩
    · exact .inl (((hs.consistent.of_add hadd).mem_pending a.key).mpr ⟨hdue, hprocessing⟩)

lemma reach_instant (s : Crew ω) {instant : Nat} (h : s.now ≤ instant) :
    Relation.ReflTransGen Step s { s with now := instant } := by
  induction instant, h using Nat.le_induction with
  | base => exact .refl
  | succ n _ ih => exact ih.tail (.tick _)

/-- **A timer goes only by adding its key**, and not before it is due; otherwise there are only
more of them. -/
lemma Sound.timers_cases (hs : s.Sound) (hst : Step s t) :
    (∃ new, t.alarms = new ++ s.alarms ∧ t.timers = new ++ s.timers ∧ t.fired = s.fired) ∨
      ∃ a ∈ s.timers, a.due ≤ s.now ∧ Readds a s t := by
  cases hst with
  | @work w v h => exact .inl ⟨s.alarmsFrom v, rfl, rfl, rfl⟩
  | @fire a htimer hdue => exact .inr ⟨a, htimer, hdue, hs.readds a⟩
  | tick => exact .inl ⟨[], rfl, rfl, rfl⟩

/-! ### Workers are never stuck -/

end Crew

/-- How many steps a worker may still have to make with the key that it is at. -/
def Worker.Phase.left : Phase → Nat
  | .idle => 0
  | .finishing _ => 1
  | .succeeded _ | .givingUp _ => 2
  | .retrying _ | .dropping _ => 3
  | .failed _ => 4
  | .reconciling .. => 5
  | .taken _ => 6

/-- A worker that is at a key can make a step. -/
lemma Worker.State.exists_step (s : State) (h : s.phase ≠ .idle) :
    ∃ t, Worker.Step s t ∧ t.phase.left < s.phase.left := by
  cases hphase : s.phase with
  | idle => exact absurd hphase h
  | taken k => exact ⟨_, .read hphase, by simp [State.read, Phase.left]⟩
  | reconciling k state => exact ⟨_, .succeed hphase, by simp [State.succeed, Phase.left]⟩
  | succeeded k => exact ⟨_, .forget hphase, by simp [State.forget, Phase.left]⟩
  | failed k =>
      obtain hcount | hcount := Nat.lt_or_ge (s.registry.queue.requeues k) Reconcile.maxRequeues
      · exact ⟨_, .retry hphase hcount, by simp [State.retry, Phase.left]⟩
      · exact ⟨_, .exhaust hphase hcount, by simp [State.exhaust, Phase.left]⟩
  | retrying k => exact ⟨_, .postpone hphase, by simp [State.postpone, Phase.left]⟩
  | dropping k => exact ⟨_, .drop hphase, by simp [State.drop, Phase.left]⟩
  | givingUp k => exact ⟨_, .giveUp hphase, by simp [State.giveUp, Phase.left]⟩
  | finishing k => exact ⟨_, .finish hphase, by simp [State.finish, Phase.left]⟩

namespace Crew

variable {ω : Type} [DecidableEq ω]

/-- **A worker can always get done** with the key that it is at. -/
theorem exists_until_idle (s : Crew ω) (w : ω) :
    ∃ t, Until w s t ∧ t.phases w = .idle := by
  induction hleft : (s.phases w).left using Nat.strong_induction_on generalizing s with
  | _ n ih =>
    by_cases hidle : s.phases w = .idle
    · exact ⟨s, .refl, hidle⟩
    · obtain ⟨v, hst, hless⟩ := (s.view w).exists_step hidle
      have hless : ((s.take w v).phases w).left < n := by
        rw [phases_take_self, ← hleft]
        exact hless
      obtain ⟨t, hrun, hdone⟩ := ih _ hless (s.take w v) rfl
      exact ⟨t, hrun.head ⟨hidle, .work s w hst⟩, hdone⟩

/-! ### Retries -/

variable {capacity : Nat} {backoff : Backoff} {s t : Crew ω} {w : ω} {k : ObjectKey}

/-- A worker that has succeeded with a key leaves its count at nothing, and no timer. -/
lemma Sound.of_succeeded (hs : s.Sound) (hphase : s.phases w = .succeeded k)
    (hrun : Until w s t) (hidle : t.phases w = .idle) :
    t.requeues k = 0 ∧ t.delays k = s.delays k := by
  have hsame := (hs.outlook_of_until hrun (k := k) (by rw [hphase]; rfl)).2
  rw [outlook, outlook, hidle, hphase] at hsame
  exact Prod.mk.inj hsame

/-- A worker that has failed with a key counts the failure and sets one timer, unless there
have been too many. -/
lemma Sound.of_failed (hs : s.Sound) (hphase : s.phases w = .failed k)
    (hrun : Until w s t) (hidle : t.phases w = .idle) :
    (t.requeues k, t.delays k) =
      if s.requeues k < Reconcile.maxRequeues then
        (s.requeues k + 1, s.registry.queue.backoff.delay (s.requeues k) :: s.delays k)
      else (0, s.delays k) := by
  have hsame := (hs.outlook_of_until hrun (k := k) (by rw [hphase]; rfl)).2
  rwa [outlook, outlook, hidle, hphase] at hsame

/-- The timers for a key that are set during a run are told by their delays. -/
lemma alarmsOf_of_until (hrun : Until w s t) (new : List Nat)
    (hnew : t.delays k = new ++ s.delays k) :
    ∃ alarms, t.alarmsOf k = alarms ++ s.alarmsOf k ∧ alarms.map (·.delay) = new ∧
      ∀ a ∈ alarms, a.key = k ∧ s.now ≤ a.set ∧ a.set ≤ t.now := by
  obtain ⟨-, alarms, halarms, hset⟩ := alarms_of_until hrun
  have hsplit : t.alarmsOf k = alarms.filter (·.key = k) ++ s.alarmsOf k := by
    rw [alarmsOf, halarms, List.filter_append, alarmsOf]
  refine ⟨alarms.filter (·.key = k), hsplit, ?_, fun a ha => ?_⟩
  · rw [delays, hsplit, List.map_append] at hnew
    exact List.append_cancel_right hnew
  · obtain ⟨hmem, hkey⟩ := List.mem_filter.mp ha
    exact ⟨of_decide_eq_true hkey, hset a hmem⟩

/-- What a worker has made of a key when it is done with it.  If it had failed, then it has
counted the failure and has set one timer, or it has forgotten the failures and set none. -/
structure Finished (backoff : Backoff) (w : ω) (k : ObjectKey) (s t : Crew ω) : Prop where
  released : k ∉ t.registry.queue.processing
  counted : t.requeues k = failures k t.history
  succeeded : s.phases w = .succeeded k → t.requeues k = 0 ∧ t.alarmsOf k = s.alarmsOf k
  retried : s.phases w = .failed k → s.requeues k < Reconcile.maxRequeues →
    t.requeues k = s.requeues k + 1 ∧ ∃ instant, s.now ≤ instant ∧ instant ≤ t.now ∧
      t.alarmsOf k = ⟨k, instant, min (backoff.base * 2 ^ s.requeues k) backoff.max⟩ ::
        s.alarmsOf k
  dropped : s.phases w = .failed k → s.requeues k = Reconcile.maxRequeues →
    t.requeues k = 0 ∧ t.alarmsOf k = s.alarmsOf k

/-- A worker that is done with a key has finished with it in one of these ways. -/
lemma Sound.finished (hs : s.Sound) (hk : (s.phases w).key? = some k) (hrun : Until w s t)
    (hidle : t.phases w = .idle) : Finished s.registry.queue.backoff w k s t := by
  have hnone (hds : t.delays k = s.delays k) : t.alarmsOf k = s.alarmsOf k := by
    obtain ⟨alarms, halarms, hdelays, -⟩ := alarmsOf_of_until hrun [] hds
    rw [halarms, List.map_eq_nil_iff.mp hdelays, List.nil_append]
  have hreleased : k ∉ t.registry.queue.processing := by
    obtain hkey | ⟨-, hreleased⟩ := hs.not_processing_of_until hrun hk
    · rw [hidle] at hkey
      cases hkey
    · exact hreleased
  refine ⟨hreleased, ((hs.of_until hrun).free hreleased).symm, fun hphase => ?_,
    fun hphase hcount => ?_, fun hphase hcount => ?_⟩
  · obtain ⟨hrequeues, hdelays⟩ := hs.of_succeeded hphase hrun hidle
    exact ⟨hrequeues, hnone hdelays⟩
  · have hleft := hs.of_failed hphase hrun hidle
    rw [if_pos hcount] at hleft
    obtain ⟨hrequeues, hdelays⟩ := Prod.mk.inj hleft
    obtain ⟨alarms, halarms, hnew, hset⟩ := alarmsOf_of_until hrun [_] hdelays
    obtain ⟨a, rfl, hdelay⟩ := List.map_eq_singleton_iff.mp hnew
    obtain ⟨hkey, hafter, hbefore⟩ := hset a (List.mem_singleton_self a)
    -- below the limit of retries the factor has no bound
    have hsmall : s.requeues k < 32 := hcount.trans (by decide)
    refine ⟨hrequeues, a.set, hafter, hbefore, ?_⟩
    rw [halarms, ← Backoff.delay_of_lt _ hsmall, ← hdelay, ← hkey]
    rfl
  · have hleft := hs.of_failed hphase hrun hidle
    rw [if_neg hcount.not_lt] at hleft
    obtain ⟨hrequeues, hdelays⟩ := Prod.mk.inj hleft
    exact ⟨hrequeues, hnone hdelays⟩

lemma Reachable.of_run (h : Reachable capacity backoff s)
    (hrun : Relation.ReflTransGen Step s t) : Reachable capacity backoff t := by
  induction hrun with
  | refl => exact h
  | tail _ hst ih => exact ih.step hst

/-- **Retries are counted, bounded and spaced.**  Whatever the watch reports, however the
attempts of any number of workers end and whenever timers are over:

* no key is counted more often than the limit, and a key that nobody is at is counted as
  often as workers have failed with it since one has last succeeded with it or dropped it;
  for a key that a worker is at, this is so up to the outcome that it has not yet settled;
* of the timers that were set some are over, and were not before they were due, and the others
  are still to come; one that is to come can be over at any instant from the one on at which it is
  due, and then it adds its key; and no step takes a timer away in another way, so that each
  adds its key at most once;
* a worker that is at a key can get done with it, and when it is done the key is no longer
  being processed; a failure below the limit has then set one timer, with a delay that
  doubles each time up to a limit, and a failure at the limit has set none, and the count
  begins anew. -/
theorem Reachable.retries (h : Reachable capacity backoff s) :
    (∀ k, s.requeues k ≤ Reconcile.maxRequeues) ∧
      (∀ k, k ∉ s.registry.queue.processing → s.requeues k = failures k s.history) ∧
      (∀ w k, (s.phases w).key? = some k →
        (s.phases w).tally (s.requeues k) k = failures k s.history) ∧
      (s.alarms.Perm (s.fired ++ s.timers) ∧ ∀ a ∈ s.fired, a.due ≤ s.now) ∧
      (∀ a ∈ s.timers, ∀ instant, s.now ≤ instant → a.due ≤ instant →
        Relation.ReflTransGen Step s { s with now := instant } ∧
          ∃ t, Step { s with now := instant } t ∧ Readds a { s with now := instant } t) ∧
      (∀ t, Step s t →
        (∃ new, t.alarms = new ++ s.alarms ∧ t.timers = new ++ s.timers ∧ t.fired = s.fired) ∨
          ∃ a ∈ s.timers, a.due ≤ s.now ∧ Readds a s t) ∧
      ∀ w k, (s.phases w).key? = some k →
        (∃ t, Until w s t ∧ t.phases w = .idle) ∧
          ∀ t, Until w s t → t.phases w = .idle → Finished backoff w k s t := by
  obtain ⟨hs, rfl⟩ := h.sound
  refine ⟨hs.bounded, fun k hk => (hs.free hk).symm, fun w k hk => (hs.counted hk).symm,
    ⟨hs.alarms, hs.punctual⟩, fun a ha instant hnow hdue => ?_, fun t hst => hs.timers_cases hst,
    fun w k hk => ⟨s.exists_until_idle w, fun t hrun hidle => hs.finished hk hrun hidle⟩⟩
  -- nothing but the clock moves until the timer is over
  have hwait := s.reach_instant hnow
  exact ⟨hwait, _, .fire ha hdue, (h.of_run hwait).sound.1.readds a⟩

/-- A worker fails with a policy, and sets a timer.  While it does, a later version of the
policy is reported, so that another worker takes the key before the timer is over, and fails
as well.  After 5 ms the timer of the first one can add the key again, which nobody has added
meanwhile. -/
theorem retries_late : ∃ s : Crew Bool, Reachable 4 {} s ∧
    s.phases true = .failed early.key ∧ s.timers = [⟨early.key, 0, 5⟩] ∧
    s.requeues early.key = 1 ∧ failures early.key s.history = 2 ∧
    (∃ t, Readds ⟨early.key, 0, 5⟩ { s with now := 5 } t ∧ t.timers = [] ∧
      early.key ∈ t.registry.queue.dirty) ∧
    ∃ t, Until true s t ∧ t.phases true = .idle ∧ t.requeues early.key = 2 ∧
      failures early.key t.history = 2 ∧ early.key ∉ t.registry.queue.processing ∧
      ∃ instant, t.alarmsOf early.key = [⟨early.key, instant, 10⟩, ⟨early.key, 0, 5⟩] := by
  have hstart : Reachable 4 {} _ := .start (ω := Bool)
  have htaken := (hstart.step (.work _ false (.watch _ (.applied early)))).step
    (.work _ false (.next rfl rfl))
  have hfailed := (htaken.step (.work _ false (.read rfl))).step (.work _ false (.fail rfl))
  have hagain := (hfailed.step (.work _ true (.watch _ (.applied late)))).step
    (.work _ false (.retry rfl (by decide)))
  have hdone := (hagain.step (.work _ false (.postpone rfl))).step (.work _ false (.finish rfl))
  have hretaken := (hdone.step (.work _ true (.next rfl rfl))).step (.work _ true (.read rfl))
  have hrefailed := hretaken.step (.work _ true (.fail rfl))
  obtain ⟨-, -, -, -, hover, -, hsettles⟩ := hrefailed.retries
  obtain ⟨-, u, -, hreadds⟩ :=
    hover ⟨early.key, 0, 5⟩ List.mem_cons_self 5 (by decide) (by decide)
  have hadded : early.key ∈ u.registry.queue.dirty := by
    rw [hreadds.queue]
    decide
  obtain ⟨⟨t, hrun, hidle⟩, hfinished⟩ := hsettles true early.key rfl
  have hleft := hfinished t hrun hidle
  obtain ⟨hrequeues, instant, -, -, halarms⟩ := hleft.retried rfl (by decide)
  have htwo : t.requeues early.key = 2 := hrequeues.trans (by decide)
  exact ⟨_, hrefailed, rfl, by decide, by decide, by decide,
    ⟨u, hreadds, hreadds.timers.trans (by decide), hadded⟩, t, hrun, hidle, htwo,
    hleft.counted.symm.trans htwo, hleft.released, instant, halarms⟩

end Crew

end SidecarPolicy
