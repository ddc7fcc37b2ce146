/-
What happens at the desk when workers look for keys and time passes.

Timers add their keys, woken workers look for keys, and whoever finds none waits again.
What that comes to at the desk is kept as a log.

* `Dispatch.lookLog`, `Dispatch.askLog`, `Dispatch.settleLog`, `Dispatch.sleepLog`,
  `Dispatch.awaitLog`: what happens at the desk meanwhile;
* `Dispatch.leads_look`, `Dispatch.Comes.leads_ask`: a woken worker looks for a key, and one
  that comes;
* `Dispatch.leads_settle`: **when everything runs that can run, that comes to what happens
  at the desk**, and in the end nobody is awake;
* `Dispatch.leads_sleep`, `Dispatch.leads_await`: time passes, and a caller waits meanwhile;
* `Dispatch.Stays`: meanwhile the queue is neither opened nor closed, and no task begins.
-/
import SidecarPolicy.Proofs.Queue.Poised

namespace SidecarPolicy

namespace Dispatch

variable {κ : Type} {ws : List Worker} {d : Dispatch κ}

/-! ### Loops -/

/-- What happens during a loop, where what happens in each round is known. -/
def loopLog {σ α ε : Type} (f : σ → α → σ) (log : σ → α → List ε) : σ → List α → List ε
  | _, [] => []
  | s, a :: rest => log s a ++ loopLog f log (f s a) rest

/-- What holds of each round of a loop holds of the loop. -/
lemma leads_loop {α : Type} {f : Dispatch κ → α → Dispatch κ}
    {log : Dispatch κ → α → List (Desk.Event κ)} {I : Dispatch κ → Prop}
    (hpoised : ∀ d, I d → Poised d.awake d)
    (hround : ∀ d a, I d → Leads d.awake d (log d a) (f d a).awake (f d a) ∧ I (f d a))
    (h : I d) (l : List α) :
    Leads d.awake d (loopLog f log d l) (l.foldl f d).awake (l.foldl f d) ∧ I (l.foldl f d) := by
  induction l generalizing d with
  | nil => exact ⟨(hpoised d h).silent rfl rfl rfl rfl rfl, h⟩
  | cons a l ih =>
      obtain ⟨hfirst, hnext⟩ := hround d a h
      obtain ⟨hrest, hlast⟩ := ih hnext
      exact ⟨hfirst.trans hrest, hlast⟩

/-- A loop each round of which comes to what happens at the desk. -/
lemma leads_rounds {α : Type} {f : Dispatch κ → α → Dispatch κ}
    {log : Dispatch κ → α → List (Desk.Event κ)}
    (hround : ∀ d a, Poised d.awake d → Leads d.awake d (log d a) (f d a).awake (f d a))
    (h : Poised d.awake d) (l : List α) :
    Leads d.awake d (loopLog f log d l) (l.foldl f d).awake (l.foldl f d) := by
  refine (leads_loop (fun _ => id) (fun e a he => ?_) h l).1
  have hled := hround e a he
  exact ⟨hled, hled.poised⟩

/-- What happens during a loop happens in one of its rounds. -/
lemma exists_of_mem_loopLog {σ α ε : Type} {f : σ → α → σ} {log : σ → α → List ε} {s : σ}
    {l : List α} {e : ε} (h : e ∈ loopLog f log s l) : ∃ s', ∃ a ∈ l, e ∈ log s' a := by
  induction l generalizing s with
  | nil => cases h
  | cons a l ih =>
      obtain h | h := List.mem_append.mp h
      · exact ⟨s, a, List.mem_cons_self, h⟩
      · obtain ⟨s', a', ha', h⟩ := ih h
        exact ⟨s', a', .tail _ ha', h⟩

/-! ### What happens at the desk -/

variable [DecidableEq κ]

/-- A worker that looks for a key is handed one if there is any. -/
def lookLog (d : Dispatch κ) (w : Worker) : List (Desk.Event κ) :=
  match d.queue.next? with
  | some (k, _) => [.handed w k]
  | none => []

/-- A worker comes and looks for a key, and goes away again if there will be no more. -/
def askLog (d : Dispatch κ) (w : Worker) : List (Desk.Event κ) :=
  .came w :: if d.spent then [.dismissed] else d.lookLog w

/-- A timer adds its key. -/
def fire (d : Dispatch κ) (t : Nat × κ) : Dispatch κ := d.put (d.queue.offer t.2)

/-- The timers that are due add their keys. -/
def fireDue (d : Dispatch κ) : Dispatch κ :=
  (d.timers.takeWhile (·.1 ≤ d.now)).foldl fire
    { d with timers := d.timers.dropWhile (·.1 ≤ d.now) }

/-- Everything happens that can happen now. -/
def settleLog (d : Dispatch κ) : List (Desk.Event κ) :=
  loopLog fire (fun d t => d.putLog (d.queue.offer t.2))
      { d with timers := d.timers.dropWhile (·.1 ≤ d.now) } (d.timers.takeWhile (·.1 ≤ d.now)) ++
    loopLog look lookLog { d.fireDue with awake := [] } d.fireDue.awake

/-- The clock moves to an instant. -/
def advanceLog (d : Dispatch κ) (instant : Nat) : List (Desk.Event κ) :=
  settleLog { d with now := instant }

/-- Time passes up to an instant. -/
def sleepLog (d : Dispatch κ) (instant : Nat) : List (Desk.Event κ) :=
  loopLog advance advanceLog d (d.instants.filter (· ≤ instant)) ++
    advanceLog ((d.instants.filter (· ≤ instant)).foldl advance d) instant

/-- The clock moves to an instant, unless the caller has an answer. -/
def advanceUnserved (d : Dispatch κ) (t : Nat) : Dispatch κ :=
  if d.served.isSome then d else d.advance t

/-- The clock moves up to a deadline, unless the caller has an answer before. -/
def waitUntil (d : Dispatch κ) (deadline : Nat) : Dispatch κ :=
  (d.instants.filter (· < deadline)).foldl advanceUnserved d

/-- What happens up to a deadline, or until the caller has an answer. -/
def waitLog (d : Dispatch κ) (deadline : Nat) : List (Desk.Event κ) :=
  loopLog advanceUnserved (fun d t => if d.served.isSome then [] else d.advanceLog t) d
    (d.instants.filter (· < deadline))

/-- The caller waits for a key up to a deadline, and then gives up. -/
def awaitLog (d : Dispatch κ) (deadline : Nat) : List (Desk.Event κ) :=
  d.waitLog deadline ++
    if (d.waitUntil deadline).served.isSome then []
    else .left .caller :: ((d.waitUntil deadline).giveUp deadline).settleLog

lemma awaitCaller_eq (d : Dispatch κ) (deadline : Nat) :
    d.awaitCaller deadline = if (d.waitUntil deadline).served.isSome then d.waitUntil deadline
      else ((d.waitUntil deadline).giveUp deadline).settle := rfl

/-! ### Keys that are added -/

/-- A queue that accepts a key has one more key that waits, or none. -/
lemma pending_of_add {q q' : Queue κ} {k : κ} (h : q.add k = .ok q') :
    q.closed = false ∧ q'.closed = false ∧
      (q'.pending = q.pending ∨ q'.pending = q.pending ++ [k]) := by
  obtain ⟨hopen, ⟨-, rfl⟩ | ⟨-, -, rfl⟩⟩ := Queue.add_eq_ok.mp h
  · exact ⟨hopen, hopen, .inl rfl⟩
  · refine ⟨hopen, hopen, ?_⟩
    by_cases hk : k ∈ q.processing
    · exact .inl (if_pos hk)
    · exact .inr (if_neg hk)

lemma leads_add (h : Poised d.awake d) {q : Queue κ} {k : κ} (hadd : d.queue.add k = .ok q) :
    Leads d.awake d (d.putLog q) (d.put q).awake (d.put q) := by
  obtain ⟨hopen, hopen', hsame | hmore⟩ := pending_of_add hadd
  · exact leads_put_same h (hopen'.trans hopen.symm) hsame
  · exact leads_put_more h (hopen'.trans hopen.symm) hmore fun hc => by
      cases hopen.symm.trans hc

lemma leads_done (h : Poised d.awake d) (hrest : d.awake = []) (k : κ) :
    Leads d.awake d (d.putLog (d.queue.done k)) (d.put (d.queue.done k)).awake
      (d.put (d.queue.done k)) := by
  have hclosed := (Queue.done_frame d.queue k).2.2.2.2
  by_cases hk : k ∈ d.queue.dirty
  · exact leads_put_more h hclosed (Queue.pending_done hk) fun _ => hrest
  · exact leads_put_same h hclosed (by rw [Queue.done, if_neg hk])

lemma leads_fire (h : Poised d.awake d) (t : Nat × κ) :
    Leads d.awake d (d.putLog (d.queue.offer t.2)) (d.fire t).awake (d.fire t) := by
  rw [fire, Queue.offer]
  cases hadd : d.queue.add t.2 with
  | ok q => exact leads_add h hadd
  | error reason => exact leads_put_same h rfl rfl

/-! ### Workers that look -/

/-- A woken worker looks: there is a key for it, unless there will be no more. -/
lemma leads_look {w : Worker} (h : Poised (w :: ws) d) :
    Leads (w :: ws) d (d.lookLog w) ws (d.look w) := by
  cases hnext : d.queue.next? with
  | none =>
      have hpending : d.queue.pending = [] := Queue.next?_eq_none.mp hnext
      -- who is awake and finds no key has been woken because there will be none
      have hspent : d.spent = true := by
        by_contra hmore
        have hle := h.enough (Bool.not_eq_true _ ▸ hmore)
        rw [hpending] at hle
        exact Nat.not_succ_le_zero _ hle
      have hlook : d.look w = d.finish w none := by
        rw [look, hnext]
        exact if_pos (spent_eq_true.mp hspent).1
      have hlog : d.lookLog w = [] := by rw [lookLog, hnext]
      have hdesk : d.desk ws = d.desk (w :: ws) := by
        rw [desk, desk, if_pos hspent, if_pos hspent]
      have htrace : (d.desk (w :: ws)).Trace [] (d.desk ws) := hdesk ▸ .nil _
      rw [hlog, hlook]
      exact leads_finish h rfl (by rw [hpending, List.tail_nil]) htrace (by simp)
  | some handed =>
      obtain ⟨k, q⟩ := handed
      obtain ⟨rest, hpending, hq⟩ := Queue.next?_eq_some.mp hnext
      have hrest : q.pending = rest := by rw [hq]
      have hclosed : q.closed = d.queue.closed := (Queue.next?_frame hnext).2.2.2
      have hlook : d.look w = finish { d with queue := q } w (some k) := by rw [look, hnext]
      have hlog : d.lookLog w = [.handed w k] := by rw [lookLog, hnext]
      have hmore : d.spent = false := by simp [spent, hpending]
      have hline : (d.desk (w :: ws)).line = w :: (ws ++ d.waiting) := by
        rw [desk, hmore]
        rfl
      -- with the last key of a closed queue the line comes to its end
      have hnobody (hspent : spent { d with queue := q } = true) : ws ++ d.waiting = [] := by
        obtain ⟨hshut, hlast⟩ := spent_eq_true.mp hspent
        have hwaiting : d.waiting = [] := h.waiting_of_closed (hclosed.symm.trans hshut)
        have hle := h.enough hmore
        rw [hpending, ← hrest, hlast] at hle
        have hws : ws = [] :=
          List.eq_nil_of_length_eq_zero (Nat.le_zero.mp (Nat.le_of_succ_le_succ hle))
        rw [hws, hwaiting, List.append_nil]
      have hdesk : desk ws { d with queue := q } =
          { d.desk (w :: ws) with keys := rest, line := ws ++ d.waiting } := by
        rw [Desk.mk.injEq]
        refine ⟨hrest, ?_, rfl⟩
        rw [desk]
        split
        · exact (hnobody ‹_›).symm
        · rfl
      rw [hlog, hlook]
      refine leads_finish h hclosed (by rw [hrest, hpending, List.tail_cons])
        (hdesk ▸ .single (.handed hpending hline)) fun v k' => ?_
      rw [List.mem_singleton, Desk.Event.handed.injEq, Option.some.injEq, eq_comm (a := k')]

lemma leads_looks (h : Poised ws d) :
    Leads ws d (loopLog look lookLog d ws) [] (ws.foldl look d) := by
  induction ws generalizing d with
  | nil => exact h.silent rfl rfl rfl rfl rfl
  | cons w ws ih =>
      have hlook := leads_look h
      exact hlook.trans (ih hlook.poised)

lemma awake_look (d : Dispatch κ) (w : Worker) : (d.look w).awake = d.awake := by
  rw [look]
  split
  · exact finish_awake _ w _
  · split
    · exact finish_awake d w none
    · rfl

/-- A worker comes and looks for a key.  It overtakes nobody: as long as others wait there
is no key for it either. -/
lemma Comes.leads_ask {e : Dispatch κ} {w : Worker} (hc : d.Comes w e) (h : Poised [] d) :
    Leads [] d (e.askLog w) [] (e.look w) := by
  have hspent : e.spent = d.spent := by rw [spent, spent, hc.queue]
  have hlog : e.askLog w = (.came w :: if d.spent then [.dismissed] else []) ++ e.lookLog w := by
    rw [askLog, hspent]
    cases hunspent : d.spent with
    | true =>
        have hpending : e.queue.pending = [] := (spent_eq_true.mp (hspent.trans hunspent)).2
        rw [lookLog, Queue.next?_eq_none.mpr hpending]
        rfl
    | false => rfl
  -- there is no key yet, and the worker joins the line, or there is no line
  by_cases hwaits : d.queue.closed = false ∧ d.queue.pending = []
  · obtain ⟨hopen, hpending⟩ := hwaits
    have hnext : e.queue.next? = none := Queue.next?_eq_none.mpr (hc.queue ▸ hpending)
    have hlook : e.look w = { e with signal := false, waiting := e.waiting ++ [w] } := by
      rw [look, hnext, hc.queue, hopen]
      rfl
    have hcame : e.askLog w = [.came w] := by
      rw [hlog, lookLog, hnext, spent, hopen]
      rfl
    rw [hcame, hlook]
    exact hc.leads_join h hopen hpending
  · have hnobody : d.waiting = [] := by
      by_contra hne
      exact hwaits (h.of_waiting hne)
    have hmore (hunspent : d.spent = false) : d.queue.pending ≠ [] := by
      intro hnone
      cases hclosed : d.queue.closed with
      | true => exact Bool.false_ne_true (hunspent.symm.trans (spent_eq_true.mpr ⟨hclosed, hnone⟩))
      | false => exact hwaits ⟨hclosed, hnone⟩
    have hwoken := hc.leads_woken h hnobody hmore
    rw [hlog]
    exact hwoken.trans (leads_look hwoken.poised)

/-! ### Everything runs that can run -/

lemma leads_fireDue (h : Poised d.awake d) :
    Leads d.awake d (loopLog fire (fun d t => d.putLog (d.queue.offer t.2))
      { d with timers := d.timers.dropWhile (·.1 ≤ d.now) } (d.timers.takeWhile (·.1 ≤ d.now)))
      d.fireDue.awake d.fireDue := by
  have htimers : Leads d.awake d [] d.awake
      { d with timers := d.timers.dropWhile (·.1 ≤ d.now) } :=
    h.silent rfl rfl rfl rfl rfl
  have hfired := leads_rounds (d := { d with timers := d.timers.dropWhile (·.1 ≤ d.now) })
    (fun _ t he => leads_fire he t) htimers.poised (d.timers.takeWhile (·.1 ≤ d.now))
  exact htimers.trans hfired

lemma awake_settle (d : Dispatch κ) : d.settle.awake = [] := by
  have hlooks (ws : List Worker) (e : Dispatch κ) : (ws.foldl look e).awake = e.awake := by
    induction ws generalizing e with
    | nil => rfl
    | cons w ws ih => exact (ih (e.look w)).trans (awake_look e w)
  exact hlooks d.fireDue.awake { d.fireDue with awake := [] }

/-- **Everything runs that can run**, and what that comes to at the desk. -/
theorem leads_settle (h : Poised d.awake d) :
    Leads d.awake d d.settleLog d.settle.awake d.settle := by
  have hfired := leads_fireDue h
  have haside : Leads d.fireDue.awake d.fireDue [] d.fireDue.awake { d.fireDue with awake := [] } :=
    hfired.poised.silent rfl rfl rfl rfl rfl
  rw [awake_settle]
  exact hfired.trans (haside.trans (leads_looks haside.poised))

lemma leads_advance (h : Poised d.awake d) (instant : Nat) :
    Leads d.awake d (d.advanceLog instant) (d.advance instant).awake (d.advance instant) := by
  have hclock : Leads d.awake d [] d.awake { d with now := instant } :=
    h.silent rfl rfl rfl rfl rfl
  have hsettle := leads_settle (d := { d with now := instant }) hclock.poised
  exact hclock.trans hsettle

lemma leads_sleep (h : Poised d.awake d) (instant : Nat) :
    Leads d.awake d (d.sleepLog instant) (d.sleepUntil instant).awake (d.sleepUntil instant) := by
  have hlater := leads_rounds (fun _ t he => leads_advance he t) h
    (d.instants.filter (· ≤ instant))
  exact hlater.trans (leads_advance hlater.poised instant)

/-- The clock moves as long as the caller has no answer. -/
lemma leads_advanceUnserved (h : d.awake = [] ∧ Poised d.awake d) (t : Nat) :
    Leads d.awake d (if d.served.isSome then [] else d.advanceLog t)
        (d.advanceUnserved t).awake (d.advanceUnserved t) ∧
      (d.advanceUnserved t).awake = [] ∧
        Poised (d.advanceUnserved t).awake (d.advanceUnserved t) := by
  by_cases hserved : d.served.isSome
  · rw [advanceUnserved, if_pos hserved, if_pos hserved]
    exact ⟨h.2.silent rfl rfl rfl rfl rfl, h⟩
  · rw [advanceUnserved, if_neg hserved, if_neg hserved]
    have hadvance := leads_advance h.2 t
    exact ⟨hadvance, awake_settle _, hadvance.poised⟩

lemma came_not_mem_lookLog (d : Dispatch κ) (v w : Worker) : .came w ∉ d.lookLog v := by
  rw [lookLog]
  split <;> simp

lemma came_not_mem_settleLog (d : Dispatch κ) (w : Worker) : .came w ∉ d.settleLog := by
  intro hmem
  obtain hfired | hlooked := List.mem_append.mp hmem
  · obtain ⟨e, t, -, hmem⟩ := exists_of_mem_loopLog hfired
    exact came_not_mem_putLog e _ w hmem
  · obtain ⟨e, v, -, hmem⟩ := exists_of_mem_loopLog hlooked
    exact came_not_mem_lookLog e v w hmem

lemma not_mem_waiting_settle (h : Poised d.awake d) {w : Worker} (hw : w ∉ d.awake ++ d.waiting) :
    w ∉ d.settle.waiting := fun hmem =>
  ((leads_settle h).mem_waiting hmem).elim hw (came_not_mem_settleLog d w)

/-- A caller waits for a key, and gives up in the end. -/
lemma leads_await (h : Poised [] d) (hrest : d.awake = []) (deadline : Nat) :
    Leads [] d (d.awaitLog deadline) [] (d.awaitCaller deadline) ∧
      (d.awaitCaller deadline).awake = [] ∧ Worker.caller ∉ (d.awaitCaller deadline).waiting := by
  obtain ⟨hwaited, hawake, -⟩ := leads_loop (fun _ => And.right)
    (fun _ t he => leads_advanceUnserved he t) ⟨hrest, hrest ▸ h⟩
    (d.instants.filter (· < deadline))
  rw [hrest, hawake] at hwaited
  change (d.waitUntil deadline).awake = [] at hawake
  change Leads [] d (d.waitLog deadline) [] (d.waitUntil deadline) at hwaited
  rw [awaitLog, awaitCaller_eq]
  -- the caller is served in time, or leaves the line at the deadline
  by_cases hserved : (d.waitUntil deadline).served.isSome
  · rw [if_pos hserved, if_pos hserved, List.append_nil]
    refine ⟨hwaited, hawake, fun hmem => ?_⟩
    have hnone : (d.waitUntil deadline).served = none := hwaited.poised.unserved .caller hmem
    rw [hnone] at hserved
    cases hserved
  · rw [if_neg hserved, if_neg hserved]
    have hgone := leads_giveUp hwaited.poised deadline
    have hnobody : ((d.waitUntil deadline).giveUp deadline).awake = [] := hawake
    have hpoised : Poised ((d.waitUntil deadline).giveUp deadline).awake
        ((d.waitUntil deadline).giveUp deadline) := hnobody ▸ hgone.poised
    have hsettle := leads_settle hpoised
    rw [hnobody, awake_settle] at hsettle
    refine ⟨hwaited.trans (hgone.trans hsettle), awake_settle _, not_mem_waiting_settle hpoised ?_⟩
    rw [hnobody]
    exact caller_not_mem_giveUp _ deadline

/-! ### What stays meanwhile -/

/-- The queue is as open or closed as before, and no task has begun. -/
structure Stays (d e : Dispatch κ) : Prop where
  closed : e.queue.closed = d.queue.closed
  started : e.started = d.started

variable {e f : Dispatch κ}

omit [DecidableEq κ] in
lemma Stays.refl (d : Dispatch κ) : Stays d d := ⟨rfl, rfl⟩

omit [DecidableEq κ] in
lemma Stays.trans (h : Stays d e) (h' : Stays e f) : Stays d f :=
  ⟨h'.closed.trans h.closed, h'.started.trans h.started⟩

omit [DecidableEq κ] in
/-- What stays in each round of a loop stays during the loop. -/
lemma stays_foldl {α : Type} {f : Dispatch κ → α → Dispatch κ} (h : ∀ d a, Stays d (f d a))
    (d : Dispatch κ) (l : List α) : Stays d (l.foldl f d) := by
  induction l generalizing d with
  | nil => exact .refl d
  | cons a l ih => exact (h d a).trans (ih (f d a))

omit [DecidableEq κ] in
lemma stays_put {q : Queue κ} (hclosed : q.closed = d.queue.closed) : Stays d (d.put q) := by
  rw [put]
  split
  · -- one more key waits, and perhaps somebody is woken
    rw [wake]
    split <;> exact ⟨hclosed, rfl⟩
  · exact ⟨hclosed, rfl⟩

lemma stays_look (d : Dispatch κ) (w : Worker) : Stays d (d.look w) := by
  rw [look]
  cases hnext : d.queue.next? with
  | some handed =>
      obtain ⟨k, q⟩ := handed
      have hclosed : q.closed = d.queue.closed := (Queue.next?_frame hnext).2.2.2
      exact ⟨(congrArg Queue.closed (finish_queue _ w _)).trans hclosed, finish_started _ w _⟩
  | none =>
      dsimp only
      split
      · exact ⟨congrArg Queue.closed (finish_queue d w none), finish_started d w none⟩
      · exact ⟨rfl, rfl⟩

lemma stays_fire (d : Dispatch κ) (t : Nat × κ) : Stays d (d.fire t) :=
  stays_put (Queue.offer_frame d.queue t.2).2.2.2.2

lemma stays_settle (d : Dispatch κ) : Stays d d.settle := by
  have htimers : Stays d { d with timers := d.timers.dropWhile (·.1 ≤ d.now) } := ⟨rfl, rfl⟩
  have hfired : Stays d d.fireDue := htimers.trans (stays_foldl stays_fire _ _)
  have haside : Stays d { d.fireDue with awake := [] } := ⟨hfired.closed, hfired.started⟩
  exact haside.trans (stays_foldl stays_look _ d.fireDue.awake)

lemma stays_advance (d : Dispatch κ) (instant : Nat) : Stays d (d.advance instant) := by
  have hclock : Stays d { d with now := instant } := ⟨rfl, rfl⟩
  exact hclock.trans (stays_settle _)

lemma stays_sleep (d : Dispatch κ) (instant : Nat) : Stays d (d.sleepUntil instant) :=
  (stays_foldl stays_advance d _).trans (stays_advance _ instant)

lemma stays_await (d : Dispatch κ) (deadline : Nat) : Stays d (d.awaitCaller deadline) := by
  have hwaited : Stays d (d.waitUntil deadline) := by
    refine stays_foldl (fun e t => ?_) d _
    rw [advanceUnserved]
    split
    · exact .refl e
    · exact stays_advance e t
  rw [awaitCaller_eq]
  split
  · exact hwaited
  · have hgone : Stays (d.waitUntil deadline) ((d.waitUntil deadline).giveUp deadline) := ⟨rfl, rfl⟩
    exact hwaited.trans (hgone.trans (stays_settle _))

end Dispatch

end SidecarPolicy
