/-
Workers that wait for keys are woken, and served, in turn.

Between the steps nobody is awake, and only tasks wait.  Each step comes to what happens at
the desk, and there both keys and workers come in turn.

* `Dispatch.AtRest`: a dispatch between the steps;
* `Dispatch.stepLog`, `Dispatch.log`: what happens at the desk during a step, and during
  one step after another;
* `Dispatch.leads_step`: **what may be asked of a dispatch comes to what happens at the
  desk**, and in the end it is at rest again;
* `Dispatch.AtRest.exists_numbers`: those who wait are tasks, in the order in which they began;
* `Dispatch.closed_after`: a dispatch is closed by being shut down, and in no other way;
* `Dispatch.served_in_turn`: **no wake-up is lost, and both keys and workers come in turn**.
-/
import SidecarPolicy.Proofs.Queue.Log

namespace SidecarPolicy

namespace Dispatch

variable {κ : Type} {d : Dispatch κ}

/-! ### Between the steps -/

/-- Nobody is awake, and no caller waits: so it is between the steps. -/
structure AtRest (d : Dispatch κ) : Prop where
  poised : Poised [] d
  awake : d.awake = []
  alone : Worker.caller ∉ d.waiting

/-- A dispatch at the beginning. -/
lemma atRest_empty (capacity : Nat) (backoff : Backoff) :
    AtRest ({ queue := { capacity, backoff } } : Dispatch κ) where
  poised := {
    enough := fun _ => Nat.zero_le _
    needed := fun hne => absurd rfl hne
    nodup := List.nodup_nil
    known := nofun
    ascending := .nil
    unserved := nofun
    fresh := fun _ _ => rfl }
  awake := rfl
  alone := List.not_mem_nil

lemma AtRest.task_of_mem (h : AtRest d) {w : Worker} (hw : w ∈ d.waiting) :
    ∃ n < d.started, w = .task n := by
  cases w with
  | task n => exact ⟨n, h.poised.known n hw, rfl⟩
  | caller => exact absurd hw h.alone

/-- Those who wait are tasks, in the order of their numbers. -/
lemma AtRest.exists_numbers (h : AtRest d) :
    ∃ ns : List Nat, d.waiting = ns.map .task ∧ ns.Pairwise (· < ·) ∧ ∀ n ∈ ns, n < d.started :=
  ⟨d.waiting.filterMap Worker.number?, (Worker.map_numbers h.alone).symm, h.poised.ascending,
    fun n hn => h.poised.known n (Worker.mem_numbers.mp hn)⟩

/-- Of two tasks that wait, the one with the larger number stands behind the other. -/
lemma AtRest.mem_behind (h : AtRest d) {m n : Nat} (hlt : m < n) (hn : .task n ∈ d.waiting)
    {xs ys : List Worker} (hwaiting : d.waiting = xs ++ .task m :: ys) : .task n ∈ ys := by
  have hascending : (d.waiting.filterMap Worker.number?).Pairwise (· < ·) := h.poised.ascending
  rw [hwaiting, List.filterMap_append, List.pairwise_append] at hascending
  rw [hwaiting] at hn
  obtain hahead | hbehind := List.mem_append.mp hn
  · have hn : n ∈ xs.filterMap Worker.number? := Worker.mem_numbers.mpr hahead
    exact absurd (hascending.2.2 n hn m List.mem_cons_self) hlt.not_gt
  · refine (List.mem_cons.mp hbehind).resolve_left fun heq => ?_
    exact hlt.ne' (Worker.task.inj heq)

/-- What is left of earlier answers when a step begins: a task's are taken away, and the
caller's when the caller asks again. -/
def ready (d : Dispatch κ) : Step κ → Dispatch κ
  | .next _ => { d with finished := .empty, served := none }
  | _ => { d with finished := .empty }

/-- When a step begins it is as it was. -/
lemma AtRest.ready (h : AtRest d) (s : Step κ) : AtRest (d.ready s) := by
  have hunserved : ∀ w ∈ d.waiting, (d.ready s).answer w = none := by
    intro w hw
    obtain ⟨n, -, rfl⟩ := h.task_of_mem hw
    cases s <;> rfl
  cases s <;> exact
    { poised := { h.poised with unserved := hunserved, fresh := fun _ _ => rfl }
      awake := h.awake
      alone := h.alone }

/-! ### Steps -/

variable [DecidableEq κ]

/-- What a step does at once. -/
def performLog (d : Dispatch κ) : Step κ → List (Desk.Event κ)
  | .add k =>
      match d.queue.add k with
      | .ok q => d.putLog q
      | .error _ => []
  | .done k => d.putLog (d.queue.done k)
  | .shutdown => [.dismissed]
  | .next within =>
      let asked := ({ d with served := none } : Dispatch κ)
      asked.askLog .caller ++ (asked.look .caller).awaitLog (d.now + within)
  | .wait => askLog { d with started := d.started + 1 } (.task d.started)
  | .sleep ms => d.sleepLog (d.now + ms)
  | .addRateLimited _ | .requeues _ | .forget _ => []

/-- What happens during a step. -/
def stepLog (d : Dispatch κ) (s : Step κ) : List (Desk.Event κ) :=
  (d.ready s).performLog s ++ ((d.ready s).perform s).2.settleLog

lemma step_eq (d : Dispatch κ) (s : Step κ) :
    d.step s = (((d.ready s).perform s).1, ((d.ready s).perform s).2.settle) := by
  cases s <;> rfl

def next (d : Dispatch κ) (s : Step κ) : Dispatch κ := (d.step s).2

/-- The dispatch after one step after another. -/
def after (d : Dispatch κ) (steps : List (Step κ)) : Dispatch κ := steps.foldl next d

/-- What happens during one step after another. -/
def log (d : Dispatch κ) (steps : List (Step κ)) : List (Desk.Event κ) :=
  loopLog next stepLog d steps

/-- A worker comes, and stays if there is no key for it. -/
lemma leads_wait (h : Poised [] d) :
    Leads [] d (d.performLog .wait) [] (d.perform .wait).2 := by
  have hcomes : d.Comes (.task d.started) { d with started := d.started + 1 } := {
    absent := fun hmem => Nat.lt_irrefl _ (h.known _ hmem)
    unserved := h.fresh _ le_rfl
    queue := rfl
    waiting := rfl
    started := fun n => by
      rw [Worker.task.injEq]
      exact Nat.lt_succ_iff_lt_or_eq.trans (or_congr_right eq_comm)
    answers := rfl
    trace := .task _ }
  exact hcomes.leads_ask h

/-- A caller asks for a key, and waits for it up to a deadline. -/
lemma leads_next (h : AtRest d) (hserved : d.served = none) (within : Nat) :
    Leads [] d (d.performLog (.next within)) [] (d.perform (.next within)).2 ∧
      (d.perform (.next within)).2.awake = [] ∧
        Worker.caller ∉ (d.perform (.next within)).2.waiting := by
  have hasked : ({ d with served := none } : Dispatch κ) = d := by rw [← hserved]
  have hcomes : d.Comes .caller d := {
    absent := h.alone
    unserved := hserved
    queue := rfl
    waiting := rfl
    started := fun n => by simp
    answers := rfl
    trace := .caller _ }
  have hlook : Leads [] d (askLog { d with served := none } .caller) []
      (look { d with served := none } .caller) := by
    rw [hasked]
    exact hcomes.leads_ask h.poised
  have hawake : (look { d with served := none } .caller).awake = [] :=
    (awake_look _ _).trans h.awake
  obtain ⟨hawait, hlast⟩ := leads_await hlook.poised hawake (d.now + within)
  exact ⟨hlook.trans hawait, hlast⟩

/-- Only when a caller asks does a caller come. -/
lemma next_of_came_caller {s : Step κ} (hmem : .came .caller ∈ d.stepLog s) :
    ∃ within, s = .next within := by
  replace hmem := (List.mem_append.mp hmem).resolve_right (came_not_mem_settleLog _ _)
  cases s with
  | next within => exact ⟨within, rfl⟩
  | add k =>
      rw [performLog] at hmem
      split at hmem
      · exact absurd hmem (came_not_mem_putLog _ _ _)
      · cases hmem
  | done k => exact absurd hmem (came_not_mem_putLog _ _ _)
  | wait =>
      rw [performLog, askLog, List.mem_cons] at hmem
      obtain heq | hmem := hmem
      · cases heq
      · split at hmem
        · cases List.mem_singleton.mp hmem
        · exact absurd hmem (came_not_mem_lookLog _ _ _)
  | sleep ms =>
      obtain hmem | hmem := List.mem_append.mp hmem
      · obtain ⟨e, t, -, hmem⟩ := exists_of_mem_loopLog hmem
        exact absurd hmem (came_not_mem_settleLog _ _)
      · exact absurd hmem (came_not_mem_settleLog _ _)
  | shutdown => cases List.mem_singleton.mp hmem
  | addRateLimited k | requeues k | forget k => cases hmem

/-- What a step does at once. -/
lemma leads_perform (h : AtRest d) (s : Step κ) :
    Leads [] (d.ready s) ((d.ready s).performLog s) ((d.ready s).perform s).2.awake
      ((d.ready s).perform s).2 := by
  have hready : AtRest (d.ready s) := h.ready s
  have hpoised : Poised (d.ready s).awake (d.ready s) := hready.awake.symm ▸ hready.poised
  suffices hled : Leads (d.ready s).awake (d.ready s) ((d.ready s).performLog s)
      ((d.ready s).perform s).2.awake ((d.ready s).perform s).2 from hready.awake ▸ hled
  cases s with
  | add k =>
      rw [performLog, perform]
      cases hadd : (d.ready (.add k)).queue.add k with
      | ok q => exact leads_add hpoised hadd
      | error reason => exact hpoised.silent rfl rfl rfl rfl rfl
  | done k => exact leads_done hpoised hready.awake k
  | shutdown => exact hready.awake.symm ▸ leads_shutdown hready.poised hready.awake
  | next within =>
      obtain ⟨hnext, hawake, -⟩ := leads_next hready rfl within
      rw [hawake, hready.awake]
      exact hnext
  | wait =>
      have hawake : ((d.ready .wait).perform .wait).2.awake = [] :=
        (awake_look _ _).trans hready.awake
      rw [hawake, hready.awake]
      exact leads_wait hready.poised
  | sleep ms => exact leads_sleep hpoised _
  | addRateLimited k | requeues k | forget k => exact hpoised.silent rfl rfl rfl rfl rfl

/-- **What may be asked of a dispatch comes to what happens at the desk**, and in the end
nobody is awake. -/
theorem leads_step (h : AtRest d) (s : Step κ) :
    Leads [] (d.ready s) (d.stepLog s) [] (d.next s) ∧ AtRest (d.next s) := by
  have hperform := leads_perform h s
  have hsettle := leads_settle hperform.poised
  have hnext : d.next s = ((d.ready s).perform s).2.settle := congrArg Prod.snd (step_eq d s)
  have hawake : (d.next s).awake = [] := hnext ▸ awake_settle _
  have hstep : Leads [] (d.ready s) (d.stepLog s) [] (d.next s) := by
    rw [awake_settle] at hsettle
    exact hnext ▸ hperform.trans hsettle
  refine ⟨hstep, hstep.poised, hawake, fun hmem => ?_⟩
  obtain hbefore | hcame := hstep.mem_waiting hmem
  · exact (h.ready s).alone hbefore
  · -- a caller has an answer in the end, or it has given up
    obtain ⟨within, rfl⟩ := next_of_came_caller hcame
    obtain ⟨-, hrest, halone⟩ := leads_next (h.ready (.next within)) rfl within
    refine not_mem_waiting_settle hperform.poised ?_ (hnext ▸ hmem)
    rw [hrest]
    exact halone

/-- **The caller's answer is the key that it has been handed.** -/
theorem reply_eq_key (h : AtRest d) (s : Step κ) (k : κ) :
    (d.step s).1 = .key k ↔ .handed .caller k ∈ d.stepLog s := by
  have hready := h.ready s
  by_cases hnext : ∃ within, s = .next within
  · obtain ⟨within, rfl⟩ := hnext
    obtain ⟨hled, hrest, halone⟩ := leads_next hready rfl within
    have hreply : (d.step (.next within)).1 = .key k ↔
        ((d.ready (.next within)).perform (.next within)).2.answer .caller = some (some k) := by
      rw [step_eq, answer, perform]
      split <;> simp [*]
    -- when the others settle the caller has gone already
    have hsettled :
        .handed .caller k ∉ settleLog ((d.ready (.next within)).perform (.next within)).2 := by
      intro hmem
      have hsettle := leads_settle (leads_perform h (.next within)).poised
      obtain hbefore | hcame := hsettle.mem_of_handed hmem
      · rw [hrest] at hbefore
        exact halone hbefore
      · exact came_not_mem_settleLog _ _ hcame
    have hasked : (d.ready (.next within)).answer .caller ≠ some (some k) := nofun
    rw [hreply, hled.answers, or_iff_right hasked, stepLog, List.mem_append, or_iff_left hsettled]
  · -- no other step has a key for an answer, or a caller that could be handed one
    have hreply : (d.step s).1 ≠ .key k := by
      rw [step_eq]
      cases s with
      | next within => exact absurd ⟨within, rfl⟩ hnext
      | add k =>
          rw [perform]
          split <;> exact nofun
      | done | shutdown | wait | sleep | addRateLimited | requeues | forget => exact nofun
    have hnone : .handed .caller k ∉ d.stepLog s := by
      intro hmem
      obtain hbefore | hcame := (leads_step h s).1.mem_of_handed hmem
      · exact hready.alone hbefore
      · exact hnext (next_of_came_caller hcame)
    exact iff_of_false hreply hnone

/-- Those wait after a step who have waited before or have come, and have no answer. -/
theorem mem_waiting_next (h : AtRest d) (s : Step κ) {n : Nat} (hn : n < (d.next s).started) :
    .task n ∈ (d.next s).waiting ↔
      (.task n ∈ d.waiting ∨ d.started ≤ n) ∧ (d.next s).finished.get? n = none := by
  obtain ⟨hstep, hnext⟩ := leads_step h s
  have hwaiting : (d.ready s).waiting = d.waiting := by cases s <;> rfl
  have hstarted : (d.ready s).started = d.started := by cases s <;> rfl
  constructor
  · intro hmem
    refine ⟨?_, hnext.poised.unserved _ hmem⟩
    rw [← hwaiting, ← hstarted]
    exact (hstep.mem_waiting hmem).imp_right hstep.trace.le_of_came
  · rintro ⟨hthere, hnone⟩
    by_contra hgone
    obtain ⟨hold, habsent, -⟩ := hstep.lost n ⟨hn, hgone, hnone⟩
    rw [hwaiting] at habsent
    rw [hstarted] at hold
    exact hthere.elim habsent (Nat.not_le.mpr hold)

/-- How many tasks begin with a step. -/
def Step.tasks : Step κ → Nat
  | .wait => 1
  | _ => 0

/-- Only a step that begins a task counts one, and only shutting down closes the queue. -/
lemma next_frame (d : Dispatch κ) (s : Step κ) :
    (d.next s).started = d.started + s.tasks ∧
      ((d.next s).queue.closed = true ↔ d.queue.closed = true ∨ s = .shutdown) := by
  have hready : Stays d (d.ready s) := by cases s <;> exact ⟨rfl, rfl⟩
  have hsettle := stays_settle ((d.ready s).perform s).2
  -- steps that neither begin a task nor close the queue
  have hstays (hs : Stays (d.ready s) ((d.ready s).perform s).2) (hnone : s.tasks = 0)
      (hopen : s ≠ .shutdown) : (d.next s).started = d.started + s.tasks ∧
        ((d.next s).queue.closed = true ↔ d.queue.closed = true ∨ s = .shutdown) := by
    have hall := (hready.trans hs).trans hsettle
    rw [next, step_eq, hall.started, hall.closed, hnone]
    exact ⟨rfl, (or_iff_left hopen).symm⟩
  cases s with
  | shutdown => exact ⟨hsettle.started, iff_of_true hsettle.closed (.inr rfl)⟩
  | wait =>
      have hasked := (stays_look { d.ready .wait with started := d.started + 1 }
        (.task d.started)).trans hsettle
      rw [next, step_eq]
      exact ⟨hasked.started, hasked.closed ▸ (or_iff_left nofun).symm⟩
  | add k =>
      refine hstays ?_ rfl nofun
      rw [perform]
      cases hadd : (d.ready (.add k)).queue.add k with
      | ok q => exact stays_put (Queue.add_frame hadd).2.2.2.2
      | error reason => exact .refl _
  | done k => exact hstays (stays_put (Queue.done_frame _ k).2.2.2.2) rfl nofun
  | next within =>
      exact hstays ((stays_look _ .caller).trans (stays_await _ _)) rfl nofun
  | sleep ms => exact hstays (stays_sleep _ _) rfl nofun
  | addRateLimited k | requeues k | forget k => exact hstays ⟨rfl, rfl⟩ rfl nofun

/-! ### One step after another -/

/-- A dispatch is closed if it was, or if it has been shut down. -/
lemma closed_after (d : Dispatch κ) (steps : List (Step κ)) :
    (d.after steps).queue.closed = true ↔ d.queue.closed = true ∨ .shutdown ∈ steps := by
  induction steps generalizing d with
  | nil => simp [after]
  | cons s steps ih =>
      rw [List.mem_cons, ← or_assoc, eq_comm (a := Step.shutdown), ← (d.next_frame s).2]
      exact ih (d.next s)

/-- One step after another comes to what happens at the desk, and in between nobody is
awake. -/
lemma trace_log (h : AtRest d) (steps : List (Step κ)) :
    (d.desk []).Trace (d.log steps) ((d.after steps).desk []) ∧ AtRest (d.after steps) := by
  induction steps generalizing d with
  | nil => exact ⟨.nil _, h⟩
  | cons s steps ih =>
      obtain ⟨hstep, hnext⟩ := leads_step h s
      obtain ⟨hrest, hlast⟩ := ih hnext
      have hdesk : (d.ready s).desk [] = d.desk [] := by cases s <;> rfl
      exact ⟨(hdesk ▸ hstep.trace).append hrest, hlast⟩

/-- Of two tasks that wait, the one that stands behind the other is handed a key after it,
and a later one. -/
lemma handed_first (h : AtRest d) {steps : List (Step κ)} {L₁ L₂ : List (Desk.Event κ)}
    {w : Worker} {b : κ} (hlog : d.log steps = L₁ ++ .handed w b :: L₂) {xs ys : List Worker}
    {v : Worker} (hwaiting : d.waiting = xs ++ v :: ys) (hw : w ∈ ys) :
    ∃ a, .handed v a ∈ L₁ ∧ [a, b].Sublist ((d.log steps).filterMap Desk.Event.entered?) := by
  obtain ⟨htrace, -⟩ := trace_log h steps
  obtain ⟨hopen, hpending⟩ := h.poised.of_waiting (by simp [hwaiting])
  have hline : (d.desk []).line = xs ++ v :: ys := by
    rw [desk, spent, hopen, ← hwaiting]
    rfl
  obtain ⟨n, -, rfl⟩ := h.task_of_mem (w := v) (by simp [hwaiting])
  obtain ⟨m, hm, rfl⟩ := h.task_of_mem (w := w) (by simp [hwaiting, hw])
  have hnodup : (xs ++ .task n :: ys).Nodup := hwaiting ▸ h.poised.nodup
  obtain ⟨-, hbehind, hdisjoint⟩ := List.nodup_append'.mp hnodup
  have hahead : .task m ∉ xs := fun hmem => hdisjoint hmem (.tail _ hw)
  have hne : .task m ≠ Worker.task n := fun heq => (List.nodup_cons.mp hbehind).1 (heq ▸ hw)
  obtain ⟨a, ha⟩ | ⟨-, hgone⟩ := htrace.worker_first hlog hline hahead hne
  · rw [hlog] at htrace ⊢
    exact ⟨a, ha, htrace.entered_sublist hpending ha⟩
  · exact absurd rfl (hgone m hm (by rw [hline]; simp [hw]))

/-- **No wake-up is lost, and both keys and workers come in turn.**  Between the steps nobody
waits while there is a key, or when the queue is closed, which it is once it has been shut down.
Only tasks wait, which are those that have begun and have not finished; they are numbered as they
begin, and stand in this order.  The log tells who is handed which key.  The keys are handed
out in the order in which they come in: none that waits is overtaken by one that does not wait
ahead of it.  Of two tasks that wait the one that began first is handed a key first, and the
earlier one. -/
theorem served_in_turn (capacity : Nat) (backoff : Backoff) (earlier : List (Step κ)) :
    let d : Dispatch κ := after { queue := { capacity, backoff } } earlier
    (d.waiting = [] ∨ d.queue.closed = false ∧ d.queue.pending = []) ∧
      (d.queue.closed = true ↔ .shutdown ∈ earlier) ∧
      (∃ ns : List Nat, d.waiting = ns.map .task ∧ ns.Pairwise (· < ·) ∧
        ∀ n ∈ ns, n < d.started) ∧
      (∀ s, (d.next s).started = d.started + s.tasks) ∧
      (∀ s, ∀ n < (d.next s).started, .task n ∈ (d.next s).waiting ↔
        (.task n ∈ d.waiting ∨ d.started ≤ n) ∧ (d.next s).finished.get? n = none) ∧
      (∀ s n k, (d.next s).finished.get? n = some (some k) ↔ .handed (.task n) k ∈ d.stepLog s) ∧
      (∀ s k, (d.step s).1 = .key k ↔ .handed .caller k ∈ d.stepLog s) ∧
      ∀ later,
        d.queue.pending ++ (d.log later).filterMap Desk.Event.entered? =
          (d.log later).filterMap Desk.Event.handed? ++ (d.after later).queue.pending ∧
        ∀ L₁ w b L₂, d.log later = L₁ ++ .handed w b :: L₂ →
          (∀ xs a ys, d.queue.pending = xs ++ a :: ys → b ∉ a :: xs → ∃ v, .handed v a ∈ L₁) ∧
          ∀ m n, m < n → w = .task n → .task m ∈ d.waiting → .task n ∈ d.waiting →
            ∃ a, .handed (.task m) a ∈ L₁ ∧
              [a, b].Sublist ((d.log later).filterMap Desk.Event.entered?) := by
  intro d
  have h : AtRest d := (trace_log (atRest_empty capacity backoff) earlier).2
  refine ⟨?_, ?_, h.exists_numbers, fun s => (d.next_frame s).1,
    fun s n hn => mem_waiting_next h s hn, fun s n k => ?_, reply_eq_key h, fun later => ?_⟩
  · exact or_iff_not_imp_left.mpr h.poised.of_waiting
  · exact (closed_after _ earlier).trans (or_iff_right Bool.false_ne_true)
  · have hnone : (d.ready s).finished.get? n ≠ some (some k) := by cases s <;> exact nofun
    exact ((leads_step h s).1.answers (.task n) k).trans (or_iff_right hnone)
  · obtain ⟨htrace, -⟩ := trace_log h later
    refine ⟨htrace.keys_eq, fun L₁ w b L₂ hlog => ⟨fun xs a ys hpending hb => ?_, ?_⟩⟩
    · rw [hlog] at htrace
      obtain ⟨hne, hahead⟩ := not_or.mp (List.mem_cons.not.mp hb)
      exact htrace.key_first hpending hahead hne
    · rintro m n hlt rfl hm hn
      -- the numbers tell who stands behind whom
      obtain ⟨xs, ys, hwaiting⟩ := List.append_of_mem hm
      exact handed_first h hlog hwaiting (h.mem_behind hlt hn hwaiting)

/-- Two tasks wait; between them a caller has come, and has given up. -/
def crowd : Dispatch Nat := after { queue := { capacity := 2 } } [.wait, .next 3, .wait]

/-- Two keys wait. -/
def stock : Dispatch Nat := after { queue := { capacity := 2 } } [.add 7, .add 8]

/-- When two keys come in, the second task is handed the second one, and before that the
first task one that has come in before.  When a task and a caller ask for keys that wait, the
caller is handed the second one, and before that the first one is handed out. -/
theorem served_in_turn_relay :
    crowd.waiting = [.task 0, .task 1] ∧
      crowd.log [.add 7, .add 8] =
        [.entered 7, .handed (.task 0) 7, .entered 8] ++ .handed (.task 1) 8 :: [] ∧
      (∃ a, .handed (.task 0) a ∈
          ([.entered 7, .handed (.task 0) 7, .entered 8] : List (Desk.Event Nat)) ∧
        [a, 8].Sublist ((crowd.log [.add 7, .add 8]).filterMap Desk.Event.entered?)) ∧
      stock.queue.pending = [7, 8] ∧
      stock.log [.wait, .next 0] =
        [.came (.task 0), .handed (.task 0) 7, .came .caller] ++ .handed .caller 8 :: [] ∧
      ∃ v, .handed v 7 ∈
        ([.came (.task 0), .handed (.task 0) 7, .came .caller] : List (Desk.Event Nat)) := by
  have hwaiting : crowd.waiting = [.task 0, .task 1] := by decide
  have hfirst : .task 0 ∈ crowd.waiting := hwaiting ▸ List.mem_cons_self
  have hsecond : .task 1 ∈ crowd.waiting := hwaiting ▸ .tail _ List.mem_cons_self
  have hserved : crowd.log [.add 7, .add 8] =
      [.entered 7, .handed (.task 0) 7, .entered 8] ++ .handed (.task 1) 8 :: [] := by decide
  have hpending : stock.queue.pending = [7, 8] := by decide
  have hhanded : stock.log [.wait, .next 0] =
      [.came (.task 0), .handed (.task 0) 7, .came .caller] ++ .handed .caller 8 :: [] := by decide
  obtain ⟨-, -, -, -, -, -, -, hcrowd⟩ := served_in_turn (κ := Nat) 2 {} [.wait, .next 3, .wait]
  obtain ⟨-, -, -, -, -, -, -, hstock⟩ := served_in_turn (κ := Nat) 2 {} [.add 7, .add 8]
  exact ⟨hwaiting, hserved,
    ((hcrowd _).2 _ _ _ _ hserved).2 0 1 Nat.one_pos rfl hfirst hsecond,
    hpending, hhanded, ((hstock _).2 _ _ _ _ hhanded).1 [] _ _ hpending (by decide)⟩

end Dispatch

end SidecarPolicy
