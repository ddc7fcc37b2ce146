/-
Dispatches in which as many workers are awake as there are keys for them.

Wake-ups are not counted: of several that find nobody waiting one is kept, and it may be
kept for nothing.  Still, as long as anybody waits, there are neither fewer woken workers
than keys nor more.  So a dispatch comes to a desk at which keys are handed to those who
stand in line.

* `Dispatch.answer`: the answer that a worker has;
* `Dispatch.Poised`: how many workers are awake, and who they are;
* `Dispatch.Leads`: from one dispatch to another by what happens at the desk, where nobody
  is lost and who has an answer has been handed it;
* `Dispatch.leads_put_more`, `Dispatch.leads_finish`, `Dispatch.Comes.leads`,
  `Dispatch.leads_giveUp`, `Dispatch.leads_shutdown`: what may become of keys and workers.
-/
import SidecarPolicy.Proofs.Queue.Consistency
import SidecarPolicy.Proofs.Queue.Desk

namespace SidecarPolicy

/-- The number of a task. -/
def Worker.number? : Worker → Option Nat
  | .task n => some n
  | .caller => none

lemma Worker.mem_numbers {ws : List Worker} {n : Nat} :
    n ∈ ws.filterMap Worker.number? ↔ .task n ∈ ws := by
  rw [List.mem_filterMap]
  constructor
  · rintro ⟨w, hw, hnumber⟩
    cases w with
    | task m => exact Option.some.inj hnumber ▸ hw
    | caller => cases hnumber
  · exact fun hw => ⟨_, hw, rfl⟩

/-- Workers without a caller among them are told by their numbers. -/
lemma Worker.map_numbers {ws : List Worker} (h : .caller ∉ ws) :
    (ws.filterMap Worker.number?).map .task = ws := by
  induction ws with
  | nil => rfl
  | cons w ws ih =>
      obtain ⟨hw, hrest⟩ := not_or.mp (mt List.mem_cons.mpr h)
      cases w with
      | task n => exact congrArg (.task n :: ·) (ih hrest)
      | caller => exact absurd rfl hw

namespace Dispatch

variable {κ : Type} {ws ws' ws'' : List Worker} {d d' d'' : Dispatch κ}
  {L L' : List (Desk.Event κ)}

/-! ### Answers -/

/-- The answer that a worker has: a key, or that there will be no more. -/
def answer (d : Dispatch κ) : Worker → Option (Option κ)
  | .task n => d.finished.get? n
  | .caller => d.served

lemma answer_finish_self (d : Dispatch κ) (w : Worker) (r : Option κ) :
    (d.finish w r).answer w = some r := by
  cases w with
  | task n => exact KeyMap.get?_insert_self ..
  | caller => rfl

/-- The answers of the others are as they were. -/
lemma answer_finish_of_ne (d : Dispatch κ) {v w : Worker} (hne : v ≠ w) (r : Option κ) :
    (d.finish w r).answer v = d.answer v := by
  cases w with
  | task n =>
      cases v with
      | task m => exact KeyMap.get?_insert_of_ne (mt (congrArg Worker.task) hne) ..
      | caller => rfl
  | caller =>
      cases v with
      | task m => rfl
      | caller => exact absurd rfl hne

@[simp] lemma finish_queue (d : Dispatch κ) (w : Worker) (r : Option κ) :
    (d.finish w r).queue = d.queue := by cases w <;> rfl

@[simp] lemma finish_waiting (d : Dispatch κ) (w : Worker) (r : Option κ) :
    (d.finish w r).waiting = d.waiting := by cases w <;> rfl

@[simp] lemma finish_awake (d : Dispatch κ) (w : Worker) (r : Option κ) :
    (d.finish w r).awake = d.awake := by cases w <;> rfl

@[simp] lemma finish_started (d : Dispatch κ) (w : Worker) (r : Option κ) :
    (d.finish w r).started = d.started := by cases w <;> rfl

/-! ### Who is awake -/

/-- There are no keys, and there will be none. -/
def spent (d : Dispatch κ) : Bool := d.queue.closed && d.queue.pending.isEmpty

lemma spent_eq_true : d.spent = true ↔ d.queue.closed = true ∧ d.queue.pending = [] := by
  rw [spent, Bool.and_eq_true, List.isEmpty_iff]

/-- The desk of a dispatch in which some workers have been woken.  When there will be no
more keys, everybody has gone. -/
def desk (ws : List Worker) (d : Dispatch κ) : Desk κ where
  keys := d.queue.pending
  line := if d.spent then [] else ws ++ d.waiting
  tasks := d.started

/-- There is a key for each worker that has been woken, unless there will be no more keys.
As long as others wait there is none besides, and the queue is open.  No worker stands in
line twice or has an answer already, and the tasks in the line are among those that have
come, in the order in which they have come, and only those may have answers. -/
structure Poised (ws : List Worker) (d : Dispatch κ) : Prop where
  enough : d.spent = false → ws.length ≤ d.queue.pending.length
  needed : d.waiting ≠ [] → d.queue.closed = false ∧ d.queue.pending.length ≤ ws.length
  nodup : (ws ++ d.waiting).Nodup
  known : ∀ n, .task n ∈ ws ++ d.waiting → n < d.started
  ascending : ((ws ++ d.waiting).filterMap Worker.number?).Pairwise (· < ·)
  unserved : ∀ w ∈ ws ++ d.waiting, d.answer w = none
  fresh : ∀ n, d.started ≤ n → d.answer (.task n) = none

lemma Poised.waiting_of_closed (h : Poised ws d) (hclosed : d.queue.closed = true) :
    d.waiting = [] := by
  by_contra hne
  exact Bool.false_ne_true ((h.needed hne).1.symm.trans hclosed)

/-- As long as anybody waits and nobody is awake, there is no key, and the queue is open. -/
lemma Poised.of_waiting (h : Poised [] d) (hne : d.waiting ≠ []) :
    d.queue.closed = false ∧ d.queue.pending = [] := by
  obtain ⟨hopen, hle⟩ := h.needed hne
  exact ⟨hopen, List.eq_nil_of_length_eq_zero (Nat.le_zero.mp hle)⟩

/-- A task has come, and it neither stands in line nor has an answer. -/
def Lost (ws : List Worker) (d : Dispatch κ) (n : Nat) : Prop :=
  n < d.started ∧ .task n ∉ ws ++ d.waiting ∧ d.answer (.task n) = none

/-- From a dispatch in which some workers have been woken to another one, by what happens at
the desk.  Those have got keys who have been handed them, and nobody is lost. -/
structure Leads (ws : List Worker) (d : Dispatch κ) (L : List (Desk.Event κ))
    (ws' : List Worker) (d' : Dispatch κ) : Prop where
  trace : (d.desk ws).Trace L (d'.desk ws')
  poised : Poised ws' d'
  answers : ∀ w k, d'.answer w = some (some k) ↔
    d.answer w = some (some k) ∨ .handed w k ∈ L
  lost : ∀ n, Lost ws' d' n → Lost ws d n

lemma Leads.trans (h : Leads ws d L ws' d') (h' : Leads ws' d' L' ws'' d'') :
    Leads ws d (L ++ L') ws'' d'' where
  trace := h.trace.append h'.trace
  poised := h'.poised
  answers w k := by rw [h'.answers, h.answers, List.mem_append, or_assoc]
  lost n hn := h.lost n (h'.lost n hn)

/-- The same workers stand in line, of whom perhaps others have been woken, and nobody is
handed a key. -/
lemma Poised.leads (h : Poised ws d) (hline : ws' ++ d'.waiting = ws ++ d.waiting)
    (henough : d'.spent = false → ws'.length ≤ d'.queue.pending.length)
    (hneeded : d'.waiting ≠ [] → d'.queue.closed = false ∧ d'.queue.pending.length ≤ ws'.length)
    (hstarted : d'.started = d.started) (hanswer : d'.answer = d.answer)
    (htrace : (d.desk ws).Trace L (d'.desk ws')) (hhanded : ∀ w k, .handed w k ∉ L) :
    Leads ws d L ws' d' := by
  refine ⟨htrace, ⟨henough, hneeded, ?_, ?_, ?_, ?_, ?_⟩, fun w k => ?_, fun n hn => ?_⟩
  · rw [hline]
    exact h.nodup
  · rw [hline, hstarted]
    exact h.known
  · rw [hline]
    exact h.ascending
  · rw [hline, hanswer]
    exact h.unserved
  · rw [hstarted, hanswer]
    exact h.fresh
  · rw [hanswer]
    exact (or_iff_left (hhanded w k)).symm
  · rw [Lost, hline, hstarted, hanswer] at hn
    exact hn

/-- A change that is not seen at the desk. -/
lemma Poised.silent (h : Poised ws d) (hclosed : d'.queue.closed = d.queue.closed)
    (hpending : d'.queue.pending = d.queue.pending) (hwaiting : d'.waiting = d.waiting)
    (hstarted : d'.started = d.started) (hanswer : d'.answer = d.answer) :
    Leads ws d [] ws d' := by
  have hspent : d'.spent = d.spent := by rw [spent, spent, hclosed, hpending]
  have hdesk : d'.desk ws = d.desk ws := by rw [desk, desk, hspent, hpending, hwaiting, hstarted]
  refine h.leads (by rw [hwaiting]) ?_ ?_ hstarted hanswer (hdesk ▸ .nil _) fun _ _ => nofun
  · rw [hspent, hpending]
    exact h.enough
  · rw [hclosed, hpending, hwaiting]
    exact h.needed

lemma mem_of_mem_line {w : Worker} (hw : w ∈ (d.desk ws).line) : w ∈ ws ++ d.waiting := by
  rw [desk] at hw
  split at hw
  · cases hw
  · exact hw

/-- Whoever waits has stood in line before, or has come. -/
lemma Leads.mem_waiting (h : Leads ws d L ws' d') {w : Worker} (hw : w ∈ d'.waiting) :
    w ∈ ws ++ d.waiting ∨ .came w ∈ L := by
  have hopen : d'.queue.closed = false := (h.poised.needed (List.ne_nil_of_mem hw)).1
  have hline : w ∈ (d'.desk ws').line := by
    rw [desk, spent, hopen]
    exact List.mem_append_right ws' hw
  exact (h.trace.mem_line hline).imp_left mem_of_mem_line

/-- Whoever is handed a key has stood in line before, or has come. -/
lemma Leads.mem_of_handed (h : Leads ws d L ws' d') {w : Worker} {k : κ}
    (hmem : .handed w k ∈ L) : w ∈ ws ++ d.waiting ∨ .came w ∈ L :=
  (h.trace.came_of_handed hmem).imp_left mem_of_mem_line

/-! ### Keys that come in -/

/-- The keys that come in when a changed queue is put in place. -/
def putLog (d : Dispatch κ) (q : Queue κ) : List (Desk.Event κ) :=
  (q.pending.drop d.queue.length).map .entered

lemma came_not_mem_putLog (d : Dispatch κ) (q : Queue κ) (w : Worker) : .came w ∉ d.putLog q := by
  intro hmem
  obtain ⟨k, -, heq⟩ := List.mem_map.mp hmem
  cases heq

lemma wake_of_nil (h : d.waiting = []) : d.wake = { d with signal := true } := by
  rw [wake, h]

lemma wake_of_cons {w : Worker} {rest : List Worker} (h : d.waiting = w :: rest) :
    d.wake = { d with waiting := rest, awake := d.awake ++ [w] } := by
  rw [wake, h]

/-- A key comes in, and the line is as it was; if somebody waits, one more is awake. -/
lemma leads_entered (h : Poised ws d) (hnobody : d.queue.closed = true → ws = []) {k : κ}
    (hclosed : d'.queue.closed = d.queue.closed)
    (hpending : d'.queue.pending = d.queue.pending ++ [k])
    (hline : ws' ++ d'.waiting = ws ++ d.waiting) (hmost : ws'.length ≤ ws.length + 1)
    (hleast : d'.waiting ≠ [] → d.waiting ≠ [] ∧ ws.length + 1 ≤ ws'.length)
    (hstarted : d'.started = d.started) (hanswer : d'.answer = d.answer) :
    Leads ws d [.entered k] ws' d' := by
  have hlength : d'.queue.pending.length = d.queue.pending.length + 1 := by simp [hpending]
  have hbefore : ws.length ≤ d.queue.pending.length := by
    cases hspent : d.spent with
    | false => exact h.enough hspent
    | true =>
        rw [hnobody (spent_eq_true.mp hspent).1]
        exact Nat.zero_le _
  -- where the queue is closed nobody is awake, and nobody waits
  have hnone (hd : d.queue.closed = true) : ws ++ d.waiting = [] := by
    rw [hnobody hd, h.waiting_of_closed hd, List.append_nil]
  have hdesk : d'.desk ws' = { d.desk ws with keys := (d.desk ws).keys ++ [k] } := by
    have hunspent : d'.spent = false := by simp [spent, hpending]
    have hthere : (d.desk ws).line = ws ++ d.waiting := by
      rw [desk]
      split
      · exact (hnone (spent_eq_true.mp ‹_›).1).symm
      · rfl
    rw [Desk.mk.injEq, hthere, desk, hunspent, hline]
    exact ⟨hpending, rfl, hstarted⟩
  refine h.leads hline (fun _ => by omega) (fun hne => ?_) hstarted hanswer
    (hdesk ▸ .single (.entered _ k)) (by simp)
  obtain ⟨hsome, hle⟩ := hleast hne
  obtain ⟨hopen, hneeded⟩ := h.needed hsome
  exact ⟨hclosed.trans hopen, by omega⟩

/-- A queue in which the same keys wait is put in place. -/
lemma leads_put_same (h : Poised d.awake d) {q : Queue κ} (hclosed : q.closed = d.queue.closed)
    (hpending : q.pending = d.queue.pending) :
    Leads d.awake d (d.putLog q) (d.put q).awake (d.put q) := by
  have hlog : d.putLog q = [] := by
    rw [putLog, hpending, Queue.length, List.drop_length, List.map_nil]
  have hput : d.put q = { d with queue := q } := by
    rw [put, Queue.length, Queue.length, hpending, if_neg (Nat.lt_irrefl _)]
  rw [hlog, hput]
  exact h.silent hclosed hpending rfl rfl rfl

/-- A queue in which one more key waits is put in place, and the worker is woken that has
waited longest. -/
lemma leads_put_more (h : Poised d.awake d) {q : Queue κ} {k : κ}
    (hclosed : q.closed = d.queue.closed) (hpending : q.pending = d.queue.pending ++ [k])
    (hnobody : d.queue.closed = true → d.awake = []) :
    Leads d.awake d (d.putLog q) (d.put q).awake (d.put q) := by
  have hlength : q.pending.length = d.queue.pending.length + 1 := by simp [hpending]
  have hlog : d.putLog q = [.entered k] := by
    rw [putLog, hpending, Queue.length, List.drop_left]
    rfl
  have hput : d.put q = wake { d with queue := q } := by
    rw [put, Queue.length, Queue.length, hlength, if_pos (Nat.lt_succ_self _)]
  rw [hlog]
  cases hwaiting : d.waiting with
  | nil =>
      have hkept : d.put q = { d with queue := q, signal := true } :=
        hput.trans (wake_of_nil hwaiting)
      rw [hkept]
      exact leads_entered h hnobody hclosed hpending rfl (Nat.le_succ _)
        (fun hne => absurd hwaiting hne) rfl rfl
  | cons w rest =>
      have hwoken : d.put q = { d with queue := q, waiting := rest, awake := d.awake ++ [w] } :=
        hput.trans (wake_of_cons hwaiting)
      have hline : (d.awake ++ [w]) ++ rest = d.awake ++ d.waiting := by
        rw [hwaiting, List.append_assoc]
        rfl
      have hone : (d.awake ++ [w]).length = d.awake.length + 1 := List.length_append
      have hsome : d.waiting ≠ [] := hwaiting ▸ List.cons_ne_nil w rest
      rw [hwoken]
      exact leads_entered h hnobody hclosed hpending hline hone.le (fun _ => ⟨hsome, hone.ge⟩)
        rfl rfl

/-! ### Workers that finish, come and go -/

/-- The first of the woken workers has looked, and finishes. -/
lemma leads_finish {w : Worker} (h : Poised (w :: ws) d) {q : Queue κ} {r : Option κ}
    (hclosed : q.closed = d.queue.closed) (hpending : q.pending = d.queue.pending.tail)
    (htrace : (d.desk (w :: ws)).Trace L (desk ws { d with queue := q }))
    (hhanded : ∀ v k, .handed v k ∈ L ↔ v = w ∧ r = some k) :
    Leads (w :: ws) d L ws (finish { d with queue := q } w r) := by
  obtain ⟨hw, hnodup⟩ : w ∉ ws ++ d.waiting ∧ (ws ++ d.waiting).Nodup :=
    List.nodup_cons.mp h.nodup
  have hanswer {v : Worker} (hne : v ≠ w) :
      (finish { d with queue := q } w r).answer v = d.answer v :=
    answer_finish_of_ne _ hne r
  refine ⟨?_, ⟨?_, ?_, ?_, ?_, ?_, ?_, ?_⟩, fun v k => ?_, fun n hn => ?_⟩
  · have hdesk : (finish { d with queue := q } w r).desk ws = desk ws { d with queue := q } := by
      cases w <;> rfl
    exact hdesk ▸ htrace
  · -- there is one key less, and one worker less who is awake
    simp only [spent, finish_queue, hclosed, hpending]
    intro hunspent
    have hle : (w :: ws).length ≤ d.queue.pending.length := by
      refine h.enough ?_
      cases hnone : d.queue.pending with
      | nil => simpa [spent, hnone] using hunspent
      | cons k rest => simp [spent, hnone]
    rw [List.length_cons] at hle
    rw [List.length_tail]
    omega
  · simp only [finish_waiting, finish_queue, hclosed, hpending, List.length_tail]
    intro hne
    obtain ⟨hopen, hle⟩ := h.needed hne
    rw [List.length_cons] at hle
    exact ⟨hopen, by omega⟩
  · rw [finish_waiting]
    exact hnodup
  · rw [finish_waiting, finish_started]
    exact fun n hmem => h.known n (List.mem_cons_of_mem w hmem)
  · rw [finish_waiting]
    exact h.ascending.sublist ((List.sublist_cons_self w _).filterMap _)
  · rw [finish_waiting]
    intro v hv
    have hne : v ≠ w := fun heq => hw (heq ▸ hv)
    exact (hanswer hne).trans (h.unserved v (List.mem_cons_of_mem w hv))
  · rw [finish_started]
    intro n hn
    have hne : .task n ≠ w := fun heq =>
      Nat.lt_irrefl n ((h.known n (heq ▸ List.mem_cons_self)).trans_le hn)
    exact (hanswer hne).trans (h.fresh n hn)
  · rw [hhanded]
    by_cases hv : v = w
    · subst hv
      rw [answer_finish_self, h.unserved v List.mem_cons_self]
      simp
    · rw [hanswer hv]
      simp [hv]
  · obtain ⟨hcome, hline, hnone⟩ := hn
    rw [finish_started] at hcome
    rw [finish_waiting] at hline
    have hne : .task n ≠ w := by
      rintro rfl
      rw [answer_finish_self] at hnone
      cases hnone
    rw [hanswer hne] at hnone
    exact ⟨hcome, List.not_mem_cons_of_ne_of_not_mem hne hline, hnone⟩

/-- A worker comes that is not there yet and has no answer.  Nothing else changes, except
that a task is counted. -/
structure Comes (d : Dispatch κ) (w : Worker) (e : Dispatch κ) : Prop where
  absent : w ∉ d.waiting
  unserved : d.answer w = none
  queue : e.queue = d.queue
  waiting : e.waiting = d.waiting
  started : ∀ n, n < e.started ↔ n < d.started ∨ w = .task n
  answers : e.answer = d.answer
  trace : (d.desk []).Step (.came w)
    { d.desk [] with line := (d.desk []).line ++ [w], tasks := e.started }

/-- A task that comes has the next number. -/
lemma Comes.ascending {w : Worker} {e : Dispatch κ} (hc : d.Comes w e) (h : Poised [] d) :
    ((d.waiting ++ [w]).filterMap Worker.number?).Pairwise (· < ·) := by
  rw [List.filterMap_append, List.pairwise_append]
  refine ⟨h.ascending, ?_, fun m hm n hn => ?_⟩
  · cases w with
    | task k => exact List.pairwise_singleton _ k
    | caller => exact .nil
  obtain rfl | rfl := hc.trace.eq_of_came
  · obtain rfl : n = d.started := by simpa [Worker.number?, desk] using hn
    exact h.known m (Worker.mem_numbers.mp hm)
  · simp [Worker.number?] at hn

/-- Whoever comes stands behind all the others, be it awake or not. -/
lemma Comes.leads {w : Worker} {e : Dispatch κ} (hc : d.Comes w e) (h : Poised [] d)
    (hline : ws' ++ d'.waiting = d.waiting ++ [w])
    (henough : d'.spent = false → ws'.length ≤ d'.queue.pending.length)
    (hneeded : d'.waiting ≠ [] → d'.queue.closed = false ∧ d'.queue.pending.length ≤ ws'.length)
    (hstarted : d'.started = e.started) (hanswers : d'.answer = e.answer)
    (htrace : (d.desk []).Trace L (d'.desk ws')) (hhanded : ∀ v k, .handed v k ∉ L) :
    Leads [] d L ws' d' := by
  have hold (v : Worker) (hv : v ∈ d.waiting) : v ∈ [] ++ d.waiting := hv
  rw [hc.answers] at hanswers
  refine ⟨htrace, ⟨henough, hneeded, ?_, ?_, ?_, ?_, ?_⟩, fun v k => ?_, fun n hn => ?_⟩
  · rw [hline]
    exact List.nodup_append'.mpr
      ⟨h.nodup, List.nodup_singleton w, List.disjoint_singleton.mpr hc.absent⟩
  · rw [hline, hstarted]
    intro n hn
    obtain hn | heq := List.mem_append.mp hn
    · exact (hc.started n).mpr (.inl (h.known n (hold _ hn)))
    · exact (hc.started n).mpr (.inr (List.mem_singleton.mp heq).symm)
  · rw [hline]
    exact hc.ascending h
  · rw [hline, hanswers]
    intro v hv
    obtain hv | heq := List.mem_append.mp hv
    · exact h.unserved v (hold v hv)
    · rw [List.mem_singleton.mp heq]
      exact hc.unserved
  · rw [hanswers, hstarted]
    intro n hn
    refine h.fresh n (Nat.le_of_not_lt fun hlt => ?_)
    exact Nat.not_lt.mpr hn ((hc.started n).mpr (.inl hlt))
  · rw [hanswers]
    exact (or_iff_left (hhanded v k)).symm
  · obtain ⟨hcome, hgone, hnone⟩ := hn
    rw [hline, List.mem_append, List.mem_singleton, not_or] at hgone
    rw [hanswers] at hnone
    rw [hstarted] at hcome
    exact ⟨((hc.started n).mp hcome).resolve_right fun heq => hgone.2 heq.symm, hgone.1, hnone⟩

/-- Nobody is there, and there is a key, or there will be no more: then whoever comes is as
one that has been woken. -/
lemma Comes.leads_woken {w : Worker} {e : Dispatch κ} (hc : d.Comes w e) (h : Poised [] d)
    (hnobody : d.waiting = []) (hmore : d.spent = false → d.queue.pending ≠ []) :
    Leads [] d (.came w :: if d.spent then [.dismissed] else []) [w] e := by
  have hspent : e.spent = d.spent := by rw [spent, spent, hc.queue]
  have htrace : (d.desk []).Trace (.came w :: if d.spent then [.dismissed] else [])
      (e.desk [w]) := by
    -- if there will be no more keys there is no line, and whoever comes is sent away
    cases hunspent : d.spent with
    | true =>
        have hdesk : e.desk [w] = { d.desk [] with line := [], tasks := e.started } := by
          rw [desk, desk, hspent, hunspent, hc.queue]
          rfl
        exact hdesk ▸ .cons hc.trace (.single (.dismissed _))
    | false =>
        have hdesk : e.desk [w] =
            { d.desk [] with line := (d.desk []).line ++ [w], tasks := e.started } := by
          rw [desk, desk, hspent, hunspent, hc.queue, hc.waiting, hnobody]
          rfl
        exact hdesk ▸ .single hc.trace
  refine hc.leads h (by rw [hc.waiting, hnobody]; rfl) (fun hunspent => ?_)
    (fun hne => absurd (hc.waiting.trans hnobody) hne) rfl rfl htrace fun v k => ?_
  · rw [hc.queue]
    exact List.length_pos_of_ne_nil (hmore (hspent.symm.trans hunspent))
  · split <;> simp

/-- There is no key yet: then whoever comes stays. -/
lemma Comes.leads_join {w : Worker} {e : Dispatch κ} (hc : d.Comes w e) (h : Poised [] d)
    (hopen : d.queue.closed = false) (hpending : d.queue.pending = []) :
    Leads [] d [.came w] [] { e with signal := false, waiting := e.waiting ++ [w] } := by
  have hdesk : desk [] { e with signal := false, waiting := e.waiting ++ [w] } =
      { d.desk [] with line := (d.desk []).line ++ [w], tasks := e.started } := by
    rw [desk, desk, spent, spent, hc.queue, hopen, hc.waiting]
    rfl
  refine hc.leads h ?_ (fun _ => Nat.zero_le _) (fun _ => ⟨?_, ?_⟩) rfl rfl
    (hdesk ▸ .single hc.trace) (by simp)
  · rw [hc.waiting]
    rfl
  · rw [hc.queue, hopen]
  · rw [hc.queue, hpending]
    exact Nat.zero_le _

/-- A caller gives up at an instant. -/
def giveUp (d : Dispatch κ) (instant : Nat) : Dispatch κ :=
  { d with now := instant, waiting := d.waiting.filter (· ≠ .caller) }

lemma caller_not_mem_giveUp (d : Dispatch κ) (instant : Nat) :
    Worker.caller ∉ (d.giveUp instant).waiting := fun hmem =>
  of_decide_eq_true (List.of_mem_filter (p := (· ≠ Worker.caller)) hmem) rfl

/-- A caller that gives up leaves the line. -/
lemma leads_giveUp (h : Poised [] d) (instant : Nat) :
    Leads [] d [.left .caller] [] (d.giveUp instant) := by
  have hthere (w : Worker) (hw : w ∈ [] ++ (d.giveUp instant).waiting) : w ∈ [] ++ d.waiting :=
    List.mem_of_mem_filter hw
  have hdesk : (d.giveUp instant).desk [] =
      { d.desk [] with line := (d.desk []).line.filter (· ≠ .caller) } := by
    have hspent : (d.giveUp instant).spent = d.spent := rfl
    rw [desk, desk, hspent]
    cases d.spent <;> rfl
  have hascending :
      (([] ++ (d.giveUp instant).waiting).filterMap Worker.number?).Pairwise (· < ·) :=
    h.ascending.sublist (List.filter_sublist.filterMap _)
  refine ⟨hdesk ▸ .single (.left _), ⟨h.enough, fun hne => ?_, h.nodup.filter _, ?_, hascending, ?_,
    h.fresh⟩, fun w k => (or_iff_left (by simp)).symm, fun n hn => ?_⟩
  · exact h.needed fun hnone => hne (by rw [giveUp, hnone]; rfl)
  · exact fun n hmem => h.known n (hthere _ hmem)
  · exact fun w hmem => h.unserved w (hthere w hmem)
  · obtain ⟨hcome, hgone, hnone⟩ := hn
    refine ⟨hcome, fun hmem => hgone ?_, hnone⟩
    exact List.mem_filter.mpr ⟨hmem, decide_eq_true nofun⟩

/-- There will be no more keys, and all who wait are woken. -/
lemma leads_shutdown (h : Poised [] d) (hrest : d.awake = []) :
    Leads [] d [.dismissed] (wakeAll { d with queue := d.queue.shutdown }).awake
      (wakeAll { d with queue := d.queue.shutdown }) := by
  have hawake : (wakeAll { d with queue := d.queue.shutdown }).awake = d.waiting := by
    rw [wakeAll, hrest, List.nil_append]
  have hline : d.waiting ++ [] = [] ++ d.waiting := by rw [List.append_nil, List.nil_append]
  -- as long as somebody waits there is no key
  have hspent (hne : d.waiting ≠ []) :
      (wakeAll { d with queue := d.queue.shutdown }).spent = true :=
    spent_eq_true.mpr ⟨rfl, (h.of_waiting hne).2⟩
  have hdesk : (wakeAll { d with queue := d.queue.shutdown }).desk d.waiting =
      { d.desk [] with line := [] } := by
    rw [Desk.mk.injEq]
    refine ⟨rfl, ?_, rfl⟩
    rw [desk]
    by_cases hwaiting : d.waiting = []
    · rw [hwaiting]
      exact ite_self _
    · exact if_pos (hspent hwaiting)
  rw [hawake]
  refine h.leads hline (fun hunspent => ?_) nofun rfl rfl (hdesk ▸ .single (.dismissed _)) (by simp)
  by_cases hwaiting : d.waiting = []
  · rw [hwaiting]
    exact Nat.zero_le _
  · cases hunspent.symm.trans (hspent hwaiting)

end Dispatch

end SidecarPolicy
