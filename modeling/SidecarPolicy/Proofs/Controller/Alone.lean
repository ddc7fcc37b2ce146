/-
A controller that nobody disturbs.

While no job is waiting for an answer, time may pass and keys may be added to the
queue, but the cluster and the policies stay as they are.  Then a program that
is performed sees what it would see if it ran on the cluster by itself.

* `Controller.IsAlone`: no job is waiting, and no deployment is a ghost;
* `Controller.Keeps`: the policies are what they were, and no failed key has been
  counted;
* `Controller.Rests`: nothing has happened but that time has passed;
* `Controller.rests_pass`: **time alone changes no cluster**;
* `Controller.perform_cases`: **a program is performed to its end, or cut short by
  a failing call**.
-/
import SidecarPolicy.Controller.Work
import SidecarPolicy.Proofs.Cluster.Secures
import SidecarPolicy.Proofs.Queue.Consistency

namespace SidecarPolicy

/-- A timer that is set is one of the timers. -/
lemma Timers.mem_insert {α : Type} {t u : Nat × α} {ts : Timers α}
    (h : u ∈ Timers.insert t ts) : u = t ∨ u ∈ ts := by
  induction ts with
  | nil => exact .inl (List.mem_singleton.mp h)
  | cons v rest ih =>
      rw [Timers.insert] at h
      split_ifs at h
      · obtain rfl | h := List.mem_cons.mp h
        · exact .inr List.mem_cons_self
        · exact (ih h).imp_right (List.mem_cons_of_mem v)
      · exact List.mem_cons.mp h

/-- What is waited for is time, and not the answer to a call. -/
def Event.IsWait : Event → Prop
  | .retry .. | .requeue _ => True
  | .resume _ => False

namespace Controller

/-- Nothing but the foreground makes calls, and every deployment that is listed is
found. -/
structure IsAlone (c : Controller) : Prop where
  noGhost : c.ghosts = []
  noJob : ∀ t ∈ c.timers, t.2.IsWait

/-- The policies are what they were, no failed key has been counted, no more calls are
to fail, and still nobody disturbs the controller. -/
structure Keeps (c c' : Controller) : Prop where
  policies : c'.registry.policies = c.registry.policies
  requeued : c'.registry.queue.requeued = c.registry.queue.requeued
  count : c'.faults.count ≤ c.faults.count
  alone : c'.IsAlone

/-- Time may have passed and keys may have been added to the queue, and nothing else
has happened. -/
structure Rests (c c' : Controller) : Prop extends Keeps c c' where
  cluster : c'.cluster = c.cluster
  faults : c'.faults = c.faults
  calls : c'.calls = c.calls

lemma Keeps.trans {c c' c'' : Controller} (h : Keeps c c') (h' : Keeps c' c'') : Keeps c c'' where
  policies := h'.policies.trans h.policies
  requeued := h'.requeued.trans h.requeued
  count := h'.count.trans h.count
  alone := h'.alone

lemma Keeps.get? {c c' : Controller} (h : Keeps c c') (k : ObjectKey) :
    c'.registry.get? k = c.registry.get? k :=
  congrArg (·.get? k) h.policies

lemma Rests.trans {c c' c'' : Controller} (h : Rests c c') (h' : Rests c' c'') : Rests c c'' where
  toKeeps := h.toKeeps.trans h'.toKeeps
  cluster := h'.cluster.trans h.cluster
  faults := h'.faults.trans h.faults
  calls := h'.calls.trans h.calls

/-! ### Time passes -/

lemma Rests.refl {c : Controller} (hc : c.IsAlone) : Rests c c :=
  ⟨⟨rfl, rfl, le_rfl, hc⟩, rfl, rfl, rfl⟩

lemma rests_requeue {c : Controller} (hc : c.IsAlone) (k : ObjectKey) : Rests c (c.requeue k) :=
  ⟨⟨rfl, Queue.offer_requeued _ k, le_rfl, hc.noGhost, hc.noJob⟩, rfl, rfl, rfl⟩

/-- An event that was waited for adds a key, or waits on. -/
lemma rests_fire {c : Controller} (hc : c.IsAlone) {e : Event} (he : e.IsWait) :
    Rests c (c.fire e) := by
  cases e with
  | retry k delay =>
      rw [fire, retry]
      split_ifs
      · exact rests_requeue hc k
      · refine ⟨⟨rfl, rfl, le_rfl, hc.noGhost, fun t ht => ?_⟩, rfl, rfl, rfl⟩
        obtain rfl | ht := Timers.mem_insert ht
        · trivial
        · exact hc.noJob t ht
  | requeue k => exact rests_requeue hc k
  | resume job => exact he.elim

/-- **Time alone changes no cluster.** -/
theorem rests_pass (limit : Nat) (stop : Controller → Bool) {c : Controller}
    (hc : c.IsAlone) : Rests c (c.pass limit stop) := by
  fun_induction pass limit stop c with
  | case1 c => exact .refl hc
  | case2 c => exact ⟨⟨rfl, rfl, le_rfl, hc.noGhost, hc.noJob⟩, rfl, rfl, rfl⟩
  | case3 c due e rest htimers _ ih =>
      have hwaits : e.IsWait := hc.noJob (due, e) (htimers ▸ List.mem_cons_self)
      have hrest : IsAlone { c with now := max c.now due, timers := rest } :=
        ⟨hc.noGhost, fun t ht => hc.noJob t (htimers ▸ List.mem_cons_of_mem _ ht)⟩
      have hmoves : Rests c { c with now := max c.now due, timers := rest } :=
        ⟨⟨rfl, rfl, le_rfl, hrest⟩, rfl, rfl, rfl⟩
      have hfire := rests_fire hrest hwaits
      exact (hmoves.trans hfire).trans (ih hfire.alone)
  | case4 c => exact .refl hc
  | case5 c => exact ⟨⟨rfl, rfl, le_rfl, hc.noGhost, hc.noJob⟩, rfl, rfl, rfl⟩

lemma rests_await {c : Controller} (hc : c.IsAlone) : Rests c c.await := by
  rw [await]
  split_ifs
  · exact .refl hc
  · exact rests_pass _ _ hc

/-! ### Programs -/

lemma reach_eq {c : Controller} (hc : c.ghosts = []) (asked : Call) :
    c.reach asked = Cluster.answer asked c.cluster := by
  rw [reach]
  cases asked.wanted? with
  | none => rfl
  | some k => rw [hc]; rfl

/-- A call fails, which only happens if some are to fail, or it reaches the
cluster. -/
lemma answer_cases {c : Controller} (hc : c.IsAlone) (asked : Call) :
    (c.faults.count ≠ 0 ∧ ∃ faults, faults.count ≤ c.faults.count ∧
        c.answer asked = (.error .injected, { c with faults })) ∨
      ∃ faults, faults.count = c.faults.count ∧
        c.answer asked = ((Cluster.answer asked c.cluster).1,
          { c with faults, cluster := (Cluster.answer asked c.cluster).2 }) := by
  rw [answer, Faults.next, reach_eq hc.noGhost]
  split_ifs with hcount hskips
  · exact .inr ⟨c.faults, rfl, rfl⟩
  · exact .inl ⟨hcount, _, Nat.sub_le _ _, rfl⟩
  · exact .inr ⟨{ c.faults with skips := c.faults.skips - 1 }, rfl, rfl⟩

/-- **A program is performed to its end, or cut short by a failing call**: in the
first case its end is as it should be, in the second one the cluster is one on
which it makes a call. -/
theorem perform_cases {α : Type} {p : Program ClusterError α} {safe : Cluster → Prop}
    {post : α → Cluster → Prop} {c : Controller} (h : p.Secures safe post c.cluster)
    (hc : c.IsAlone) :
    Keeps c (perform p c).2 ∧
      ((∃ a, (perform p c).1 = .ok a ∧ post a (perform p c).2.cluster) ∨
        c.faults.count ≠ 0 ∧ (perform p c).1 = .error .injected ∧
          safe (perform p c).2.cluster) := by
  induction p generalizing c with
  | done r =>
      cases r with
      | ok a => exact ⟨(Rests.refl hc).toKeeps, .inl ⟨a, rfl, h⟩⟩
      | error e => exact h.elim
  | call asked next ih =>
      obtain ⟨hsafe, hgivesUp, hnext⟩ := h
      have hrests : Rests (c.record asked) (c.record asked).await :=
        rests_await ⟨hc.noGhost, hc.noJob⟩
      rw [perform]
      generalize (c.record asked).await = c' at hrests ⊢
      have hcluster : c'.cluster = c.cluster := hrests.cluster
      have hfaults : c'.faults = c.faults := hrests.faults
      have hkeeps : Keeps c c' := ⟨hrests.policies, hrests.requeued, hrests.count, hrests.alone⟩
      -- the call fails, and the program gives up, or the cluster answers
      obtain ⟨hcount, faults, hfewer, hanswer⟩ | ⟨faults, hsame, hanswer⟩ :=
        answer_cases hrests.alone asked
      · simp only [hanswer, hgivesUp]
        have hfail : Keeps c' { c' with faults } :=
          ⟨rfl, rfl, hfewer, hrests.alone.noGhost, hrests.alone.noJob⟩
        exact ⟨hkeeps.trans hfail, .inr ⟨hfaults ▸ hcount, rfl, hcluster.symm ▸ hsafe⟩⟩
      · simp only [hanswer, hcluster]
        have hgoes : Keeps c' { c' with faults, cluster := (Cluster.answer asked c.cluster).2 } :=
          ⟨rfl, rfl, hsame.le, hrests.alone.noGhost, hrests.alone.noJob⟩
        obtain ⟨hend, hcases⟩ := ih _ hnext hgoes.alone
        refine ⟨(hkeeps.trans hgoes).trans hend, hcases.imp_right fun hcut => ?_⟩
        exact ⟨hfaults ▸ hsame ▸ hcut.1, hcut.2⟩

end Controller

end SidecarPolicy
