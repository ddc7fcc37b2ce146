/-
A controller that performs a program which only looks.

* `Controller.OnlyLooks`: the cluster is as it was, and nothing has been asked for but
  lists;
* `Controller.perform_looks`: **a program that only looks comes to its end and changes
  nothing**;
* `Controller.performBy_looks`: under a limit of time it may be given up instead;
* `Controller.performBy_looks_of_prompt`: not so if calls take no time.
-/
import SidecarPolicy.Proofs.Cluster.Looks
import SidecarPolicy.Proofs.Controller.Alone

namespace SidecarPolicy.Controller

variable {α : Type}

/-- The cluster is as it was, and nothing has been asked for but lists. -/
structure OnlyLooks (c c' : Controller) : Prop where
  cluster : c'.cluster = c.cluster
  calls : ∃ asked, c'.calls = c.calls ++ asked ∧ ∀ call ∈ asked, call.lists = true

lemma OnlyLooks.refl (c : Controller) : OnlyLooks c c :=
  ⟨rfl, [], (List.append_nil c.calls).symm, fun _ h => absurd h List.not_mem_nil⟩

lemma OnlyLooks.trans {c c' c'' : Controller} (h : OnlyLooks c c') (h' : OnlyLooks c' c'') :
    OnlyLooks c c'' := by
  obtain ⟨asked, hcalls, hlists⟩ := h.calls
  obtain ⟨asked', hcalls', hlists'⟩ := h'.calls
  refine ⟨h'.cluster.trans h.cluster, asked ++ asked', ?_, ?_⟩
  · rw [hcalls', hcalls, List.append_assoc]
  · exact fun call hcall => (List.mem_append.mp hcall).elim (hlists call) (hlists' call)

lemma Rests.onlyLooks {c c' : Controller} (h : Rests c c') : OnlyLooks c c' :=
  ⟨h.cluster, [], h.calls.trans (List.append_nil _).symm, fun _ h => absurd h List.not_mem_nil⟩

lemma OnlyLooks.record (c : Controller) {asked : Call} (hlists : asked.lists = true) :
    OnlyLooks c (c.record asked) := by
  refine ⟨rfl, [asked], rfl, fun call hcall => ?_⟩
  rw [List.mem_singleton.mp hcall]
  exact hlists

/-- A call for a list is answered, unless calls are to fail, and nothing changes. -/
lemma answer_lists {c : Controller} (hcount : c.faults.count = 0) {asked : Call}
    (hlists : asked.lists = true) :
    ∃ a, c.answer asked = (.ok a, c) ∧ c.cluster.Shows asked a := by
  obtain ⟨a, cluster, hanswer, hshows, hsame⟩ := Program.lists_answer asked c.cluster hlists
  obtain rfl : cluster = c.cluster := hsame
  have hreach : c.reach asked = Cluster.answer asked c.cluster := by
    cases asked with
    | listDeployments | listPods => rfl
    | _ => cases hlists
  refine ⟨a, ?_, hshows⟩
  rw [answer, Faults.next, if_pos hcount, hreach, hanswer]

/-- A call for a list is answered when its time has passed, unless calls are to fail,
and nothing changes meanwhile. -/
lemma await_answer_lists {c : Controller} (hc : c.IsAlone) (hcount : c.faults.count = 0)
    {asked : Call} (hlists : asked.lists = true) :
    ∃ a c', (c.record asked).await.answer asked = (.ok a, c') ∧ c.cluster.Shows asked a ∧
      c'.IsAlone ∧ c'.faults.count = 0 ∧ OnlyLooks c c' := by
  have hrests : Rests (c.record asked) (c.record asked).await :=
    rests_await ⟨hc.noGhost, hc.noJob⟩
  generalize (c.record asked).await = c' at hrests ⊢
  have hcount' : c'.faults.count = 0 := (congrArg Faults.count hrests.faults).trans hcount
  obtain ⟨a, hanswer, hshows⟩ := answer_lists hcount' hlists
  have hcluster : c'.cluster = c.cluster := hrests.cluster
  exact ⟨a, c', hanswer, hcluster ▸ hshows, hrests.alone, hcount',
    (OnlyLooks.record c hlists).trans hrests.onlyLooks⟩

/-- **A program that only looks comes to its end and changes nothing.** -/
theorem perform_looks {p : Program ClusterError α} {post : α → Prop} {c : Controller}
    (h : p.Looks c.cluster post) (hc : c.IsAlone) (hcount : c.faults.count = 0) :
    ∃ a, (perform p c).1 = .ok a ∧ post a ∧ OnlyLooks c (perform p c).2 := by
  induction p generalizing c with
  | done r =>
      cases r with
      | ok a => exact ⟨a, rfl, h, .refl c⟩
      | error e => exact h.elim
  | call asked next ih =>
      obtain ⟨hlists, hnext⟩ := h
      obtain ⟨a, c', hanswer, hshows, halone, hcount', hlooks⟩ :=
        await_answer_lists hc hcount hlists
      have hlater : (next (.ok a)).Looks c'.cluster post := hlooks.cluster.symm ▸ hnext a hshows
      obtain ⟨b, hresult, hpost, hlooks'⟩ := ih _ hlater halone hcount'
      rw [perform, hanswer]
      exact ⟨b, hresult, hpost, hlooks.trans hlooks'⟩

/-- Under a limit of time a program that only looks comes to its end, or is given up,
and changes nothing either way. -/
theorem performBy_looks {p : Program ClusterError α} {post : α → Prop} {c : Controller}
    (h : p.Looks c.cluster post) (hc : c.IsAlone) (hcount : c.faults.count = 0)
    (deadline : Nat) :
    ((performBy deadline p c).1 = .error .timedOut ∨
        ∃ a, (performBy deadline p c).1 = .ok a ∧ post a) ∧
      OnlyLooks c (performBy deadline p c).2 := by
  induction p generalizing c with
  | done r =>
      cases r with
      | ok a => exact ⟨.inr ⟨a, rfl, h⟩, .refl c⟩
      | error e => exact h.elim
  | call asked next ih =>
      obtain ⟨hlists, hnext⟩ := h
      rw [performBy]
      dsimp only
      split_ifs with hlate
      · -- the answer would come too late, and is not waited for any longer
        have hrests : Rests (c.record asked) ((c.record asked).sleepUntil deadline) :=
          rests_pass _ _ ⟨hc.noGhost, hc.noJob⟩
        exact ⟨.inl rfl, (OnlyLooks.record c hlists).trans hrests.onlyLooks⟩
      · obtain ⟨a, c', hanswer, hshows, halone, hcount', hlooks⟩ :=
          await_answer_lists hc hcount hlists
        have hlater : (next (.ok a)).Looks c'.cluster post :=
          hlooks.cluster.symm ▸ hnext a hshows
        obtain ⟨hresult, hlooks'⟩ := ih _ hlater halone hcount'
        rw [hanswer]
        exact ⟨hresult, hlooks.trans hlooks'⟩

/-- If calls take no time, a program that only looks is not given up, whatever else is going
on. -/
theorem performBy_looks_of_prompt {p : Program ClusterError α} {post : α → Prop} {c : Controller}
    (h : p.Looks c.cluster post) (hprompt : c.delay = 0) (hcount : c.faults.count = 0)
    (deadline : Nat) :
    ∃ a, (performBy deadline p c).1 = .ok a ∧ post a ∧
      OnlyLooks c (performBy deadline p c).2 := by
  induction p generalizing c with
  | done r =>
      cases r with
      | ok a => exact ⟨a, rfl, h, .refl c⟩
      | error e => exact h.elim
  | call asked next ih =>
      obtain ⟨hlists, hnext⟩ := h
      have htimely : ¬ ((c.record asked).delay ≠ 0 ∧
          deadline < (c.record asked).now + (c.record asked).delay) :=
        fun hlate => hlate.1 hprompt
      have hawait : (c.record asked).await = c.record asked := if_pos hprompt
      obtain ⟨a, hanswer, hshows⟩ := answer_lists (c := c.record asked) hcount hlists
      have hlater : (next (.ok a)).Looks (c.record asked).cluster post := hnext a hshows
      obtain ⟨b, hresult, hpost, hlooks⟩ := ih _ hlater hprompt hcount
      rw [performBy]
      dsimp only
      rw [if_neg htimely, hawait, hanswer]
      exact ⟨b, hresult, hpost, (OnlyLooks.record c hlists).trans hlooks⟩

end SidecarPolicy.Controller
