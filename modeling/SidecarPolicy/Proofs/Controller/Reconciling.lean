/-
Reconciling a key while no call fails.

What the state of a key asks for is one sweep or the other, and a controller that nobody
disturbs makes it: it passes through advances, and in the end everything has been done.

* `Program.stages`, `Controller.stages`: the states that a run passes through, one at each
  call and one at the end;
* `Controller.stages_secures`: at each of them the cluster is as the program has it;
* `Controller.advances_stages`: while a key is reconciled there are nothing but advances;
* `Controller.Reconciles`, `Controller.reconciles`: **what comes of a key that is
  reconciled**.
-/
import SidecarPolicy.Proofs.Controller.Alone
import SidecarPolicy.Proofs.Controller.Answering
import SidecarPolicy.Proofs.Reconcile.Sync

namespace SidecarPolicy

open Reconcile

/-- Which states there are when a key has been settled with is told by the states that
there were. -/
lemma Reconcile.get?_settle_congr {r r' : Registry} (h : r.policies = r'.policies)
    (k k' : ObjectKey) (st : PolicyState) :
    (settle r k (some st) (.ok () : Except ClusterError Unit)).get? k' =
      (settle r' k (some st) (.ok () : Except ClusterError Unit)).get? k' := by
  have hget : ∀ k, r.get? k = r'.get? k := fun k => congrArg (·.get? k) h
  cases st with
  | live p => exact hget k'
  | deleted p =>
      show (r.forgetDeleted k).get? k' = (r'.forgetDeleted k).get? k'
      by_cases hk : k' = k
      · rw [hk, Registry.get?_forgetDeleted_self, Registry.get?_forgetDeleted_self, hget]
      · rw [Registry.get?_forgetDeleted_of_ne hk, Registry.get?_forgetDeleted_of_ne hk, hget]

/-! ### Stages -/

namespace Program

variable {ε α σ : Type}

/-- The states that a run passes through: one at each call, and the last one at the end. -/
def stages (answer : Handler ε σ) : Program ε α → σ → List σ
  | .done _, s => [s]
  | .call asked next, s =>
      s :: stages answer (next (answer asked s).1) (answer asked s).2

end Program

namespace Controller

open Program

variable {α : Type} {c : Controller}

/-- The controllers that there are while the key is reconciled: one at each call, and the
last one at the end. -/
def stages (c : Controller) (k : ObjectKey) : List Controller :=
  (Reconcile.program (c.registry.get? k)).stages handler c

/-- Unless calls are to fail, a controller that nobody disturbs gives the answer of its
cluster. -/
lemma handler_eq (hc : c.IsAlone) (hcount : c.faults.count = 0) (asked : Call) :
    ∃ c', handler asked c = ((Cluster.answer asked c.cluster).1, c') ∧
      c'.cluster = (Cluster.answer asked c.cluster).2 ∧ c'.IsAlone ∧ c'.faults.count = 0 := by
  have hrests : Rests (c.record asked) (c.record asked).await :=
    rests_await ⟨hc.noGhost, hc.noJob⟩
  have hcluster : (c.record asked).await.cluster = c.cluster := hrests.cluster
  have hcount' : (c.record asked).await.faults.count = 0 :=
    (congrArg Faults.count hrests.faults).trans hcount
  obtain ⟨hfails, -⟩ | ⟨faults, hsame, hanswer⟩ := answer_cases hrests.alone asked
  · exact absurd hcount' hfails
  · rw [handler, hanswer, hcluster]
    exact ⟨_, rfl, rfl, ⟨hrests.alone.noGhost, hrests.alone.noJob⟩, hsame.trans hcount'⟩

/-- At each stage the cluster is one on which the program makes a call, or one on which it
may end. -/
lemma stages_secures {p : Program ClusterError α} {safe : Cluster → Prop}
    {post : α → Cluster → Prop} (h : p.Secures safe post c.cluster)
    (hend : ∀ a c', post a c' → safe c') (hc : c.IsAlone) (hcount : c.faults.count = 0) :
    ∀ m ∈ p.stages handler c, safe m.cluster := by
  induction p generalizing c with
  | done r =>
      cases r with
      | ok a =>
          intro m hm
          rw [List.mem_singleton.mp hm]
          exact hend a _ h
      | error e => exact h.elim
  | call asked next ih =>
      obtain ⟨hsafe, -, hnext⟩ := h
      obtain ⟨c', heq, hcluster, halone, hcount'⟩ := handler_eq hc hcount asked
      intro m hm
      rw [Program.stages, heq] at hm
      -- the first stage is the one at which the call is made
      obtain rfl | hm := List.mem_cons.mp hm
      · exact hsafe
      · exact ih _ (hcluster.symm ▸ hnext) halone hcount' m hm

/-! ### Reconciling -/

variable {k : ObjectKey} {st : PolicyState}

lemma advances_stages (hc : c.IsAlone) (hsound : c.cluster.Sound) (hcount : c.faults.count = 0)
    (hst : c.registry.get? k = some st) :
    ∀ m ∈ c.stages k, st.sweep.Advances c.cluster m.cluster := by
  rw [stages, hst]
  exact stages_secures (secures_state hsound st) (fun _ _ h => h.toAdvances) hc hcount

/-- What comes of a key that is reconciled: everything has been done that its state asks
for, with nothing but advances on the way, a deleted policy has been given up, and still
nobody disturbs the controller. -/
structure Reconciles (k : ObjectKey) (st : PolicyState) (c c' : Controller) : Prop where
  advances : ∀ m ∈ c.stages k, st.sweep.Advances c.cluster m.cluster
  complete : st.sweep.Complete c.cluster c'.cluster
  states : ∀ k', c'.registry.get? k' =
    (Reconcile.settle c.registry k (some st) (.ok () : Except ClusterError Unit)).get? k'
  alone : c'.IsAlone
  count : c'.faults.count = 0

/-- **What comes of a key that is reconciled** while no call fails. -/
theorem reconciles (hc : c.IsAlone) (hsound : c.cluster.Sound) (hcount : c.faults.count = 0)
    (hst : c.registry.get? k = some st) :
    (c.reconcile k).1 = .ok () ∧ Reconciles k st c (c.reconcile k).2 := by
  have hcases := perform_cases (secures_state hsound st) hc
  have hadvances := advances_stages hc hsound hcount hst
  rw [reconcile, hst]
  generalize perform (Reconcile.program (some st)) c = performed at hcases ⊢
  obtain ⟨result, c'⟩ := performed
  obtain ⟨hkeeps, ⟨⟨⟩, rfl, hcomplete⟩ | ⟨hfaults, -⟩⟩ := hcases
  · refine ⟨rfl, hadvances, hcomplete, fun k' => ?_, ⟨hkeeps.alone.noGhost, hkeeps.alone.noJob⟩, ?_⟩
    · exact get?_settle_congr hkeeps.policies k k' st
    · exact Nat.le_zero.mp (hkeeps.count.trans hcount.le)
  · exact absurd hcount hfaults

lemma Reconciles.get?_of_ne {c' : Controller} (h : Reconciles k st c c') {k' : ObjectKey}
    (hne : k' ≠ k) : c'.registry.get? k' = c.registry.get? k' := by
  rw [h.states]
  cases st with
  | live p => rfl
  | deleted p => exact Registry.get?_forgetDeleted_of_ne hne

lemma Reconciles.sound {c' : Controller} (h : Reconciles k st c c') (hsound : c.cluster.Sound) :
    c'.cluster.Sound :=
  h.complete.toAdvances.sound hsound

end Controller

end SidecarPolicy
