/-
Whether a pod that a policy has restarted comes back with the sidecar.

A new pod is known by its labels alone: the look-up asks for the pods that carry them, and
gives up if there is none.  So a restarted pod gets the sidecar if one of the pods that the
policy leaves alone speaks for it, and not because of the pods that are restarted with it.

* `Reconcile.IsSibling`, `Reconcile.HasSibling`: the pods that speak for a restarted one;
* `Admission.ownerRequests_iff`: once a policy has been applied the look-up finds an owner
  if there is a sibling;
* `Admission.decide_unmarked`: what is decided about a pod without the sidecar;
* `Controller.decide_restarted`: **a restarted pod gets the sidecar if it asks for it, or
  has a sibling, and else it does not**;
* `Controller.not_all_restarted`: there are pods that come back without the sidecar.
-/
import SidecarPolicy.Proofs.Admission.Decision
import SidecarPolicy.Proofs.Reconcile.Effect

namespace SidecarPolicy

/-! ### Siblings -/

/-- A pod that a policy leaves alone, that carries every label of a new pod, and belongs to
a deployment of a namespace that the policy annotates, or that carries the request for the
sidecar already. -/
structure Reconcile.IsSibling (spec : PolicySpec) (c : Cluster) (ns : String) (pod p : Pod) :
    Prop where
  stays : ¬ IsRestarted spec c p
  labels : ∀ key v, pod.metadata.allLabels.get? key = some v →
    p.metadata.allLabels.get? key = some v
  owner : ∃ k d s, c.deployments.get? k = some d ∧ d.metadata.anyNamespace = ns ∧
    p.BelongsTo d s ∧
      (IsFresh spec d ∨ ∃ value, d.metadata.allAnnotations.get? Annotations.inject = some value)

/-- One of the pods that a policy leaves alone speaks for a new pod. -/
def Reconcile.HasSibling (spec : PolicySpec) (c : Cluster) (ns : String) (pod : Pod) : Prop :=
  ∃ k p, c.pods.get? k = some p ∧ IsSibling spec c ns pod p

namespace Admission

open Reconcile Program

variable {ε : Type} {spec : PolicySpec} {c c' : Cluster} {ns : String} {pod : Pod}

lemma exists_request_marked (spec : PolicySpec) (d : Deployment) :
    ∃ value, (marked spec d).metadata.allAnnotations.get? Annotations.inject = some value :=
  ⟨_, (annotated_marked spec d).written _ (.head _)⟩

/-- A pod belongs to a deployment whether it is marked or not. -/
lemma belongsTo_marked {d : Deployment} {p : Pod} {s : DeploymentSpec} :
    p.BelongsTo (marked spec d) s ↔ p.BelongsTo d s :=
  ⟨fun h => ⟨h.spec, h.selective, h.namespace, h.labels⟩,
    fun h => ⟨h.spec, h.selective, h.namespace, h.labels⟩⟩

/-- **Once a policy has been applied an owner requests the sidecar if there is a
sibling.** -/
theorem ownerRequests_iff (h : Applied spec c c') :
    OwnerRequests c' ns pod ↔ HasSibling spec c ns pod := by
  constructor
  · -- an owner has been a target of the policy, or requested the sidecar before
    rintro ⟨k, d', k', p, s, hd', hns, hrequest, hp, hbelongs, hlabels⟩
    obtain ⟨hbefore, hspared⟩ := h.get?_pods_eq_some.mp hp
    refine ⟨k', p, hbefore, mt isDoomed_iff.mpr hspared, hlabels, k, ?_⟩
    rw [h.get?_deployments] at hd'
    obtain ⟨d, hd, rfl⟩ := Option.map_eq_some_iff.mp hd'
    split_ifs at hns hrequest hbelongs with htarget
    · exact ⟨d, s, hd, hns, belongsTo_marked.mp hbelongs, .inl (isTarget_iff.mp htarget)⟩
    · exact ⟨d, s, hd, hns, hbelongs, .inr hrequest⟩
  · rintro ⟨k', p, hp, hstays, hlabels, k, d, s, hd, hns, hbelongs, hwhy⟩
    have hleft : c'.pods.get? k' = some p :=
      h.get?_pods_eq_some.mpr ⟨hp, mt isDoomed_iff.mp hstays⟩
    have hd' := h.get?_deployments k
    rw [hd, Option.map_some] at hd'
    split_ifs at hd' with htarget
    · exact ⟨k, _, k', p, s, hd', hns, exists_request_marked spec d, hleft,
        belongsTo_marked.mpr hbelongs, hlabels⟩
    · -- what is no target has not been changed
      obtain hfresh | hrequest := hwhy
      · exact absurd (isTarget_iff.mpr hfresh) htarget
      · exact ⟨k, d, k', p, s, hd', hns, hrequest, hleft, hbelongs, hlabels⟩

/-! ### The decision -/

/-- A pod that has labels and not the sidecar gets it if it asks for it, or if an owner
requests it; else it is not selected. -/
lemma decide_unmarked {σ : Type} {answer : Handler ε σ} {view : σ → Cluster}
    (hanswer : Lists answer view) {s : σ}
    (hkeys : ∀ k p, (view s).pods.get? k = some p → p.metadata.key = k)
    (hpublic : ns ∉ Injection.reservedNamespaces)
    (hbare : Annotations.isInjected pod.metadata.allAnnotations = false)
    (hlabelled : ∃ key v, pod.metadata.allLabels.get? key = some v) (sidecar : SidecarConfig) :
    (AsksForSidecar pod.metadata ∨ OwnerRequests (view s) ns pod →
        ((decide sidecar ns pod).run answer s).1 = .ok (.inject (Injection.patch pod sidecar))) ∧
      (¬ (AsksForSidecar pod.metadata ∨ OwnerRequests (view s) ns pod) →
        ((decide sidecar ns pod).run answer s).1 = .ok .notSelected) := by
  have hinjected : ¬ IsInjected pod.metadata := by
    rw [← isInjected_iff, hbare]
    exact Bool.false_ne_true
  rw [decide, precheck_eq, if_neg hpublic, if_neg hinjected]
  by_cases hasks : AsksForSidecar pod.metadata
  · rw [if_pos hasks]
    exact ⟨fun _ => rfl, fun hnot => absurd (.inl hasks) hnot⟩
  · -- the look-up finds whether an owner requests it
    obtain ⟨found, hfound, howner, -⟩ := (looks_ownerRequestsInjection hkeys ns pod).run_eq hanswer
    rw [if_neg hasks, if_neg (not_unlabelled hlabelled), or_iff_right hasks, Deferred.run]
    dsimp only
    rw [hfound]
    constructor
    · intro hrequests
      rw [howner.mpr hrequests]
      rfl
    · intro hnobody
      rw [Bool.eq_false_iff.mpr (mt howner.mp hnobody)]
      rfl

/-- A pod that the policy has restarted gets the sidecar if it asks for it, or has a
sibling; else it is not selected. -/
lemma decide_of_applied {σ : Type} {answer : Handler ε σ} {view : σ → Cluster}
    (hanswer : Lists answer view) {s : σ} (hsound : c.Sound) (h : Applied spec c (view s))
    {k : ObjectKey} (hpod : c.pods.get? k = some pod) (hgone : (view s).pods.get? k = none)
    (hpublic : ns ∉ Injection.reservedNamespaces)
    (hlabelled : ∃ key v, pod.metadata.allLabels.get? key = some v) (sidecar : SidecarConfig) :
    (AsksForSidecar pod.metadata ∨ HasSibling spec c ns pod →
        ((decide sidecar ns pod).run answer s).1 = .ok (.inject (Injection.patch pod sidecar))) ∧
      (¬ (AsksForSidecar pod.metadata ∨ HasSibling spec c ns pod) →
        ((decide sidecar ns pod).run answer s).1 = .ok .notSelected) := by
  have hdoomed : IsDoomed spec c pod := by
    by_contra hspared
    cases hgone.symm.trans (h.get?_pods_eq_some.mpr ⟨hpod, hspared⟩)
  rw [← ownerRequests_iff h]
  exact decide_unmarked hanswer (h.toAdvances.sound hsound).pods hpublic hdoomed.1 hlabelled sidecar

end Admission

namespace Controller

open Reconcile Program

/-- To reconcile the key of a live policy applies the policy, unless calls fail. -/
lemma applied_reconcile {c : Controller} (hc : c.IsAlone) (hsound : c.cluster.Sound)
    (hcount : c.faults.count = 0) {k : ObjectKey} {p : Policy}
    (hlive : c.registry.get? k = some (.live p)) :
    Applied p.spec c.cluster (c.reconcile k).2.cluster := by
  rw [reconcile_eq_perform hlive]
  obtain ⟨-, ⟨⟨⟩, -, happlied⟩ | ⟨hfaults, -⟩⟩ := perform_cases (secures_apply p.spec hsound) hc
  · exact happlied
  · exact absurd hcount hfaults

/-! ### Restarted pods -/

lemma shop_live : shop.registry.get? shopPolicy.key = some (.live shopPolicy) := rfl

lemma shop_applied :
    Applied shopPolicy.spec shop.cluster (shop.reconcile shopPolicy.key).2.cluster :=
  applied_reconcile shop_isAlone shop_sound (by decide) shop_live

/-- A pod of the till without the sidecar. -/
def tillFresh : Pod := shopPod "till-2" "till" none

/-- A pod of the shelf, the only one. -/
def shelfPod : Pod := shopPod "shelf-1" "shelf" none

lemma till_isFresh : shop.cluster.deployments.get? till.metadata.key = some till ∧
    IsFresh shopPolicy.spec till :=
  ⟨by decide +kernel, isTarget_iff.mp (by decide +kernel)⟩

/-- The pods of the shop that lack the sidecar are restarted. -/
lemma shop_restarts : IsRestarted shopPolicy.spec shop.cluster tillFresh ∧
    IsRestarted shopPolicy.spec shop.cluster shelfPod := by
  obtain ⟨htill, hfresh⟩ := till_isFresh
  constructor
  · exact ⟨by decide +kernel, _, till, _, htill, hfresh, rfl, by decide +kernel,
      by decide +kernel, by decide +kernel⟩
  · exact ⟨by decide +kernel, _, till, _, htill, hfresh, rfl, by decide +kernel,
      by decide +kernel, by decide +kernel⟩

/-- **What becomes of a restarted pod.**  A pod with labels that is gone when a live policy
has been reconciled, unless calls fail, is asked about again on that cluster: it gets the
sidecar if it asks for it, or if one of the pods that the policy leaves alone is a sibling
of it; else it is not selected. -/
theorem decide_restarted {c : Controller} (hc : c.IsAlone) (hsound : c.cluster.Sound)
    (hcount : c.faults.count = 0) {k : ObjectKey} {p : Policy}
    (hlive : c.registry.get? k = some (.live p)) {kp : ObjectKey} {pod : Pod}
    (hpod : c.cluster.pods.get? kp = some pod)
    (hgone : (c.reconcile k).2.cluster.pods.get? kp = none)
    (hpublic : kp.namespace ∉ Injection.reservedNamespaces)
    (hlabelled : ∃ key v, pod.metadata.allLabels.get? key = some v)
    {ε σ : Type} {answer : Handler ε σ} {view : σ → Cluster} (hanswer : Lists answer view) {s : σ}
    (hview : view s = (c.reconcile k).2.cluster) (sidecar : SidecarConfig) :
    (Admission.AsksForSidecar pod.metadata ∨ HasSibling p.spec c.cluster kp.namespace pod →
        ((Admission.decide sidecar kp.namespace pod).run answer s).1 =
          .ok (.inject (Injection.patch pod sidecar))) ∧
      (¬ (Admission.AsksForSidecar pod.metadata ∨
          HasSibling p.spec c.cluster kp.namespace pod) →
        ((Admission.decide sidecar kp.namespace pod).run answer s).1 = .ok .notSelected) := by
  have happlied := applied_reconcile hc hsound hcount hlive
  rw [← hview] at happlied hgone
  exact Admission.decide_of_applied hanswer hsound happlied hpod hgone hpublic hlabelled sidecar

/-- A pod of the till comes back with the sidecar, because of the pod that has it already. -/
theorem decide_restarted_shop :
    (shop.reconcile shopPolicy.key).2.cluster.pods.get? tillFresh.metadata.key = none ∧
      ((Admission.decide {} "shop" tillFresh).run Cluster.answer
        (shop.reconcile shopPolicy.key).2.cluster).1 =
          .ok (.inject (Injection.patch tillFresh {})) := by
  have hpod : shop.cluster.pods.get? tillFresh.metadata.key = some tillFresh := by decide +kernel
  have hgone := (outcome_apply shop_applied).deleted _ _ hpod shop_restarts.1
  have hsibling : HasSibling shopPolicy.spec shop.cluster "shop" tillFresh := by
    obtain ⟨htill, hfresh⟩ := till_isFresh
    refine ⟨tillPod.metadata.key, tillPod, by decide +kernel, fun hrestarted => ?_, fun _ _ => id,
      _, till, _, htill, rfl, ⟨rfl, by decide +kernel, rfl, by decide +kernel⟩, .inl hfresh⟩
    exact absurd hrestarted.1 (by decide +kernel)
  have hdecision := (decide_restarted shop_isAlone shop_sound (by decide) shop_live hpod hgone
    (by decide) ⟨"app", "till", by decide +kernel⟩ lists_answer rfl {}).1 (.inr hsibling)
  exact ⟨hgone, hdecision⟩

/-- **Not every restarted pod gets the sidecar**: it is not so that a pod with labels which
is gone when a live policy has been reconciled always gets the sidecar. -/
theorem not_all_restarted :
    ¬ ∀ (c : Controller) (k kp : ObjectKey) (p : Policy) (pod : Pod) (sidecar : SidecarConfig),
      c.IsAlone → c.cluster.Sound → c.faults.count = 0 →
        c.registry.get? k = some (.live p) → c.cluster.pods.get? kp = some pod →
          (c.reconcile k).2.cluster.pods.get? kp = none →
            kp.namespace ∉ Injection.reservedNamespaces →
              (∃ key v, pod.metadata.allLabels.get? key = some v) →
                ((Admission.decide sidecar kp.namespace pod).run Cluster.answer
                  (c.reconcile k).2.cluster).1 = .ok (.inject (Injection.patch pod sidecar)) := by
  intro hall
  have hpod : shop.cluster.pods.get? shelfPod.metadata.key = some shelfPod := by decide +kernel
  have hgone := (outcome_apply shop_applied).deleted _ _ hpod shop_restarts.2
  have hpublic : shelfPod.metadata.key.namespace ∉ Injection.reservedNamespaces := by decide
  have hlabelled : ∃ key v, shelfPod.metadata.allLabels.get? key = some v :=
    ⟨"app", "shelf", by decide +kernel⟩
  have hnobody : ¬ (Admission.AsksForSidecar shelfPod.metadata ∨
      HasSibling shopPolicy.spec shop.cluster "shop" shelfPod) := by
    rintro (hasks | ⟨k, p, hp, hstays, hlabels, -⟩)
    · exact absurd (Admission.requestsInjection_iff.mpr hasks) (by decide +kernel)
    · -- the other pods of the shop are of another app
      have hvalues : shop.cluster.pods.values = [shelfPod, tillPod, tillFresh] := by
        decide +kernel
      have hmem : p ∈ [shelfPod, tillPod, tillFresh] :=
        hvalues ▸ KeyMap.mem_values.mpr ⟨k, hp⟩
      have happ := hlabels "app" "shelf" (by decide +kernel)
      simp only [List.mem_cons, List.not_mem_nil, or_false] at hmem
      obtain rfl | rfl | rfl := hmem
      · exact hstays shop_restarts.2
      · exact absurd happ (by decide +kernel)
      · exact absurd happ (by decide +kernel)
  have hinject := hall shop shopPolicy.key _ shopPolicy shelfPod {} shop_isAlone shop_sound
    (by decide) shop_live hpod hgone hpublic hlabelled
  have hselected := (Admission.decide_of_applied lists_answer shop_sound shop_applied hpod hgone
    hpublic hlabelled {}).2 hnobody
  cases hselected.symm.trans hinject

end Controller

end SidecarPolicy
