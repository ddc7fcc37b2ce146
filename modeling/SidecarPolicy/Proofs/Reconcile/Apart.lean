/-
Policies that have no deployment in common.

They may share namespaces, and their deployments may share pods.  Still neither of them sees
what the other one does: a sweep changes no deployment that it does not select, and which
pods are doomed is told by the deployments that are selected, and not by other pods.

* `Reconcile.Apart`: no deployment is selected by both policies;
* `Reconcile.Sweep.Complete.get?_of_selects`, `Reconcile.Sweep.Complete.dooms_iff`: what one
  policy does leaves the other one its deployments, and its doomed pods;
* `Reconcile.Sweep.Complete.comm`: **two such sweeps lead to the same cluster in either
  order**;
* `Controller.reconcile_comm`: so do two keys that are reconciled one after the other.
-/
import SidecarPolicy.Proofs.Controller.Reconciling
import SidecarPolicy.Proofs.Reconcile.Effect

namespace SidecarPolicy

namespace Reconcile

/-- No deployment of the cluster is selected by both policies. -/
def Apart (spec spec' : PolicySpec) (c : Cluster) : Prop :=
  ∀ k d, c.deployments.get? k = some d → IsSelected spec d → ¬ IsSelected spec' d

variable {spec spec' : PolicySpec} {c c₁ c₂ c₁₂ c₂₁ : Cluster} {d : Deployment} {k : ObjectKey}

lemma Apart.symm (h : Apart spec spec' c) : Apart spec' spec c :=
  fun k d hd hselected' hselected => h k d hd hselected hselected'

lemma Apart.selects_eq_false (h : Apart spec spec' c) (hd : c.deployments.get? k = some d)
    (hselected : selects spec d = true) : selects spec' d = false :=
  Bool.eq_false_iff.mpr fun hselected' =>
    h k d hd (selects_iff.mp hselected) (selects_iff.mp hselected')

namespace Sweep

variable {s : Sweep spec} {s' : Sweep spec'}

/-- A sweep leaves the other policy its deployments. -/
lemma Complete.get?_of_selects (h : s.Complete c c₁) (hapart : Apart spec spec' c)
    (hselected' : selects spec' d = true) :
    c₁.deployments.get? k = some d ↔ c.deployments.get? k = some d := by
  obtain hsame | ⟨d₀, hd₀, hdue, hchanged⟩ := h.deployments k
  · rw [hsame]
  · have hnone := hapart.selects_eq_false hd₀ (s.selects_of_isDue hdue)
    constructor
    · intro hd
      obtain rfl := Option.some.inj (hchanged.symm.trans hd)
      exact absurd (hnone.symm.trans hselected') Bool.false_ne_true
    · intro hd
      obtain rfl := Option.some.inj (hd₀.symm.trans hd)
      exact absurd (hnone.symm.trans hselected') Bool.false_ne_true

/-- A sweep leaves the other policy its doomed pods, as far as it leaves them at all. -/
lemma Complete.dooms_iff (h : s.Complete c c₁) (hapart : Apart spec spec' c) (p : Pod) :
    s'.Dooms c₁ p ↔ s'.Dooms c p := by
  refine and_congr_right fun _ => exists_congr fun k => exists_congr fun d => ?_
  refine and_congr_left fun ⟨hrestarts, _⟩ => ?_
  exact h.get?_of_selects hapart (s'.selects_of_restarts hrestarts)

/-- Of two sweeps apart at most one changes a deployment, so it does not matter which comes
first. -/
lemma change_comm (hapart : Apart spec spec' c) (hd : c.deployments.get? k = some d) :
    (let d₁ := if s.isDue d then s.change d else d
      if s'.isDue d₁ then s'.change d₁ else d₁) =
    (let d₂ := if s'.isDue d then s'.change d else d
      if s.isDue d₂ then s.change d₂ else d₂) := by
  cases hdue : s.isDue d with
  | true =>
      have hnone := hapart.selects_eq_false hd (s.selects_of_isDue hdue)
      have hafter : s'.isDue (s.change d) = false := s'.isDue_eq_false hnone
      simp [hdue, hafter, s'.isDue_eq_false hnone]
  | false =>
      cases hdue' : s'.isDue d with
      | true =>
          have hnone := hapart.symm.selects_eq_false hd (s'.selects_of_isDue hdue')
          have hafter : s.isDue (s'.change d) = false := s.isDue_eq_false hnone
          simp [hdue', hafter]
      | false => simp [hdue, hdue']

/-- **Two sweeps apart lead to the same cluster in either order.** -/
theorem Complete.comm (hapart : Apart spec spec' c) (h₁ : s.Complete c c₁)
    (h₁₂ : s'.Complete c₁ c₁₂) (h₂ : s'.Complete c c₂) (h₂₁ : s.Complete c₂ c₂₁) :
    c₁₂ = c₂₁ := by
  have hdeployments : c₁₂.deployments = c₂₁.deployments := KeyMap.ext_get? fun k => by
    rw [h₁₂.get?_deployments, h₁.get?_deployments, h₂₁.get?_deployments, h₂.get?_deployments]
    cases hd : c.deployments.get? k with
    | none => rfl
    | some d => exact congrArg some (change_comm hapart hd)
  have hpods : c₁₂.pods = c₂₁.pods := KeyMap.ext_get? fun k => Option.ext fun p => by
    rw [h₁₂.get?_pods_eq_some, h₁.get?_pods_eq_some, h₂₁.get?_pods_eq_some,
      h₂.get?_pods_eq_some, h₁.dooms_iff hapart, h₂.dooms_iff hapart.symm, and_assoc, and_assoc,
      and_comm (a := ¬ s.Dooms c p)]
  cases c₁₂
  cases c₂₁
  cases hdeployments
  cases hpods
  rfl

end Sweep

end Reconcile

namespace Controller

open Reconcile

/-- **Independent policies commute.**  Two policies, each of them live or deleted, that have
no deployment of the cluster in common are reconciled one after the other, and no call
fails: all of this ends well, and the cluster is the same in either order.  In the end each
deployment is as the policy leaves it that selects it. -/
theorem reconcile_comm {c : Controller} (hc : c.IsAlone) (hsound : c.cluster.Sound)
    (hcount : c.faults.count = 0) {k₁ k₂ : ObjectKey} (hne : k₁ ≠ k₂) {st₁ st₂ : PolicyState}
    (hst₁ : c.registry.get? k₁ = some st₁) (hst₂ : c.registry.get? k₂ = some st₂)
    (hapart : Apart st₁.policy.spec st₂.policy.spec c.cluster) :
    ((c.reconcile k₁).1 = .ok () ∧ ((c.reconcile k₁).2.reconcile k₂).1 = .ok () ∧
      (c.reconcile k₂).1 = .ok () ∧ ((c.reconcile k₂).2.reconcile k₁).1 = .ok ()) ∧
      ((c.reconcile k₁).2.reconcile k₂).2.cluster =
        ((c.reconcile k₂).2.reconcile k₁).2.cluster ∧
      ∀ key d, ((c.reconcile k₁).2.reconcile k₂).2.cluster.deployments.get? key = some d →
        (IsSelected st₁.policy.spec d → st₁.Meets d) ∧
          (IsSelected st₂.policy.spec d → st₂.Meets d) := by
  obtain ⟨hok₁, h₁⟩ := reconciles hc hsound hcount hst₁
  obtain ⟨hok₂, h₂⟩ := reconciles hc hsound hcount hst₂
  obtain ⟨hok₁₂, h₁₂⟩ := reconciles h₁.alone (h₁.sound hsound) h₁.count
    ((h₁.get?_of_ne hne.symm).trans hst₂)
  obtain ⟨hok₂₁, h₂₁⟩ := reconciles h₂.alone (h₂.sound hsound) h₂.count
    ((h₂.get?_of_ne hne).trans hst₁)
  have hsame := h₁.complete.comm hapart h₁₂.complete h₂.complete h₂₁.complete
  refine ⟨⟨hok₁, hok₁₂, hok₂, hok₂₁⟩, hsame, fun key d hd => ⟨fun hselected => ?_,
    fun hselected => ?_⟩⟩
  · -- the first policy was reconciled last in the other order
    rw [hsame] at hd
    exact PolicyState.meets_of_not_due (selects_iff.mpr hselected)
      (h₂₁.complete.noneDue key d hd)
  · exact PolicyState.meets_of_not_due (selects_iff.mpr hselected)
      (h₁₂.complete.noneDue key d hd)

/-! ### Two policies for one shop -/

/-- A policy for the till alone. -/
def tillPolicy : Policy where
  name := some "till-policy"
  version := some "1"
  spec := { «namespace» := ["shop"], labelSelector := { matchLabels := some (shopLabels "till") } }

/-- A policy for the shelf alone. -/
def shelfPolicy : Policy where
  name := some "shelf-policy"
  version := some "1"
  spec := { «namespace» := ["shop"], labelSelector := { matchLabels := some (shopLabels "shelf") } }

/-- The shop, where the policy for the till is live and the one for the shelf has been
deleted.  The pods of the shelf belong to the till as well. -/
def sharedShop : Controller where
  registry := ((Registry.apply {} tillPolicy).apply shelfPolicy).delete shelfPolicy.key
  cluster := shop.cluster.addPod
    (shopPod "shelf-2" "shelf" (some (KeyMap.ofList [(Annotations.status, "injected")])))

/-- The two policies of the shop have no deployment in common. -/
lemma sharedShop_apart : Apart tillPolicy.spec shelfPolicy.spec sharedShop.cluster := by
  intro k d hd htill hshelf
  have hvalues : sharedShop.cluster.deployments.values = [shelf, till] := by decide +kernel
  have hmem : d ∈ [shelf, till] := hvalues ▸ KeyMap.mem_values.mpr ⟨k, hd⟩
  simp only [List.mem_cons, List.not_mem_nil, or_false] at hmem
  obtain rfl | rfl := hmem
  · exact absurd (selects_iff.mpr htill) (by decide +kernel)
  · exact absurd (selects_iff.mpr hshelf) (by decide +kernel)

/-- The shop ends up the same in either order: the till is annotated, and the shelf is not
any more. -/
theorem reconcile_comm_sharedShop :
    ((sharedShop.reconcile tillPolicy.key).2.reconcile shelfPolicy.key).2.cluster =
        ((sharedShop.reconcile shelfPolicy.key).2.reconcile tillPolicy.key).2.cluster ∧
      ∀ key d, ((sharedShop.reconcile tillPolicy.key).2.reconcile
          shelfPolicy.key).2.cluster.deployments.get? key = some d →
        (IsSelected tillPolicy.spec d → Workload.isAnnotated d.metadata = true) ∧
          (IsSelected shelfPolicy.spec d →
            d.metadata.allAnnotations.get? Annotations.inject = none) := by
  have hlive : sharedShop.registry.get? tillPolicy.key = some (.live tillPolicy) := by
    decide +kernel
  have hdeleted : sharedShop.registry.get? shelfPolicy.key = some (.deleted shelfPolicy) := by
    decide +kernel
  have hsound : sharedShop.cluster.Sound := shop_sound.addPod _
  obtain ⟨-, hsame, hmeets⟩ := reconcile_comm ⟨rfl, fun _ ht => absurd ht List.not_mem_nil⟩
    hsound rfl (by decide) hlive hdeleted sharedShop_apart
  exact ⟨hsame, hmeets⟩

end Controller

end SidecarPolicy
