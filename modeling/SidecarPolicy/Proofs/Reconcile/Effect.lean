/-
What bringing a cluster in line with a live policy does, exactly.

* `Reconcile.IsFresh`, `Reconcile.Annotated`: the deployments that a policy annotates,
  and what becomes of them;
* `Reconcile.IsRestarted`: the pods that it deletes;
* `Reconcile.outcome_apply`: applying a policy comes to this;
* `Reconcile.looks_apply`: where no deployment is fresh the cluster is only looked at;
* `Controller.reconcile_live`: **the effect of a live policy, after which there is
  nothing left to do**.
-/
import SidecarPolicy.Proofs.Controller.Looking
import SidecarPolicy.Proofs.Reconcile.Apply
import SidecarPolicy.Proofs.Reconcile.Outcome

namespace SidecarPolicy

namespace Reconcile

/-! ### Fresh deployments -/

/-- A deployment that a policy selects, and that is not annotated. -/
structure IsFresh (spec : PolicySpec) (d : Deployment) : Prop extends IsSelected spec d where
  bare : Workload.isAnnotated d.metadata = false

/-- The annotations of a deployment have been overwritten by the five of a policy, and
nothing else has changed. -/
structure Annotated (policy : PolicyAnnotations) (d d' : Deployment) : Prop where
  rest : d' = d.withAnnotations d'.metadata.allAnnotations
  written : ∀ e ∈ policy.pairs, d'.metadata.allAnnotations.get? e.1 = some e.2
  kept : ∀ key, key ∉ Annotations.policyKeys →
    d'.metadata.allAnnotations.get? key = d.metadata.allAnnotations.get? key

/-- A pod that lacks the sidecar, and belongs to a fresh deployment. -/
def IsRestarted (spec : PolicySpec) (c : Cluster) (p : Pod) : Prop :=
  Annotations.isInjected p.metadata.allAnnotations = false ∧
    ∃ k d s, c.deployments.get? k = some d ∧ IsFresh spec d ∧ p.BelongsTo d s

variable {spec : PolicySpec} {c c' : Cluster} {d : Deployment} {p : Pod}

lemma isTarget_iff : isTarget spec d = true ↔ IsFresh spec d := by
  rw [isTarget, Bool.and_eq_true, selects_iff, Bool.not_eq_true']
  exact ⟨fun h => ⟨h.1, h.2⟩, fun h => ⟨h.toIsSelected, h.bare⟩⟩

/-- The doomed pods are those without the sidecar that belong to fresh deployments. -/
lemma isDoomed_iff : IsDoomed spec c p ↔ IsRestarted spec c p := by
  refine and_congr_right fun _ => exists_congr fun k => exists_congr fun d => ?_
  rw [isTarget_iff, owns_iff]
  exact ⟨fun ⟨hd, hfresh, s, howns⟩ => ⟨s, hd, hfresh, howns⟩,
    fun ⟨s, hd, hfresh, howns⟩ => ⟨hd, hfresh, s, howns⟩⟩

/-- Marking a deployment writes the annotations of the policy. -/
lemma annotated_marked (spec : PolicySpec) (d : Deployment) :
    Annotated spec.annotations d (marked spec d) where
  rest := rfl
  written e he := by
    show (d.metadata.allAnnotations.overwrite spec.annotations.toLabels).get? e.1 = _
    rw [Labels.get?_overwrite, PolicyAnnotations.get?_toLabels he]
    rfl
  kept key hkey := by
    have hnew : spec.annotations.toLabels.get? key = none :=
      KeyMap.get?_insertAll_of_not_mem hkey .empty
    show (d.metadata.allAnnotations.overwrite spec.annotations.toLabels).get? key = _
    rw [Labels.get?_overwrite, hnew]
    rfl

/-! ### Applying a policy -/

lemma outcome_apply (h : Applied spec c c') :
    Outcome (IsFresh spec) (Annotated spec.annotations) (IsRestarted spec c) c c' :=
  h.outcome (fun _ => isTarget_iff.symm) (fun d _ => annotated_marked spec d)
    fun _ => isDoomed_iff.symm.trans dooms_annotating.symm

/-- When it is done, every deployment that the policy selects is annotated. -/
lemma Applied.isAnnotated (h : Applied spec c c') {k : ObjectKey}
    (hd : c'.deployments.get? k = some d) (hselected : IsSelected spec d) :
    Workload.isAnnotated d.metadata = true := by
  by_contra hbare
  have hfresh := isTarget_iff.mpr ⟨hselected, Bool.eq_false_iff.mpr hbare⟩
  exact Bool.false_ne_true ((h.noneDue k d hd).symm.trans hfresh)

/-- Where no deployment is fresh the cluster is only looked at. -/
lemma looks_apply {ε : Type} (h : ∀ k d, c.deployments.get? k = some d → isTarget spec d = false) :
    (apply spec : Program ε Unit).Looks c fun _ => True := by
  refine looks_forSelected fun k d hd hselected => ?_
  have hannotated : Workload.isAnnotated d.metadata = true := by
    have hno := h k d hd
    rw [isTarget, hselected, Bool.true_and] at hno
    exact (Bool.not_eq_false' _).mp hno
  rw [applyTo, (Workload.annotate_eq_none_iff d.metadata spec.annotations).mpr hannotated]
  exact Program.looks_pure trivial

end Reconcile

namespace Controller

open Reconcile

variable {k : ObjectKey} {p : Policy}

/-- The key of a live policy is reconciled by applying the policy. -/
lemma reconcile_eq_perform {c : Controller} (hlive : c.registry.get? k = some (.live p)) :
    c.reconcile k = perform (Reconcile.apply p.spec) c := by
  rw [reconcile, hlive]
  rfl

/-- **The effect of a live policy.**  Unless calls fail, reconciling its key ends well:
the five annotations have been written onto each fresh deployment, the pods of fresh
deployments that lack the sidecar are gone, and nothing else has changed.  Then every
deployment that the policy selects is annotated, and to reconcile the key once more
asks for nothing but lists. -/
theorem reconcile_live {c : Controller} (hc : c.IsAlone) (hsound : c.cluster.Sound)
    (hcount : c.faults.count = 0) (hlive : c.registry.get? k = some (.live p)) :
    (c.reconcile k).1 = .ok () ∧
      Outcome (IsFresh p.spec) (Annotated p.spec.annotations) (IsRestarted p.spec c.cluster)
        c.cluster (c.reconcile k).2.cluster ∧
      (∀ key d, (c.reconcile k).2.cluster.deployments.get? key = some d →
        IsSelected p.spec d → Workload.isAnnotated d.metadata = true) ∧
      ((c.reconcile k).2.reconcile k).1 = .ok () ∧
      OnlyLooks (c.reconcile k).2 ((c.reconcile k).2.reconcile k).2 := by
  rw [reconcile_eq_perform hlive]
  obtain ⟨hkeeps, ⟨⟨⟩, hok, happlied⟩ | ⟨hfaults, -⟩⟩ :=
    perform_cases (secures_apply p.spec hsound) hc
  · have hcount' := Nat.le_zero.mp (hkeeps.count.trans hcount.le)
    have hlooks := looks_apply (ε := ClusterError) happlied.noneDue
    obtain ⟨⟨⟩, hagain, -, honly⟩ := perform_looks hlooks hkeeps.alone hcount'
    rw [reconcile_eq_perform ((hkeeps.get? k).trans hlive)]
    exact ⟨hok, outcome_apply happlied, fun _ _ => happlied.isAnnotated, hagain, honly⟩
  · exact absurd hcount hfaults

/-! ### Two deployments that share their pods -/

/-- The labels of an object of the shop. -/
def shopLabels (app : String) : Labels := KeyMap.ofList [("app", app), ("tier", "shop")]

/-- The selector of everything in the shop. -/
def shopTier : Labels := KeyMap.ofList [("tier", "shop")]

/-- A deployment that no policy has been at, the selector of which takes all pods of the
shop. -/
def till : Deployment where
  metadata := { name := some "till", «namespace» := some "shop",
                labels := some (shopLabels "till"),
                annotations := some (KeyMap.ofList [("owner", "sales")]) }
  spec := some { selector := { matchLabels := some shopTier } }

/-- A deployment that is annotated already. -/
def shelf : Deployment where
  metadata := { name := some "shelf", «namespace» := some "shop",
                labels := some (shopLabels "shelf"),
                annotations := some (KeyMap.ofList [(Annotations.inject, "true")]) }
  spec := some { selector := { matchLabels := some (shopLabels "shelf") } }

/-- A pod of the shop. -/
def shopPod (name app : String) (annotations : Option Labels) : Pod where
  metadata := { name := some name, «namespace» := some "shop",
                labels := some (shopLabels app), annotations }

/-- A policy for the shop, which names its namespace twice and an empty one. -/
def shopPolicy : Policy where
  name := some "shop-policy"
  version := some "1"
  spec := { «namespace» := ["shop", "", "shop"], labelSelector := { matchLabels := some shopTier },
            groupLabel := ["app"] }

/-- A pod of the shop that carries the sidecar. -/
def tillPod : Pod :=
  shopPod "till-1" "till" (some (KeyMap.ofList [(Annotations.status, "Injected")]))

/-- The shop before the policy has been applied. -/
def shop : Controller where
  registry := Registry.apply {} shopPolicy
  cluster := ((((({} : Cluster).addDeployment till).addDeployment shelf).addPod tillPod).addPod
    (shopPod "till-2" "till" none)).addPod (shopPod "shelf-1" "shelf" none)

lemma shop_sound : shop.cluster.Sound := by
  have htill : till.InRange := by decide
  have hshelf : shelf.InRange := by decide
  have hdeployments := (Cluster.sound_empty.addDeployment htill).addDeployment hshelf
  exact ((hdeployments.addPod _).addPod _).addPod _

lemma shop_isAlone : shop.IsAlone := ⟨rfl, fun _ ht => absurd ht List.not_mem_nil⟩

/-- The policy is applied to the shop: the pod of the deployment that was annotated before
is deleted as well, since it belongs to the other deployment too. -/
theorem reconcile_shop :
    (shop.reconcile shopPolicy.key).1 = .ok () ∧
      (∃ d, (shop.reconcile shopPolicy.key).2.cluster.deployments.get? till.metadata.key = some d ∧
        Annotated shopPolicy.spec.annotations till d) ∧
      (shop.reconcile shopPolicy.key).2.cluster.deployments.get? shelf.metadata.key = some shelf ∧
      (shop.reconcile shopPolicy.key).2.cluster.pods.get? ⟨"shop", "shelf-1"⟩ = none ∧
      (shop.reconcile shopPolicy.key).2.cluster.pods.get? ⟨"shop", "till-1"⟩ = some tillPod ∧
      OnlyLooks (shop.reconcile shopPolicy.key).2
        ((shop.reconcile shopPolicy.key).2.reconcile shopPolicy.key).2 := by
  obtain ⟨hok, houtcome, -, -, hlooks⟩ := reconcile_live (k := shopPolicy.key) (p := shopPolicy)
    shop_isAlone shop_sound rfl (by decide)
  have htill : shop.cluster.deployments.get? till.metadata.key = some till := by decide +kernel
  have hfresh : IsFresh shopPolicy.spec till := isTarget_iff.mp (by decide +kernel)
  refine ⟨hok, houtcome.changed _ till htill hfresh, ?_, ?_, ?_, hlooks⟩
  · refine (houtcome.unchanged _ fun d hd hfresh' => ?_).trans (by decide +kernel)
    obtain rfl : d = shelf := Option.some.inj (hd.symm.trans (by decide +kernel))
    exact absurd (isTarget_iff.mpr hfresh') (by decide +kernel)
  · refine houtcome.deleted _ (shopPod "shelf-1" "shelf" none) (by decide +kernel) ?_
    exact ⟨by decide +kernel, _, till, _, htill, hfresh, rfl, by decide +kernel,
      by decide +kernel, by decide +kernel⟩
  · refine (houtcome.kept _ fun p hp hrestarted => ?_).trans (by decide +kernel)
    obtain rfl : p = tillPod := Option.some.inj (hp.symm.trans (by decide +kernel))
    exact absurd hrestarted.1 (by decide +kernel)

end Controller

end SidecarPolicy
