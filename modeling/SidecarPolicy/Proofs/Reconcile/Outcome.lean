/-
What a sweep comes to, told in terms of the policy.

* `Reconcile.Covers`, `Reconcile.IsSelected`: the namespaces and the deployments of a
  policy;
* `Reconcile.Outcome`: some deployments have been changed and some pods deleted, and
  nothing else has happened;
* `Reconcile.Sweep.Complete.outcome`: **this is what a sweep comes to**;
* `Reconcile.Sweep.Idle`: nothing is left to be done;
* `Reconcile.looks_deletePods`, `Reconcile.looks_forSelected`: then the cluster is only
  looked at.
-/
import SidecarPolicy.Proofs.Cluster.Looks
import SidecarPolicy.Proofs.Reconcile.Sweep
import SidecarPolicy.Proofs.Selector

namespace SidecarPolicy.Reconcile

open Program

/-! ### Deployments and pods -/

/-- The namespaces of a policy are those that it names, where empty names do not count,
and the default one if it names no other. -/
def Covers (spec : PolicySpec) (ns : String) : Prop :=
  ns ∈ spec.namespace ∧ ns ≠ "" ∨
    ns = PolicySpec.defaultNamespace ∧ ∀ ns' ∈ spec.namespace, ns' = ""

/-- A policy selects the deployments in its namespaces that carry certain labels. -/
structure IsSelected (spec : PolicySpec) (d : Deployment) : Prop where
  covers : Covers spec d.metadata.anyNamespace
  labels : spec.labelSelector.Matches d.metadata.allLabels

variable {spec : PolicySpec} {c c' : Cluster} {d : Deployment} {p : Pod}

/-- The namespaces that a policy goes through are its namespaces. -/
lemma mem_namespaces {ns : String} : ns ∈ spec.namespaces ↔ Covers spec ns := by
  rw [PolicySpec.namespaces, Covers]
  by_cases hempty : ∀ ns' ∈ spec.namespace, ns' = ""
  · have hnamed : spec.namespace.filter (· ≠ "") = [] :=
      List.filter_eq_nil_iff.mpr fun ns' hns' => by simp [hempty ns' hns']
    have hno : ¬ (ns ∈ spec.namespace ∧ ns ≠ "") := fun ⟨hmem, hne⟩ => hne (hempty ns hmem)
    rw [hnamed, List.isEmpty_nil, if_pos rfl, List.mem_singleton, or_iff_right hno,
      and_iff_left hempty]
  · have hnamed : (spec.namespace.filter (· ≠ "")).isEmpty = false := by
      rw [List.isEmpty_eq_false_iff]
      refine mt List.filter_eq_nil_iff.mp fun hnone => hempty fun ns' hns' => ?_
      simpa using hnone ns' hns'
    rw [hnamed, if_neg Bool.false_ne_true, or_iff_left fun h => hempty h.2, List.mem_filter,
      decide_eq_true_eq]

/-- The deployments that a policy goes through are those that it selects. -/
lemma selects_iff : selects spec d = true ↔ IsSelected spec d := by
  rw [selects_eq_true, mem_namespaces, Selector.selects_iff]
  exact ⟨fun h => ⟨h.1, h.2⟩, fun h => ⟨h.covers, h.labels⟩⟩

lemma owns_iff : owns d p = true ↔ ∃ s, p.BelongsTo d s := by
  rw [Pod.exists_belongsTo_iff, owns]
  cases d.podSelector? with
  | none => simp
  | some selector => simp [Cluster.isListed_iff]

/-! ### Outcomes -/

/-- Exactly the deployments that are due have been changed, and exactly the pods that are
doomed deleted. -/
structure Outcome (isDue : Deployment → Prop) (change : Deployment → Deployment → Prop)
    (isDoomed : Pod → Prop) (c c' : Cluster) : Prop where
  changed : ∀ k d, c.deployments.get? k = some d → isDue d →
    ∃ d', c'.deployments.get? k = some d' ∧ change d d'
  unchanged : ∀ k, (∀ d, c.deployments.get? k = some d → ¬ isDue d) →
    c'.deployments.get? k = c.deployments.get? k
  deleted : ∀ k p, c.pods.get? k = some p → isDoomed p → c'.pods.get? k = none
  kept : ∀ k, (∀ p, c.pods.get? k = some p → ¬ isDoomed p) → c'.pods.get? k = c.pods.get? k

namespace Sweep

variable {s : Sweep spec}

/-- **A sweep comes to its outcome.** -/
theorem Complete.outcome (h : s.Complete c c') {isDue : Deployment → Prop}
    {change : Deployment → Deployment → Prop} {isDoomed : Pod → Prop}
    (hdue : ∀ d, isDue d ↔ s.isDue d = true) (hchange : ∀ d, isDue d → change d (s.change d))
    (hdoomed : ∀ p, isDoomed p ↔ s.Dooms c p) : Outcome isDue change isDoomed c c' where
  changed k d hd hd' := by
    refine ⟨s.change d, ?_, hchange d hd'⟩
    rw [h.get?_deployments, hd, Option.map_some, if_pos ((hdue d).mp hd')]
  unchanged k hspared := by
    refine (h.deployments k).resolve_right ?_
    rintro ⟨d, hd, hd', -⟩
    exact hspared d hd ((hdue d).mpr hd')
  deleted k p hp hp' := by
    refine Option.eq_none_iff_forall_ne_some.mpr fun p' hp'' => ?_
    obtain ⟨hbefore, hspared⟩ := h.get?_pods_eq_some.mp hp''
    obtain rfl := Option.some.inj (hp.symm.trans hbefore)
    exact hspared ((hdoomed p).mp hp')
  kept k hspared := by
    refine (h.pods k).resolve_right ?_
    rintro ⟨p, hp, hp', -⟩
    exact hspared p hp ((hdoomed p).mpr hp')

/-! ### Nothing left to do -/

/-- No deployment is due and no pod is doomed. -/
structure Idle (s : Sweep spec) (c : Cluster) : Prop where
  noneDue : ∀ k d, c.deployments.get? k = some d → s.isDue d = false
  noneDoomed : ∀ k p, c.pods.get? k = some p → ¬ s.Dooms c p

lemma Complete.idle (h : s.Complete c c') : s.Idle c' :=
  ⟨h.noneDue, fun _ _ hp => h.not_dooms hp⟩

/-- Of a deployment the pods of which are restarted no pod is picked. -/
lemma Idle.picks_eq_false (h : s.Idle c) {k : ObjectKey}
    (hd : c.deployments.get? k = some d) (hrestarts : s.restarts d = true) {k' : ObjectKey}
    (hp : c.pods.get? k' = some p) (howns : owns d p = true) : s.picks p = false :=
  Bool.eq_false_iff.mpr fun hpicked =>
    h.noneDoomed k' p hp ⟨hpicked, k, d, hd, hrestarts, howns⟩

end Sweep

variable {ε : Type}

/-- If no pod of a deployment is picked its pods are only looked at. -/
lemma looks_deletePods {picks : Pod → Bool}
    (h : ∀ k p, c.pods.get? k = some p → owns d p = true → picks p = false) :
    (deletePods d.metadata.anyNamespace d picks : Program ε Unit).Looks c fun _ => True := by
  cases hselector : d.podSelector? with
  | none =>
      rw [deletePods, hselector]
      exact looks_pure trivial
  | some selector =>
      rw [deletePods, hselector]
      refine Looks.bind (looks_request rfl fun pods hpods => ?_)
      have hnone : pods.filter picks = [] := by
        refine List.filter_eq_nil_iff.mpr fun p hp => ?_
        obtain ⟨⟨k, hk⟩, hlisted⟩ := Cluster.mem_listedPods.mp (hpods.mem_iff.mp hp)
        have howns : owns d p = true := by
          rw [owns, hselector]
          exact Cluster.isListed_iff.mpr hlisted
        rw [h k p hk howns]
        exact Bool.false_ne_true
      rw [hnone]
      exact looks_pure trivial

/-- If each deployment that is selected is only looked at, so is the cluster. -/
lemma looks_forSelected {act : String → Deployment → Program ε Unit}
    (h : ∀ k d, c.deployments.get? k = some d → selects spec d = true →
      (act d.metadata.anyNamespace d).Looks c fun _ => True) :
    (forSelected spec act).Looks c fun _ => True := by
  refine looks_forM fun ns hns => Looks.bind (looks_request rfl fun ds hds => ?_)
  refine looks_forM fun d hd => ?_
  obtain ⟨⟨k, hk⟩, rfl, hlabels⟩ := Cluster.mem_listedDeployments.mp (hds.mem_iff.mp hd)
  exact h k d hk (selects_eq_true.mpr ⟨hns, hlabels⟩)

end SidecarPolicy.Reconcile
