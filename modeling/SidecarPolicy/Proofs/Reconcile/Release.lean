/-
Cleaning up after a deleted policy, call by call.

* `Reconcile.releasing`: **cleaning up as a sweep**, in which the pods of a deployment are
  restarted whether or not its annotations have still to be taken away;
* `Reconcile.dealtBy_cleanupOf`, `Reconcile.secures_cleanup`: cleaning up makes nothing
  but advances, and does everything unless a call fails;
* `Reconcile.IsMarked`, `Reconcile.Cleared`, `Reconcile.IsReleased`: the deployments that
  lose their annotations, what becomes of them, and the pods that are deleted;
* `Reconcile.outcome_cleanup`: cleaning up comes to this;
* `Reconcile.looks_cleanup`: where nothing is left to do the cluster is only looked at.
-/
import SidecarPolicy.Proofs.Reconcile.Course
import SidecarPolicy.Proofs.Reconcile.Outcome
import SidecarPolicy.Proofs.Workload

namespace SidecarPolicy.Reconcile

open Program

/-! ### The sweep -/

/-- Whether a deleted policy has to take its annotations from a deployment: it selects it,
and it carries the request for the sidecar. -/
def isClearable (spec : PolicySpec) (d : Deployment) : Bool :=
  selects spec d && d.metadata.allAnnotations.contains Annotations.inject

/-- Whether the pods of a deployment have to do without the sidecar of a deleted policy:
it selects it, and new pods do not ask for the sidecar by themselves. -/
def isReturning (spec : PolicySpec) (d : Deployment) : Bool :=
  selects spec d && !templateRequestsInjection d

variable {spec : PolicySpec} {c c' : Cluster} {d : Deployment} {p : Pod}

/-- A deployment without the annotations of policies carries no request for the
sidecar. -/
lemma isClearable_clear (spec : PolicySpec) (d : Deployment) :
    isClearable spec (d.withAnnotations
      (d.metadata.allAnnotations.without Annotations.policyKeys)) = false := by
  have hgone : (Workload.clear d.metadata).allAnnotations.get? Annotations.inject = none :=
    Workload.get?_clear (.head _)
  have hno : (Workload.clear d.metadata).allAnnotations.contains Annotations.inject = false := by
    rw [KeyMap.contains, hgone]
    rfl
  exact (congrArg (selects spec d && ·) hno).trans (Bool.and_false _)

/-- Cleaning up: the annotations of policies are taken from the deployments that carry
the request for the sidecar, and the pods with the sidecar restarted. -/
def releasing (spec : PolicySpec) : Sweep spec where
  isDue := isClearable spec
  annotations d := d.metadata.allAnnotations.without Annotations.policyKeys
  restarts := isReturning spec
  picks := hasSidecar
  selects_of_isDue h := (Bool.and_eq_true_iff.mp h).1
  selects_of_restarts h := (Bool.and_eq_true_iff.mp h).1
  isDue_change _ := isClearable_clear spec _
  restarts_of_change _ h := h

/-- The first part of cleaning up after a policy: its annotations are taken from a
deployment. -/
def release {ε : Type} (ns : String) (d : Deployment) : Program ε Unit :=
  match Workload.strip d.metadata with
  | none => pure ()
  | some patch => patchDeployment ns d.metadata.anyName patch

lemma cleanupOf_eq {ε : Type} (ns : String) (d : Deployment) :
    (cleanupOf ns d : Program ε Unit) = release ns d >>= fun _ =>
      if templateRequestsInjection d then pure () else deletePods ns d hasSidecar := by
  rw [cleanupOf, release]
  cases Workload.strip d.metadata <;> rfl

/-- The annotations of a deployment are taken away if it carries the request for the
sidecar. -/
lemma secures_release (hc : c.Sound) (hd : c.deployments.get? d.metadata.key = some d)
    (hselected : selects spec d = true) :
    (release d.metadata.anyNamespace d : Program ClusterError Unit).Secures
      ((releasing spec).Advances c) (fun _ c' => c' = (releasing spec).altered d c) c := by
  rw [release]
  cases hstrip : Workload.strip d.metadata with
  | none =>
      have hdue : (releasing spec).isDue d = false := by
        show isClearable spec d = false
        rw [isClearable, (Workload.strip_eq_none_iff d.metadata).mp hstrip, Bool.and_false]
      exact secures_pure (Sweep.altered_of_not_due hdue).symm
  | some patch =>
      have hdue : (releasing spec).isDue d = true := by
        show isClearable spec d = true
        rw [isClearable, hselected, Bool.true_and]
        by_contra hno
        rw [(Workload.strip_eq_none_iff d.metadata).mpr (Bool.eq_false_iff.mpr hno)] at hstrip
        cases hstrip
      exact Sweep.secures_patch hd hdue
        (Workload.patched_strip (hc.deployments _ d hd).2 hstrip)

/-- The annotations of a deployment are taken away, and its pods are restarted. -/
lemma dealtBy_cleanupOf (spec : PolicySpec) : (releasing spec).DealtBy cleanupOf := by
  intro c d hc hd hselected
  rw [cleanupOf_eq]
  refine Secures.bind ((secures_release hc hd hselected).mono ?_)
  rintro _ _ rfl
  have hrestarts : (releasing spec).restarts d = !templateRequestsInjection d := by
    show isReturning spec d = _
    rw [isReturning, hselected, Bool.true_and]
  cases htemplate : templateRequestsInjection d with
  | true =>
      rw [if_pos rfl]
      exact secures_pure (Sweep.deals_altered hd (hrestarts.trans (by rw [htemplate]; rfl)))
  | false =>
      rw [if_neg Bool.false_ne_true]
      exact Sweep.secures_restart hc hd (hrestarts.trans (by rw [htemplate]; rfl))

/-- **Cleaning up makes nothing but advances, and does everything unless a call
fails.** -/
theorem secures_cleanup (spec : PolicySpec) (h : c.Sound) :
    (cleanup spec : Program ClusterError Unit).Secures ((releasing spec).Advances c)
      (fun _ => (releasing spec).Complete c) c :=
  Sweep.secures_forSelected (dealtBy_cleanupOf spec) h

/-- Cleaning up can be begun anew at any time: whatever has been done before, it leads to
the same cluster. -/
lemma complete_of_advances {c'' : Cluster} (h : (releasing spec).Advances c c')
    (h' : (releasing spec).Complete c' c'') : (releasing spec).Complete c c'' :=
  h.complete h' fun _ _ hrestarts => hrestarts

/-! ### What it comes to -/

/-- A deployment that a policy selects, and that carries the request for the sidecar. -/
structure IsMarked (spec : PolicySpec) (d : Deployment) : Prop extends IsSelected spec d where
  request : ∃ value, d.metadata.allAnnotations.get? Annotations.inject = some value

/-- A deployment has lost the five annotations of policies, and nothing else has
changed. -/
structure Cleared (d d' : Deployment) : Prop where
  rest : d' = d.withAnnotations d'.metadata.allAnnotations
  gone : ∀ key ∈ Annotations.policyKeys, d'.metadata.allAnnotations.get? key = none
  kept : ∀ key, key ∉ Annotations.policyKeys →
    d'.metadata.allAnnotations.get? key = d.metadata.allAnnotations.get? key

/-- A pod with the sidecar that belongs to a deployment which the policy selects, and
from the template of which it would not get the sidecar back. -/
def IsReleased (spec : PolicySpec) (c : Cluster) (p : Pod) : Prop :=
  Annotations.isInjected p.metadata.allAnnotations = true ∧
    ∃ k d s, c.deployments.get? k = some d ∧ IsSelected spec d ∧ p.BelongsTo d s ∧
      ∀ m, s.template.metadata = some m → Annotations.requestsInjection m.allAnnotations = false

lemma isClearable_iff : isClearable spec d = true ↔ IsMarked spec d := by
  rw [isClearable, Bool.and_eq_true, selects_iff, KeyMap.contains, Option.isSome_iff_exists]
  exact ⟨fun h => ⟨h.1, h.2⟩, fun h => ⟨h.toIsSelected, h.request⟩⟩

/-- Clearing a deployment takes the annotations of policies away. -/
lemma cleared_change (spec : PolicySpec) (d : Deployment) :
    Cleared d ((releasing spec).change d) where
  rest := rfl
  gone key hkey := Workload.get?_clear hkey
  kept key hkey := by
    show (d.metadata.allAnnotations.without Annotations.policyKeys).get? key = _
    rw [Labels.get?_without, if_neg hkey]

/-- Whether new pods ask for the sidecar by themselves is told by the template. -/
lemma templateRequestsInjection_eq_false {s : DeploymentSpec} (hs : d.spec = some s) :
    templateRequestsInjection d = false ↔ ∀ m, s.template.metadata = some m →
      Annotations.requestsInjection m.allAnnotations = false := by
  rw [templateRequestsInjection, hs, Option.bind_some]
  cases s.template.metadata with
  | none => simp
  | some m => simp

/-- The doomed pods are those that belong to deployments which the policy releases. -/
lemma dooms_releasing : (releasing spec).Dooms c p ↔ IsReleased spec c p := by
  refine and_congr_right fun _ => exists_congr fun k => exists_congr fun d => ?_
  have hreturns : (releasing spec).restarts d = true ↔
      IsSelected spec d ∧ templateRequestsInjection d = false := by
    show isReturning spec d = true ↔ _
    rw [isReturning, Bool.and_eq_true, selects_iff, Bool.not_eq_true']
  rw [hreturns, owns_iff]
  constructor
  · rintro ⟨hd, ⟨hselected, htemplate⟩, s, howns⟩
    exact ⟨s, hd, hselected, howns, (templateRequestsInjection_eq_false howns.spec).mp htemplate⟩
  · rintro ⟨s, hd, hselected, howns, htemplate⟩
    have htemplate := (templateRequestsInjection_eq_false howns.spec).mpr htemplate
    exact ⟨hd, ⟨hselected, htemplate⟩, s, howns⟩

lemma outcome_cleanup (h : (releasing spec).Complete c c') :
    Outcome (IsMarked spec) Cleared (IsReleased spec c) c c' :=
  h.outcome (fun _ => isClearable_iff.symm) (fun d _ => cleared_change spec d)
    fun _ => dooms_releasing.symm

/-- Where nothing is left to do the cluster is only looked at. -/
lemma looks_cleanup {ε : Type} (h : (releasing spec).Idle c) :
    (cleanup spec : Program ε Unit).Looks c fun _ => True := by
  refine looks_forSelected fun k d hd hselected => ?_
  have hno : d.metadata.allAnnotations.contains Annotations.inject = false := by
    have hdue : isClearable spec d = false := h.noneDue k d hd
    rwa [isClearable, hselected, Bool.true_and] at hdue
  rw [cleanupOf_eq, release, (Workload.strip_eq_none_iff d.metadata).mpr hno]
  refine Looks.bind (looks_pure ?_)
  cases htemplate : templateRequestsInjection d with
  | true =>
      rw [if_pos rfl]
      exact looks_pure trivial
  | false =>
      have hrestarts : (releasing spec).restarts d = true := by
        show isReturning spec d = true
        rw [isReturning, hselected, htemplate]
        rfl
      rw [if_neg Bool.false_ne_true]
      exact looks_deletePods fun _ _ hp howns => h.picks_eq_false hd hrestarts hp howns

end SidecarPolicy.Reconcile
