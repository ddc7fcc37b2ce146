/-
What applying a policy is to change.

* `Reconcile.isTarget`: the deployments that a policy marks;
* `Reconcile.IsDoomed`: the pods that it deletes;
* `Reconcile.annotating`: **applying a policy as a sweep**, in which a deployment is
  restarted only when it is marked;
* `Reconcile.Progress`, `Reconcile.Applied`: clusters in which some of this has been
  done, or all of it.
-/
import SidecarPolicy.Proofs.Reconcile.Sweep
import SidecarPolicy.Proofs.Workload

namespace SidecarPolicy.Reconcile

/-! ### Targets and their pods -/

/-- Whether a policy marks a deployment: it selects it, and no policy has been
there before. -/
def isTarget (spec : PolicySpec) (d : Deployment) : Bool :=
  selects spec d && !Workload.isAnnotated d.metadata

/-- A deployment with the annotations of a policy. -/
def marked (spec : PolicySpec) (d : Deployment) : Deployment :=
  { d with metadata := Workload.mark d.metadata spec.annotations }

/-- A pod that is to be deleted: it lacks the sidecar, and belongs to a deployment
that the policy marks. -/
def IsDoomed (spec : PolicySpec) (c : Cluster) (p : Pod) : Prop :=
  hasSidecar p = false ∧
    ∃ k d, c.deployments.get? k = some d ∧ isTarget spec d = true ∧ owns d p = true

variable {spec : PolicySpec} {c c' : Cluster} {d d' : Deployment} {p : Pod}

lemma selects_of_isTarget (h : isTarget spec d = true) : selects spec d = true := by
  rw [isTarget, Bool.and_eq_true] at h
  exact h.1

lemma isTarget_marked (spec : PolicySpec) (d : Deployment) :
    isTarget spec (marked spec d) = false := by
  have hmarked : Workload.isAnnotated (marked spec d).metadata = true :=
    Workload.isAnnotated_mark d.metadata spec.annotations
  rw [isTarget, hmarked, Bool.not_true, Bool.and_false]

lemma ne_marked_of_isTarget (h : isTarget spec d = true) : d ≠ marked spec d' := by
  rintro rfl
  rw [isTarget_marked] at h
  cases h

/-! ### The sweep -/

/-- Applying a policy: the targets are marked, and their pods without the sidecar
restarted. -/
def annotating (spec : PolicySpec) : Sweep spec where
  isDue := isTarget spec
  annotations d := d.metadata.allAnnotations.overwrite spec.annotations.toLabels
  restarts := isTarget spec
  picks p := !hasSidecar p
  selects_of_isDue := selects_of_isTarget
  selects_of_restarts := selects_of_isTarget
  isDue_change _ := isTarget_marked spec _
  restarts_of_change hd _ := hd

/-- Some targets have been marked and some doomed pods deleted, and nothing else
has changed. -/
abbrev Progress (spec : PolicySpec) (c c' : Cluster) : Prop := (annotating spec).Advances c c'

/-- Every target has been marked and every doomed pod deleted, and nothing else has
changed. -/
abbrev Applied (spec : PolicySpec) (c c' : Cluster) : Prop := (annotating spec).Complete c c'

lemma dooms_annotating : (annotating spec).Dooms c p ↔ IsDoomed spec c p :=
  and_congr_left' (iff_of_eq (Bool.not_eq_true' (hasSidecar p)))

lemma Progress.isDoomed (h : Progress spec c c') (hp : IsDoomed spec c' p) : IsDoomed spec c p :=
  dooms_annotating.mp (h.dooms (dooms_annotating.mpr hp))

lemma Applied.get?_deployments (h : Applied spec c c') (k : ObjectKey) :
    c'.deployments.get? k = (c.deployments.get? k).map fun d =>
      if isTarget spec d then marked spec d else d :=
  Sweep.Complete.get?_deployments h k

lemma Applied.get?_pods_eq_some (h : Applied spec c c') {k : ObjectKey} :
    c'.pods.get? k = some p ↔ c.pods.get? k = some p ∧ ¬ IsDoomed spec c p := by
  rw [← dooms_annotating]
  exact Sweep.Complete.get?_pods_eq_some h

end SidecarPolicy.Reconcile
