/-
Applying a policy, call by call.

* `Reconcile.dealtBy_applyTo`: a deployment is marked and its pods are restarted,
  unless it is annotated already;
* `Reconcile.secures_apply`: **applying a policy makes nothing but progress, and
  does everything unless a call fails**.
-/
import SidecarPolicy.Proofs.Reconcile.Course
import SidecarPolicy.Proofs.Reconcile.Target

namespace SidecarPolicy.Reconcile

open Program

/-- A deployment is marked and its pods are restarted, unless it is annotated
already. -/
lemma dealtBy_applyTo (spec : PolicySpec) :
    (annotating spec).DealtBy (applyTo spec.annotations) := by
  intro c d hc hd hselected
  -- what is selected is due as long as it is not annotated
  cases hannotated : Workload.isAnnotated d.metadata with
  | true =>
      have hnone := (Workload.annotate_eq_none_iff d.metadata spec.annotations).mpr hannotated
      have hdue : (annotating spec).isDue d = false := by
        show isTarget spec d = false
        rw [isTarget, hannotated, Bool.not_true, Bool.and_false]
      rw [applyTo, hnone]
      have hdeals := Sweep.deals_altered hd (s := annotating spec) hdue
      rw [Sweep.altered_of_not_due hdue] at hdeals
      exact secures_pure hdeals
  | false =>
      have hpatch := Workload.annotate_eq_some hannotated spec.annotations
      have hdue : (annotating spec).isDue d = true := by
        show isTarget spec d = true
        rw [isTarget, hselected, hannotated]
        rfl
      rw [applyTo, hpatch]
      have hpatched := Workload.patched_annotate (hc.deployments _ d hd).2 hpatch
      refine Secures.bind ((Sweep.secures_patch hd hdue hpatched).mono ?_)
      rintro _ _ rfl
      exact Sweep.secures_restart hc hd hdue

/-- **Applying a policy makes nothing but progress, and does everything unless a
call fails.** -/
theorem secures_apply (spec : PolicySpec) {c : Cluster} (h : c.Sound) :
    (apply spec : Program ClusterError Unit).Secures (Progress spec c)
      (fun _ => Applied spec c) c :=
  Sweep.secures_forSelected (dealtBy_applyTo spec) h

end SidecarPolicy.Reconcile
