/-
What policies leave behind that have been reconciled one after another.

The policies that select a deployment share its annotations: whichever was reconciled last
has decided on them.

* `PolicyState.sweep`, `Reconcile.secures_state`: what a state asks for, as a sweep;
* `PolicyState.Meets`: a deployment is as a live policy leaves it, or a deleted one;
* `Reconcile.Conforms`, `Reconcile.InSync`: each deployment is as the newest state leaves
  it that selects it;
* `Reconcile.InSync.of_complete`: a sweep that has done everything puts a new state on top;
* `Reconcile.secures_program`: **to reconcile one more state keeps a cluster in sync**.
-/
import SidecarPolicy.Proofs.Reconcile.Apply
import SidecarPolicy.Proofs.Reconcile.Release
import SidecarPolicy.Proofs.Registry

namespace SidecarPolicy

open Reconcile

/-! ### The sweep of a state -/

/-- What a state asks for: a live policy annotates, and a deleted one cleans up. -/
def PolicyState.sweep : (st : PolicyState) → Sweep st.policy.spec
  | .live p => annotating p.spec
  | .deleted p => releasing p.spec

/-- The program of a state makes nothing but advances, and does everything unless a call
fails. -/
lemma Reconcile.secures_state {c : Cluster} (h : c.Sound) (st : PolicyState) :
    (program (some st) : Program ClusterError Unit).Secures (st.sweep.Advances c)
      (fun _ => st.sweep.Complete c) c := by
  cases st with
  | live p => exact secures_apply p.spec h
  | deleted p => exact secures_cleanup p.spec h

/-- A deployment is as a policy leaves it: annotated by a live one, and without the request
for the sidecar by a deleted one. -/
def PolicyState.Meets (d : Deployment) : PolicyState → Prop
  | .live _ => Workload.isAnnotated d.metadata = true
  | .deleted _ => d.metadata.allAnnotations.get? Annotations.inject = none

/-- A deployment that is selected and not due is as the policy leaves it. -/
lemma PolicyState.meets_of_not_due {st : PolicyState} {d : Deployment}
    (hselected : selects st.policy.spec d = true) (hdue : st.sweep.isDue d = false) :
    st.Meets d := by
  cases st with
  | live p =>
      have hno : isTarget p.spec d = false := hdue
      have hselected : selects p.spec d = true := hselected
      rwa [isTarget, hselected, Bool.true_and, Bool.not_eq_false'] at hno
  | deleted p =>
      have hno : isClearable p.spec d = false := hdue
      have hselected : selects p.spec d = true := hselected
      rw [isClearable, hselected, Bool.true_and, KeyMap.contains,
        Option.isSome_eq_false_iff] at hno
      exact Option.isNone_iff_eq_none.mp hno

namespace Reconcile

open Program

/-! ### One state after another -/

/-- The newest of some states that selects a deployment, the newest first. -/
def newest? (states : List PolicyState) (d : Deployment) : Option PolicyState :=
  states.find? fun st => selects st.policy.spec d

/-- A deployment is as the newest state leaves it that selects it. -/
def Conforms (states : List PolicyState) (d : Deployment) : Prop :=
  ∀ st, newest? states d = some st → st.Meets d

/-- Each deployment of a sound cluster is as the newest state leaves it that selects it. -/
structure InSync (states : List PolicyState) (c : Cluster) : Prop where
  sound : c.Sound
  deployments : ∀ k d, c.deployments.get? k = some d → Conforms states d

variable {states : List PolicyState} {c c' : Cluster}

lemma inSync_nil (h : c.Sound) : InSync [] c := ⟨h, fun _ _ _ _ hst => by cases hst⟩

/-- **A sweep that has done everything puts a new state on top**: the deployments that it
selects are as the state leaves them, and the others are as they were. -/
theorem InSync.of_complete (h : InSync states c) {st : PolicyState}
    (hcomplete : st.sweep.Complete c c') : InSync (st :: states) c' where
  sound := hcomplete.toAdvances.sound h.sound
  deployments k d hd st' hnewest := by
    rw [newest?, List.find?_cons] at hnewest
    cases hselected : selects st.policy.spec d with
    | true =>
        rw [hselected] at hnewest
        obtain rfl := Option.some.inj hnewest
        exact PolicyState.meets_of_not_due hselected (hcomplete.noneDue k d hd)
    | false =>
        rw [hselected] at hnewest
        obtain hsame | ⟨d', -, hdue, hchanged⟩ := hcomplete.deployments k
        · exact h.deployments k d (hsame.symm.trans hd) st' hnewest
        · -- what was changed has the labels that it had, by which it was selected
          obtain rfl := Option.some.inj (hd.symm.trans hchanged)
          have hbefore : selects st.policy.spec d' = true := st.sweep.selects_of_isDue hdue
          exact absurd (hselected.symm.trans hbefore) Bool.false_ne_true

/-- **To reconcile one more state keeps a cluster in sync**, unless a call fails. -/
theorem secures_program (h : InSync states c) (state : Option PolicyState) :
    (program state : Program ClusterError Unit).Secures (fun _ => True)
      (fun _ => InSync (state.toList ++ states)) c := by
  cases state with
  | none => exact secures_pure h
  | some st =>
      refine ((secures_state h.sound st).weaken fun _ _ => trivial).mono ?_
      exact fun _ _ hcomplete => h.of_complete hcomplete

end Reconcile

end SidecarPolicy
