/-
Calls that fail while a reported pod is dealt with.

A report is answered with the error of the first call that fails, unless the pods of a
deployment could not be listed; this one is taken to have none.  So a report may come to
nothing, and be answered as if nothing were wrong, only because its owner was passed over.

* `Call.asksForPods`, `Quarantine.noPods`: the calls for pods, and what stands in for their
  answers;
* `Quarantine.surfaces_act`: a report gives up with the error of any other call;
* `Quarantine.act_fails_iff`: **a report fails exactly when a call fails that is not for
  pods**;
* `Quarantine.not_surfaced`: one failure that is not reported.
-/
import SidecarPolicy.Controller.Step
import SidecarPolicy.Proofs.Cluster.Exchange
import SidecarPolicy.Proofs.Controller.Answering

namespace SidecarPolicy

/-- Whether a call asks for a list of pods. -/
def Call.asksForPods : Call → Bool
  | .listPods .. => true
  | _ => false

namespace Quarantine

open Program

variable {ε σ : Type}

/-! ### What stands in -/

/-- No pods stand in for a list of pods, and nothing for any other answer. -/
def noPods : StandIn
  | .listPods .. => some []
  | _ => none

lemma isSome_noPods (asked : Call) : (noPods asked).isSome = asked.asksForPods := by
  cases asked <;> rfl

/-- The search for the owner passes over the deployments whose pods cannot be listed. -/
lemma surfaces_findOwner (podName : String) (deployments : List Deployment) :
    (findOwner podName deployments : Program ε _).Surfaces noPods := by
  induction deployments with
  | nil => exact surfaces_pure none
  | cons d rest ih =>
      rw [findOwner]
      cases d.podSelector? with
      | none => exact ih
      | some selector =>
          -- among no pods none is found, so the search goes on as after a failure
          refine surfaces_attempt_bind rfl (fun _ => rfl) fun pods => ?_
          dsimp only
          cases pods.find? (·.metadata.anyName = podName) with
          | none => exact ih
          | some p => exact surfaces_pure (some (d, p))

/-- Scaling a group to zero gives up with any error. -/
lemma surfaces_scaleGroup (ns : String) (group : Labels) :
    (scaleGroup ns group : Program ε _).Surfaces noPods := by
  have hone : ∀ listed, (scaleDown ns listed : Program ε _).Surfaces noPods := by
    intro listed
    refine (surfaces_request rfl).bind fun current => ?_
    exact (surfaces_request rfl).bind fun _ => surfaces_pure listed.metadata.anyName
  rw [scaleGroup]
  split_ifs
  · exact surfaces_pure []
  · exact (surfaces_request rfl).bind fun targets => surfaces_mapM hone targets

/-- A report gives up with the error of any call that is not for pods. -/
lemma surfaces_act (podName : String) : (act podName : Program ε _).Surfaces noPods := by
  refine (surfaces_request rfl).bind fun deployments => ?_
  refine (surfaces_findOwner podName deployments).bind fun found => ?_
  cases found with
  | none => exact surfaces_pure []
  | some owned =>
      dsimp only
      split_ifs
      · exact surfaces_scaleGroup _ _
      · exact surfaces_pure []

/-! ### Failures -/

/-- **A report fails exactly when a call fails that is not for pods.**  Then this call is the
last one, and the response tells its error; and whatever fails, the report goes on as if
no pods were there where they cannot be listed. -/
theorem act_fails_iff [Worded ε] (answer : Handler ε σ) (s : σ) (podName : String) :
    ((∃ e, ((act podName).run answer s).1 = .error e) ↔
        ∃ x ∈ (act podName).exchanges answer s, x.Fails ∧ x.call.asksForPods = false) ∧
      (∀ e, ((act podName).run answer s).1 = .error e →
        response ((act podName).run answer s).1 = .plain 500 (Worded.message e) ∧
          ∃ x, ((act podName).exchanges answer s).getLast? = some x ∧ x.answer = .error e) ∧
      (∀ names, ((act podName).run answer s).1 = .ok names →
        response ((act podName).run answer s).1 = .json 201 (Encode.texts names)) ∧
      (act podName).run answer s = (act podName).run (answer.orStandIn noPods) s := by
  have hpods : ∀ x : Exchange ε, noPods x.call = none ↔ x.call.asksForPods = false := by
    intro x
    rw [← isSome_noPods, Option.isSome_eq_false_iff, Option.isNone_iff_eq_none]
  refine ⟨?_, fun e he => ⟨?_, (surfaces_act podName).last_fails he⟩, fun names hnames => ?_,
    (surfaces_act podName).run_eq answer s⟩
  · rw [(surfaces_act podName).gives_up_iff answer s]
    simp only [hpods]
  · rw [he]
    rfl
  · rw [hnames]
    rfl

/-! ### A failure that is not reported -/

def shopLabels : Labels := ⟨[("app", "shop")], by decide⟩

/-- A shop with one pod, which cannot be listed when the shop has been. -/
def unlistedShop : Controller where
  cluster := Cluster.addPod
    (Cluster.addDeployment {} {
      metadata :=
        { name := some "shop", «namespace» := some "default", labels := some shopLabels }
      spec := some { selector := { matchLabels := some shopLabels } } })
    { metadata :=
        { name := some "shop-1", «namespace» := some "default", labels := some shopLabels } }
  faults := { skips := 1, count := 1 }

/-- **Not every failure is reported**: if the pods of the owner cannot be listed, the report
comes to nothing. -/
theorem not_surfaced : ¬ ∀ (c : Controller) (podName : String),
    (∃ x ∈ (act podName).exchanges Controller.handler c, x.Fails) →
      ∃ e, (Controller.perform (act podName) c).1 = .error e := by
  intro hsurfaced
  have hfails : ∃ x ∈ (act "shop-1").exchanges Controller.handler unlistedShop, x.Fails := by
    decide +kernel
  have hnothing : (Controller.perform (act "shop-1") unlistedShop).1 = .ok [] := by
    decide +kernel
  obtain ⟨e, he⟩ := hsurfaced unlistedShop "shop-1" hfails
  cases hnothing.symm.trans he

end Quarantine

end SidecarPolicy
