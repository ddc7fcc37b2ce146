/-
Deployments that speak for a pod of theirs which is not there yet.

The look-up never asks whether a deployment selects the new pod.  It asks whether the
deployment selects one of the pods that carry the labels of the new one, and maybe others
besides.  If the deployment only requires labels to be there, the one implies the other.

* `Selector.IsPositive`: selectors that only require labels to be there;
* `Selector.IsPositive.matches_mono`: **they select whatever carries the labels of something
  they select**;
* `Deployment.Sponsors`: a deployment speaks for a new pod;
* `Admission.OwnerRequests.of_sponsors`: then an owner requests the sidecar, if there is a pod
  with the labels of the new one;
* `Admission.due_of_ownerRequests`, `Admission.looks_of_ownerRequests`: what is due if an owner
  requests the sidecar, and that the look-up finds it out;
* `Admission.decide_of_sponsors`: **a pod for which a deployment speaks gets the sidecar**.
-/
import SidecarPolicy.Proofs.Admission.Decision

namespace SidecarPolicy

/-! ### Positive selectors -/

/-- Labels that meet a requirement to be there, maybe with some value, meet it together with
any others. -/
lemma Expression.Met.mono {e : Expression}
    (hpositive : e.op? = some .isIn ∨ e.op? = some .exists) {labels labels' : Labels}
    (hcarries : ∀ key v, labels.get? key = some v → labels'.get? key = some v)
    (hmet : e.Met labels) : e.Met labels' := by
  have hop {op : Operator} (h : e.op? = some op) : op = .isIn ∨ op = .exists :=
    hpositive.imp (fun hin => Option.some.inj (h.symm.trans hin))
      fun hexists => Option.some.inj (h.symm.trans hexists)
  cases hmet with
  | isIn hin hv hamong => exact .isIn hin (hcarries _ _ hv) hamong
  | «exists» hexists hv => exact .exists hexists (hcarries _ _ hv)
  | notIn hnotIn => exact ((hop hnotIn).elim nofun nofun)
  | doesNotExist hdoesNotExist => exact ((hop hdoesNotExist).elim nofun nofun)

namespace Selector

variable {s : Selector}

/-- A selector only requires labels to be there, maybe with some value. -/
def IsPositive (s : Selector) : Prop :=
  ∀ e ∈ s.expressions, e.op? = some .isIn ∨ e.op? = some .exists

/-- **A positive selector selects whatever carries the labels of something that it
selects.** -/
theorem IsPositive.matches_mono (hpositive : s.IsPositive) {labels labels' : Labels}
    (hcarries : ∀ key v, labels.get? key = some v → labels'.get? key = some v)
    (hmatches : s.Matches labels) : s.Matches labels' where
  equalities e he := hcarries e.1 e.2 (hmatches.equalities e he)
  expressions e he := (hmatches.expressions e he).mono (hpositive e he) hcarries

end Selector

/-! ### Sponsors -/

/-- A deployment that carries the request for the sidecar, whatever its value, selects a new
pod in particular, by labels that have to be there. -/
structure Deployment.Sponsors (d : Deployment) (pod : Pod) (s : DeploymentSpec) : Prop where
  request : ∃ value, d.metadata.allAnnotations.get? Annotations.inject = some value
  spec : d.spec = some s
  selective : s.selector.toSelector.isEmpty = false
  positive : s.selector.toSelector.IsPositive
  labels : s.selector.toSelector.Matches pod.metadata.allLabels

namespace Admission

open Program

variable {ε : Type} {c : Cluster} {ns : String} {pod : Pod}

/-- An owner of a new pod requests the sidecar if a deployment of the namespace speaks for the
pod and another pod there carries its labels. -/
lemma OwnerRequests.of_sponsors
    (hsponsor : ∃ k d s, c.deployments.get? k = some d ∧ d.metadata.anyNamespace = ns ∧
      d.Sponsors pod s)
    (hsibling : ∃ k p, c.pods.get? k = some p ∧ p.metadata.anyNamespace = ns ∧
      ∀ key v, pod.metadata.allLabels.get? key = some v →
        p.metadata.allLabels.get? key = some v) :
    OwnerRequests c ns pod := by
  obtain ⟨k, d, s, hd, hns, hsponsors⟩ := hsponsor
  obtain ⟨k', p, hp, hns', hcarries⟩ := hsibling
  have hbelongs : p.BelongsTo d s :=
    { spec := hsponsors.spec
      selective := hsponsors.selective
      «namespace» := hns'.trans hns.symm
      labels := hsponsors.positive.matches_mono hcarries hsponsors.labels }
  exact ⟨k, d, k', p, s, hd, hns, hsponsors.request, hp, hbelongs, hcarries⟩

/-- What is due about a pod with labels, which is not marked as injected, if an owner requests
the sidecar. -/
lemma due_of_ownerRequests (hpublic : ns ∉ Injection.reservedNamespaces)
    (hbare : ¬ IsInjected pod.metadata)
    (hlabelled : ∃ key v, pod.metadata.allLabels.get? key = some v)
    (howner : OwnerRequests c ns pod) (sidecar : SidecarConfig) :
    due c sidecar ns pod = .inject (Injection.patch pod sidecar) := by
  rw [due, if_neg hpublic, if_neg hbare, if_neg (not_unlabelled hlabelled), if_pos howner, ite_self]

/-- The look-up finds an owner that requests the sidecar, past any other deployments, and under
whatever keys the pods stand. -/
lemma looks_of_ownerRequests (howner : OwnerRequests c ns pod) :
    (ownerRequestsInjection ns pod : Program ε Bool).Looks c fun found => found = true :=
  (looks_claims c ns pod).mono fun _ ⟨_, _, hsiblings, hdeployments, hfound⟩ =>
    hfound.mpr (howner.exists_claims hsiblings hdeployments)

/-- **A pod for which a deployment speaks gets the sidecar.**  A pod with labels, not marked as
injected, is asked about in a namespace that is not reserved.  If a deployment of the namespace
that carries the request for the sidecar selects the pod by a positive selector that is not
empty, and a pod of the namespace carries all its labels, the decision is to inject: whoever
answers calls for lists, in whatever order and with whatever else is there, and for every
controller whose calls take no time and do not fail.  The cluster is unchanged. -/
theorem decide_of_sponsors (hpublic : ns ∉ Injection.reservedNamespaces)
    (hbare : ¬ IsInjected pod.metadata)
    (hlabelled : ∃ key v, pod.metadata.allLabels.get? key = some v)
    (hsponsor : ∃ k d s, c.deployments.get? k = some d ∧ d.metadata.anyNamespace = ns ∧
      d.Sponsors pod s)
    (hsibling : ∃ k p, c.pods.get? k = some p ∧ p.metadata.anyNamespace = ns ∧
      ∀ key v, pod.metadata.allLabels.get? key = some v →
        p.metadata.allLabels.get? key = some v)
    (sidecar : SidecarConfig) :
    (∀ {σ : Type} {answer : Handler ε σ} {view : σ → Cluster} {s : σ}, Lists answer view →
      view s = c →
        ((decide sidecar ns pod).run answer s).1 = .ok (.inject (Injection.patch pod sidecar)) ∧
          view ((decide sidecar ns pod).run answer s).2 = c) ∧
      ∀ controller : Controller, controller.cluster = c → controller.delay = 0 →
        controller.faults.count = 0 →
          (controller.resolve (decide sidecar ns pod)).1 =
              .ok (.inject (Injection.patch pod sidecar)) ∧
            controller.OnlyLooks (controller.resolve (decide sidecar ns pod)).2 := by
  have howner := OwnerRequests.of_sponsors hsponsor hsibling
  have hdue := due_of_ownerRequests hpublic hbare hlabelled howner sidecar
  constructor
  · rintro σ answer view s hanswer rfl
    rw [← hdue]
    -- a pod that asks for the sidecar itself needs no look-up
    obtain hready | ⟨answer', hlookup, hdecision, -⟩ := decide_cases (view s) sidecar ns pod
    · rw [hready]
      exact ⟨rfl, rfl⟩
    · obtain ⟨_, hfound, rfl, hview⟩ := (looks_of_ownerRequests howner).run_eq hanswer
      rw [hlookup, Deferred.run]
      dsimp only
      rw [hfound]
      exact ⟨hdecision true (iff_of_true rfl howner), hview⟩
  · rintro controller rfl hprompt hcount
    rw [← hdue]
    obtain hready | ⟨answer', hlookup, hdecision, -⟩ :=
      decide_cases (ε := ClusterError) controller.cluster sidecar ns pod
    · rw [hready]
      exact ⟨rfl, .refl controller⟩
    · obtain ⟨_, hfound, rfl, hlooks⟩ := Controller.performBy_looks_of_prompt
        (looks_of_ownerRequests howner) hprompt hcount (controller.now + controller.timeout)
      rw [hlookup, Controller.resolve]
      dsimp only
      rw [hfound]
      exact ⟨hdecision true (iff_of_true rfl howner), hlooks⟩

/-- A new pod of the northern line, of no app. -/
def northPod : Pod where
  metadata := { generateName := some "ferry-",
                labels := some (KeyMap.ofList [("line", "north")]) }

/-- The ferry speaks for the new pod, so that it gets the sidecar. -/
theorem decide_northPod :
    ((decide {} "pier" northPod).run backwards pier).1 =
        .ok (.inject (Injection.patch northPod {})) ∧
      (({ cluster := pier } : Controller).resolve (decide {} "pier" northPod)).1 =
        .ok (.inject (Injection.patch northPod {})) := by
  have hpublic : "pier" ∉ Injection.reservedNamespaces := by decide
  have hbare : ¬ IsInjected northPod.metadata := mt isInjected_iff.mpr (by decide)
  have hsponsors : ferry.Sponsors northPod _ :=
    { request := ⟨"no", by decide +kernel⟩
      spec := rfl
      selective := by decide +kernel
      positive := fun e he => .inl (by rw [List.mem_singleton.mp he]; decide)
      labels := by decide +kernel }
  obtain ⟨hlists, hcontroller⟩ := decide_of_sponsors (ε := ClusterError) (c := pier) hpublic
    hbare ⟨"line", "north", by decide +kernel⟩
    ⟨ferry.metadata.key, ferry, _, by decide +kernel, rfl, hsponsors⟩
    ⟨ferryPod.metadata.key, ferryPod, by decide +kernel, rfl,
      Selector.selects_ofLabels.mp (by decide +kernel)⟩ {}
  exact ⟨(hlists lists_backwards rfl).1, (hcontroller _ rfl rfl rfl).1⟩

end Admission

end SidecarPolicy
