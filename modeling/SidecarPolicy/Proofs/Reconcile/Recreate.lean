/-
A policy that is deleted and then applied again.

A policy overwrites its five annotations where it annotates, and takes away just these where
it cleans up.  What else there is stays at every moment, so that a deployment which has been
cleaned up is annotated anew as it was before.

* `Workload.foreign`: the annotations that are not those of policies;
* `Reconcile.map_foreign_of_advances`: **no sweep changes them**, however far it has come;
* `Reconcile.get?_applied`, `Reconcile.get?_withdrawn`: the deployments when a policy has
  been applied where none was, and when it has been withdrawn afterwards;
* `Reconcile.deployments_recreated`: **applied again, it leads to the same deployments**;
* `Controller.hear`: a controller after a report of the watch;
* `Controller.reconcile_recreated`: so it is when the key is reconciled after each report.
-/
import SidecarPolicy.Controller.Step
import SidecarPolicy.Proofs.Controller.Reconciling
import SidecarPolicy.Proofs.Reconcile.Effect
import SidecarPolicy.Proofs.Worker.Run

namespace SidecarPolicy

/-! ### Annotations -/

namespace Workload

/-- The annotations of a workload other than those of policies. -/
def foreign (m : ObjectMeta) : Labels := m.allAnnotations.without Annotations.policyKeys

/-- To mark a workload leaves the foreign annotations alone. -/
lemma foreign_mark (m : ObjectMeta) (p : PolicyAnnotations) : foreign (mark m p) = foreign m := by
  refine KeyMap.ext_get? fun key => ?_
  rw [foreign, foreign, allAnnotations_mark, Labels.get?_without, Labels.get?_without,
    Labels.get?_overwrite]
  split_ifs with hkey
  · rfl
  · rw [get?_toLabels_of_not_mem hkey, Option.none_or]

lemma foreign_clear (m : ObjectMeta) : foreign (clear m) = foreign m := by
  refine KeyMap.ext_get? fun key => ?_
  rw [foreign, foreign, allAnnotations_clear, Labels.get?_without, Labels.get?_without]
  split_ifs <;> rfl

lemma isAnnotated_clear (m : ObjectMeta) : isAnnotated (clear m) = false := by
  have hinject := get?_clear (m := m) (k := Annotations.inject) (.head _)
  have hstatus := get?_clear (m := m) (k := Annotations.status) (.tail _ (.head _))
  rw [allAnnotations_clear] at hinject hstatus
  rw [isAnnotated, show (clear m).annotations = some (m.allAnnotations.without _) from rfl]
  simp [Annotations.isInjected, hinject, hstatus]

/-- A workload that has been cleared is marked as if it had been marked all the time. -/
lemma mark_clear_mark (m : ObjectMeta) (p : PolicyAnnotations) :
    mark (clear (mark m p)) p = mark m p := by
  refine congrArg m.withAnnotations (KeyMap.ext_get? fun key => ?_)
  rw [allAnnotations_clear, allAnnotations_mark, Labels.get?_overwrite, Labels.get?_overwrite,
    Labels.get?_without, Labels.get?_overwrite]
  split_ifs with hkey
  · obtain ⟨v, hv⟩ := exists_get?_toLabels hkey p
    rw [hv]
    rfl
  · rw [get?_toLabels_of_not_mem hkey, Option.none_or]

end Workload

namespace Reconcile

open Workload

variable {c c₁ c₂ c₃ : Cluster} {spec : PolicySpec} {d : Deployment} {k : ObjectKey}

/-! ### Foreign annotations -/

lemma change_annotating (spec : PolicySpec) (d : Deployment) :
    (annotating spec).change d = marked spec d := by
  rw [Sweep.change, annotating, marked, mark, Deployment.withAnnotations]

/-- What a state asks for leaves the foreign annotations of a deployment alone. -/
lemma foreign_change (st : PolicyState) (d : Deployment) :
    foreign (st.sweep.change d).metadata = foreign d.metadata := by
  cases st with
  | live p =>
      show foreign ((annotating p.spec).change d).metadata = _
      rw [change_annotating]
      exact foreign_mark d.metadata p.spec.annotations
  | deleted p => exact foreign_clear d.metadata

/-- **However far a sweep has come, no foreign annotation has changed.** -/
theorem map_foreign_of_advances {st : PolicyState} (h : st.sweep.Advances c c₁)
    (k : ObjectKey) :
    (c₁.deployments.get? k).map (Workload.foreign ·.metadata) =
      (c.deployments.get? k).map (Workload.foreign ·.metadata) := by
  obtain hsame | ⟨d, hd, -, hchanged⟩ := h.deployments k
  · rw [hsame]
  · rw [hchanged, hd]
    exact congrArg some (foreign_change st d)

/-! ### Applied, withdrawn and applied again -/

/-- A deployment that has been marked and then cleared. -/
def cleared (spec : PolicySpec) (d : Deployment) : Deployment :=
  (releasing spec).change (marked spec d)

/-- No deployment that the policy selects is annotated. -/
def Untouched (spec : PolicySpec) (c : Cluster) : Prop :=
  ∀ k d, c.deployments.get? k = some d → IsSelected spec d →
    Workload.isAnnotated d.metadata = false

/-- Where no deployment was annotated, a policy that has been applied has marked all that it
selects. -/
lemma get?_applied (hbare : Untouched spec c) (h₁ : Applied spec c c₁) (k : ObjectKey) :
    c₁.deployments.get? k = (c.deployments.get? k).map fun d =>
      if selects spec d then marked spec d else d := by
  rw [h₁.get?_deployments]
  refine Option.map_congr fun d hd => ?_
  have hdue : isTarget spec d = selects spec d := by
    rw [isTarget]
    cases hselected : selects spec d with
    | true => rw [hbare k d hd (selects_iff.mp hselected), Bool.not_false, Bool.and_true]
    | false => rw [Bool.false_and]
  rw [hdue]

/-- A marked deployment that is selected has to be cleared. -/
lemma isClearable_marked (spec : PolicySpec) (d : Deployment) :
    isClearable spec (marked spec d) = selects spec d := by
  have hinject : (marked spec d).metadata.allAnnotations.get? Annotations.inject =
      some Annotations.injectEnabled :=
    (annotated_marked spec d).written (_, _) (.head _)
  rw [isClearable, KeyMap.contains, hinject]
  exact Bool.and_true _

/-- When the policy has been withdrawn, all that it selects has been marked and cleared. -/
lemma get?_withdrawn (hbare : Untouched spec c) (h₁ : Applied spec c c₁)
    (h₂ : (releasing spec).Complete c₁ c₂) (k : ObjectKey) :
    c₂.deployments.get? k = (c.deployments.get? k).map fun d =>
      if selects spec d then cleared spec d else d := by
  rw [h₂.get?_deployments, get?_applied hbare h₁, Option.map_map]
  refine Option.map_congr fun d _ => ?_
  rw [Function.comp_apply]
  cases hselected : selects spec d with
  | true =>
      have hdue : (releasing spec).isDue (marked spec d) = true :=
        (isClearable_marked spec d).trans hselected
      simp only [if_true, hdue, cleared]
  | false =>
      have hdue : (releasing spec).isDue d = false := Sweep.isDue_eq_false _ hselected
      simp only [Bool.false_eq_true, if_false, hdue]

/-- Then again no deployment that the policy selects is annotated, and none of them carries
an annotation of policies. -/
lemma exists_cleared (hbare : Untouched spec c) (h₁ : Applied spec c c₁)
    (h₂ : (releasing spec).Complete c₁ c₂) (hd : c₂.deployments.get? k = some d)
    (hselected : IsSelected spec d) : ∃ d₀, d = cleared spec d₀ := by
  rw [get?_withdrawn hbare h₁ h₂] at hd
  obtain ⟨d₀, -, rfl⟩ := Option.map_eq_some_iff.mp hd
  cases hbefore : selects spec d₀ with
  | true => exact ⟨d₀, if_pos rfl⟩
  | false =>
      rw [hbefore, if_neg Bool.false_ne_true] at hselected
      exact absurd (hbefore.symm.trans (selects_iff.mpr hselected)) Bool.false_ne_true

/-- **Applied again, a policy leads to the same deployments.** -/
theorem deployments_recreated (hbare : Untouched spec c) (h₁ : Applied spec c c₁)
    (h₂ : (releasing spec).Complete c₁ c₂) (h₃ : Applied spec c₂ c₃) :
    c₃.deployments = c₁.deployments := by
  have hbare₂ : Untouched spec c₂ := fun k d hd hselected => by
    obtain ⟨d₀, rfl⟩ := exists_cleared hbare h₁ h₂ hd hselected
    exact isAnnotated_clear _
  refine KeyMap.ext_get? fun k => ?_
  rw [get?_applied hbare₂ h₃, get?_withdrawn hbare h₁ h₂, get?_applied hbare h₁, Option.map_map]
  refine Option.map_congr fun d _ => ?_
  cases hselected : selects spec d with
  | true =>
      have hagain : marked spec (cleared spec d) = marked spec d :=
        congrArg (fun m => ({ d with metadata := m } : Deployment)) (mark_clear_mark _ _)
      have hsame : selects spec (cleared spec d) = true := hselected
      simp [hsame, hagain, hselected]
  | false => simp [hselected]

end Reconcile

namespace Controller

open Reconcile

/-- The controller after a report of the watch. -/
def hear (c : Controller) (w : Worker.Report) : Controller := c.withRegistry (w.take c.registry)

/-- The controller when a policy has been applied and its key reconciled. -/
def afterApply (c : Controller) (p : Policy) : Controller :=
  ((c.hear (.applied p)).reconcile p.key).2

/-- The controller when a policy has been deleted and its key reconciled. -/
def afterDelete (c : Controller) (p : Policy) : Controller :=
  ((c.hear (.deleted p.key)).reconcile p.key).2

variable {c : Controller} {p : Policy}

/-- What becomes of a controller when a policy is applied. -/
lemma reconciles_applied (hc : c.IsAlone) (hsound : c.cluster.Sound)
    (hcount : c.faults.count = 0)
    (hversion : ∀ old, c.registry.get? p.key = some (.live old) →
      Registry.isReplay old p = true → old = p) :
    ((c.hear (.applied p)).reconcile p.key).1 = .ok () ∧
      Reconciles p.key (.live p) (c.hear (.applied p)) (c.afterApply p) ∧
      (c.afterApply p).registry.get? p.key = some (.live p) := by
  have hlive : (c.hear (.applied p)).registry.get? p.key = some (.live p) :=
    Registry.get?_apply_self hversion
  obtain ⟨hok, hreconciles⟩ :=
    reconciles (c := c.hear (.applied p)) ⟨hc.noGhost, hc.noJob⟩ hsound hcount hlive
  exact ⟨hok, hreconciles, (hreconciles.states p.key).trans hlive⟩

/-- What becomes of a controller when a live policy is deleted: in the end it is given up. -/
lemma reconciles_deleted (hc : c.IsAlone) (hsound : c.cluster.Sound)
    (hcount : c.faults.count = 0) (hlive : c.registry.get? p.key = some (.live p)) :
    ((c.hear (.deleted p.key)).reconcile p.key).1 = .ok () ∧
      Reconciles p.key (.deleted p) (c.hear (.deleted p.key)) (c.afterDelete p) ∧
      (c.afterDelete p).registry.get? p.key = none := by
  have hdeleted : (c.hear (.deleted p.key)).registry.get? p.key = some (.deleted p) :=
    Registry.get?_delete_self hlive
  obtain ⟨hok, hreconciles⟩ :=
    reconciles (c := c.hear (.deleted p.key)) ⟨hc.noGhost, hc.noJob⟩ hsound hcount hdeleted
  refine ⟨hok, hreconciles, (hreconciles.states p.key).trans ?_⟩
  show ((c.hear (.deleted p.key)).registry.forgetDeleted p.key).get? p.key = none
  rw [Registry.get?_forgetDeleted_self, hdeleted]
  rfl

/-- The controllers that there are while the key of a policy is reconciled, when it has been
applied, when it has been deleted, and when it has been applied again. -/
def recreation (c : Controller) (p : Policy) : List Controller :=
  (c.hear (.applied p)).stages p.key ++
    (((c.afterApply p).hear (.deleted p.key)).stages p.key ++
      (((c.afterApply p).afterDelete p).hear (.applied p)).stages p.key)

/-- **A policy that is deleted and applied again leaks nothing.**  Where no deployment that it
selects was annotated, and no call fails: applied, it annotates all that it selects; deleted,
it leaves no annotation of policies on them; applied again, it leads to the same deployments.
At no moment on this way is any other annotation different from what it was before. -/
theorem reconcile_recreated (hc : c.IsAlone) (hsound : c.cluster.Sound)
    (hcount : c.faults.count = 0)
    (hversion : ∀ old, c.registry.get? p.key = some (.live old) →
      Registry.isReplay old p = true → old = p)
    (hbare : Untouched p.spec c.cluster) :
    (((c.hear (.applied p)).reconcile p.key).1 = .ok () ∧
      (((c.afterApply p).hear (.deleted p.key)).reconcile p.key).1 = .ok () ∧
      ((((c.afterApply p).afterDelete p).hear (.applied p)).reconcile p.key).1 = .ok ()) ∧
      (∀ key d, (c.afterApply p).cluster.deployments.get? key = some d → IsSelected p.spec d →
        Workload.isAnnotated d.metadata = true) ∧
      (∀ key d, ((c.afterApply p).afterDelete p).cluster.deployments.get? key = some d →
        IsSelected p.spec d → ∀ a ∈ Annotations.policyKeys,
          d.metadata.allAnnotations.get? a = none) ∧
      (((c.afterApply p).afterDelete p).afterApply p).cluster.deployments =
        (c.afterApply p).cluster.deployments ∧
      ∀ m ∈ c.recreation p, ∀ key,
        (m.cluster.deployments.get? key).map (Workload.foreign ·.metadata) =
          (c.cluster.deployments.get? key).map (Workload.foreign ·.metadata) := by
  obtain ⟨hok₁, h₁, hlive⟩ := reconciles_applied hc hsound hcount hversion
  obtain ⟨hok₂, h₂, hnone⟩ :=
    reconciles_deleted h₁.alone (h₁.sound hsound) h₁.count hlive
  have hsound₂ : ((c.afterApply p).afterDelete p).cluster.Sound := h₂.sound (h₁.sound hsound)
  have hnew : ∀ old, ((c.afterApply p).afterDelete p).registry.get? p.key = some (.live old) →
      Registry.isReplay old p = true → old = p := fun old hold _ => by
    cases hnone.symm.trans hold
  obtain ⟨hok₃, h₃, -⟩ := reconciles_applied h₂.alone hsound₂ h₂.count hnew
  refine ⟨⟨hok₁, hok₂, hok₃⟩, fun key d => Applied.isAnnotated h₁.complete, ?_,
    deployments_recreated hbare h₁.complete h₂.complete h₃.complete, ?_⟩
  · intro key d hd hselected a ha
    obtain ⟨d₀, rfl⟩ := exists_cleared hbare h₁.complete h₂.complete hd hselected
    exact Workload.get?_clear ha
  · -- each stage is an advance from where its part began, which kept them as well
    intro m hm key
    have hsame₁ := map_foreign_of_advances h₁.complete.toAdvances key
    have hsame₂ := map_foreign_of_advances h₂.complete.toAdvances key
    obtain hm | hm := List.mem_append.mp hm
    · exact map_foreign_of_advances (h₁.advances m hm) key
    obtain hm | hm := List.mem_append.mp hm
    · exact (map_foreign_of_advances (h₂.advances m hm) key).trans hsame₁
    · exact ((map_foreign_of_advances (h₃.advances m hm) key).trans hsame₂).trans hsame₁

/-! ### A deployment that has refused the sidecar -/

/-- A deployment that does not want the sidecar, and names an action. -/
def booth : Deployment where
  metadata := { name := some "booth", «namespace» := some "shop",
                labels := some (shopLabels "booth"),
                annotations := some (KeyMap.ofList
                  [("owner", "sales"), (Annotations.inject, "no"), (Annotations.action, "alert")]) }
  spec := some { selector := { matchLabels := some (shopLabels "booth") } }

/-- A deployment without annotations. -/
def kiosk : Deployment where
  metadata := { name := some "kiosk", «namespace» := some "shop",
                labels := some (shopLabels "kiosk") }

/-- Three deployments, none of which is annotated by a policy. -/
def fair : Controller where
  cluster := ((({} : Cluster).addDeployment till).addDeployment booth).addDeployment kiosk

lemma fair_untouched : Untouched shopPolicy.spec fair.cluster := by
  intro k d hd _
  have hvalues : fair.cluster.deployments.values = [booth, kiosk, till] := by decide +kernel
  have hmem : d ∈ [booth, kiosk, till] := hvalues ▸ KeyMap.mem_values.mpr ⟨k, hd⟩
  simp only [List.mem_cons, List.not_mem_nil, or_false] at hmem
  obtain rfl | rfl | rfl := hmem <;> decide +kernel

lemma fair_sound : fair.cluster.Sound := by
  have htill : till.InRange := by decide
  have hbooth : booth.InRange := by decide
  have hkiosk : kiosk.InRange := by decide
  exact ((Cluster.sound_empty.addDeployment htill).addDeployment hbooth).addDeployment hkiosk

/-- What the booth said about the sidecar is gone with the policy, and applied again, the
policy leads to the same deployments. -/
theorem reconcile_recreated_fair :
    (∀ key d, ((fair.afterApply shopPolicy).afterDelete shopPolicy).cluster.deployments.get?
        key = some d → IsSelected shopPolicy.spec d → ∀ a ∈ Annotations.policyKeys,
          d.metadata.allAnnotations.get? a = none) ∧
      (((fair.afterApply shopPolicy).afterDelete shopPolicy).afterApply
        shopPolicy).cluster.deployments = (fair.afterApply shopPolicy).cluster.deployments ∧
      ∀ m ∈ fair.recreation shopPolicy,
        (m.cluster.deployments.get? booth.metadata.key).map (Workload.foreign ·.metadata) =
          some (KeyMap.ofList [("owner", "sales")]) := by
  have hversion : ∀ old, fair.registry.get? shopPolicy.key = some (.live old) →
      Registry.isReplay old shopPolicy = true → old = shopPolicy := fun old hold _ => by cases hold
  obtain ⟨-, -, hcleared, hsame, hkept⟩ := reconcile_recreated
    ⟨rfl, fun _ ht => absurd ht List.not_mem_nil⟩ fair_sound rfl hversion fair_untouched
  exact ⟨hcleared, hsame, fun m hm => (hkept m hm booth.metadata.key).trans (by decide +kernel)⟩

end Controller

end SidecarPolicy
