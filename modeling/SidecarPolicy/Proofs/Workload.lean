/-
What a policy writes onto a workload, and takes away again.

* `PolicyAnnotations.get?_toLabels`: the five annotations of a policy;
* `Workload.get?_toLabels_of_not_mem`, `Workload.exists_get?_toLabels`: a policy sets all
  annotations of policies, and no others;
* `Workload.mark`: metadata with the annotations of a policy;
* `Workload.annotate_eq_none_iff`: **only an annotated workload is left alone**;
* `Workload.isAnnotated_mark`: a marked workload is annotated;
* `Workload.patched_annotate`: **the patch of a policy marks a deployment**;
* `Workload.clear`: metadata without the annotations of policies;
* `Workload.strip_eq_none_iff`: only a workload that does not carry the request for
  the sidecar is left alone;
* `Workload.patched_strip`: **the patch that takes a policy's keys away clears a
  deployment**.
-/
import SidecarPolicy.Cluster.State
import SidecarPolicy.Proofs.Amendment.Minimal
import SidecarPolicy.Proofs.Object.Deployment
import SidecarPolicy.Workload

namespace SidecarPolicy

/-- The annotations of a policy, one after another. -/
def PolicyAnnotations.pairs (p : PolicyAnnotations) : List (String × String) := [
  (Annotations.inject, Annotations.injectEnabled),
  (Annotations.status, Annotations.statusInjected),
  (Annotations.action, p.action.text),
  (Annotations.groupLabel, p.groupLabel.text),
  (Annotations.logFrequency, p.logFrequency.text)]

/-- The annotations of a policy have the values that it gives to them. -/
lemma PolicyAnnotations.get?_toLabels {p : PolicyAnnotations} {k v : String}
    (h : (k, v) ∈ p.pairs) : p.toLabels.get? k = some v := by
  have hdistinct : (p.pairs.map Prod.fst).Nodup := by
    show Annotations.policyKeys.Nodup
    decide
  exact KeyMap.get?_insertAll_of_mem hdistinct h .empty

namespace Workload

/-- The metadata of a workload with the annotations of a policy. -/
def mark (m : ObjectMeta) (p : PolicyAnnotations) : ObjectMeta :=
  m.withAnnotations (m.allAnnotations.overwrite p.toLabels)

lemma get?_toLabels_of_not_mem {key : String} (h : key ∉ Annotations.policyKeys)
    (p : PolicyAnnotations) : p.toLabels.get? key = none :=
  KeyMap.get?_insertAll_of_not_mem h .empty

lemma exists_get?_toLabels {key : String} (h : key ∈ Annotations.policyKeys)
    (p : PolicyAnnotations) : ∃ v, p.toLabels.get? key = some v := by
  obtain ⟨⟨_, v⟩, hpair, rfl⟩ : ∃ e ∈ p.pairs, e.1 = key := List.mem_map.mp h
  exact ⟨v, PolicyAnnotations.get?_toLabels hpair⟩

lemma isEmpty_toLabels (p : PolicyAnnotations) : p.toLabels.isEmpty = false := by
  rw [KeyMap.isEmpty, List.isEmpty_eq_false_iff]
  have hinject : (_, _) ∈ p.toLabels.entries :=
    KeyMap.mem_entries_iff.mpr (PolicyAnnotations.get?_toLabels (.head _))
  exact List.ne_nil_of_mem hinject

lemma allAnnotations_withAnnotations (m : ObjectMeta) (a : Labels) :
    (m.withAnnotations a).allAnnotations = a := rfl

lemma allAnnotations_mark (m : ObjectMeta) (p : PolicyAnnotations) :
    (mark m p).allAnnotations = m.allAnnotations.overwrite p.toLabels :=
  allAnnotations_withAnnotations m _

/-- Where the request for the sidecar stands in the spelling of policies, the
workload is annotated. -/
lemma isAnnotated_of_get? {m : ObjectMeta} {a : Labels} (ha : m.annotations = some a)
    (h : a.get? Annotations.inject = some Annotations.injectEnabled) :
    isAnnotated m = true := by
  rw [isAnnotated, ha]
  simp [h]

lemma isAnnotated_mark (m : ObjectMeta) (p : PolicyAnnotations) :
    isAnnotated (mark m p) = true := by
  refine isAnnotated_of_get? rfl ?_
  rw [Labels.get?_overwrite, PolicyAnnotations.get?_toLabels (.head _)]
  rfl

/-- A patch that sets annotations is empty only if they are there already. -/
lemma get?_of_setAnnotations_eq_nil {current : Option Labels} {desired : Labels}
    (h : Amendment.setAnnotations current desired = []) {k v : String}
    (hk : desired.get? k = some v) : ∃ a, current = some a ∧ a.get? k = some v := by
  have hvalue := Amendment.setAnnotations_eq_nil_iff.mp h k v hk
  exact Option.bind_eq_some_iff.mp hvalue

/-- A workload that is not annotated gets the patch that sets the annotations of
the policy: it is not empty, or the request would be there. -/
lemma annotate_eq_some {m : ObjectMeta} (h : isAnnotated m = false) (p : PolicyAnnotations) :
    annotate m p = some (Amendment.setAnnotations m.annotations p.toLabels) := by
  have hpatch : (Amendment.setAnnotations m.annotations p.toLabels).isEmpty = false := by
    by_contra hempty
    obtain ⟨a, ha, hinject⟩ := get?_of_setAnnotations_eq_nil
      (List.isEmpty_iff.mp (Bool.eq_true_of_not_eq_false hempty))
      (PolicyAnnotations.get?_toLabels (p := p) (.head _))
    exact Bool.false_ne_true (h.symm.trans (isAnnotated_of_get? ha hinject))
  simp [annotate, h, hpatch]

/-- **Only an annotated workload is left alone.** -/
theorem annotate_eq_none_iff (m : ObjectMeta) (p : PolicyAnnotations) :
    annotate m p = none ↔ isAnnotated m = true := by
  cases hm : isAnnotated m with
  | false => simp [annotate_eq_some hm]
  | true => simp [annotate, hm]

lemma eq_of_annotate_eq_some {m : ObjectMeta} {p : PolicyAnnotations} {patch : Patch}
    (h : annotate m p = some patch) :
    patch = Amendment.setAnnotations m.annotations p.toLabels := by
  cases hm : isAnnotated m with
  | false => exact (Option.some.inj ((annotate_eq_some hm p).symm.trans h)).symm
  | true => simp [annotate, hm] at h

/-- **The patch of a policy marks a deployment.** -/
theorem patched_annotate {d : Deployment} (hd : d.InRange) {p : PolicyAnnotations}
    {patch : Patch} (h : annotate d.metadata p = some patch) :
    Cluster.patched d patch = .ok { d with metadata := mark d.metadata p } := by
  have hdescribes := Amendment.describes_labels d.metadata.annotations
  have hmirrors := hdescribes.mirrors_setAll p.toLabels
  have happly := (Amendment.leads_setAnnotations d.slot_annotations hdescribes
    (isEmpty_toLabels p)).apply
  rw [Cluster.patched, eq_of_annotate_eq_some h, happly]
  exact congrArg (Except.mapError _) (Deployment.decode_fill hd hmirrors)

/-! ### Taking the annotations away -/

/-- The metadata of a workload without the annotations of policies. -/
def clear (m : ObjectMeta) : ObjectMeta :=
  m.withAnnotations (m.allAnnotations.without Annotations.policyKeys)

lemma allAnnotations_clear (m : ObjectMeta) :
    (clear m).allAnnotations = m.allAnnotations.without Annotations.policyKeys :=
  allAnnotations_withAnnotations m _

lemma get?_clear {m : ObjectMeta} {k : String} (hk : k ∈ Annotations.policyKeys) :
    (clear m).allAnnotations.get? k = none := by
  show (m.allAnnotations.without Annotations.policyKeys).get? k = none
  rw [Labels.get?_without, if_pos hk]

/-- Only a workload that does not carry the request for the sidecar is left
alone. -/
lemma strip_eq_none_iff (m : ObjectMeta) :
    strip m = none ↔ m.allAnnotations.contains Annotations.inject = false := by
  rw [strip, ObjectMeta.allAnnotations]
  cases m.annotations with
  | none => exact iff_of_true rfl rfl
  | some a => cases ha : a.contains Annotations.inject <;> simp [ha]

/-- The patch that takes a policy's keys away removes them from annotations that are
there. -/
lemma eq_of_strip_eq_some {m : ObjectMeta} {patch : Patch} (h : strip m = some patch) :
    ∃ a, m.annotations = some a ∧
      patch = Amendment.removeAnnotations (some a) Annotations.policyKeys := by
  rw [strip] at h
  cases ha : m.annotations with
  | none => simp [ha] at h
  | some a =>
      rw [ha] at h
      dsimp only at h
      split_ifs at h
      exact ⟨a, rfl, (Option.some.inj h).symm⟩

/-- **The patch that takes a policy's keys away clears a deployment.** -/
theorem patched_strip {d : Deployment} (hd : d.InRange) {patch : Patch}
    (h : strip d.metadata = some patch) :
    Cluster.patched d patch = .ok { d with metadata := clear d.metadata } := by
  obtain ⟨a, ha, rfl⟩ := eq_of_strip_eq_some h
  have hslot : Json.Slot Amendment.annotationsPath d.encode (some (Encode.labels a)) := by
    have hslot := d.slot_annotations
    rwa [ha] at hslot
  have hmirrors := Labels.mirrors_entries a
  have hdistinct : Annotations.policyKeys.Nodup := by decide
  have happly := (Amendment.leads_removeAnnotations hslot hmirrors hdistinct).apply
  have hclear : (Deployment.withAnnotations d (a.without Annotations.policyKeys)) =
      { d with metadata := clear d.metadata } := by
    rw [clear, ObjectMeta.allAnnotations, ha]
    rfl
  rw [Cluster.patched, happly, ← hclear]
  exact congrArg (Except.mapError _)
    (Deployment.decode_fill hd (hmirrors.removeAll Annotations.policyKeys))

end Workload

end SidecarPolicy
