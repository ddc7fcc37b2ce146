/-
The annotations of a policy written onto a workload and taken away again.

Whether a workload is marked is decided by one of two annotations, and whether it is cleared
by the presence of one.  It may carry any of the five keys before, with any values; and the
patches are applied to its document, which holds more than what they were made from.

* `Workload.IsForeign`: the pointers at which no annotation of a policy stands;
* `Workload.Turns`: a patch that turns metadata into others in every document, and changes
  nothing else;
* `Workload.turns_annotate`, `Workload.turns_strip`: the patches that mark and clear;
* `Workload.clear_mark`: to clear what has been marked is to clear what it was before;
* `Workload.strip_undoes_annotate`: **a workload that is marked and then cleared has the
  annotations that it had before, but for those of policies**.
-/
import SidecarPolicy.Proofs.Object.Annotated
import SidecarPolicy.Proofs.Workload

namespace SidecarPolicy.Workload

open Amendment Json

variable {m m' : ObjectMeta} {p : PolicyAnnotations} {q : Pointer}

/-! ### Patches of documents -/

/-- The pointers at which no annotation of a policy stands: they lie apart from the
annotations, or lead through one that has another key. -/
def IsForeign (q : Pointer) : Prop :=
  Apart annotationsPath q ∨
    ∃ key rest, q = annotationsPath ++ key :: rest ∧ key ∉ Annotations.policyKeys

/-- A patch turns metadata into others: it leads from every document of an object that has the
former to one of an object that has the latter, and changes nothing at foreign pointers. -/
def Turns (patch : Patch) (m m' : ObjectMeta) : Prop :=
  ∀ doc, m.Document doc → ∃ doc', patch.apply doc = .ok doc' ∧ m'.Document doc' ∧
    ∀ q, IsForeign q → doc'.get? q = doc.get? q

/-- A step that keeps all annotations but those of policies changes nothing at foreign
pointers. -/
lemma IsForeign.spares (hq : IsForeign q) {s : Step} (hplace : s.place = annotationsPath)
    (hkeeps : ∀ key, key ∉ Annotations.policyKeys → s.Keeps key) : s.Spares q := by
  rw [Step.Spares, hplace]
  obtain hapart | ⟨key, rest, rfl, hkey⟩ := hq
  · exact .inl hapart
  · exact .inr ⟨key, rest, rfl, hkeeps key hkey⟩

/-- The patch of a policy marks the metadata. -/
lemma turns_annotate (m : ObjectMeta) (p : PolicyAnnotations) :
    Turns (setAnnotations m.annotations p.toLabels) m (mark m p) := by
  intro doc hdoc
  have hleaves : ∀ v w, (Step.setAnnotations m.annotations p.toLabels).Leaves v w →
      Describes (some (m.allAnnotations.overwrite p.toLabels)) w := by
    intro v w h
    rwa [Step.Leaves, if_neg (by simp [isEmpty_toLabels])] at h
  have hsuits : ∀ v, Describes m.annotations v →
      (Step.setAnnotations m.annotations p.toLabels).Suits v := fun _ hv => hv
  obtain ⟨doc', happly, hmarked, hspared⟩ := hdoc.amended rfl hsuits hleaves
  exact ⟨doc', happly, hmarked, fun q hq => hspared q
    (hq.spares rfl fun key hkey => get?_toLabels_of_not_mem hkey p)⟩

/-- The patch that takes a policy's keys away clears the metadata. -/
lemma turns_strip {a : Labels} (ha : m.annotations = some a) :
    Turns (removeAnnotations (some a) Annotations.policyKeys) m (clear m) := by
  intro doc hdoc
  have hsuits : ∀ v, Describes m.annotations v →
      (Step.removeAnnotations (some a) Annotations.policyKeys).Suits v := by
    intro v hv
    exact ⟨ha ▸ hv, by decide⟩
  have hall : m.allAnnotations = a := by rw [ObjectMeta.allAnnotations, ha, Option.getD_some]
  have hleaves : ∀ v w, (Step.removeAnnotations (some a) Annotations.policyKeys).Leaves v w →
      Describes (some (m.allAnnotations.without Annotations.policyKeys)) w := by
    intro v w h
    rwa [hall]
  obtain ⟨doc', happly, hcleared, hspared⟩ := hdoc.amended rfl hsuits hleaves
  exact ⟨doc', happly, hcleared, fun q hq => hspared q (hq.spares rfl fun _ hkey => hkey)⟩

/-! ### There and back -/

/-- To clear what has been marked is to clear what it was before. -/
lemma clear_mark (m : ObjectMeta) (p : PolicyAnnotations) : clear (mark m p) = clear m := by
  refine congrArg m.withAnnotations (KeyMap.ext_get? fun key => ?_)
  rw [allAnnotations_mark, Labels.get?_without, Labels.get?_without, Labels.get?_overwrite]
  split_ifs with hkey
  · rfl
  · rw [get?_toLabels_of_not_mem hkey, Option.none_or]

/-- What carries no annotation of a policy keeps all its annotations when it is cleared. -/
lemma allAnnotations_clear_of_none
    (h : ∀ key ∈ Annotations.policyKeys, m.allAnnotations.get? key = none) :
    (clear m).allAnnotations = m.allAnnotations := by
  rw [allAnnotations_clear]
  refine KeyMap.ext_get? fun key => ?_
  rw [Labels.get?_without]
  split_ifs with hkey
  · exact (h key hkey).symm
  · rfl

lemma strip_mark (m : ObjectMeta) (p : PolicyAnnotations) :
    strip (mark m p) = some (removeAnnotations
      (some (m.allAnnotations.overwrite p.toLabels)) Annotations.policyKeys) := by
  have hinject : (m.allAnnotations.overwrite p.toLabels).contains Annotations.inject = true := by
    have hkey : Annotations.inject ∈ Annotations.policyKeys := .head _
    obtain ⟨v, hv⟩ := exists_get?_toLabels hkey p
    rw [KeyMap.contains, Labels.get?_overwrite, hv]
    rfl
  exact if_pos hinject

lemma strip_clear (m : ObjectMeta) : strip (clear m) = none := by
  rw [strip_eq_none_iff, KeyMap.contains, get?_clear (.head _)]
  rfl

/-- **To take away undoes to write**, whatever annotations a workload has.  It is left alone by
a policy exactly if it is annotated.  If it is not, a patch turns its metadata into those with
the annotations of the policy, and then they are left alone by any policy; and there is a
patch that turns these into the metadata without the annotations of policies, which are not
cleared again.  So if there were none before, there are the same annotations as before. -/
theorem strip_undoes_annotate (m : ObjectMeta) (p : PolicyAnnotations) :
    (annotate m p = none ↔ isAnnotated m = true) ∧
    (isAnnotated m = false → ∃ marking clearing,
      annotate m p = some marking ∧ Turns marking m (mark m p) ∧
      (∀ p', annotate (mark m p) p' = none) ∧
      strip (mark m p) = some clearing ∧ Turns clearing (mark m p) (clear m) ∧
      strip (clear m) = none ∧
      ((∀ key ∈ Annotations.policyKeys, m.allAnnotations.get? key = none) →
        (clear m).allAnnotations = m.allAnnotations)) := by
  refine ⟨annotate_eq_none_iff m p, fun hm => ?_⟩
  have hleft : ∀ p', annotate (mark m p) p' = none := fun p' =>
    (annotate_eq_none_iff _ p').mpr (isAnnotated_mark m p)
  have hclearing : Turns _ (mark m p) (clear (mark m p)) := turns_strip rfl
  rw [clear_mark] at hclearing
  exact ⟨_, _, annotate_eq_some hm p, turns_annotate m p, hleft, strip_mark m p, hclearing,
    strip_clear m, allAnnotations_clear_of_none⟩

/-- Metadata with a request for the sidecar that is declined, and an action of somebody
else. -/
def kiosk : ObjectMeta where
  name := some "kiosk"
  annotations := some (KeyMap.ofList
    [("owner", "harbour"), (Annotations.inject, "no"), (Annotations.action, "paint")])

/-- A document of the kiosk, in which more stands than is read of it. -/
def kioskDocument : Json := .obj [
  ("status", .arr []),
  ("metadata", .obj [
    ("uid", .int 7),
    ("name", .str "kiosk"),
    ("annotations", .obj
      [("owner", .str "harbour"), (Annotations.inject, .str "no"),
        (Annotations.action, .str "paint")])])]

/-- The values of a policy. -/
def kioskPolicy : PolicyAnnotations := ⟨.quarantine, .empty, .standard⟩

/-- The kiosk is marked and cleared, and keeps its owner and whatever else there is.  The request
and the action are gone, though they were not those of a policy. -/
theorem strip_undoes_annotate_kiosk : isAnnotated kiosk = false ∧
    ∃ marking clearing marked cleared, annotate kiosk kioskPolicy = some marking ∧
      marking.apply kioskDocument = .ok marked ∧
      strip (mark kiosk kioskPolicy) = some clearing ∧ clearing.apply marked = .ok cleared ∧
      cleared.get? ["metadata", "uid"] = some (.int 7) ∧
      (clear kiosk).allAnnotations.entries = [("owner", "harbour")] := by
  have hbare : isAnnotated kiosk = false := by decide
  have hdoc : kiosk.Document kioskDocument :=
    ⟨_, _, rfl, rfl, rfl, by decide, by rintro am ⟨⟩; decide⟩
  obtain ⟨marking, clearing, hmarking, hmarked, -, hclearing, hcleared, -, -⟩ :=
    (strip_undoes_annotate kiosk kioskPolicy).2 hbare
  obtain ⟨doc, happly, hdoc', hsame⟩ := hmarked _ hdoc
  obtain ⟨doc', happly', -, hsame'⟩ := hcleared _ hdoc'
  have huid : IsForeign ["metadata", "uid"] := .inl ⟨by decide, by decide⟩
  refine ⟨hbare, marking, clearing, doc, doc', hmarking, happly, hclearing, happly', ?_,
    by decide⟩
  rw [hsame' _ huid, hsame _ huid]
  rfl

end SidecarPolicy.Workload
