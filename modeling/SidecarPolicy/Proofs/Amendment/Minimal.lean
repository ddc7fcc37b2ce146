/-
A patch that sets annotations says no more than it has to.

Where there are no annotations they are created with the first desired one, and the others
are added to it.  Seen from what was there before, the first one is treated as the others
are: it is missing, and gets an operation of its own.

* `Amendment.valueOf?`, `Amendment.unmet`: the value of an annotation, and the desired
  annotations that do not have theirs;
* `Amendment.Sets`: the operation that is due to such an annotation;
* `Amendment.sets_setAnnotations`: **each of them gets its operation, in the order of the
  keys**;
* `Amendment.setAnnotations_eq_nil_iff`: nothing is done exactly if all desired annotations
  have their values;
* `Amendment.Describes.unique`: annotations are told from what stands at their place;
* `Amendment.setAnnotations_minimal`: **that is all that is done, and when it has been done
  nothing is left to do**.
-/
import SidecarPolicy.Proofs.Amendment

namespace SidecarPolicy.Amendment

variable {current : Option Labels} {desired : Labels}

/-! ### What is left to do -/

/-- The value of an annotation, where there may be no annotations at all. -/
def valueOf? (current : Option Labels) (k : String) : Option String := current.bind (·.get? k)

/-- The desired annotations that are missing or have another value. -/
def unmet (current : Option Labels) (desired : Labels) : Labels :=
  desired.filter fun e => valueOf? current e.1 ≠ some e.2

lemma entries_unmet (current : Option Labels) (desired : Labels) :
    (unmet current desired).entries =
      desired.entries.filter fun e => valueOf? current e.1 ≠ some e.2 := rfl

/-- The operation that is due to an annotation that does not have its value: a missing one is
added, or the annotations are created with it, and another value is replaced. -/
inductive Sets (current : Option Labels) : PatchOperation → String × String → Prop
  | create {k v : String} (h : current = none) :
      Sets current (.add annotationsPath (.obj [(k, .str v)])) (k, v)
  | add {k v : String} (h : valueOf? current k = none) :
      Sets current (.add (annotationsPath ++ [k]) (.str v)) (k, v)
  | replace {k v w : String} (h : valueOf? current k = some w) (hne : w ≠ v) :
      Sets current (.replace (annotationsPath ++ [k]) (.str v)) (k, v)

/-- An annotation gets its operation, unless it has its value. -/
lemma sets_setPair (current : Option Labels) (e : String × String) :
    List.Forall₂ (Sets current) (setPair current e)
      ([e].filter fun e => valueOf? current e.1 ≠ some e.2) := by
  rw [setPair]
  cases hv : current.bind (·.get? e.1) with
  | none =>
      rw [List.filter_cons_of_pos (by simp [valueOf?, hv])]
      exact .cons (.add hv) .nil
  | some v =>
      by_cases heq : v = e.2
      · rw [List.filter_cons_of_neg (by simp [valueOf?, hv, heq])]
        simp [heq]
      · rw [List.filter_cons_of_pos (by simp [valueOf?, hv, heq])]
        simpa [heq] using Sets.replace hv heq

/-- Annotations that are set one by one get an operation each, but for those that have their
value. -/
lemma sets_setPairs (current : Option Labels) (pairs : List (String × String)) :
    List.Forall₂ (Sets current) (pairs.flatMap (setPair current))
      (pairs.filter fun e => valueOf? current e.1 ≠ some e.2) := by
  induction pairs with
  | nil => exact .nil
  | cons e pairs ih =>
      rw [List.flatMap_cons, ← List.singleton_append, List.filter_append]
      exact List.rel_append (sets_setPair current e) ih

/-- **Each annotation that does not have its value gets its operation, in the order of the
keys**, and there are no other operations. -/
theorem sets_setAnnotations (current : Option Labels) (desired : Labels) :
    List.Forall₂ (Sets current) (setAnnotations current desired)
      (unmet current desired).entries := by
  have hpairs := sets_setPairs current desired.entries
  rw [entries_unmet]
  cases current with
  | some m => exact hpairs
  | none =>
      unfold setAnnotations
      cases hentries : desired.entries with
      | nil => exact .nil
      | cons e rest =>
          -- without annotations all are missing, and the first one creates them
          rw [List.filter_cons_of_pos (by simp [valueOf?])]
          exact .cons (.create rfl) (sets_setPairs none rest)

/-- Every operation is due to some annotation. -/
lemma exists_sets_of_mem {op : PatchOperation} (h : op ∈ setAnnotations current desired) :
    ∃ e ∈ (unmet current desired).entries, Sets current op e := by
  have hsets := sets_setAnnotations current desired
  generalize setAnnotations current desired = patch, (unmet current desired).entries = pairs
    at h hsets ⊢
  induction hsets with
  | nil => cases h
  | cons hfirst _ ih =>
      obtain rfl | h := List.mem_cons.mp h
      · exact ⟨_, List.mem_cons_self, hfirst⟩
      · obtain ⟨e, he, hsets⟩ := ih h
        exact ⟨e, List.mem_cons_of_mem _ he, hsets⟩

/-- A desired annotation is unmet if it does not have its value. -/
lemma mem_unmet {k v : String} : (k, v) ∈ (unmet current desired).entries ↔
    desired.get? k = some v ∧ valueOf? current k ≠ some v := by
  rw [entries_unmet, List.mem_filter, KeyMap.mem_entries_iff, decide_eq_true_eq]

/-- Nothing is done exactly if all desired annotations have their values. -/
lemma setAnnotations_eq_nil_iff :
    setAnnotations current desired = [] ↔
      ∀ k v, desired.get? k = some v → valueOf? current k = some v := by
  have hlength := (sets_setAnnotations current desired).length_eq
  calc setAnnotations current desired = []
      ↔ (unmet current desired).entries = [] := by
        rw [← List.length_eq_zero_iff, hlength, List.length_eq_zero_iff]
    _ ↔ ∀ k v, ¬ (desired.get? k = some v ∧ valueOf? current k ≠ some v) := by
        rw [List.eq_nil_iff_forall_not_mem]
        simp only [Prod.forall, mem_unmet]
    _ ↔ ∀ k v, desired.get? k = some v → valueOf? current k = some v := by
        simp only [not_and, not_not]

/-! ### What is there afterwards -/

/-- Annotations are told from what stands at their place. -/
lemma Describes.unique {m m' : Option Labels} {v : Option Json} (h : Describes m v)
    (h' : Describes m' v) : m = m' := by
  cases m with
  | none =>
      cases m' with
      | none => rfl
      | some m' =>
          obtain ⟨ms, rfl, -⟩ := h'
          obtain h | h := h <;> cases h
  | some m =>
      obtain ⟨ms, rfl, hms⟩ := h
      cases m' with
      | none => obtain h' | h' := h' <;> cases h'
      | some m' =>
          obtain ⟨ms', hms', hmirrors⟩ := h'
          obtain rfl := Json.obj.inj (Option.some.inj hms')
          rw [hms.unique hmirrors]

/-- The annotations that are there when some have been set. -/
def afterwards (current : Option Labels) (desired : Labels) : Option Labels :=
  if desired.isEmpty then current else some ((current.getD .empty).overwrite desired)

/-- They have the desired values, and elsewhere their own. -/
lemma valueOf?_afterwards (current : Option Labels) (desired : Labels) (k : String) :
    valueOf? (afterwards current desired) k = (desired.get? k).or (valueOf? current k) := by
  rw [afterwards]
  split_ifs with hempty
  · rw [KeyMap.isEmpty_iff.mp hempty k, Option.none_or]
  · have hbefore : (current.getD .empty).get? k = valueOf? current k := by
      cases current <;> rfl
    rw [valueOf?, Option.bind_some, Labels.get?_overwrite, hbefore]

lemma setAnnotations_afterwards (current : Option Labels) (desired : Labels) :
    setAnnotations (afterwards current desired) desired = [] := by
  refine setAnnotations_eq_nil_iff.mpr fun k v hk => ?_
  rw [valueOf?_afterwards, hk, Option.some_or]

/-- **A patch that sets annotations says no more than it has to.**  Each desired annotation
that is missing or has another value gets one operation, in the order of the keys, and the
others get none; so nothing is said exactly if all have their values.  What is replaced is
there, and what is added is missing.  On a document that holds the annotations the patch is
possible, and leaves there annotations for which a patch that is made anew says nothing. -/
theorem setAnnotations_minimal (current : Option Labels) (desired : Labels) :
    List.Forall₂ (Sets current) (setAnnotations current desired)
        (unmet current desired).entries ∧
      (∀ k v, (k, v) ∈ (unmet current desired).entries ↔
        desired.get? k = some v ∧ valueOf? current k ≠ some v) ∧
      (setAnnotations current desired = [] ↔
        ∀ k v, desired.get? k = some v → valueOf? current k = some v) ∧
      (∀ path v, .replace path v ∈ setAnnotations current desired →
        ∃ k, path = annotationsPath ++ [k] ∧ valueOf? current k ≠ none) ∧
      (∀ path v, .add path v ∈ setAnnotations current desired →
        path = annotationsPath ∧ current = none ∨
          ∃ k, path = annotationsPath ++ [k] ∧ valueOf? current k = none) ∧
      ∀ doc, (Step.setAnnotations current desired).Fits doc → ∃ doc' later,
        Patch.apply doc (setAnnotations current desired) = .ok doc' ∧
          (∀ m, Describes m (doc'.get? annotationsPath) ↔ m = later) ∧
          (∀ k, valueOf? later k = (desired.get? k).or (valueOf? current k)) ∧
          setAnnotations later desired = [] := by
  refine ⟨sets_setAnnotations current desired, fun _ _ => mem_unmet, setAnnotations_eq_nil_iff,
    fun path v hop => ?_, fun path v hop => ?_, fun doc hdoc => ?_⟩
  · obtain ⟨e, -, hsets⟩ := exists_sets_of_mem hop
    cases hsets with
    | replace h hne => exact ⟨_, rfl, by simp [h]⟩
  · obtain ⟨e, -, hsets⟩ := exists_sets_of_mem hop
    cases hsets with
    | create h => exact .inl ⟨rfl, h⟩
    | add h => exact .inr ⟨_, rfl, h⟩
  · -- what stands at the place then is described by `afterwards`
    have hplace := Step.get?_place hdoc
    have hlater : Describes (afterwards current desired)
        (((Step.setAnnotations current desired).perform doc).get? annotationsPath) := by
      obtain ⟨v, hslot, hv⟩ := hdoc
      rw [hslot.get?_eq] at hplace
      exact hplace ▸ Step.leaves_outcome hv
    refine ⟨_, afterwards current desired, (Step.leads hdoc).apply, fun m => ⟨fun hm => ?_, ?_⟩,
      valueOf?_afterwards current desired, setAnnotations_afterwards current desired⟩
    · exact hm.unique hlater
    · rintro rfl
      exact hlater

/-- A pod whose annotations have awkward keys. -/
def awkwardPod : Json := .obj [("metadata", .obj [("annotations", Encode.labels awkward)])]

/-- One annotation more, and another value for one that is there. -/
def awkwardWish : Labels := ⟨[("a/b~c", "1"), ("n", "1"), ("x", "3")], by decide⟩

/-- The annotation that has its value is left out; the next one is added, the last one is
replaced, and then there is nothing left to do. -/
theorem setAnnotations_minimal_awkward :
    (unmet (some awkward) awkwardWish).entries = [("n", "1"), ("x", "3")] ∧
      (setAnnotations (some awkward) awkwardWish).length = 2 ∧
      (Step.setAnnotations (some awkward) awkwardWish).Fits awkwardPod ∧ ∃ doc' later,
        Patch.apply awkwardPod (setAnnotations (some awkward) awkwardWish) = .ok doc' ∧
          Describes later (doc'.get? annotationsPath) ∧ setAnnotations later awkwardWish = [] := by
  have hfits : (Step.setAnnotations (some awkward) awkwardWish).Fits awkwardPod :=
    ⟨some (Encode.labels awkward), .inner rfl (.own _ _), ⟨_, rfl, Labels.mirrors_entries _⟩⟩
  obtain ⟨hsets, -, -, -, -, happlied⟩ := setAnnotations_minimal (some awkward) awkwardWish
  obtain ⟨doc', later, happly, hlater, -, hnil⟩ := happlied awkwardPod hfits
  have hunmet : (unmet (some awkward) awkwardWish).entries = [("n", "1"), ("x", "3")] := by
    decide
  have hlength : (setAnnotations (some awkward) awkwardWish).length = 2 := by
    rw [hsets.length_eq, hunmet]
    rfl
  exact ⟨hunmet, hlength, hfits, doc', later, happly, (hlater later).mpr rfl, hnil⟩

end SidecarPolicy.Amendment
