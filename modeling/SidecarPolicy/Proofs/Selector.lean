/-
What selectors select.

* `Expression.Met`: what each operator requires;
* `Selector.Matches`: every required label is there, and every requirement is met;
* `Selector.selects_iff`: **this is what a selector selects**;
* `Selector.selects_ofLabels`: the selector of given labels;
* `Pod.BelongsTo`, `Pod.exists_belongsTo_iff`: the pods of a deployment.
-/
import Mathlib.Tactic
import SidecarPolicy.Object.Deployment
import SidecarPolicy.Proofs.KeyMap

namespace SidecarPolicy

/-! ### Requirements -/

/-- Labels meet a requirement: the value of its key is among the given ones, or is not,
or there is one, or there is none. -/
inductive Expression.Met (e : Expression) (labels : Labels) : Prop
  | isIn {v : String} (hop : e.op? = some .isIn) (hv : labels.get? e.key = some v)
      (hamong : v ∈ e.values)
  | notIn (hop : e.op? = some .notIn) (hnone : ∀ v, labels.get? e.key = some v → v ∉ e.values)
  | exists {v : String} (hop : e.op? = some .exists) (hv : labels.get? e.key = some v)
  | doesNotExist (hop : e.op? = some .doesNotExist) (hnone : labels.get? e.key = none)

/-- A requirement holds of the labels that meet it. -/
lemma Expression.holds_iff {e : Expression} {labels : Labels} :
    e.holds labels = true ↔ e.Met labels := by
  rw [Expression.holds]
  constructor
  · intro h
    -- by the operator, and by whether there is a value for the key
    cases hop : e.op? with
    | none => simp [hop] at h
    | some op =>
        cases hv : labels.get? e.key with
        | none =>
            cases op with
            | isIn => simp [hop, hv] at h
            | notIn => exact .notIn hop fun v hv' => by cases hv.symm.trans hv'
            | «exists» => simp [hop, hv] at h
            | doesNotExist => exact .doesNotExist hop hv
        | some v =>
            cases op with
            | isIn =>
                simp only [hop, hv] at h
                exact .isIn hop hv (List.contains_iff_mem.mp h)
            | notIn =>
                simp only [hop, hv, Bool.not_eq_true'] at h
                refine .notIn hop fun v' hv' hmem => ?_
                obtain rfl := Option.some.inj (hv.symm.trans hv')
                exact Bool.false_ne_true (h.symm.trans (List.contains_iff_mem.mpr hmem))
            | «exists» => exact .exists hop hv
            | doesNotExist => simp [hop, hv] at h
  · rintro (⟨hop, hv, hamong⟩ | ⟨hop, hnone⟩ | ⟨hop, hv⟩ | ⟨hop, hnone⟩)
    · simp only [hop, hv, List.contains_iff_mem.mpr hamong]
    · cases hv : labels.get? e.key with
      | none => simp only [hop]
      | some v => simpa [hop, hv] using hnone v hv
    · simp only [hop, hv, Option.isSome_some]
    · simp only [hop, hnone, Option.isNone_none]

/-! ### Selectors -/

/-- Labels match a selector: every required label is there, and every requirement is
met. -/
structure Selector.Matches (s : Selector) (labels : Labels) : Prop where
  equalities : ∀ e ∈ s.equalities, labels.get? e.1 = some e.2
  expressions : ∀ e ∈ s.expressions, e.Met labels

namespace Selector

/-- **A selector selects the labels that match it.** -/
theorem selects_iff {s : Selector} {labels : Labels} :
    s.selects labels = true ↔ s.Matches labels := by
  rw [selects, Bool.and_eq_true, List.all_eq_true, List.all_eq_true]
  constructor
  · rintro ⟨hexpressions, hequalities⟩
    exact ⟨fun e he => beq_iff_eq.mp (hequalities e he),
      fun e he => Expression.holds_iff.mp (hexpressions e he)⟩
  · rintro ⟨hequalities, hexpressions⟩
    exact ⟨fun e he => Expression.holds_iff.mpr (hexpressions e he),
      fun e he => beq_iff_eq.mpr (hequalities e he)⟩

instance (s : Selector) (labels : Labels) : Decidable (s.Matches labels) :=
  decidable_of_iff _ selects_iff

/-- The selector of given labels selects those that carry all of them. -/
lemma selects_ofLabels {given labels : Labels} :
    (ofLabels given).selects labels = true ↔
      ∀ key v, given.get? key = some v → labels.get? key = some v := by
  rw [selects_iff]
  constructor
  · rintro ⟨hequalities, -⟩ key v hv
    exact hequalities (key, v) (KeyMap.mem_entries_iff.mpr hv)
  · intro h
    refine ⟨fun e he => h e.1 e.2 (KeyMap.mem_entries_iff.mp he), fun e he => ?_⟩
    exact absurd he List.not_mem_nil

end Selector

/-! ### The pods of a deployment -/

/-- The pods of a deployment are those in its namespace that its selector selects, unless
the selector is empty. -/
structure Pod.BelongsTo (p : Pod) (d : Deployment) (s : DeploymentSpec) : Prop where
  spec : d.spec = some s
  selective : s.selector.toSelector.isEmpty = false
  «namespace» : p.metadata.anyNamespace = d.metadata.anyNamespace
  labels : s.selector.toSelector.Matches p.metadata.allLabels

/-- A deployment selects pods in particular by a selector that is not empty. -/
lemma Deployment.podSelector?_eq_some {d : Deployment} {selector : Selector} :
    d.podSelector? = some selector ↔
      ∃ s, d.spec = some s ∧ s.selector.toSelector.isEmpty = false ∧
        s.selector.toSelector = selector := by
  rw [podSelector?]
  cases d.spec with
  | none => simp
  | some s => cases hempty : s.selector.toSelector.isEmpty <;> simp [hempty]

/-- The pods of a deployment are those in its namespace that it selects in particular. -/
lemma Pod.exists_belongsTo_iff {p : Pod} {d : Deployment} :
    (∃ s, p.BelongsTo d s) ↔ ∃ selector, d.podSelector? = some selector ∧
      p.metadata.anyNamespace = d.metadata.anyNamespace ∧
        selector.selects p.metadata.allLabels = true := by
  constructor
  · rintro ⟨s, hs, hselective, hns, hlabels⟩
    have hselector := Deployment.podSelector?_eq_some.mpr ⟨s, hs, hselective, rfl⟩
    exact ⟨_, hselector, hns, Selector.selects_iff.mpr hlabels⟩
  · rintro ⟨selector, hselector, hns, hlabels⟩
    obtain ⟨s, hs, hselective, rfl⟩ := Deployment.podSelector?_eq_some.mp hselector
    exact ⟨s, hs, hselective, hns, Selector.selects_iff.mp hlabels⟩

end SidecarPolicy
