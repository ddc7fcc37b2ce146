/-
The values of a policy, written onto a deployment and read back from it.

The action and the frequency of log entries are read back as they were written.  The label
keys of the group are joined in one text, which is cut again at every two dashes; so a key
with two dashes in a row, though it is a key of labels, is not read back.

* `Action.ofText_text_ofText`: an action is read back;
* `PolicyAnnotations.ofLabels_of_written`: what is read of annotations, among which those
  of a policy stand;
* `PolicySpec.ofLabels_toLabels`: **the values of a policy are read back, unless a key of
  its group has two dashes in a row**;
* `PolicySpec.not_read_back`: so not all values are read back.
-/
import SidecarPolicy.Policy.Spec
import SidecarPolicy.Proofs.Annotations.GroupLabel
import SidecarPolicy.Proofs.Annotations.LogFrequency
import SidecarPolicy.Proofs.Workload

namespace SidecarPolicy

/-! ### Actions -/

/-- The action of a name is read back from its written form. -/
lemma Action.ofText_text_ofText (s : String) : ofText (ofText s).text = ofText s := by
  rw [text_ofText]

/-! ### The values of a policy -/

namespace PolicyAnnotations

/-- What is read of annotations, among which those of a policy stand. -/
lemma ofLabels_of_written {p : PolicyAnnotations} {annotations : Labels}
    (h : ∀ e ∈ p.pairs, annotations.get? e.1 = some e.2) :
    ofLabels annotations =
      ⟨.ofText p.action.text, .ofText p.groupLabel.text, p.logFrequency⟩ := by
  have haction := h (Annotations.action, p.action.text) (by simp [pairs])
  have hgroup := h (Annotations.groupLabel, p.groupLabel.text) (by simp [pairs])
  have hfrequency := h (Annotations.logFrequency, p.logFrequency.text) (by simp [pairs])
  rw [ofLabels, haction, hgroup, hfrequency]
  simp [frequencyOf, LogFrequency.ofText_text]

end PolicyAnnotations

namespace PolicySpec

lemma keys_annotations {spec : PolicySpec} (h : ∀ k ∈ spec.groupLabel, IsLabelKey k.toList) :
    spec.annotations.groupLabel.keys = spec.groupLabel := by
  refine List.filter_eq_self.mpr fun k hk => decide_eq_true ?_
  rintro rfl
  exact (h "" hk).ne_nil rfl

/-- **The values of a policy are read back, unless a key of its group has two dashes in a
row.**  The action and the frequency are read as they were written, and the group as what
is read of its keys one by one. -/
theorem ofLabels_toLabels (spec : PolicySpec)
    (hlegal : ∀ k ∈ spec.groupLabel, IsLabelKey k.toList) :
    (PolicyAnnotations.ofLabels spec.annotations.toLabels).action = spec.annotations.action ∧
      (PolicyAnnotations.ofLabels spec.annotations.toLabels).logFrequency =
        spec.annotations.logFrequency ∧
      (PolicyAnnotations.ofLabels spec.annotations.toLabels).groupLabel.keys =
        spec.groupLabel.flatMap (fun k => (GroupLabel.ofText k).keys) ∧
      (PolicyAnnotations.ofLabels spec.annotations.toLabels = spec.annotations ↔
        ∀ k ∈ spec.groupLabel, ¬ GroupLabel.HasSeparator k) := by
  have hkeys := keys_annotations hlegal
  have hread := PolicyAnnotations.ofLabels_of_written
    fun e he => PolicyAnnotations.get?_toLabels (p := spec.annotations) he
  have haction : Action.ofText spec.annotations.action.text = spec.annotations.action :=
    Action.ofText_text_ofText spec.action
  have hgroup : (GroupLabel.ofText spec.annotations.groupLabel.text).keys =
      spec.groupLabel.flatMap fun k => (GroupLabel.ofText k).keys := by
    have hdash : ∀ k ∈ spec.annotations.groupLabel.keys, '-' ∉ k.toList.getLast? := by
      intro k hk
      rw [hkeys] at hk
      exact (hlegal k hk).last_ne
    rw [GroupLabel.keys_ofText_text hdash, hkeys]
  rw [hread, haction]
  refine ⟨rfl, rfl, hgroup, ?_⟩
  constructor
  · -- whatever has been read has no two dashes in a row
    intro hsame k hk
    have hlabel : GroupLabel.ofText spec.annotations.groupLabel.text =
        spec.annotations.groupLabel := congrArg PolicyAnnotations.groupLabel hsame
    rw [← hkeys, ← hlabel] at hk
    exact GroupLabel.not_hasSeparator_of_mem hk
  · -- each key is read as itself, and so are all of them together
    intro hplain
    have hone : ∀ k ∈ spec.groupLabel, (GroupLabel.ofText k).keys = [k] := by
      intro k hk
      have hne : k ≠ "" := fun hempty => (hlegal k hk).ne_nil (congrArg String.toList hempty)
      exact GroupLabel.keys_ofText_of_not_hasSeparator hne (hlegal k hk).noBlank (hplain k hk)
    have hlabel : GroupLabel.ofText spec.annotations.groupLabel.text =
        spec.annotations.groupLabel := by
      refine GroupLabel.ext_keys ?_
      calc (GroupLabel.ofText spec.annotations.groupLabel.text).keys
          = spec.groupLabel.flatMap fun k => (GroupLabel.ofText k).keys := hgroup
        _ = spec.groupLabel.flatMap fun k => [k] := List.flatMap_congr hone
        _ = spec.groupLabel := List.flatMap_singleton' _
        _ = spec.annotations.groupLabel.keys := hkeys.symm
    rw [hlabel]

/-! ### Keys with dashes -/

/-- A policy of a team, whose keys have single dashes, and a domain. -/
def teamPolicy : PolicySpec where
  action := "alert"
  groupLabel := ["team-a.io/part-of", "tier_1"]

/-- Its values are read back. -/
theorem ofLabels_toLabels_teamPolicy :
    (∀ k ∈ teamPolicy.groupLabel, IsLabelKey k.toList) ∧
      PolicyAnnotations.ofLabels teamPolicy.annotations.toLabels = teamPolicy.annotations := by
  have hteam : IsDomainPart "team-a".toList := by decide
  have hio : IsDomainPart "io".toList := by decide
  have hname : IsName "part-of".toList := by decide
  have hlegal : ∀ k ∈ teamPolicy.groupLabel, IsLabelKey k.toList := by
    intro k hk
    fin_cases hk
    · exact .within (.dot hteam (.part hio)) hname
    · exact .name (by decide)
  obtain ⟨-, -, -, hsame⟩ := ofLabels_toLabels teamPolicy hlegal
  exact ⟨hlegal, hsame.mpr (by decide)⟩

/-- A policy whose group is told by the key of a domain with two dashes in a row. -/
def domainPolicy : PolicySpec where
  action := "quarantine"
  groupLabel := ["xn--bcher-kva.example/tier"]

/-- **Not all values are read back**: the key of a label may have two dashes in a row, and
what is read has none. -/
theorem not_read_back : ¬ ∀ spec : PolicySpec, (∀ k ∈ spec.groupLabel, IsLabelKey k.toList) →
    PolicyAnnotations.ofLabels spec.annotations.toLabels = spec.annotations := by
  intro hread
  have hpart : IsDomainPart "xn--bcher-kva".toList := by decide
  have hlast : IsDomainPart "example".toList := by decide
  have hname : IsName "tier".toList := by decide
  have hlegal : ∀ k ∈ domainPolicy.groupLabel, IsLabelKey k.toList := by
    intro k hk
    rw [List.mem_singleton.mp hk]
    exact .within (.dot hpart (.part hlast)) hname
  have hsame := congrArg PolicyAnnotations.groupLabel (hread domainPolicy hlegal)
  have hkey : "xn--bcher-kva.example/tier" ∈ domainPolicy.annotations.groupLabel.keys := by
    rw [keys_annotations hlegal]
    exact List.mem_singleton_self _
  rw [← hsame, PolicyAnnotations.ofLabels_of_written
    fun e he => PolicyAnnotations.get?_toLabels he] at hkey
  exact GroupLabel.not_hasSeparator_of_mem hkey (by decide)

end PolicySpec

end SidecarPolicy
