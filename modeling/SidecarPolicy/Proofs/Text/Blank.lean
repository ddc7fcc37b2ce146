/-
Blanks at the ends of a text.

* `Text.trimmed_isInfix`: trimming leaves a part of a text;
* `Text.IsTrimming`, `Text.trimmed_eq_iff`: **what trimming leaves stands between blanks, and
  no blank stands at its ends**;
* `Text.trimmed_eq_self_iff`: the texts from which nothing is taken away;
* `Text.isBlank_of_isAlphanum`: letters and digits are not blank.
-/
import Mathlib.Tactic
import SidecarPolicy.Text.Blank

namespace SidecarPolicy.Text

/-! ### Trimming -/

lemma trimmed_isInfix (cs : List Char) : trimmed cs <:+: cs := by
  have hback : trimmed cs <+: cs.dropWhile isBlank := by
    rw [← List.reverse_suffix, trimmed, List.reverse_reverse]
    exact List.dropWhile_suffix _
  exact hback.isInfix.trans (List.dropWhile_suffix _).isInfix

/-- A text between blanks, with no blank at its own ends. -/
structure IsTrimming (cs body : List Char) : Prop where
  between : ∃ before after, cs = before ++ body ++ after ∧
    (∀ c ∈ before, isBlank c = true) ∧ ∀ c ∈ after, isBlank c = true
  first : ∀ c ∈ body.head?, isBlank c = false
  last : ∀ c ∈ body.getLast?, isBlank c = false

/-- Nothing is dropped in front of a text that does not begin with a blank. -/
lemma dropWhile_isBlank_of_head {cs : List Char} (h : ∀ c ∈ cs.head?, isBlank c = false) :
    cs.dropWhile isBlank = cs := by
  cases cs with
  | nil => rfl
  | cons c rest => rw [List.dropWhile_cons_of_neg (by simp [h c rfl])]

lemma head_dropWhile_isBlank (cs : List Char) :
    ∀ c ∈ (cs.dropWhile isBlank).head?, isBlank c = false := by
  intro c hc
  have hhead := List.head?_dropWhile_not isBlank cs
  rw [Option.mem_def.mp hc] at hhead
  exact hhead

/-- A text is blanks and what is left when these have been dropped. -/
lemma exists_blanks (cs : List Char) :
    ∃ blanks, cs = blanks ++ cs.dropWhile isBlank ∧ ∀ c ∈ blanks, isBlank c = true :=
  ⟨cs.takeWhile isBlank, List.takeWhile_append_dropWhile.symm,
    List.all_eq_true.mp List.all_takeWhile⟩

/-- What trimming leaves stands between blanks, and no blank stands at its ends. -/
lemma isTrimming_trimmed (cs : List Char) : IsTrimming cs (trimmed cs) := by
  obtain ⟨before, hcs, hbefore⟩ := exists_blanks cs
  obtain ⟨after, hrest, hafter⟩ := exists_blanks (cs.dropWhile isBlank).reverse
  have hback : cs.dropWhile isBlank = trimmed cs ++ after.reverse := by
    rw [← List.reverse_reverse (cs.dropWhile isBlank), hrest, List.reverse_append, trimmed]
  refine ⟨⟨before, after.reverse, ?_, hbefore, ?_⟩, fun c hc => ?_, fun c hc => ?_⟩
  · rw [List.append_assoc, ← hback]
    exact hcs
  · exact fun c hc => hafter c (List.mem_reverse.mp hc)
  · have hhead : c ∈ (cs.dropWhile isBlank).head? := by
      rw [hback]
      exact List.mem_head?_append_of_mem_head? hc
    exact head_dropWhile_isBlank cs c hhead
  · rw [trimmed, List.getLast?_reverse] at hc
    exact head_dropWhile_isBlank _ c hc

/-- **What trimming leaves** is the part between blanks that has no blank at its ends. -/
theorem trimmed_eq_iff {cs body : List Char} : trimmed cs = body ↔ IsTrimming cs body := by
  constructor
  · rintro rfl
    exact isTrimming_trimmed cs
  · rintro ⟨⟨before, after, rfl, hbefore, hafter⟩, hfirst, hlast⟩
    have hafter' : ∀ c ∈ after.reverse, isBlank c = true :=
      fun c hc => hafter c (List.mem_reverse.mp hc)
    rw [trimmed, List.append_assoc, List.dropWhile_append_of_pos hbefore]
    cases body with
    | nil =>
        have hnone : after.dropWhile isBlank = [] := by
          rw [← List.append_nil after, List.dropWhile_append_of_pos hafter]
          rfl
        rw [List.nil_append, hnone]
        rfl
    | cons c rest =>
        have hreverse : ∀ c' ∈ (c :: rest).reverse.head?, isBlank c' = false := by
          rw [List.head?_reverse]
          exact hlast
        have hkept : (c :: rest ++ after).dropWhile isBlank = c :: rest ++ after :=
          dropWhile_isBlank_of_head hfirst
        rw [hkept, List.reverse_append, List.dropWhile_append_of_pos hafter',
          dropWhile_isBlank_of_head hreverse, List.reverse_reverse]

/-- Trimming takes nothing from a text exactly if no blank stands at its ends. -/
lemma trimmed_eq_self_iff {cs : List Char} :
    trimmed cs = cs ↔
      (∀ c ∈ cs.head?, isBlank c = false) ∧ ∀ c ∈ cs.getLast?, isBlank c = false := by
  rw [trimmed_eq_iff]
  constructor
  · exact fun h => ⟨h.first, h.last⟩
  · rintro ⟨hfirst, hlast⟩
    exact ⟨⟨[], [], by simp, by simp, by simp⟩, hfirst, hlast⟩

lemma trimmed_eq_self {cs : List Char} (h : ∀ c ∈ cs, isBlank c = false) : trimmed cs = cs :=
  trimmed_eq_self_iff.mpr
    ⟨fun c hc => h c (List.mem_of_head? hc), fun c hc => h c (List.mem_of_getLast? hc)⟩

/-! ### Letters and digits -/

lemma isBlank_of_isAlphanum {c : Char} (h : c.isAlphanum = true) : isBlank c = false := by
  have hranges : (65 ≤ c.toNat ∧ c.toNat ≤ 90 ∨ 97 ≤ c.toNat ∧ c.toNat ≤ 122) ∨
      48 ≤ c.toNat ∧ c.toNat ≤ 57 := by
    have hletter : (decide (65 ≤ c.val ∧ c.val ≤ 90) || decide (97 ≤ c.val) && decide (c.val ≤ 122)
      || decide (48 ≤ c.val) && decide (c.val ≤ 57)) = true := h
    simpa [UInt32.le_iff_toNat_le] using hletter
  simp [isBlank]
  omega

end SidecarPolicy.Text
