/-
Sequences cut at a separator.

* `Text.splitOn_append_cons`: a separator divides a sequence into a first piece and the pieces
  of the rest;
* `Text.splitOn_intercalate`: **joined pieces are cut where they were joined**;
* `Text.intercalate_eq_empty_iff`: joined pieces are not empty, but for one that is;
* `Text.cut_append_cons`, `Text.cut_fst_eq_iff`: **a sequence is cut at its first separator**;
* `Text.cut_append_of_mem`: what follows behind it makes no difference to the first part.
-/
import Mathlib.Tactic
import SidecarPolicy.Text.Pieces

namespace SidecarPolicy.Text

variable {α : Type} [DecidableEq α] {sep : α}

/-! ### All separators -/

lemma splitOn_of_not_mem {l : List α} (h : sep ∉ l) : splitOn sep l = [l] := by
  induction l with
  | nil => rfl
  | cons a rest ih =>
      obtain ⟨ha, hrest⟩ := not_or.mp (mt List.mem_cons.mpr h)
      rw [splitOn, if_neg (Ne.symm ha), ih hrest]
      rfl

lemma splitOn_append_cons {l : List α} (h : sep ∉ l) (rest : List α) :
    splitOn sep (l ++ sep :: rest) = l :: splitOn sep rest := by
  induction l with
  | nil => rw [List.nil_append, splitOn, if_pos rfl]
  | cons a l ih =>
      obtain ⟨ha, hl⟩ := not_or.mp (mt List.mem_cons.mpr h)
      rw [List.cons_append, splitOn, if_neg (Ne.symm ha), ih hl]
      rfl

/-- **Pieces that are joined by a separator are cut where they were joined.** -/
theorem splitOn_intercalate {pieces : List (List α)} (hne : pieces ≠ [])
    (h : ∀ piece ∈ pieces, sep ∉ piece) : splitOn sep ([sep].intercalate pieces) = pieces := by
  induction pieces with
  | nil => exact absurd rfl hne
  | cons piece rest ih =>
      obtain ⟨hpiece, hrest⟩ := List.forall_mem_cons.mp h
      cases rest with
      | nil => rw [List.intercalate_singleton, splitOn_of_not_mem hpiece]
      | cons piece' rest =>
          rw [List.intercalate_cons_cons, List.append_assoc, List.singleton_append,
            splitOn_append_cons hpiece, ih (List.cons_ne_nil _ _) hrest]

/-- Texts that are joined by commas give the empty text if there are none, or only an empty
one. -/
lemma intercalate_eq_empty_iff {texts : List String} :
    ",".intercalate texts = "" ↔ texts = [] ∨ texts = [""] := by
  rw [← String.toList_eq_nil_iff, String.toList_intercalate]
  cases texts with
  | nil => simp
  | cons t rest =>
      cases rest with
      | nil => simp
      | cons t' rest => simp [List.intercalate_cons_cons]

/-! ### The first separator -/

lemma cut_append_cons {l : List α} (h : sep ∉ l) (rest : List α) :
    cut sep (l ++ sep :: rest) = (l, some rest) := by
  induction l with
  | nil => rw [List.nil_append, cut, if_pos rfl]
  | cons a l ih =>
      obtain ⟨ha, hl⟩ := not_or.mp (mt List.mem_cons.mpr h)
      rw [List.cons_append, cut, if_neg (Ne.symm ha), ih hl]

lemma cut_of_not_mem {l : List α} (h : sep ∉ l) : cut sep l = (l, none) := by
  induction l with
  | nil => rfl
  | cons a l ih =>
      obtain ⟨ha, hl⟩ := not_or.mp (mt List.mem_cons.mpr h)
      rw [cut, if_neg (Ne.symm ha), ih hl]

lemma not_mem_cut (sep : α) (l : List α) : sep ∉ (cut sep l).1 := by
  induction l with
  | nil => exact List.not_mem_nil
  | cons a l ih =>
      rw [cut]
      split_ifs with ha
      · exact List.not_mem_nil
      · exact fun h => (List.mem_cons.mp h).elim (fun heq => ha heq.symm) ih

/-- The first part is all there is, or a separator follows on it. -/
lemma eq_cut_or (sep : α) (l : List α) :
    l = (cut sep l).1 ∨ ∃ rest, l = (cut sep l).1 ++ sep :: rest := by
  induction l with
  | nil => exact .inl rfl
  | cons a l ih =>
      rw [cut]
      split_ifs with ha
      · exact .inr ⟨l, by rw [ha, List.nil_append]⟩
      · exact ih.imp (congrArg (List.cons a)) fun ⟨rest, h⟩ => ⟨rest, congrArg (List.cons a) h⟩

/-- **The first part of a sequence** holds no separator, and it is all there is or a separator
follows on it. -/
theorem cut_fst_eq_iff {l part : List α} :
    (cut sep l).1 = part ↔ sep ∉ part ∧ (l = part ∨ ∃ rest, l = part ++ sep :: rest) := by
  constructor
  · rintro rfl
    exact ⟨not_mem_cut sep l, eq_cut_or sep l⟩
  · rintro ⟨hpart, rfl | ⟨rest, rfl⟩⟩
    · rw [cut_of_not_mem hpart]
    · rw [cut_append_cons hpart]

/-- Behind a separator nothing makes a difference to the first part. -/
lemma cut_append_of_mem {l : List α} (h : sep ∈ l) (rest : List α) :
    (cut sep (l ++ rest)).1 = (cut sep l).1 := by
  induction l with
  | nil => exact absurd h List.not_mem_nil
  | cons a l ih =>
      rw [List.cons_append, cut, cut]
      split_ifs with ha
      · rfl
      · exact congrArg (List.cons a) (ih ((List.mem_cons.mp h).resolve_left (Ne.symm ha)))

end SidecarPolicy.Text
