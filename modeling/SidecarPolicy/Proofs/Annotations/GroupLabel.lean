/-
The keys of labels, and the text in which they are joined.

The keys of a group are joined by two dashes, and a text is cut at every two dashes, also
at those that stand in a key.  So joined keys are read back one by one, but a key that has
two dashes in a row is not.

* `IsLabelKey`: the keys of labels: a name, in front of which a domain and a slash may
  stand;
* `GroupLabel.pieces_append`, `GroupLabel.pieces_intercalate`: a joined text is cut where
  it was joined, and each part by itself;
* `GroupLabel.keys_ofText_text`: **what is read of joined keys is what is read of each of
  them**;
* `GroupLabel.not_hasSeparator_of_mem`, `GroupLabel.keys_ofText_of_not_hasSeparator`: no
  key that is read has two dashes in a row, and a key without them is read as it is.
-/
import SidecarPolicy.Annotations.GroupLabel
import SidecarPolicy.Proofs.Text.Blank

namespace SidecarPolicy

/-! ### Label keys -/

/-- A name: letters, digits, dashes, underscores and dots, with a letter or a digit at both
ends. -/
structure IsName (cs : List Char) : Prop where
  chars : ∀ c ∈ cs, c.isAlphanum = true ∨ c ∈ ['-', '_', '.']
  first : ∃ c ∈ cs.head?, c.isAlphanum = true
  last : ∃ c ∈ cs.getLast?, c.isAlphanum = true

/-- A part of a domain: small letters, digits and dashes, with a letter or a digit at both
ends. -/
structure IsDomainPart (cs : List Char) : Prop where
  chars : ∀ c ∈ cs, c.isLower = true ∨ c.isDigit = true ∨ c = '-'
  first : ∃ c ∈ cs.head?, c ≠ '-'
  last : ∃ c ∈ cs.getLast?, c ≠ '-'

/-- A domain: parts with dots between them. -/
inductive IsDomain : List Char → Prop
  | part {cs : List Char} (h : IsDomainPart cs) : IsDomain cs
  | dot {cs rest : List Char} (h : IsDomainPart cs) (hrest : IsDomain rest) :
      IsDomain (cs ++ '.' :: rest)

/-- The key of a label: a name, in front of which a domain and a slash may stand. -/
inductive IsLabelKey : List Char → Prop
  | name {cs : List Char} (h : IsName cs) : IsLabelKey cs
  | within {domain cs : List Char} (hdomain : IsDomain domain) (h : IsName cs) :
      IsLabelKey (domain ++ '/' :: cs)

instance (cs : List Char) : Decidable (IsName cs) :=
  decidable_of_iff ((cs.all fun c => c.isAlphanum || c ∈ ['-', '_', '.']) = true ∧
    cs.head?.any Char.isAlphanum = true ∧ cs.getLast?.any Char.isAlphanum = true) <| by
      simp only [List.all_eq_true, Option.any_eq_true, Bool.or_eq_true, decide_eq_true_eq]
      exact ⟨fun h => ⟨h.1, h.2.1, h.2.2⟩, fun h => ⟨h.chars, h.first, h.last⟩⟩

instance (cs : List Char) : Decidable (IsDomainPart cs) :=
  decidable_of_iff ((cs.all fun c => c.isLower || (c.isDigit || c == '-')) = true ∧
    cs.head?.any (· != '-') = true ∧ cs.getLast?.any (· != '-') = true) <| by
      simp only [List.all_eq_true, Option.any_eq_true, Bool.or_eq_true, beq_iff_eq, bne_iff_ne]
      exact ⟨fun h => ⟨h.1, h.2.1, h.2.2⟩, fun h => ⟨h.chars, h.first, h.last⟩⟩

lemma IsName.noBlank {cs : List Char} (h : IsName cs) : ∀ c ∈ cs, Text.isBlank c = false := by
  intro c hc
  obtain halphanum | hother := h.chars c hc
  · exact Text.isBlank_of_isAlphanum halphanum
  · fin_cases hother <;> rfl

/-- No blank stands in a domain. -/
lemma IsDomain.noBlank {cs : List Char} (h : IsDomain cs) :
    ∀ c ∈ cs, Text.isBlank c = false := by
  have hpart : ∀ {cs : List Char}, IsDomainPart cs → ∀ c ∈ cs, Text.isBlank c = false := by
    intro cs hcs c hc
    obtain hlower | hdigit | rfl := hcs.chars c hc
    · refine Text.isBlank_of_isAlphanum ?_
      show (c.isUpper || c.isLower || c.isDigit) = true
      simp [hlower]
    · refine Text.isBlank_of_isAlphanum ?_
      show (c.isAlpha || c.isDigit) = true
      simp [hdigit]
    · rfl
  induction h with
  | part h => exact hpart h
  | dot h hrest ih =>
      intro c hc
      obtain hc | hc := List.mem_append.mp hc
      · exact hpart h c hc
      · obtain rfl | hc := List.mem_cons.mp hc
        · rfl
        · exact ih c hc

lemma IsName.last_ne {cs : List Char} (h : IsName cs) : '-' ∉ cs.getLast? := by
  obtain ⟨c, hlast, hc⟩ := h.last
  intro hdash
  obtain rfl := Option.mem_unique hlast hdash
  exact absurd hc (by decide)

lemma IsName.ne_nil {cs : List Char} (h : IsName cs) : cs ≠ [] := by
  rintro rfl
  obtain ⟨c, hlast, -⟩ := h.last
  cases hlast

namespace IsLabelKey

variable {cs : List Char}

/-- No blank stands in the key of a label. -/
lemma noBlank (h : IsLabelKey cs) : ∀ c ∈ cs, Text.isBlank c = false := by
  cases h with
  | name h => exact h.noBlank
  | within hdomain h =>
      intro c hc
      obtain hc | hc := List.mem_append.mp hc
      · exact hdomain.noBlank c hc
      · obtain rfl | hc := List.mem_cons.mp hc
        · rfl
        · exact h.noBlank c hc

/-- The key of a label does not end with a dash. -/
lemma last_ne (h : IsLabelKey cs) : '-' ∉ cs.getLast? := by
  cases h with
  | name h => exact h.last_ne
  | @within domain cs hdomain h =>
      have hlast : (domain ++ '/' :: cs).getLast? = cs.getLast? := by
        obtain ⟨c, cs', rfl⟩ := List.exists_cons_of_ne_nil h.ne_nil
        rw [List.getLast?_append_of_ne_nil _ (List.cons_ne_nil _ _), List.getLast?_cons_cons]
      rw [hlast]
      exact h.last_ne

lemma ne_nil (h : IsLabelKey cs) : cs ≠ [] := by
  cases h with
  | name h => exact h.ne_nil
  | within hdomain h => simp

end IsLabelKey

namespace GroupLabel

/-! ### Cutting at two dashes -/

/-- Two dashes in a row, which stand between two keys. -/
abbrev separator : List Char := ['-', '-']

lemma pieces_cons {c : Char} {rest : List Char} (h : ¬ separator <+: c :: rest) :
    pieces (c :: rest) = Text.extendHead c (pieces rest) := by
  rw [pieces]
  rintro rest' rfl rfl
  exact h ⟨rest', rfl⟩

lemma pieces_ne_nil (cs : List Char) : pieces cs ≠ [] := by
  fun_cases pieces cs with
  | case1 => simp
  | case2 rest => simp
  | case3 c rest => cases pieces rest <;> simp [Text.extendHead]

lemma extendHead_append (c : Char) {ps : List (List Char)} (h : ps ≠ []) (qs : List (List Char)) :
    Text.extendHead c (ps ++ qs) = Text.extendHead c ps ++ qs := by
  cases ps with
  | nil => exact absurd rfl h
  | cons p ps => rfl

/-- A text is cut between two texts, unless the first one ends with a dash. -/
lemma pieces_append {cs : List Char} (hlast : '-' ∉ cs.getLast?) (cs' : List Char) :
    pieces (cs ++ (separator ++ cs')) = pieces cs ++ pieces cs' := by
  -- by the cuts of the first text; what is left of it ends as it does
  fun_induction pieces cs with
  | case1 => rfl
  | case2 rest ih =>
      have hrest : '-' ∉ rest.getLast? := by
        intro hmem
        cases rest with
        | nil => cases hmem
        | cons c rest => simp_all
      show pieces ('-' :: '-' :: (rest ++ (separator ++ cs'))) = _
      rw [pieces, ih hrest]
      rfl
  | case3 c rest hother ih =>
      have hrest : '-' ∉ rest.getLast? := by
        intro hmem
        cases rest with
        | nil => cases hmem
        | cons c' rest => simp_all
      -- no cut begins in the first text and ends beyond it
      have hprefix : ¬ separator <+: c :: (rest ++ (separator ++ cs')) := by
        intro hprefix
        obtain ⟨rfl, rest', hrest'⟩ := List.cons_prefix_cons.mp hprefix
        cases rest with
        | nil => exact hlast rfl
        | cons c' rest =>
            obtain ⟨rfl, -⟩ := List.cons.inj hrest'
            exact hother rest rfl rfl
      rw [List.cons_append, pieces_cons hprefix, ih hrest, extendHead_append c (pieces_ne_nil rest)]

/-- A text without two dashes in a row is one piece. -/
lemma pieces_eq_singleton {cs : List Char} (h : ¬ separator <:+: cs) : pieces cs = [cs] := by
  induction cs with
  | nil => rfl
  | cons c rest ih =>
      rw [List.infix_cons_iff, not_or] at h
      rw [pieces_cons h.1, ih h.2]
      rfl

/-- The first piece is the beginning of the text. -/
lemma isPrefix_of_pieces {cs p : List Char} {ps : List (List Char)} (h : pieces cs = p :: ps) :
    p <+: cs := by
  fun_induction pieces cs generalizing p ps with
  | case1 =>
      obtain ⟨rfl, -⟩ := List.cons.inj h
      exact List.prefix_rfl
  | case2 rest ih =>
      obtain ⟨rfl, -⟩ := List.cons.inj h
      exact List.nil_prefix
  | case3 c rest hother ih =>
      cases hpieces : pieces rest with
      | nil => exact absurd hpieces (pieces_ne_nil rest)
      | cons q qs =>
          rw [hpieces, Text.extendHead] at h
          obtain ⟨rfl, -⟩ := List.cons.inj h
          exact List.cons_prefix_cons.mpr ⟨rfl, ih hpieces⟩

/-- No piece has two dashes in a row. -/
lemma not_isInfix_of_mem_pieces {cs p : List Char} (h : p ∈ pieces cs) : ¬ separator <:+: p := by
  fun_induction pieces cs generalizing p with
  | case1 =>
      rw [List.mem_singleton.mp h]
      simp
  | case2 rest ih =>
      obtain rfl | h := List.mem_cons.mp h
      · simp
      · exact ih h
  | case3 c rest hother ih =>
      cases hpieces : pieces rest with
      | nil => exact absurd hpieces (pieces_ne_nil rest)
      | cons q qs =>
          rw [hpieces] at h ih
          obtain rfl | h := List.mem_cons.mp h
          · rw [List.infix_cons_iff, not_or]
            refine ⟨fun hprefix => ?_, ih List.mem_cons_self⟩
            -- the second dash would be the next character of the text
            obtain ⟨rfl, hdash⟩ := List.cons_prefix_cons.mp hprefix
            obtain ⟨rest', rfl⟩ := hdash.trans (isPrefix_of_pieces hpieces)
            exact hother rest' rfl rfl
          · exact ih (List.mem_cons_of_mem q h)

/-- Joined texts are cut where they were joined, and each by itself, if none but the last one
ends with a dash. -/
lemma pieces_intercalate {css : List (List Char)} (hne : css ≠ [])
    (hlast : ∀ cs ∈ css.dropLast, '-' ∉ cs.getLast?) :
    pieces (separator.intercalate css) = css.flatMap pieces := by
  induction css with
  | nil => exact absurd rfl hne
  | cons cs rest ih =>
      cases rest with
      | nil => simp
      | cons cs' rest =>
          rw [List.dropLast_cons_of_ne_nil (List.cons_ne_nil cs' rest)] at hlast
          obtain ⟨hfirst, hothers⟩ := List.forall_mem_cons.mp hlast
          calc pieces (separator.intercalate (cs :: cs' :: rest))
              = pieces (cs ++ (separator ++ separator.intercalate (cs' :: rest))) := by
                rw [List.intercalate_cons_cons, List.append_assoc]
            _ = pieces cs ++ pieces (separator.intercalate (cs' :: rest)) :=
                pieces_append hfirst _
            _ = pieces cs ++ (cs' :: rest).flatMap pieces := by
                rw [ih (List.cons_ne_nil cs' rest) hothers]
            _ = (cs :: cs' :: rest).flatMap pieces := List.flatMap_cons.symm

/-! ### Reading joined keys -/

/-- Two dashes stand in a key, one after the other. -/
def HasSeparator (k : String) : Prop := separator <:+: k.toList

instance (k : String) : Decidable (HasSeparator k) :=
  inferInstanceAs (Decidable (separator <:+: k.toList))

/-- **What is read of joined keys is what is read of each of them**, if none ends with a
dash. -/
theorem keys_ofText_text {g : GroupLabel} (h : ∀ k ∈ g.keys, '-' ∉ k.toList.getLast?) :
    (ofText g.text).keys = g.keys.flatMap fun k => (ofText k).keys := by
  cases hkeys : g.keys with
  | nil =>
      rw [text, hkeys]
      decide
  | cons k rest =>
      have hcut : pieces g.text.toList = (g.keys.map String.toList).flatMap pieces := by
        rw [text, String.toList_intercalate]
        refine pieces_intercalate (by simp [hkeys]) fun cs hcs => ?_
        obtain ⟨k', hk', rfl⟩ := List.mem_map.mp (List.mem_of_mem_dropLast hcs)
        exact h k' hk'
      rw [← hkeys, ofText, ofKeys, hcut]
      simp [ofText, ofKeys, List.flatMap_map, List.map_flatMap, List.filter_flatMap]

lemma not_hasSeparator_of_mem {s k : String} (h : k ∈ (ofText s).keys) : ¬ HasSeparator k := by
  obtain ⟨p, hp, rfl⟩ := List.mem_map.mp (List.mem_of_mem_filter h)
  intro hsep
  rw [HasSeparator, String.toList_ofList] at hsep
  exact not_isInfix_of_mem_pieces hp (hsep.trans (Text.trimmed_isInfix p))

/-- A key without blanks that has no two dashes in a row is read as it is. -/
lemma keys_ofText_of_not_hasSeparator {k : String} (hne : k ≠ "")
    (hblank : ∀ c ∈ k.toList, Text.isBlank c = false) (h : ¬ HasSeparator k) :
    (ofText k).keys = [k] := by
  rw [ofText, ofKeys, pieces_eq_singleton h]
  simp [Text.trimmed_eq_self hblank, hne]

end GroupLabel

end SidecarPolicy
