/-
The group labels that are read back from their text.

A text is cut at the leftmost two dashes, and then at the leftmost ones behind them.  So no
piece but the last one ends with a dash, and none has two of them in a row; and texts of
this kind are cut again where they were joined.  If keys are read back, nothing can have been
trimmed or left out: the text would have been longer.

* `GroupLabel.intercalate_pieces`: the pieces of a text, joined, are the text;
* `GroupLabel.last_ne_of_mem_pieces`: no piece but the last one ends with a dash;
* `GroupLabel.pieces_intercalate_eq_iff`: **the lists of texts that are cut where they were
  joined**;
* `GroupLabel.kept`, `GroupLabel.eq_of_extent_le`: what is kept of pieces, which is less
  unless it is all of them;
* `GroupLabel.kept_pieces_eq_iff`: the lists of keys of which all is kept;
* `GroupLabel.IsWhole`, `GroupLabel.ofText_text_eq_iff`: **the group labels that are read
  back**, and that reading a text without blanks once more makes no difference.
-/
import SidecarPolicy.Proofs.Annotations.GroupLabel

namespace SidecarPolicy.GroupLabel

/-! ### Pieces -/

/-- To put a character in front of the first piece is to put it in front of the text. -/
lemma intercalate_extendHead (c : Char) {ps : List (List Char)} (h : ps ≠ []) :
    separator.intercalate (Text.extendHead c ps) = c :: separator.intercalate ps := by
  cases ps with
  | nil => exact absurd rfl h
  | cons p ps =>
      cases ps with
      | nil => simp [Text.extendHead]
      | cons q qs =>
          rw [Text.extendHead, List.intercalate_cons_cons, List.intercalate_cons_cons,
            List.cons_append, List.cons_append]

/-- The pieces of a text, joined, are the text. -/
lemma intercalate_pieces (cs : List Char) : separator.intercalate (pieces cs) = cs := by
  fun_induction pieces cs with
  | case1 => rfl
  | case2 rest ih =>
      obtain ⟨p, ps, hps⟩ := List.exists_cons_of_ne_nil (pieces_ne_nil rest)
      rw [hps] at ih ⊢
      rw [List.intercalate_cons_cons, ih]
      rfl
  | case3 c rest hother ih => rw [intercalate_extendHead c (pieces_ne_nil rest), ih]

/-- A text begins with a dash if its first piece is empty and not the last one. -/
lemma head?_of_pieces {cs : List Char} {ps : List (List Char)} (hps : ps ≠ [])
    (h : pieces cs = [] :: ps) : '-' ∈ cs.head? := by
  have hjoined := intercalate_pieces cs
  obtain ⟨q, qs, rfl⟩ := List.exists_cons_of_ne_nil hps
  rw [h, List.intercalate_cons_cons] at hjoined
  rw [← hjoined]
  rfl

/-- A piece is a part of the text. -/
lemma isInfix_of_mem_pieces {cs p : List Char} (h : p ∈ pieces cs) : p <:+: cs := by
  fun_induction pieces cs generalizing p with
  | case1 => exact List.mem_singleton.mp h ▸ List.infix_rfl
  | case2 rest ih =>
      obtain rfl | h := List.mem_cons.mp h
      · exact List.nil_infix
      · exact ((ih h).trans (List.infix_cons List.infix_rfl)).trans (List.infix_cons List.infix_rfl)
  | case3 c rest hother ih =>
      obtain ⟨q, qs, hpieces⟩ := List.exists_cons_of_ne_nil (pieces_ne_nil rest)
      rw [hpieces, Text.extendHead] at h
      obtain rfl | h := List.mem_cons.mp h
      · exact (List.cons_prefix_cons.mpr ⟨rfl, isPrefix_of_pieces hpieces⟩).isInfix
      · refine (ih ?_).trans (List.infix_cons List.infix_rfl)
        exact hpieces ▸ List.mem_cons_of_mem q h

/-- No piece but the last one ends with a dash. -/
lemma last_ne_of_mem_pieces {cs p : List Char} (h : p ∈ (pieces cs).dropLast) :
    '-' ∉ p.getLast? := by
  fun_induction pieces cs generalizing p with
  | case1 => cases h
  | case2 rest ih =>
      rw [List.dropLast_cons_of_ne_nil (pieces_ne_nil rest)] at h
      obtain rfl | h := List.mem_cons.mp h
      · simp
      · exact ih h
  | case3 c rest hother ih =>
      obtain ⟨q, qs, hpieces⟩ := List.exists_cons_of_ne_nil (pieces_ne_nil rest)
      rw [hpieces] at ih
      rw [hpieces, Text.extendHead] at h
      cases qs with
      | nil => cases h
      | cons q' qs =>
          rw [List.dropLast_cons_of_ne_nil (List.cons_ne_nil q' qs)] at h ih
          obtain rfl | h := List.mem_cons.mp h
          · cases q with
            | nil =>
                -- two dashes follow, and would have been found one character earlier
                intro hdash
                obtain rfl : c = '-' := Option.some.inj hdash
                have hnext := head?_of_pieces (List.cons_ne_nil q' qs) hpieces
                obtain ⟨rest', rfl⟩ := List.head?_eq_some_iff.mp hnext
                exact hother rest' rfl rfl
            | cons c' q =>
                rw [List.getLast?_cons_cons]
                exact ih List.mem_cons_self
          · exact ih (List.mem_cons_of_mem q h)

/-- **Texts are cut where they were joined** exactly if none has two dashes in a row and none
but the last one ends with a dash. -/
theorem pieces_intercalate_eq_iff {css : List (List Char)} (hne : css ≠ []) :
    pieces (separator.intercalate css) = css ↔
      (∀ cs ∈ css, ¬ separator <:+: cs) ∧ ∀ cs ∈ css.dropLast, '-' ∉ cs.getLast? := by
  constructor
  · intro h
    refine ⟨fun cs hcs => ?_, fun cs hcs => ?_⟩
    · rw [← h] at hcs
      exact not_isInfix_of_mem_pieces hcs
    · rw [← h] at hcs
      exact last_ne_of_mem_pieces hcs
  · rintro ⟨hplain, hlast⟩
    calc pieces (separator.intercalate css)
        = css.flatMap pieces := pieces_intercalate hne hlast
      _ = css.flatMap fun cs => [cs] :=
          List.flatMap_congr fun cs hcs => pieces_eq_singleton (hplain cs hcs)
      _ = css := List.flatMap_singleton' css

/-! ### What is kept -/

/-- What is kept of pieces: they are trimmed, and the empty ones left out. -/
def kept (ps : List (List Char)) : List (List Char) := (ps.map Text.trimmed).filter (· ≠ [])

/-- The keys of a text are what is kept of its pieces. -/
lemma keys_ofText (s : String) : (ofText s).keys = (kept (pieces s.toList)).map String.ofList := by
  have hempty : ∀ cs : List Char, String.ofList cs = "" ↔ cs = [] := by
    intro cs
    rw [← String.toList_eq_nil_iff, String.toList_ofList]
  show ((pieces s.toList).map fun piece => String.ofList (Text.trimmed piece)).filter (· ≠ "") = _
  rw [kept, List.filter_map, List.filter_map, List.map_map]
  simp [Function.comp_def, hempty]

/-- The length of pieces, each with two dashes behind it. -/
def extent (ps : List (List Char)) : Nat := (ps.map (·.length + 2)).sum

lemma extent_cons (p : List Char) (ps : List (List Char)) :
    extent (p :: ps) = p.length + 2 + extent ps := by
  rw [extent, List.map_cons, List.sum_cons]
  rfl

/-- Joined pieces lack the two dashes behind the last one. -/
lemma length_intercalate {ps : List (List Char)} (h : ps ≠ []) :
    (separator.intercalate ps).length + 2 = extent ps := by
  induction ps with
  | nil => exact absurd rfl h
  | cons p ps ih =>
      cases ps with
      | nil => simp [extent]
      | cons q qs =>
          rw [List.intercalate_cons_cons, extent_cons, ← ih (List.cons_ne_nil q qs)]
          simp only [List.length_append, List.length_cons, List.length_nil]
          omega

/-- What is kept of pieces is not longer than they are. -/
lemma extent_kept_le (ps : List (List Char)) : extent (kept ps) ≤ extent ps := by
  induction ps with
  | nil => exact le_rfl
  | cons p ps ih =>
      have hshorter : (Text.trimmed p).length ≤ p.length := (Text.trimmed_isInfix p).length_le
      rw [kept, List.map_cons, extent_cons]
      by_cases hp : Text.trimmed p = []
      · rw [List.filter_cons_of_neg (by simpa using hp)]
        exact ih.trans (Nat.le_add_left _ _)
      · rw [List.filter_cons_of_pos (by simpa using hp), extent_cons]
        exact Nat.add_le_add (Nat.add_le_add_right hshorter 2) ih

/-- If what is kept of pieces is as long as they are, nothing has been trimmed or left
out. -/
lemma eq_of_extent_le {ps : List (List Char)} (h : extent ps ≤ extent (kept ps)) :
    ∀ p ∈ ps, Text.trimmed p = p ∧ p ≠ [] := by
  induction ps with
  | nil => exact fun p hp => absurd hp List.not_mem_nil
  | cons p ps ih =>
      have hshorter : (Text.trimmed p).length ≤ p.length := (Text.trimmed_isInfix p).length_le
      have hothers := extent_kept_le ps
      rw [kept, List.map_cons, extent_cons] at h
      by_cases hp : Text.trimmed p = []
      · rw [List.filter_cons_of_neg (by simpa using hp)] at h
        change _ ≤ extent (kept ps) at h
        omega
      · rw [List.filter_cons_of_pos (by simpa using hp), extent_cons] at h
        change _ ≤ _ + extent (kept ps) at h
        have hlength : (Text.trimmed p).length = p.length := by omega
        have hsame : Text.trimmed p = p := (Text.trimmed_isInfix p).eq_of_length hlength
        exact List.forall_mem_cons.mpr ⟨⟨hsame, hsame ▸ hp⟩, ih (by omega)⟩

/-- Pieces that have no blanks at their ends, and are not empty, are kept. -/
lemma kept_eq_self {ps : List (List Char)} (h : ∀ p ∈ ps, Text.trimmed p = p ∧ p ≠ []) :
    kept ps = ps := by
  have htrimmed : ps.map Text.trimmed = ps := by
    rw [List.map_congr_left fun p hp => (h p hp).1, List.map_id']
  rw [kept, htrimmed, List.filter_eq_self]
  exact fun p hp => by simpa using (h p hp).2

/-- **All is kept of joined keys** exactly if they are cut where they were joined and have no
blanks at their ends. -/
theorem kept_pieces_eq_iff {css : List (List Char)} (hne : css ≠ [])
    (hkeys : ∀ cs ∈ css, cs ≠ []) :
    kept (pieces (separator.intercalate css)) = css ↔
      pieces (separator.intercalate css) = css ∧ ∀ cs ∈ css, Text.trimmed cs = cs := by
  constructor
  · intro h
    generalize hps : pieces (separator.intercalate css) = ps at h ⊢
    have hpieces : ps ≠ [] := hps ▸ pieces_ne_nil _
    -- the text that is cut and the joined keys are one
    have hextent := calc
      extent ps = (separator.intercalate ps).length + 2 := (length_intercalate hpieces).symm
      _ = (separator.intercalate css).length + 2 := by rw [← hps, intercalate_pieces]
      _ = extent css := length_intercalate hne
      _ = extent (kept ps) := by rw [h]
    have hall := eq_of_extent_le hextent.le
    have hsame : ps = css := (kept_eq_self hall).symm.trans h
    exact ⟨hsame, fun cs hcs => (hall cs (hsame ▸ hcs)).1⟩
  · rintro ⟨hcut, htrimmed⟩
    rw [hcut]
    exact kept_eq_self fun cs hcs => ⟨htrimmed cs hcs, hkeys cs hcs⟩

/-! ### Group labels -/

/-- A key that has no blanks at its ends and no two dashes in a row. -/
structure IsWhole (k : String) : Prop where
  first : ∀ c ∈ k.toList.head?, Text.isBlank c = false
  last : ∀ c ∈ k.toList.getLast?, Text.isBlank c = false
  plain : ¬ HasSeparator k

instance (k : String) : Decidable (IsWhole k) :=
  decidable_of_iff ((k.toList.head?.all fun c => !Text.isBlank c) = true ∧
    (k.toList.getLast?.all fun c => !Text.isBlank c) = true ∧ ¬ HasSeparator k) <| by
      simp only [Option.all_eq_true, Bool.not_eq_true']
      exact ⟨fun h => ⟨h.1, h.2.1, h.2.2⟩, fun h => ⟨h.first, h.last, h.plain⟩⟩

/-- A key ends with a dash. -/
def EndsWithDash (k : String) : Prop := '-' ∈ k.toList.getLast?

instance (k : String) : Decidable (EndsWithDash k) :=
  inferInstanceAs (Decidable ('-' ∈ k.toList.getLast?))

/-- A group label is read back exactly if its keys are whole and none but the last one ends
with a dash. -/
lemma ofText_text_eq_self_iff (g : GroupLabel) :
    ofText g.text = g ↔
      (∀ k ∈ g.keys, IsWhole k) ∧ ∀ k ∈ g.keys.dropLast, ¬ EndsWithDash k := by
  -- without keys there is nothing to join, and nothing is read as no keys
  by_cases hempty : g.keys = []
  · have hg : g = empty := ext_keys hempty
    subst hg
    exact iff_of_true (by decide) ⟨by simp [empty], by simp [empty]⟩
  have hne : g.keys.map String.toList ≠ [] := by simpa using hempty
  have hkeys : ∀ cs ∈ g.keys.map String.toList, cs ≠ [] := by
    intro cs hcs
    obtain ⟨k, hk, rfl⟩ := List.mem_map.mp hcs
    exact mt String.toList_eq_nil_iff.mp (g.nonempty k hk)
  calc ofText g.text = g
      ↔ (ofText g.text).keys = g.keys := ⟨congrArg keys, ext_keys⟩
    _ ↔ kept (pieces (separator.intercalate (g.keys.map String.toList))) =
          g.keys.map String.toList := by
        have htext : g.text.toList = separator.intercalate (g.keys.map String.toList) := by
          rw [text, String.toList_intercalate]
          rfl
        rw [keys_ofText, htext]
        constructor
        · intro h
          have hback := congrArg (List.map String.toList) h
          simpa [Function.comp_def] using hback
        · intro h
          have hback := congrArg (List.map String.ofList) h
          simpa [Function.comp_def] using hback
    _ ↔ ((∀ cs ∈ g.keys.map String.toList, ¬ separator <:+: cs) ∧
          ∀ cs ∈ (g.keys.map String.toList).dropLast, '-' ∉ cs.getLast?) ∧
          ∀ cs ∈ g.keys.map String.toList, Text.trimmed cs = cs := by
        rw [kept_pieces_eq_iff hne hkeys, pieces_intercalate_eq_iff hne]
    _ ↔ (∀ k ∈ g.keys, IsWhole k) ∧ ∀ k ∈ g.keys.dropLast, ¬ EndsWithDash k := by
        rw [← List.map_dropLast]
        simp only [List.forall_mem_map, Text.trimmed_eq_self_iff]
        constructor
        · rintro ⟨⟨hplain, hdash⟩, htrimmed⟩
          exact ⟨fun k hk => ⟨(htrimmed k hk).1, (htrimmed k hk).2, hplain k hk⟩, hdash⟩
        · rintro ⟨hwhole, hdash⟩
          exact ⟨⟨fun k hk => (hwhole k hk).plain, hdash⟩,
            fun k hk => ⟨(hwhole k hk).first, (hwhole k hk).last⟩⟩

/-- What is kept of a text without blanks are its pieces, the empty ones left out. -/
lemma kept_of_noBlank {cs : List Char} (h : ∀ c ∈ cs, Text.isBlank c = false) :
    kept (pieces cs) = (pieces cs).filter (· ≠ []) := by
  have htrimmed : (pieces cs).map Text.trimmed = pieces cs := by
    refine (List.map_congr_left fun p hp => ?_).trans (List.map_id' _)
    exact Text.trimmed_eq_self fun c hc => h c ((isInfix_of_mem_pieces hp).subset hc)
  rw [kept, htrimmed]

/-- The keys of a text without blanks are read back. -/
lemma ofText_text_of_noBlank {s : String} (h : ∀ c ∈ s.toList, Text.isBlank c = false) :
    ofText (ofText s).text = ofText s := by
  have hkeys : (ofText s).keys = ((pieces s.toList).filter (· ≠ [])).map String.ofList := by
    rw [keys_ofText, kept_of_noBlank h]
  have hblank : ∀ k ∈ (ofText s).keys, ∀ c ∈ k.toList, Text.isBlank c = false := by
    intro k hk c hc
    rw [hkeys] at hk
    obtain ⟨p, hp, rfl⟩ := List.mem_map.mp hk
    rw [String.toList_ofList] at hc
    exact h c ((isInfix_of_mem_pieces (List.mem_of_mem_filter hp)).subset hc)
  refine (ofText_text_eq_self_iff _).mpr ⟨fun k hk => ?_, fun k hk => ?_⟩
  · exact ⟨fun c hc => hblank k hk c (List.mem_of_head? hc),
      fun c hc => hblank k hk c (List.mem_of_getLast? hc), not_hasSeparator_of_mem hk⟩
  · rw [hkeys, ← List.map_dropLast] at hk
    obtain ⟨p, hp, rfl⟩ := List.mem_map.mp hk
    rw [EndsWithDash, String.toList_ofList]
    -- what is kept, but for its last piece, is kept of all but the last piece
    have hkept := (List.filter_sublist (p := (· ≠ [])) (l := pieces s.toList)).reverse.tail
    rw [List.tail_reverse, List.tail_reverse, List.reverse_sublist] at hkept
    exact last_ne_of_mem_pieces (hkept.subset hp)

/-- **The group labels that are read back**, whatever keys are collected: those of which no key
begins or ends with a blank or has two dashes in a row, and no key but the last one ends with
a dash.  And what is read of a text without blanks is always read back. -/
theorem ofText_text_eq_iff :
    (∀ keys : List String, ofText (ofKeys keys).text = ofKeys keys ↔
      (∀ k ∈ (ofKeys keys).keys, IsWhole k) ∧
        ∀ k ∈ (ofKeys keys).keys.dropLast, ¬ EndsWithDash k) ∧
    ∀ s : String, (∀ c ∈ s.toList, Text.isBlank c = false) →
      ofText (ofText s).text = ofText s :=
  ⟨fun keys => ofText_text_eq_self_iff (ofKeys keys), fun _ h => ofText_text_of_noBlank h⟩

/-- The last key may end with a dash, and any key may begin with one.  Of five dashes in a text
the last one stays with the key behind it, where it is found again. -/
theorem ofText_text_eq_iff_tier :
    ofText (ofKeys ["part-of", "", "-tier-"]).text = ofKeys ["part-of", "", "-tier-"] ∧
    ofText (ofKeys ["tier-", "app"]).text ≠ ofKeys ["tier-", "app"] ∧
    (ofText "app-----tier").keys = ["app", "-tier"] ∧
    ofText (ofText "app-----tier").text = ofText "app-----tier" := by
  have hblank : ("app-----tier".toList.all fun c => !Text.isBlank c) = true := by decide
  refine ⟨(ofText_text_eq_iff.1 _).mpr (by decide), mt (ofText_text_eq_iff.1 _).mp (by decide),
    by decide, ofText_text_eq_iff.2 _ fun c hc => ?_⟩
  simpa using List.all_eq_true.mp hblank c hc

end SidecarPolicy.GroupLabel
