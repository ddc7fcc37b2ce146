/-
How a selector is written.

Its required labels and its requirements are written onto one row, which knows of itself
whether a comma is due.  So what stands on the row is the pieces with commas between them,
however many of them there are and whichever of the two parts is missing.

* `Row.Shows`: the pieces that stand on a row;
* `Row.Shows.write`, `Row.Shows.foldl`: one piece more, and many of them;
* `Selector.canonical_eq`: **a selector is written as its pieces with commas between them**;
* `commaPieces`, `commaPieces_intercalate`: such a text is cut into its pieces again;
* `OuterFree`, `outerFree_intercalate`: no comma stands outside of the pieces;
* `Selector.canonical_ofPairs`: **each key of some pairs is written once, with its last
  value**.
-/
import SidecarPolicy.Proofs.Selector
import SidecarPolicy.Proofs.Text.Pieces

namespace SidecarPolicy

/-! ### Rows -/

namespace Row

variable {row : Row} {pieces : List String}

/-- A row shows its pieces: they stand there with commas between them, and the next piece is
the first one if there are none. -/
structure Shows (row : Row) (pieces : List String) : Prop where
  text : row.text = ",".intercalate pieces
  first : row.first = pieces.isEmpty

/-- One more piece is shown behind the others. -/
lemma Shows.write (h : row.Shows pieces) (piece : String) :
    (row.write piece).Shows (pieces ++ [piece]) := by
  refine ⟨?_, by simp [Row.write]⟩
  rw [Row.write, h.first, h.text]
  cases pieces with
  | nil => simp
  | cons p rest =>
      rw [String.intercalate_append_of_ne_nil (List.cons_ne_nil p rest) (List.cons_ne_nil piece []),
        String.intercalate_singleton]
      rfl

/-- Pieces that are written one after another are shown in their order. -/
lemma Shows.foldl {α : Type} (h : row.Shows pieces) (piece : α → String) (items : List α) :
    (items.foldl (fun row a => row.write (piece a)) row).Shows (pieces ++ items.map piece) := by
  induction items generalizing row pieces with
  | nil => rwa [List.map_nil, List.append_nil]
  | cons a items ih =>
      have hmore := ih (h.write (piece a))
      rwa [List.append_assoc, List.singleton_append] at hmore

end Row

namespace Selector

/-- **A selector is written as its pieces with commas between them**: its required labels in
key order, then its requirements. -/
theorem canonical_eq (s : Selector) :
    s.canonical =
      ",".intercalate (s.equalities.map equality ++ s.expressions.map Expression.canonical) := by
  have hnone : Row.Shows {} [] := ⟨rfl, rfl⟩
  exact ((hnone.foldl equality s.equalities).foldl Expression.canonical s.expressions).text

end Selector

/-! ### Joined pieces -/

/-- The pieces of a text between its commas.  An empty text has none. -/
def commaPieces (text : String) : List String :=
  if text = "" then [] else (Text.splitOn ',' text.toList).map String.ofList

/-- Pieces without commas are found again between the commas. -/
lemma commaPieces_intercalate {pieces : List String} (hne : ∀ p ∈ pieces, p ≠ "")
    (h : ∀ p ∈ pieces, ',' ∉ p.toList) : commaPieces (",".intercalate pieces) = pieces := by
  cases pieces with
  | nil => rfl
  | cons p rest =>
      have hcommas : ∀ cs ∈ (p :: rest).map String.toList, ',' ∉ cs := by
        intro cs hcs
        obtain ⟨q, hq, rfl⟩ := List.mem_map.mp hcs
        exact h q hq
      have hsome : ",".intercalate (p :: rest) ≠ "" := by
        rw [Ne, Text.intercalate_eq_empty_iff, List.cons.injEq]
        rintro (hnone | ⟨hp, -⟩)
        · cases hnone
        · exact hne p List.mem_cons_self hp
      rw [commaPieces, if_neg hsome, String.toList_intercalate]
      refine (congrArg (List.map String.ofList)
        (Text.splitOn_intercalate (by simp) hcommas)).trans ?_
      rw [List.map_map]
      exact (List.map_congr_left fun q _ => String.ofList_toList).trans (List.map_id _)

/-- A text begins and ends with something else than a comma. -/
structure OuterFree (text : String) : Prop where
  first : ∃ c ∈ text.toList.head?, c ≠ ','
  last : ∃ c ∈ text.toList.getLast?, c ≠ ','

/-- With a comma between them, two such texts make up another one. -/
lemma OuterFree.join {p q : String} (hp : OuterFree p) (hq : OuterFree q) :
    OuterFree (p ++ "," ++ q) := by
  obtain ⟨c, hc, hfirst⟩ := hp.first
  obtain ⟨d, hd, hlast⟩ := hq.last
  refine ⟨⟨c, ?_, hfirst⟩, d, ?_, hlast⟩
  · rw [String.toList_append, String.toList_append, List.head?_append, List.head?_append, hc]
    rfl
  · rw [String.toList_append, List.getLast?_append, hd]
    rfl

/-- **No comma stands outside of the pieces.** -/
theorem outerFree_intercalate {pieces : List String} (hne : pieces ≠ [])
    (h : ∀ p ∈ pieces, OuterFree p) : OuterFree (",".intercalate pieces) := by
  induction pieces with
  | nil => exact absurd rfl hne
  | cons p rest ih =>
      obtain ⟨hp, hrest⟩ := List.forall_mem_cons.mp h
      cases rest with
      | nil => rwa [String.intercalate_singleton]
      | cons q rest =>
          rw [String.intercalate_cons_cons]
          exact hp.join (ih (List.cons_ne_nil q rest) hrest)

/-- A text begins with something else than a comma if none stands before a mark. -/
lemma head_ne_comma {mark : Char} {cs : List Char} (hmark : mark ≠ ',') (h : ',' ∉ cs)
    (rest : List Char) : ∃ c ∈ (cs ++ mark :: rest).head?, c ≠ ',' := by
  cases cs with
  | nil => exact ⟨mark, rfl, hmark⟩
  | cons c cs => exact ⟨c, rfl, fun heq => h (heq ▸ List.mem_cons_self)⟩

/-- A text ends with something else than a comma if none stands behind a mark. -/
lemma last_ne_comma {mark : Char} {cs : List Char} (hmark : mark ≠ ',') (h : ',' ∉ cs)
    (rest : List Char) : ∃ c ∈ (rest ++ mark :: cs).getLast?, c ≠ ',' := by
  have hlast := List.getLast?_eq_some_getLast (List.cons_ne_nil mark cs)
  refine ⟨_, (List.getLast?_append_of_ne_nil rest (List.cons_ne_nil mark cs)).trans hlast, ?_⟩
  intro heq
  obtain hfound | hfound := List.mem_cons.mp (heq ▸ List.getLast_mem (List.cons_ne_nil mark cs))
  · exact hmark hfound.symm
  · exact h hfound

namespace Selector

variable {s : Selector} {e : String × String}

/-! ### The pieces of a selector -/

lemma toList_equality (e : String × String) :
    (equality e).toList = e.1.toList ++ '=' :: e.2.toList := by
  simp [equality]

lemma equality_ne_empty (e : String × String) : equality e ≠ "" := by
  rw [← String.toList_eq_nil_iff.ne, toList_equality]
  simp

/-- A required label whose key and value have no commas is written without any. -/
lemma comma_not_mem_equality (h : ',' ∉ e.1.toList ∧ ',' ∉ e.2.toList) :
    ',' ∉ (equality e).toList := by
  rw [toList_equality, List.mem_append, List.mem_cons, not_or, not_or]
  exact ⟨h.1, by decide, h.2⟩

lemma outerFree_equality (h : ',' ∉ e.1.toList ∧ ',' ∉ e.2.toList) : OuterFree (equality e) where
  first := toList_equality e ▸ head_ne_comma (by decide) h.1 _
  last := toList_equality e ▸ last_ne_comma (by decide) h.2 _

/-- A requirement ends with a bracket, and its key ends before a blank. -/
lemma outerFree_expression {e : Expression} (h : ',' ∉ e.key.toList) :
    OuterFree e.canonical := by
  have hkey : e.canonical.toList =
      e.key.toList ++ ' ' :: (e.operator.toList ++ " (".toList ++ e.valueList.toList ++ [')']) := by
    simp [Expression.canonical]
  have hend : e.canonical.toList =
      (e.key.toList ++ " ".toList ++ e.operator.toList ++ " (".toList ++ e.valueList.toList) ++
        [')'] := by
    simp [Expression.canonical]
  exact ⟨hkey ▸ head_ne_comma (by decide) h _, hend ▸ last_ne_comma (by decide) (by simp) _⟩

/-- The selector without its requirements. -/
def labelsOnly (s : Selector) : Selector := { s with matchExpressions := none }

lemma canonical_of_expressions (h : s.expressions = []) :
    s.canonical = ",".intercalate (s.equalities.map equality) := by
  rw [canonical_eq, h, List.map_nil, List.append_nil]

/-- The required labels are joined before the requirements are. -/
lemma canonical_eq_join (s : Selector) :
    s.canonical = ",".intercalate ((if s.equalities = [] then [] else [s.labelsOnly.canonical]) ++
      s.expressions.map Expression.canonical) := by
  have hlabels : s.labelsOnly.canonical = ",".intercalate (s.equalities.map equality) :=
    canonical_of_expressions rfl
  rw [canonical_eq, hlabels]
  split_ifs with hnone
  · rw [hnone, List.map_nil]
  · have hpieces : s.equalities.map equality ≠ [] := mt List.map_eq_nil_iff.mp hnone
    cases hes : s.expressions.map Expression.canonical with
    | nil => rw [List.append_nil, List.append_nil, String.intercalate_singleton]
    | cons p rest =>
        rw [String.intercalate_append_of_ne_nil hpieces (List.cons_ne_nil p rest),
          List.singleton_append, String.intercalate_cons_cons]

/-- A selector is written without commas outside of its pieces. -/
lemma outerFree_canonical (hlabels : ∀ e ∈ s.equalities, ',' ∉ e.1.toList ∧ ',' ∉ e.2.toList)
    (hkeys : ∀ e ∈ s.expressions, ',' ∉ e.key.toList) (hne : s.isEmpty = false) :
    OuterFree s.canonical := by
  rw [canonical_eq]
  refine outerFree_intercalate ?_ fun p hp => ?_
  · intro hnone
    obtain ⟨hequalities, hexpressions⟩ := List.append_eq_nil_iff.mp hnone
    rw [isEmpty, List.map_eq_nil_iff.mp hequalities, List.map_eq_nil_iff.mp hexpressions] at hne
    cases hne
  · obtain hp | hp := List.mem_append.mp hp
    · obtain ⟨e, he, rfl⟩ := List.mem_map.mp hp
      exact outerFree_equality (hlabels e he)
    · obtain ⟨e, he, rfl⟩ := List.mem_map.mp hp
      exact outerFree_expression (hkeys e he)

/-! ### Selectors that are made of pairs -/

variable {pairs : List (String × String)}

lemma mem_equalities_ofPairs {key value : String} :
    (key, value) ∈ (ofPairs pairs).equalities ↔ pairs.reverse.lookup key = some value := by
  rw [← KeyMap.get?_ofList]
  exact KeyMap.mem_entries_iff

lemma mem_of_mem_equalities_ofPairs (h : e ∈ (ofPairs pairs).equalities) : e ∈ pairs := by
  obtain ⟨before, after, hsplit, -⟩ := List.lookup_eq_some_iff.mp (mem_equalities_ofPairs.mp h)
  rw [← List.mem_reverse, hsplit]
  exact List.mem_append_right before List.mem_cons_self

/-- Nothing is required only if there are no pairs. -/
lemma equalities_ofPairs_eq_nil_iff : (ofPairs pairs).equalities = [] ↔ pairs = [] := by
  constructor
  · intro hnone
    refine List.eq_nil_iff_forall_not_mem.mpr fun e he => ?_
    cases hlast : pairs.reverse.lookup e.1 with
    | none =>
        have hother := List.lookup_eq_none_iff.mp hlast e (List.mem_reverse.mpr he)
        exact absurd rfl (bne_iff_ne.mp hother)
    | some value =>
        have hmem := mem_equalities_ofPairs.mpr hlast
        rw [hnone] at hmem
        cases hmem
  · rintro rfl
    rfl

/-- Only the selector of no pairs is written as nothing. -/
lemma canonical_ofPairs_eq_empty_iff : (ofPairs pairs).canonical = "" ↔ pairs = [] := by
  rw [canonical_of_expressions rfl, Text.intercalate_eq_empty_iff, List.map_eq_nil_iff,
    equalities_ofPairs_eq_nil_iff, or_iff_left]
  intro hempty
  obtain ⟨e, -, he⟩ := List.map_eq_singleton_iff.mp hempty
  exact equality_ne_empty e he

/-- **How a selector is written.**  A selector that is made of pairs whose keys and values have
no commas is written as `key=value` for each key, in the order of the keys, with the last value
of the key; cut at its commas, the text is just these pieces, and it is empty only if there are
no pairs.  The order of pairs with distinct keys makes no difference, and the query of such a
selector is the same text.  If there are requirements besides, they follow in their order: what
is written of the labels, if there are any, and the requirements are joined by single commas, and
none stands before or behind them. -/
theorem canonical_ofPairs (pairs : List (String × String)) :
    ((∀ e ∈ pairs, ',' ∉ e.1.toList ∧ ',' ∉ e.2.toList) →
      ∃ rows : List (String × String), rows.Pairwise (fun e e' => e.1 < e'.1) ∧
        (∀ key value, (key, value) ∈ rows ↔ pairs.reverse.lookup key = some value) ∧
        commaPieces (ofPairs pairs).canonical = rows.map fun e => e.1 ++ "=" ++ e.2) ∧
    ((ofPairs pairs).canonical = "" ↔ pairs = []) ∧
    (∀ pairs', (pairs.map Prod.fst).Nodup → pairs'.Perm pairs →
      (ofPairs pairs').canonical = (ofPairs pairs).canonical) ∧
    (ofPairs pairs).query = (ofPairs pairs).canonical ∧
    ∀ s : Selector,
      s.canonical = ",".intercalate
        ((if s.equalities = [] then [] else [s.labelsOnly.canonical]) ++
          s.expressions.map Expression.canonical) ∧
      ((∀ e ∈ s.equalities, ',' ∉ e.1.toList ∧ ',' ∉ e.2.toList) →
        (∀ e ∈ s.expressions, ',' ∉ e.key.toList) → s.isEmpty = false →
          OuterFree s.canonical) := by
  have hwritten := canonical_of_expressions (s := ofPairs pairs) rfl
  refine ⟨fun h => ⟨(ofPairs pairs).equalities, ?_, fun _ _ => mem_equalities_ofPairs, ?_⟩,
    canonical_ofPairs_eq_empty_iff, fun pairs' hdistinct hperm => ?_, ?_,
    fun s => ⟨canonical_eq_join s, outerFree_canonical⟩⟩
  · exact (KeyMap.ofList pairs).ascending
  · rw [hwritten]
    refine commaPieces_intercalate (fun p hp => ?_) fun p hp => ?_
    · obtain ⟨e, -, rfl⟩ := List.mem_map.mp hp
      exact equality_ne_empty e
    · obtain ⟨e, he, rfl⟩ := List.mem_map.mp hp
      exact comma_not_mem_equality (h e (mem_of_mem_equalities_ofPairs he))
  · rw [ofPairs, ofPairs, KeyMap.ofList_congr hdistinct hperm]
  · rw [hwritten, query]
    exact congrArg _ (List.append_nil _)

/-- Pairs of which two have the same key. -/
def tiers : List (String × String) := [("tier", "front"), ("app", "web"), ("tier", "back")]

/-- The web servers of a tier, outside of two zones. -/
def tierServers : Selector where
  matchLabels := some (.ofList tiers)
  matchExpressions := some [⟨"zone", "NotIn", ["north", "east"]⟩]

/-- The last tier is written, behind the application and before the zones. -/
theorem canonical_ofPairs_tiers :
    (∃ rows : List (String × String), ("tier", "back") ∈ rows ∧ ("tier", "front") ∉ rows ∧
      commaPieces (ofPairs tiers).canonical = rows.map fun e => e.1 ++ "=" ++ e.2) ∧
      (ofPairs tiers.tail.reverse).canonical = (ofPairs tiers.tail).canonical ∧
      tierServers.canonical = "app=web,tier=back,zone NotIn (north,east)" ∧
      OuterFree tierServers.canonical := by
  obtain ⟨hrows, -, -, -, hservers⟩ := canonical_ofPairs tiers
  obtain ⟨-, -, horder, -⟩ := canonical_ofPairs tiers.tail
  obtain ⟨rows, -, hmem, hpieces⟩ := hrows (by decide)
  obtain ⟨hjoin, houter⟩ := hservers tierServers
  refine ⟨⟨rows, (hmem _ _).mpr (by decide), mt (hmem _ _).mp (by decide), hpieces⟩,
    horder _ (by decide) tiers.tail.reverse_perm, hjoin.trans (by decide),
    houter (by decide) (by decide) (by decide)⟩

end Selector

end SidecarPolicy
