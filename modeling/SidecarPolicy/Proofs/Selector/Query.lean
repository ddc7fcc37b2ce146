/-
What the query of a selector tells of the selector.

A query is a row of clauses with commas between them.  A clause tells its end: a key ends
before the first character that stands in no key, a list of values at its bracket, and a
single value before the comma that follows.  So the clauses can be read back one by one,
although the lists have commas of their own.

* `Clause`, `Selector.clauses`: what a selector requires, one key at a time;
* `Selector.selects_eq`: the clauses tell what is selected;
* `Selector.IsLegible`: the keys and values from which a query is made so that it can be
  read;
* `Clause.read_text`: **a clause is read back**, whatever follows after a comma;
* `Clause.joined_inj`: different rows of clauses have different queries;
* `Selector.query_determines`: **a query determines what is selected**.
-/
import SidecarPolicy.Proofs.Selector
import SidecarPolicy.Text.Blank

namespace SidecarPolicy

/-! ### Clauses -/

/-- What a selector requires of one key. -/
inductive Clause where
  | equal (key value : String)
  | isIn (key : String) (values : List String)
  | notIn (key : String) (values : List String)
  | exists (key : String)
  | doesNotExist (key : String)
  deriving DecidableEq

namespace Clause

/-- Whether labels meet a clause. -/
def holds (labels : Labels) : Clause → Bool
  | equal key value => labels.get? key == some value
  | isIn key values => (labels.get? key).any values.contains
  | notIn key values => (labels.get? key).all fun v => !values.contains v
  | «exists» key => (labels.get? key).isSome
  | doesNotExist key => (labels.get? key).isNone

def listed (values : List String) : List Char := [','].intercalate (values.map String.toList)

/-- A clause in the syntax of the API. -/
def text : Clause → List Char
  | equal key value => key.toList ++ '=' :: value.toList
  | isIn key values => key.toList ++ (" in (".toList ++ (listed values ++ [')']))
  | notIn key values => key.toList ++ (" notin (".toList ++ (listed values ++ [')']))
  | «exists» key => key.toList
  | doesNotExist key => '!' :: key.toList

def joined (cs : List Clause) : List Char := [','].intercalate (cs.map text)

end Clause

/-- The clause of a requirement with a known operator. -/
def Expression.clause? (e : Expression) : Option Clause :=
  e.op?.map fun
    | .isIn => .isIn e.key e.values
    | .notIn => .notIn e.key e.values
    | .exists => .exists e.key
    | .doesNotExist => .doesNotExist e.key

/-- The clauses of a selector: its required labels, and its requirements. -/
def Selector.clauses (s : Selector) : List Clause :=
  s.equalities.map (fun e => .equal e.1 e.2) ++ s.expressions.filterMap Expression.clause?

/-! ### Legible selectors -/

/-- The characters of keys: no commas, equality signs, exclamation marks or brackets, and
no blanks. -/
def isKeyChar (c : Char) : Bool :=
  !((",=!()".toList).contains c || Text.isBlank c)

/-- The characters of values: no commas or brackets. -/
def isValueChar (c : Char) : Bool := !(",()".toList).contains c

/-- A key that can be told from what surrounds it. -/
structure IsLegibleKey (key : String) : Prop where
  ne_empty : key ≠ ""
  chars : ∀ c ∈ key.toList, isKeyChar c = true

/-- A value that can be told from what surrounds it. -/
def IsLegibleValue (value : String) : Prop := ∀ c ∈ value.toList, isValueChar c = true

/-- A requirement with a known operator, and with values if the operator asks for them,
that is written with legible keys and values. -/
structure Expression.IsLegible (e : Expression) : Prop where
  key : IsLegibleKey e.key
  values : ∀ v ∈ e.values, IsLegibleValue v
  known : e.op? ≠ none
  valued : e.op? = some .isIn ∨ e.op? = some .notIn → e.values ≠ []

/-- A selector that is written with legible keys and values, and with known operators. -/
structure Selector.IsLegible (s : Selector) : Prop where
  equalities : ∀ e ∈ s.equalities, IsLegibleKey e.1 ∧ IsLegibleValue e.2
  expressions : ∀ e ∈ s.expressions, e.IsLegible

/-- A clause that is written with legible keys and values. -/
def Clause.IsLegible : Clause → Prop
  | equal key value => IsLegibleKey key ∧ IsLegibleValue value
  | isIn key values | notIn key values =>
      IsLegibleKey key ∧ values ≠ [] ∧ ∀ v ∈ values, IsLegibleValue v
  | «exists» key | doesNotExist key => IsLegibleKey key

-- The characters of a text are gone through.  As there are only finitely many characters,
-- a condition on all of them is decidable too, but nobody could wait for that.
instance (key : String) : Decidable (IsLegibleKey key) :=
  decidable_of_iff (key ≠ "" ∧ key.toList.all isKeyChar = true)
    ⟨fun h => ⟨h.1, List.all_eq_true.mp h.2⟩, fun h => ⟨h.ne_empty, List.all_eq_true.mpr h.chars⟩⟩

instance (value : String) : Decidable (IsLegibleValue value) :=
  decidable_of_iff (value.toList.all isValueChar = true) List.all_eq_true

instance (e : Expression) : Decidable e.IsLegible :=
  decidable_of_iff (IsLegibleKey e.key ∧ (∀ v ∈ e.values, IsLegibleValue v) ∧ e.op? ≠ none ∧
      (e.op? = some .isIn ∨ e.op? = some .notIn → e.values ≠ []))
    ⟨fun h => ⟨h.1, h.2.1, h.2.2.1, h.2.2.2⟩, fun h => ⟨h.key, h.values, h.known, h.valued⟩⟩

instance (s : Selector) : Decidable s.IsLegible :=
  decidable_of_iff ((∀ e ∈ s.equalities, IsLegibleKey e.1 ∧ IsLegibleValue e.2) ∧
      ∀ e ∈ s.expressions, e.IsLegible)
    ⟨fun h => ⟨h.1, h.2⟩, fun h => ⟨h.equalities, h.expressions⟩⟩

/-! ### The clauses of a selector -/

/-- A requirement holds if its clause does; without a clause it never holds. -/
lemma Expression.holds_eq (e : Expression) (labels : Labels) :
    e.holds labels = e.clause?.any (·.holds labels) := by
  rw [Expression.holds, Expression.clause?]
  cases e.op? with
  | none => rfl
  | some op =>
      cases op <;> cases hv : labels.get? e.key <;> simp [Clause.holds, hv]

/-- A requirement with a clause is written like its clause. -/
lemma Expression.toList_query {e : Expression} {c : Clause} (h : e.clause? = some c) :
    e.query.toList = c.text := by
  rw [Expression.clause?] at h
  rw [Expression.query, Expression.valueList]
  cases hop : e.op? with
  | none => simp [hop] at h
  | some op =>
      rw [hop, Option.map_some] at h
      obtain rfl := Option.some.inj h
      cases op <;> simp [Clause.text, Clause.listed, String.toList_intercalate]

/-- A legible requirement has a legible clause. -/
lemma Expression.IsLegible.exists_clause {e : Expression} (h : e.IsLegible) :
    ∃ c, e.clause? = some c ∧ c.IsLegible := by
  rw [Expression.clause?]
  cases hop : e.op? with
  | none => exact absurd hop h.known
  | some op =>
      refine ⟨_, rfl, ?_⟩
      cases op with
      | isIn => exact ⟨h.key, h.valued (.inl hop), h.values⟩
      | notIn => exact ⟨h.key, h.valued (.inr hop), h.values⟩
      | «exists» => exact h.key
      | doesNotExist => exact h.key

namespace Selector

variable {s s' : Selector}

/-- A selector with known operators selects what meets all its clauses. -/
lemma selects_eq (h : s.IsLegible) (labels : Labels) :
    s.selects labels = s.clauses.all (·.holds labels) := by
  have hexpressions : s.expressions.all (·.holds labels) =
      (s.expressions.filterMap Expression.clause?).all (·.holds labels) := by
    rw [Bool.eq_iff_iff, List.all_eq_true, List.all_eq_true]
    constructor
    · intro hall c hc
      obtain ⟨e, he, hclause⟩ := List.mem_filterMap.mp hc
      have hholds := hall e he
      rwa [e.holds_eq, hclause, Option.any_some] at hholds
    · intro hall e he
      obtain ⟨c, hclause, -⟩ := (h.expressions e he).exists_clause
      rw [e.holds_eq, hclause, Option.any_some]
      exact hall c (List.mem_filterMap.mpr ⟨e, he, hclause⟩)
  rw [selects, clauses, List.all_append, List.all_map, hexpressions, Bool.and_comm]
  rfl

/-- The query of a selector with known operators is the row of its clauses. -/
lemma toList_query (h : s.IsLegible) : s.query.toList = Clause.joined s.clauses := by
  have hexpressions : (s.expressions.map Expression.query).map String.toList =
      (s.expressions.filterMap Expression.clause?).map Clause.text := by
    have hall := h.expressions
    generalize s.expressions = es at hall ⊢
    induction es with
    | nil => rfl
    | cons e rest ih =>
        obtain ⟨he, hrest⟩ := List.forall_mem_cons.mp hall
        obtain ⟨c, hclause, -⟩ := he.exists_clause
        rw [List.filterMap_cons_some hclause, List.map_cons, List.map_cons, List.map_cons,
          ih hrest, Expression.toList_query hclause]
  have hequalities : (s.equalities.map equality).map String.toList =
      (s.equalities.map fun e => Clause.equal e.1 e.2).map Clause.text := by
    simp [Clause.text, equality, Function.comp_def]
  rw [query, String.toList_intercalate, Clause.joined, clauses, List.map_append, List.map_append,
    hexpressions, hequalities]
  rfl

/-- The clauses of a legible selector are legible. -/
lemma IsLegible.clauses (h : s.IsLegible) : ∀ c ∈ s.clauses, c.IsLegible := by
  intro c hc
  obtain hc | hc := List.mem_append.mp hc
  · obtain ⟨e, he, rfl⟩ := List.mem_map.mp hc
    exact h.equalities e he
  · obtain ⟨e, he, hclause⟩ := List.mem_filterMap.mp hc
    obtain ⟨c', hclause', hc'⟩ := (h.expressions e he).exists_clause
    obtain rfl := Option.some.inj (hclause.symm.trans hclause')
    exact hc'

/-- A legible selector requires nothing if it has no clauses. -/
lemma clauses_eq_nil_iff (h : s.IsLegible) : s.clauses = [] ↔ s.isEmpty = true := by
  rw [Selector.clauses, List.append_eq_nil_iff, List.map_eq_nil_iff, isEmpty, Bool.and_eq_true,
    List.isEmpty_iff, List.isEmpty_iff]
  refine and_congr_right fun _ => ⟨fun hnone => ?_, fun hnone => by rw [hnone]; rfl⟩
  refine List.eq_nil_iff_forall_not_mem.mpr fun e he => ?_
  obtain ⟨c, hclause, -⟩ := (h.expressions e he).exists_clause
  cases hclause.symm.trans (List.filterMap_eq_nil_iff.mp hnone e he)

end Selector

/-! ### Reading a row of clauses -/

/-- A text ends where the first character follows that is none of its own. -/
lemma takeWhile_append_stop {p : Char → Bool} {cs rest : List Char} (h : ∀ c ∈ cs, p c = true)
    (hrest : ∀ c ∈ rest.head?, p c = false) :
    (cs ++ rest).takeWhile p = cs ∧ (cs ++ rest).dropWhile p = rest := by
  rw [List.takeWhile_append_of_pos h, List.dropWhile_append_of_pos h]
  cases rest with
  | nil => exact ⟨List.append_nil cs, rfl⟩
  | cons c rest =>
      have hc := hrest c rfl
      simp [hc]

/-- A character that does not stand in a text differs from those that do. -/
lemma ne_of_not_mem {stop : Char} {cs : List Char} (h : stop ∉ cs) :
    ∀ c ∈ cs, (c != stop) = true :=
  fun _ hc => bne_iff_ne.mpr fun heq => h (heq ▸ hc)

/-- What stands in no value does not stand in a legible one. -/
lemma IsLegibleValue.not_mem {value : String} (h : IsLegibleValue value) {stop : Char}
    (hstop : isValueChar stop = false) : stop ∉ value.toList :=
  fun hmem => Bool.false_ne_true (hstop.symm.trans (h stop hmem))

namespace Clause

def readList (cs : List Char) : List String := (cs.splitOn ',').map String.ofList

/-- The clause that a key begins, and what follows it. -/
def readOn (key : String) : List Char → Clause × List Char
  | '=' :: rest => (equal key (.ofList (rest.takeWhile (· != ','))), rest.dropWhile (· != ','))
  | ' ' :: 'i' :: 'n' :: ' ' :: '(' :: rest =>
      (isIn key (readList (rest.takeWhile (· != ')'))), (rest.dropWhile (· != ')')).tail)
  | ' ' :: 'n' :: 'o' :: 't' :: 'i' :: 'n' :: ' ' :: '(' :: rest =>
      (notIn key (readList (rest.takeWhile (· != ')'))), (rest.dropWhile (· != ')')).tail)
  | rest => («exists» key, rest)

/-- The clause with which a text begins, and what follows it. -/
def read : List Char → Clause × List Char
  | '!' :: rest =>
      (doesNotExist (.ofList (rest.takeWhile isKeyChar)), rest.dropWhile isKeyChar)
  | cs => readOn (.ofList (cs.takeWhile isKeyChar)) (cs.dropWhile isKeyChar)

/-- A legible key is read up to the first character that stands in no key. -/
lemma read_key {key : String} (h : IsLegibleKey key) {rest : List Char}
    (hrest : ∀ c ∈ rest.head?, isKeyChar c = false) :
    read (key.toList ++ rest) = readOn key rest := by
  obtain ⟨htake, hdrop⟩ := takeWhile_append_stop h.chars hrest
  have hmark : ∀ more, key.toList ++ rest ≠ '!' :: more := by
    intro more heq
    cases hkey : key.toList with
    | nil => exact h.ne_empty (String.toList_eq_nil_iff.mp hkey)
    | cons c cs =>
        rw [hkey] at heq
        obtain ⟨rfl, -⟩ := List.cons.inj heq
        exact absurd (h.chars '!' (hkey ▸ List.mem_cons_self)) (by decide)
  rw [read, htake, hdrop, String.ofList_toList]
  exact hmark

/-- A list of values is read up to its bracket. -/
lemma readList_listed {values : List String} (hne : values ≠ [])
    (h : ∀ v ∈ values, IsLegibleValue v) : readList (listed values) = values := by
  have hcommas : ∀ cs ∈ values.map String.toList, ',' ∉ cs := by
    intro cs hcs
    obtain ⟨v, hv, rfl⟩ := List.mem_map.mp hcs
    exact (h v hv).not_mem (by decide)
  rw [readList, listed, List.splitOn_intercalate ',' hcommas (by simpa using hne)]
  simp [Function.comp_def]

/-- No bracket stands in a list of values. -/
lemma bracket_not_mem_listed {values : List String} (h : ∀ v ∈ values, IsLegibleValue v) :
    ')' ∉ listed values := by
  induction values with
  | nil => exact List.not_mem_nil
  | cons v rest ih =>
      obtain ⟨hv, hrest⟩ := List.forall_mem_cons.mp h
      have hvalue : ')' ∉ v.toList := hv.not_mem (by decide)
      cases rest with
      | nil => simpa [listed] using hvalue
      | cons v' rest =>
          rw [listed, List.map_cons, List.map_cons, List.intercalate_cons_cons, List.mem_append,
            List.mem_append, not_or, not_or]
          exact ⟨⟨hvalue, by decide⟩, ih hrest⟩

/-- A list of values in brackets is read up to its end. -/
lemma read_brackets {values : List String} (hne : values ≠ [])
    (h : ∀ v ∈ values, IsLegibleValue v) (rest : List Char) :
    readList ((listed values ++ ')' :: rest).takeWhile (· != ')')) = values ∧
      ((listed values ++ ')' :: rest).dropWhile (· != ')')).tail = rest := by
  have hend : ∀ c ∈ (')' :: rest).head?, (c != ')') = false := by
    rintro _ ⟨⟩
    rfl
  obtain ⟨htake, hdrop⟩ :=
    takeWhile_append_stop (ne_of_not_mem (bracket_not_mem_listed h)) hend
  rw [htake, hdrop]
  exact ⟨readList_listed hne h, rfl⟩

/-- **A clause is read back**, whatever follows after a comma. -/
theorem read_text {c : Clause} (h : c.IsLegible) {rest : List Char}
    (hrest : ∀ c ∈ rest.head?, c = ',') : read (c.text ++ rest) = (c, rest) := by
  have hkeyEnd : ∀ c ∈ rest.head?, isKeyChar c = false := by
    intro c hc
    rw [hrest c hc]
    decide
  cases c with
  | equal key value =>
      -- the key ends at the equality sign, and the value at the comma that follows
      have hvalue : ∀ c ∈ value.toList, (c != ',') = true :=
        ne_of_not_mem (h.2.not_mem (by decide))
      have hend : ∀ c ∈ rest.head?, (c != ',') = false := by
        intro c hc
        rw [hrest c hc]
        rfl
      obtain ⟨htake, hdrop⟩ := takeWhile_append_stop hvalue hend
      rw [text, List.append_assoc, read_key h.1 (by rintro _ ⟨⟩; decide), List.cons_append, readOn,
        htake, hdrop, String.ofList_toList]
  | isIn key values =>
      -- the key ends at a blank, and the values, whose commas are not to be taken for the
      -- next one, at their bracket
      obtain ⟨hkey, hne, hvalues⟩ := h
      obtain ⟨hlist, htail⟩ := read_brackets hne hvalues rest
      have hmore : " in (".toList ++ (listed values ++ [')']) ++ rest =
          ' ' :: 'i' :: 'n' :: ' ' :: '(' :: (listed values ++ ')' :: rest) := by simp
      rw [text, List.append_assoc, hmore, read_key hkey (by rintro _ ⟨⟩; decide), readOn, hlist,
        htail]
  | notIn key values =>
      obtain ⟨hkey, hne, hvalues⟩ := h
      obtain ⟨hlist, htail⟩ := read_brackets hne hvalues rest
      have hmore : " notin (".toList ++ (listed values ++ [')']) ++ rest =
          ' ' :: 'n' :: 'o' :: 't' :: 'i' :: 'n' :: ' ' :: '(' ::
            (listed values ++ ')' :: rest) := by
        simp
      rw [text, List.append_assoc, hmore, read_key hkey (by rintro _ ⟨⟩; decide), readOn, hlist,
        htail]
  | «exists» key =>
      -- nothing that goes on with a clause begins with a comma
      rw [text, read_key h hkeyEnd]
      cases rest with
      | nil => rfl
      | cons c rest =>
          obtain rfl := hrest c rfl
          rfl
  | doesNotExist key =>
      obtain ⟨htake, hdrop⟩ := takeWhile_append_stop h.chars hkeyEnd
      rw [text, List.cons_append, read, htake, hdrop, String.ofList_toList]

lemma text_ne_nil {c : Clause} (h : c.IsLegible) : c.text ≠ [] := by
  cases c with
  | «exists» key => exact fun hnone => h.ne_empty (String.toList_eq_nil_iff.mp hnone)
  | _ => simp [text]

/-- A comma in front of a row of clauses makes it a row of clauses with commas in front. -/
lemma comma_joined (c : Clause) (rest : List Clause) :
    ',' :: joined (c :: rest) = (c :: rest).flatMap fun c => ',' :: c.text := by
  induction rest generalizing c with
  | nil => simp [joined]
  | cons c' rest ih =>
      rw [List.flatMap_cons, ← ih c', joined, List.map_cons, List.map_cons,
        List.intercalate_cons_cons]
      simp [joined]

/-- Clauses with commas in front are written differently if they are different. -/
lemma flatMap_inj {cs cs' : List Clause} (h : ∀ c ∈ cs, c.IsLegible)
    (h' : ∀ c ∈ cs', c.IsLegible)
    (heq : (cs.flatMap fun c => ',' :: c.text) = cs'.flatMap fun c => ',' :: c.text) :
    cs = cs' := by
  have hcomma : ∀ rest : List Clause,
      ∀ c ∈ (rest.flatMap fun c => ',' :: c.text).head?, c = ',' := by
    intro rest c hc
    cases rest with
    | nil => cases hc
    | cons c' rest => exact (Option.some.inj hc).symm
  -- the first clauses of both rows are read from one text, and so they are the same
  induction cs generalizing cs' with
  | nil =>
      cases cs' with
      | nil => rfl
      | cons c' rest' => cases heq
  | cons c rest ih =>
      cases cs' with
      | nil => cases heq
      | cons c' rest' =>
          obtain ⟨hc, hrest⟩ := List.forall_mem_cons.mp h
          obtain ⟨hc', hrest'⟩ := List.forall_mem_cons.mp h'
          rw [List.flatMap_cons, List.flatMap_cons, List.cons_append, List.cons_append] at heq
          have hread := congrArg read (List.cons.inj heq).2
          rw [read_text hc (hcomma rest), read_text hc' (hcomma rest')] at hread
          obtain ⟨rfl, hlater⟩ := Prod.mk.inj hread
          rw [ih hrest hrest' hlater]

/-- **Different rows of clauses are written differently.** -/
theorem joined_inj {cs cs' : List Clause} (h : ∀ c ∈ cs, c.IsLegible)
    (h' : ∀ c ∈ cs', c.IsLegible) (heq : joined cs = joined cs') : cs = cs' := by
  have hfirst : ∀ (c : Clause) (rest : List Clause), c.IsLegible → joined (c :: rest) ≠ [] := by
    intro c rest hc hnone
    have hrow := comma_joined c rest
    rw [hnone, List.flatMap_cons, List.cons_append] at hrow
    exact text_ne_nil hc (List.append_eq_nil_iff.mp (List.cons.inj hrow).2.symm).1
  cases cs with
  | nil =>
      cases cs' with
      | nil => rfl
      | cons c' rest' => exact absurd heq.symm (hfirst c' rest' (h' c' List.mem_cons_self))
  | cons c rest =>
      cases cs' with
      | nil => exact absurd heq (hfirst c rest (h c List.mem_cons_self))
      | cons c' rest' =>
          refine flatMap_inj h h' ?_
          rw [← comma_joined, ← comma_joined, heq]

end Clause

/-! ### Queries -/

namespace Selector

variable {s s' : Selector}

lemma clauses_eq_of_query (h : s.IsLegible) (h' : s'.IsLegible) (heq : s.query = s'.query) :
    s.clauses = s'.clauses := by
  refine Clause.joined_inj h.clauses h'.clauses ?_
  rw [← toList_query h, ← toList_query h', heq]

/-- **A query determines what is selected.**  Two legible selectors with the same query
select the same labels; and only a selector that requires nothing has an empty query. -/
theorem query_determines (h : s.IsLegible) (h' : s'.IsLegible) :
    (s.query = s'.query → ∀ labels, s.selects labels = s'.selects labels) ∧
      (s.query = "" ↔ s.isEmpty = true) := by
  refine ⟨fun heq labels => ?_, ?_⟩
  · rw [selects_eq h, selects_eq h', clauses_eq_of_query h h' heq]
  · have hnothing : IsLegible everything := ⟨by simp [everything, equalities], by
      simp [everything, expressions]⟩
    rw [← clauses_eq_nil_iff h]
    constructor
    · exact fun heq => clauses_eq_of_query h hnothing heq
    · intro hnone
      rw [← String.toList_eq_nil_iff, toList_query h, hnone]
      rfl

/-- The web servers of a team, outside of two tiers. -/
def teamServers : Selector where
  matchLabels := some (KeyMap.ofList [("app", "web")])
  matchExpressions := some [⟨"tier", "NotIn", ["cache", "batch"]⟩, ⟨"team", "Exists", []⟩]

/-- The same web servers with other spellings, and with a value that no one reads. -/
def teamServersRespelt : Selector where
  matchLabels := some (KeyMap.ofList [("app", "web")])
  matchExpressions := some [⟨"tier", "NOTIN", ["cache", "batch"]⟩, ⟨"team", "exists", ["any"]⟩]

/-- Two ways to ask for the web servers of a team differ, have the same query, and select
the same; the query is not empty. -/
theorem query_determines_teamServers :
    teamServers ≠ teamServersRespelt ∧
      (∀ labels, teamServers.selects labels = teamServersRespelt.selects labels) ∧
      teamServers.query ≠ "" := by
  have hlegible : teamServers.IsLegible := by decide
  have hrespelt : teamServersRespelt.IsLegible := by decide
  obtain ⟨hselects, hempty⟩ := query_determines hlegible hrespelt
  exact ⟨by decide, hselects (by decide), fun hnone => absurd (hempty.mp hnone) (by decide)⟩

end Selector

end SidecarPolicy
