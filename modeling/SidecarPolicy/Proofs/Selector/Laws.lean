/-
Laws of selection.

A selector requires all that it names, in no order: what is required twice is required once,
and what is required besides can only exclude more.  An operator is told by its letters,
whatever their case; one that is none of the four requires what cannot be.

* `Operator.ofText?_eq_some`: an operator is told by its letters;
* `Expression.Respells`, `Expression.holds_of_respells`: requirements that are spelled
  differently;
* `Expression.holds_notIn`, `Expression.holds_doesNotExist`: requirements that exclude each
  other;
* `Selector.require`, `Selector.withExpressions`: selectors that require more, or something
  else;
* `LabelSelector.SatisfiedBy`, `LabelSelector.selects_iff_satisfiedBy`: **what the selector of
  a cluster object requires**;
* `Selector.selection_laws`: **the laws of selection**.
-/
import SidecarPolicy.Proofs.Selector

namespace SidecarPolicy

/-! ### Operators -/

namespace Operator

lemma ofText?_congr {s t : String} (h : Text.lowered s = Text.lowered t) :
    ofText? s = ofText? t := by
  simp only [ofText?, Text.sameLetters, h]

/-- **An operator is told by its letters.** -/
theorem ofText?_eq_some {s : String} {op : Operator} :
    ofText? s = some op ↔ Text.lowered s = Text.lowered op.name := by
  constructor
  · intro h
    have hfound : Text.sameLetters s op.name = true :=
      List.find?_some (p := fun op : Operator => Text.sameLetters s op.name) h
    exact Text.sameLetters_iff.mp hfound
  · intro h
    rw [ofText?_congr h]
    cases op <;> decide

end Operator

/-! ### Requirements -/

namespace Expression

variable {e e' : Expression}

/-- Requirements of the same values for the same key, by the same operator, which may be
written in other cases of its letters. -/
structure Respells (e e' : Expression) : Prop where
  key : e.key = e'.key
  operator : Text.lowered e.operator = Text.lowered e'.operator
  values : e.values = e'.values

/-- A requirement is told by its key, its operator and its values. -/
lemma holds_congr (hkey : e.key = e'.key) (hop : e.op? = e'.op?) (hvalues : e.values = e'.values)
    (labels : Labels) : e.holds labels = e'.holds labels := by
  rw [holds, holds, hkey, hop, hvalues]

lemma holds_of_respells (h : e.Respells e') (labels : Labels) :
    e.holds labels = e'.holds labels :=
  holds_congr h.key (Operator.ofText?_congr h.operator) h.values labels

/-- What is not to be among some values is required not to be what is to be among them. -/
lemma holds_notIn (hin : e.op? = some .isIn) (hnotIn : e'.op? = some .notIn)
    (hkey : e.key = e'.key) (hvalues : e.values = e'.values) (labels : Labels) :
    e'.holds labels = !e.holds labels := by
  rw [holds, holds, hin, hnotIn, hkey, hvalues]
  cases labels.get? e'.key <;> rfl

/-- What is not to be there is required not to be what is to be there. -/
lemma holds_doesNotExist (hexists : e.op? = some .exists)
    (hdoesNotExist : e'.op? = some .doesNotExist) (hkey : e.key = e'.key) (labels : Labels) :
    e'.holds labels = !e.holds labels := by
  rw [holds, holds, hexists, hdoesNotExist, hkey]
  cases labels.get? e'.key <;> rfl

lemma holds_of_unknown (h : e.op? = none) (labels : Labels) : e.holds labels = false := by
  rw [holds, h]

end Expression

/-! ### Selectors that require more -/

namespace Selector

variable {s : Selector}

/-- The value that a selector requires a label to have. -/
def required? (s : Selector) (key : String) : Option String :=
  s.matchLabels.bind (·.get? key)

/-- The selector that also requires a label. -/
def require (s : Selector) (key value : String) : Selector :=
  { s with matchLabels := some ((s.matchLabels.getD .empty).insert key value) }

/-- The selector with other set-based requirements. -/
def withExpressions (s : Selector) (es : List Expression) : Selector :=
  { s with matchExpressions := some es }

/-- The required labels are those that are required to have some value. -/
lemma mem_equalities {key value : String} :
    (key, value) ∈ s.equalities ↔ s.required? key = some value := by
  rw [equalities, required?]
  cases s.matchLabels with
  | none => simp
  | some labels => exact KeyMap.mem_entries_iff

/-- A label that is required is required besides those that were. -/
lemma required?_require (s : Selector) (key value key' : String) :
    (s.require key value).required? key' = if key' = key then some value else s.required? key' := by
  have hget : (s.require key value).required? key' =
      ((s.matchLabels.getD .empty).insert key value).get? key' := rfl
  rw [hget]
  split_ifs with hkey
  · rw [hkey, KeyMap.get?_insert_self]
  · rw [KeyMap.get?_insert_of_ne hkey, required?]
    cases s.matchLabels <;> rfl

/-- A selector that also requires a new label selects what it selected, if it has that
label. -/
lemma selects_require {key : String} (hnew : s.required? key = none) (value : String)
    (labels : Labels) :
    (s.require key value).selects labels =
      (s.selects labels && labels.get? key == some value) := by
  have hequalities : (∀ e ∈ (s.require key value).equalities, labels.get? e.1 = some e.2) ↔
      (∀ e ∈ s.equalities, labels.get? e.1 = some e.2) ∧ labels.get? key = some value := by
    simp only [Prod.forall, mem_equalities, required?_require]
    constructor
    · intro h
      refine ⟨fun key' value' hrequired => h key' value' ?_, h key value (if_pos rfl)⟩
      -- what was required before is required of other keys
      have hne : key' ≠ key := fun heq => by cases (heq ▸ hrequired).symm.trans hnew
      rwa [if_neg hne]
    · rintro ⟨hold, hlabel⟩ key' value' hrequired
      split_ifs at hrequired with hkey
      · rw [hkey, hlabel, hrequired]
      · exact hold key' value' hrequired
  rw [Bool.eq_iff_iff, Bool.and_eq_true, beq_iff_eq, selects_iff, selects_iff]
  constructor
  · rintro ⟨hall, hexpressions⟩
    exact ⟨⟨(hequalities.mp hall).1, hexpressions⟩, (hequalities.mp hall).2⟩
  · rintro ⟨⟨hold, hexpressions⟩, hlabel⟩
    exact ⟨hequalities.mpr ⟨hold, hlabel⟩, hexpressions⟩

/-- Selectors that require the same labels select the same if their set-based requirements
hold of the same. -/
lemma selects_withExpressions {es : List Expression} {labels : Labels}
    (h : es.all (·.holds labels) = s.expressions.all (·.holds labels)) :
    (s.withExpressions es).selects labels = s.selects labels :=
  congrArg (· && s.equalities.all fun e => labels.get? e.1 == some e.2) h

/-- A selector with one requirement more selects what it selected, if it meets the
requirement. -/
lemma selects_insert {xs ys : List Expression} (hs : s.expressions = xs ++ ys) (e : Expression)
    (labels : Labels) :
    (s.withExpressions (xs ++ e :: ys)).selects labels =
      (e.holds labels && s.selects labels) := by
  have hall : (xs ++ e :: ys).all (·.holds labels) =
      (e.holds labels && s.expressions.all (·.holds labels)) := by
    rw [hs, List.all_append, List.all_append, List.all_cons, Bool.and_left_comm]
  rw [selects, selects, ← Bool.and_assoc, ← hall]
  rfl

/-- Neither the order of the requirements nor how often each of them stands makes a
difference. -/
lemma selects_of_mem_iff {es : List Expression} (h : ∀ e, e ∈ es ↔ e ∈ s.expressions)
    (labels : Labels) : (s.withExpressions es).selects labels = s.selects labels := by
  refine selects_withExpressions ?_
  rw [Bool.eq_iff_iff]
  simp only [List.all_eq_true, h]

/-- The case of the operators' letters makes no difference. -/
lemma selects_of_respells {es : List Expression}
    (h : List.Forall₂ Expression.Respells s.expressions es) (labels : Labels) :
    (s.withExpressions es).selects labels = s.selects labels := by
  refine selects_withExpressions ?_
  generalize s.expressions = old at h
  induction h with
  | nil => rfl
  | cons hfirst _ ih =>
      rw [List.all_cons, List.all_cons, ih, Expression.holds_of_respells hfirst]

lemma selects_of_unknown {e : Expression} (he : e ∈ s.expressions) (h : e.op? = none)
    (labels : Labels) : s.selects labels = false := by
  rw [Bool.eq_false_iff, Ne, selects_iff]
  intro hmatches
  have hholds := Expression.holds_iff.mpr (hmatches.expressions e he)
  exact Bool.false_ne_true ((Expression.holds_of_unknown h labels).symm.trans hholds)

lemma selects_of_isEmpty (h : s.isEmpty = true) (labels : Labels) : s.selects labels = true := by
  obtain ⟨hequalities, hexpressions⟩ := Bool.and_eq_true_iff.mp h
  rw [selects, List.isEmpty_iff.mp hequalities, List.isEmpty_iff.mp hexpressions]
  rfl

end Selector

/-! ### The selectors of cluster objects -/

/-- Labels satisfy a requirement: the value of its key is among the given ones, or is not, or
there is one, or there is none.  If no values are given, nothing is among them. -/
def Requirement.SatisfiedBy (r : Requirement) (labels : Labels) : Prop :=
  ∃ op : Operator, Text.lowered r.operator = Text.lowered op.name ∧
    match op with
    | .isIn => ∃ values v, r.values = some values ∧ v ∈ values ∧ labels.get? r.key = some v
    | .notIn => ∀ values v, r.values = some values → v ∈ values → labels.get? r.key ≠ some v
    | .exists => ∃ v, labels.get? r.key = some v
    | .doesNotExist => labels.get? r.key = none

/-- Labels satisfy the selector of a cluster object: every required label is there, and every
requirement is satisfied. -/
structure LabelSelector.SatisfiedBy (s : LabelSelector) (labels : Labels) : Prop where
  equalities : ∀ required, s.matchLabels = some required →
    ∀ key v, required.get? key = some v → labels.get? key = some v
  requirements : ∀ rs, s.matchExpressions = some rs → ∀ r ∈ rs, r.SatisfiedBy labels

/-- A requirement is met as an expression exactly if it is satisfied. -/
lemma Requirement.met_toExpression_iff {r : Requirement} {labels : Labels} :
    r.toExpression.Met labels ↔ r.SatisfiedBy labels := by
  have hop (op : Operator) : r.toExpression.op? = some op ↔
      Text.lowered r.operator = Text.lowered op.name := Operator.ofText?_eq_some
  have hgiven (v : String) : v ∈ r.toExpression.values ↔
      ∃ values, r.values = some values ∧ v ∈ values := by
    rw [toExpression]
    cases r.values <;> simp
  constructor
  · rintro (⟨h, hv, hamong⟩ | ⟨h, hnone⟩ | ⟨h, hv⟩ | ⟨h, hnone⟩)
    · obtain ⟨values, hvalues, hamong⟩ := (hgiven _).mp hamong
      exact ⟨.isIn, (hop _).mp h, values, _, hvalues, hamong, hv⟩
    · refine ⟨.notIn, (hop _).mp h, fun values v hvalues hamong hv => ?_⟩
      exact hnone v hv ((hgiven v).mpr ⟨values, hvalues, hamong⟩)
    · exact ⟨.exists, (hop _).mp h, _, hv⟩
    · exact ⟨.doesNotExist, (hop _).mp h, hnone⟩
  · rintro ⟨op, h, hsatisfied⟩
    cases op with
    | isIn =>
        obtain ⟨values, v, hvalues, hamong, hv⟩ := hsatisfied
        exact .isIn ((hop _).mpr h) hv ((hgiven v).mpr ⟨values, hvalues, hamong⟩)
    | notIn =>
        refine .notIn ((hop _).mpr h) fun v hv hmem => ?_
        obtain ⟨values, hvalues, hamong⟩ := (hgiven v).mp hmem
        exact hsatisfied values v hvalues hamong hv
    | «exists» =>
        obtain ⟨v, hv⟩ := hsatisfied
        exact .exists ((hop _).mpr h) hv
    | doesNotExist => exact .doesNotExist ((hop _).mpr h) hsatisfied

/-- **The selector of a cluster object selects the labels that satisfy it.** -/
theorem LabelSelector.selects_iff_satisfiedBy {s : LabelSelector} {labels : Labels} :
    s.toSelector.selects labels = true ↔ s.SatisfiedBy labels := by
  have hlabels : (∀ e ∈ s.toSelector.equalities, labels.get? e.1 = some e.2) ↔
      ∀ required, s.matchLabels = some required →
        ∀ key v, required.get? key = some v → labels.get? key = some v := by
    simp only [Prod.forall, Selector.mem_equalities, Selector.required?, toSelector,
      Option.bind_eq_some_iff, forall_exists_index, and_imp]
    exact ⟨fun h required hs key v => h key v required hs,
      fun h key v required hs => h required hs key v⟩
  have hrequirements : (∀ e ∈ s.toSelector.expressions, e.Met labels) ↔
      ∀ rs, s.matchExpressions = some rs → ∀ r ∈ rs, r.SatisfiedBy labels := by
    rw [Selector.expressions, toSelector]
    cases s.matchExpressions with
    | none => simp
    | some rs => simp [Requirement.met_toExpression_iff]
  rw [Selector.selects_iff]
  exact ⟨fun h => ⟨hlabels.mp h.equalities, hrequirements.mp h.expressions⟩,
    fun h => ⟨hlabels.mpr h.equalities, hrequirements.mpr h.requirements⟩⟩

/-! ### The laws -/

/-- **The laws of selection.**  A selector that requires a new label besides selects what it
selected and has that label; one that has to meet another requirement, wherever that stands,
selects what it selected and meets it.  Neither the order of the requirements, nor how often
each of them stands, nor the case of their operators' letters makes a difference; an operator is
told by its letters.  Exactly one of two requirements holds by which the value of a key is to be
among some values, and not to be among them; and so if there is to be one, and none.  A selector
with an unknown operator selects nothing, and an empty one everything.  The selector of a cluster
object selects what satisfies it. -/
theorem Selector.selection_laws (s : Selector) (labels : Labels) :
    (∀ key value, s.required? key = none →
      (s.require key value).selects labels =
        (s.selects labels && labels.get? key == some value)) ∧
    (∀ xs e ys, s.expressions = xs ++ ys →
      (s.withExpressions (xs ++ e :: ys)).selects labels =
        (e.holds labels && s.selects labels)) ∧
    (∀ es, (∀ e, e ∈ es ↔ e ∈ s.expressions) →
      (s.withExpressions es).selects labels = s.selects labels) ∧
    (∀ es, List.Forall₂ Expression.Respells s.expressions es →
      (s.withExpressions es).selects labels = s.selects labels) ∧
    (∀ (e : Expression) op, e.op? = some op ↔
      Text.lowered e.operator = Text.lowered op.name) ∧
    (∀ e e' : Expression, e.key = e'.key → e.values = e'.values → e.op? = some .isIn →
      e'.op? = some .notIn → e'.holds labels = !e.holds labels) ∧
    (∀ e e' : Expression, e.key = e'.key → e.op? = some .exists →
      e'.op? = some .doesNotExist → e'.holds labels = !e.holds labels) ∧
    (∀ e ∈ s.expressions, e.op? = none → s.selects labels = false) ∧
    (s.isEmpty = true → s.selects labels = true) ∧
    ∀ given : LabelSelector, given.toSelector.selects labels = true ↔ given.SatisfiedBy labels := by
  refine ⟨fun key value hnew => selects_require hnew value labels,
    fun xs e ys hs => selects_insert hs e labels, fun es h => selects_of_mem_iff h labels,
    fun es h => selects_of_respells h labels, fun e op => Operator.ofText?_eq_some,
    fun e e' hkey hvalues hin hnotIn => ?_, fun e e' hkey hexists hdoesNotExist => ?_,
    fun e he hunknown => selects_of_unknown he hunknown labels,
    fun hempty => selects_of_isEmpty hempty labels,
    fun given => LabelSelector.selects_iff_satisfiedBy⟩
  · exact Expression.holds_notIn hin hnotIn hkey hvalues labels
  · exact Expression.holds_doesNotExist hexists hdoesNotExist hkey labels

/-- The selector of what belongs to the web and has a tier. -/
def Selector.frontend : Selector :=
  .ofExpressions [⟨"app", "In", ["web"]⟩, ⟨"tier", "exists", []⟩]

/-- A zone that is required besides excludes what has none, and so does an operator that there
is not; neither another order, nor a repetition, nor other letters of the operators do. -/
theorem Selector.selection_laws_frontend :
    let labels : Labels := KeyMap.ofList [("app", "web"), ("tier", "front")]
    frontend.selects labels = true ∧
      (frontend.require "zone" "north").selects labels = false ∧
      (frontend.withExpressions (⟨"app", "within", ["web"]⟩ :: frontend.expressions)).selects
        labels = false ∧
      (frontend.withExpressions (frontend.expressions.reverse ++ frontend.expressions)).selects
        labels = true ∧
      (frontend.withExpressions [⟨"app", "IN", ["web"]⟩, ⟨"tier", "Exists", []⟩]).selects
        labels = true := by
  intro labels
  obtain ⟨hrequire, hinsert, hsame, hletters, -⟩ := selection_laws frontend labels
  have hselects : frontend.selects labels = true := by decide +kernel
  refine ⟨hselects, ?_, ?_, ?_, ?_⟩
  · rw [hrequire "zone" "north" rfl, hselects, Bool.true_and]
    decide +kernel
  · have hunmet : Expression.holds ⟨"app", "within", ["web"]⟩ labels = false :=
      Expression.holds_of_unknown (by decide) labels
    have hfirst := hinsert [] ⟨"app", "within", ["web"]⟩ frontend.expressions rfl
    rw [List.nil_append] at hfirst
    rw [hfirst, hunmet, Bool.false_and]
  · rw [hsame _ fun e => by rw [List.mem_append, List.mem_reverse, or_self], hselects]
  · have hrespells : List.Forall₂ Expression.Respells frontend.expressions
        [⟨"app", "IN", ["web"]⟩, ⟨"tier", "Exists", []⟩] :=
      .cons ⟨rfl, by decide, rfl⟩ (.cons ⟨rfl, by decide, rfl⟩ .nil)
    rw [hletters _ hrespells, hselects]

end SidecarPolicy
