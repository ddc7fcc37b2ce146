/-
Label selectors.

* `Operator`: the set operators, and `Operator.ofText?`, which reads them
  whatever the case of their letters;
* `Expression`, `Selector`: set-based requirements, and selectors, whose parts
  may be absent, which differs from empty;
* `Selector.selects`: whether a selector holds of labels;
* `Row`: pieces that are written with commas between them;
* `Selector.canonical`: the selector as its author wrote it;
* `Selector.query`: the selector in the syntax of the cluster's API.
-/
import SidecarPolicy.Labels
import SidecarPolicy.Text.Ascii

namespace SidecarPolicy

/-! ### Operators -/

/-- The operators of set-based requirements. -/
inductive Operator where
  | isIn
  | notIn
  | exists
  | doesNotExist
  deriving DecidableEq, Repr

namespace Operator

def name : Operator → String
  | .isIn => "In"
  | .notIn => "NotIn"
  | .exists => "Exists"
  | .doesNotExist => "DoesNotExist"

/-- The operator with a given name, whatever the case of its ASCII letters. -/
def ofText? (s : String) : Option Operator :=
  [isIn, notIn, «exists», doesNotExist].find? fun op => Text.sameLetters s op.name

end Operator

/-! ### Expressions -/

/-- A set-based requirement on one key.  The operator is kept as it was
written, also if there is no such operator. -/
structure Expression where
  key : String
  operator : String
  values : List String
  deriving DecidableEq, Repr

namespace Expression

/-- The operator, if there is one of the written name. -/
def op? (e : Expression) : Option Operator := Operator.ofText? e.operator

/-- Whether labels meet the requirement.  One with an unknown operator is never
met. -/
def holds (e : Expression) (labels : Labels) : Bool :=
  match e.op?, labels.get? e.key with
  | some .isIn, some v => e.values.contains v
  | some .isIn, none => false
  | some .notIn, some v => !e.values.contains v
  | some .notIn, none => true
  | some .exists, found => found.isSome
  | some .doesNotExist, found => found.isNone
  | none, _ => false

/-- The values, separated by commas. -/
def valueList (e : Expression) : String := ",".intercalate e.values

/-- The requirement as it was written. -/
def canonical (e : Expression) : String :=
  e.key ++ " " ++ e.operator ++ " (" ++ e.valueList ++ ")"

/-- The requirement in the syntax of the API, which spells the set operators in
lower case and the tests of existence as `key` and `!key`; one with an unknown
operator stays as it was written. -/
def query (e : Expression) : String :=
  match e.op? with
  | some .isIn => e.key ++ " in (" ++ e.valueList ++ ")"
  | some .notIn => e.key ++ " notin (" ++ e.valueList ++ ")"
  | some .exists => e.key
  | some .doesNotExist => "!" ++ e.key
  | none => e.canonical

end Expression

/-! ### Rows -/

/-- Pieces that are written one after another, with commas between them: what is
written so far, and whether the next piece is the first one. -/
structure Row where
  text : String := ""
  first : Bool := true
  deriving DecidableEq, Repr

/-- Writes one more piece, after a comma unless it is the first one. -/
def Row.write (row : Row) (piece : String) : Row where
  text := if row.first then row.text ++ piece else row.text ++ "," ++ piece
  first := false

/-! ### Selectors -/

/-- A label selector: labels that must be there and requirements that must be
met.  Either part may be absent. -/
structure Selector where
  matchLabels : Option Labels := none
  matchExpressions : Option (List Expression) := none
  deriving DecidableEq, Inhabited, Repr

namespace Selector

/-- The selector without parts. -/
def everything : Selector := {}

/-- The selector of the objects that carry the given labels. -/
def ofLabels (labels : Labels) : Selector := { matchLabels := some labels }

/-- The selector of the objects that carry the given pairs; the last pair of a key counts. -/
def ofPairs (pairs : List (String × String)) : Selector := ofLabels (.ofList pairs)

/-- The selector of the objects that meet the given requirements. -/
def ofExpressions (es : List Expression) : Selector := { matchExpressions := some es }

/-- The required labels, in key order, none if the part is absent. -/
def equalities (s : Selector) : List (String × String) :=
  match s.matchLabels with
  | none => []
  | some labels => labels.entries

/-- The requirements, none if the part is absent. -/
def expressions (s : Selector) : List Expression := s.matchExpressions.getD []

def isEmpty (s : Selector) : Bool := s.equalities.isEmpty && s.expressions.isEmpty

/-- Whether labels carry every required label and meet every requirement. -/
def selects (s : Selector) (labels : Labels) : Bool :=
  s.expressions.all (·.holds labels)
    && s.equalities.all fun e => labels.get? e.1 == some e.2

/-- A required label, as it is written. -/
def equality (e : String × String) : String := e.1 ++ "=" ++ e.2

/-- The selector as its author wrote it: required labels in key order, then the
requirements.  Both are written onto one row, so that there is no comma between
them if either is missing. -/
def canonical (s : Selector) : String :=
  let labels : Row := s.equalities.foldl (fun row e => row.write (equality e)) {}
  (s.expressions.foldl (fun row e => row.write e.canonical) labels).text

/-- The selector in the syntax of the API. -/
def query (s : Selector) : String :=
  ",".intercalate (s.equalities.map equality ++ s.expressions.map Expression.query)

end Selector

end SidecarPolicy
