/-
The selectors of cluster objects.

* `Requirement`, `LabelSelector`: such a selector; the values of a requirement
  may be absent;
* `LabelSelector.toSelector`: what it selects, absent values being none;
* `LabelSelector.decode`, `LabelSelector.encode`: its document.
-/
import SidecarPolicy.Decode
import SidecarPolicy.Selector

namespace SidecarPolicy

variable {τ : Type} [Tree τ]

/-- A set-based requirement of a cluster object. -/
structure Requirement where
  key : String := ""
  operator : String := ""
  values : Option (List String) := none
  deriving DecidableEq, Inhabited, Repr

namespace Requirement

/-- The requirement as an expression, absent values being none. -/
def toExpression (r : Requirement) : Expression :=
  ⟨r.key, r.operator, r.values.getD []⟩

/-- The requirement that a document holds. -/
def decode (t : τ) : Decoded Requirement := do
  let fields ← Decode.members t
  return {
    key := (← Decode.nullable Decode.text fields "key").getD ""
    operator := (← Decode.nullable Decode.text fields "operator").getD ""
    values := ← Decode.nullable (Decode.list Decode.text) fields "values" }

def encode (r : Requirement) : Json :=
  Encode.object [
    ("key", some (.str r.key)),
    ("operator", some (.str r.operator)),
    ("values", r.values.map Encode.texts)]

end Requirement

/-- The selector of a cluster object. -/
structure LabelSelector where
  matchLabels : Option Labels := none
  matchExpressions : Option (List Requirement) := none
  deriving DecidableEq, Inhabited, Repr

namespace LabelSelector

/-- What the selector selects. -/
def toSelector (s : LabelSelector) : Selector where
  matchLabels := s.matchLabels
  matchExpressions := s.matchExpressions.map (·.map Requirement.toExpression)

/-- The selector that a document holds. -/
def decode (t : τ) : Decoded LabelSelector := do
  let fields ← Decode.members t
  return {
    matchLabels := ← Decode.nullable Decode.labels fields "matchLabels"
    matchExpressions :=
      ← Decode.nullable (Decode.list Requirement.decode) fields "matchExpressions" }

def encode (s : LabelSelector) : Json :=
  Encode.object [
    ("matchExpressions", s.matchExpressions.map (Encode.list Requirement.encode)),
    ("matchLabels", s.matchLabels.map Encode.labels)]

end LabelSelector

end SidecarPolicy
