/-
The document of a selector in a policy.

The list of requirements is spelled `matchExpression` there, the plural of the
cluster's own selectors being read as well, but not both at once.

* `Expression.decode`, `Expression.encode`: the document of a requirement;
* `Selector.decode`, `Selector.encode`: the document of a selector.
-/
import SidecarPolicy.Decode
import SidecarPolicy.Selector

namespace SidecarPolicy

variable {τ : Type} [Tree τ]

/-- The requirement that a document holds; only the values may be left out. -/
def Expression.decode (t : τ) : Decoded Expression := do
  let fields ← Decode.record ["key", "operator"] ["values"] t
  return {
    key := ← Decode.required Decode.text fields "key"
    operator := ← Decode.required Decode.text fields "operator"
    values := ← Decode.defaulted (Decode.list Decode.text) [] fields ["values"] }

def Expression.encode (e : Expression) : Json :=
  Encode.object [
    ("key", some (.str e.key)),
    ("operator", some (.str e.operator)),
    ("values", some (Encode.texts e.values))]

/-- The selector that a document holds; null is an absent part. -/
def Selector.decode (t : τ) : Decoded Selector := do
  let fields ← Decode.record [] ["matchLabels", "matchExpression"] t
  return {
    matchLabels := ← Decode.optional Decode.labels fields ["matchLabels"]
    matchExpressions :=
      ← Decode.optional (Decode.list Expression.decode) fields
          ["matchExpression", "matchExpressions"] }

/-- The document of a selector; an absent part is left out. -/
def Selector.encode (s : Selector) : Json :=
  Encode.object [
    ("matchLabels", s.matchLabels.map Encode.labels),
    ("matchExpression", s.matchExpressions.map (Encode.list Expression.encode))]

end SidecarPolicy
