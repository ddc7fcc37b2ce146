/-
Documents as a decoder sees them, whatever notation they are written in.

* `Tree`: what a decoder may ask of a node;
* `Json` as a `Tree`: every question has the answer of its own JSON type;
* `DecodeError`: why a document does not hold a value of the wanted type.
-/
import SidecarPolicy.Json.Basic

namespace SidecarPolicy

/-- Documents that a decoder can read.  The questions overlap in notations in
which a scalar has no type of its own. -/
class Tree (τ : Type) where
  /-- Whether the node stands for no value where a value may be left out. -/
  isNull : τ → Bool
  text? : τ → Option String
  truth? : τ → Option Bool
  integer? : τ → Option Int
  items? : τ → Option (List τ)
  members? : τ → Option (List (String × τ))

instance : Tree Json where
  isNull
    | .null => true
    | _ => false
  text?
    | .str s => some s
    | _ => none
  truth?
    | .bool b => some b
    | _ => none
  integer?
    | .int i => some i
    | _ => none
  items?
    | .arr items => some items
    | _ => none
  members?
    | .obj members => some members
    | _ => none

/-- Why a document does not hold a value of the wanted type. -/
inductive DecodeError where
  | expected (what : String)
  | missing (field : String)
  | repeated (field : String)
  | unexpected (field : String) (value : String)
  deriving DecidableEq, Repr

/-- The wording of a decoding error. -/
def DecodeError.message : DecodeError → String
  | .expected what => "expected " ++ what
  | .missing field => "missing field " ++ field
  | .repeated field => "repeated field " ++ field
  | .unexpected field value => "unexpected value of field " ++ field ++ ": " ++ value

/-- A decoded value, or the reason why there is none. -/
abbrev Decoded (α : Type) := Except DecodeError α

end SidecarPolicy
