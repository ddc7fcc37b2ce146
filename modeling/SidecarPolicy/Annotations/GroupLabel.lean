/-
The label keys that identify a pod's group, in one text.

* `GroupLabel`: the keys, none of them empty;
* `GroupLabel.ofKeys`: keys collected, empty ones left out;
* `GroupLabel.text`: the keys joined by `--`;
* `GroupLabel.ofText`: a text cut at each `--`, the pieces trimmed.
-/
import SidecarPolicy.Text.Blank
import SidecarPolicy.Text.Pieces

namespace SidecarPolicy

/-- An ordered list of label keys, none of them empty. -/
structure GroupLabel where
  keys : List String
  nonempty : ∀ k ∈ keys, k ≠ ""

namespace GroupLabel

theorem ext_keys {g g' : GroupLabel} (h : g.keys = g'.keys) : g = g' := by
  cases g; cases g'; cases h; rfl

instance : DecidableEq GroupLabel := fun g g' =>
  decidable_of_iff (g.keys = g'.keys) ⟨ext_keys, fun h => h ▸ rfl⟩

def empty : GroupLabel := ⟨[], by simp⟩

instance : Inhabited GroupLabel := ⟨empty⟩

def isEmpty (g : GroupLabel) : Bool := g.keys.isEmpty

/-- Keys collected, empty ones left out. -/
def ofKeys (keys : List String) : GroupLabel :=
  ⟨keys.filter (· ≠ ""), by simp⟩

/-- The keys joined by `--`. -/
def text (g : GroupLabel) : String := "--".intercalate g.keys

/-- The pieces between the dashes `--`, each pair of dashes taken as far to the
left as it can be. -/
def pieces : List Char → List (List Char)
  | [] => [[]]
  | '-' :: '-' :: rest => [] :: pieces rest
  | c :: rest => Text.extendHead c (pieces rest)

/-- The keys of a text: its pieces, trimmed, without the empty ones. -/
def ofText (s : String) : GroupLabel :=
  ofKeys ((pieces s.toList).map fun piece => String.ofList (Text.trimmed piece))

end GroupLabel

end SidecarPolicy
