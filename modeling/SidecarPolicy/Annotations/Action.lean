/-
What happens to the group of a reported pod.

* `Action`: nothing configured, quarantine, or an action of another name;
* `Action.ofText`, `Action.text`: the written form;
* `Action.quarantines`: whether the group is scaled to zero;
* `Action.text_ofText`: the written form of a name is that name.
-/

namespace SidecarPolicy

/-- The action that a policy names. -/
inductive Action where
  | unset
  | quarantine
  | other (name : String)
  deriving DecidableEq, Inhabited, Repr

namespace Action

/-- The action of a written name. -/
def ofText (s : String) : Action :=
  if s = "" then .unset else if s = "quarantine" then .quarantine else .other s

/-- The written name of an action. -/
def text : Action → String
  | .unset => ""
  | .quarantine => "quarantine"
  | .other name => name

/-- Reported pods are quarantined unless the policy names another action. -/
def quarantines : Action → Bool
  | .unset | .quarantine => true
  | .other _ => false

@[simp] theorem text_ofText (s : String) : (ofText s).text = s := by
  unfold ofText
  split
  · simp_all [text]
  · split <;> simp_all [text]

end Action

end SidecarPolicy
