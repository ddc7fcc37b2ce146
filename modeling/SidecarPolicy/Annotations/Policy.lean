/-
The values of a policy as annotations of a deployment.

* `PolicyAnnotations`: action, group label and log frequency;
* `PolicyAnnotations.toLabels`: all five annotations, with the request for the
  sidecar and the mark that it is there;
* `PolicyAnnotations.ofLabels`: the values read back, missing and malformed
  ones being the defaults.
-/
import SidecarPolicy.Annotations.Action
import SidecarPolicy.Annotations.Basic
import SidecarPolicy.Annotations.GroupLabel
import SidecarPolicy.Annotations.LogFrequency

namespace SidecarPolicy

/-- The values of a policy that are written onto a deployment. -/
structure PolicyAnnotations where
  action : Action
  groupLabel : GroupLabel
  logFrequency : LogFrequency
  deriving DecidableEq, Inhabited

namespace PolicyAnnotations

/-- The annotations of a selected deployment. -/
def toLabels (p : PolicyAnnotations) : Labels :=
  KeyMap.ofList [
    (Annotations.inject, Annotations.injectEnabled),
    (Annotations.status, Annotations.statusInjected),
    (Annotations.action, p.action.text),
    (Annotations.groupLabel, p.groupLabel.text),
    (Annotations.logFrequency, p.logFrequency.text)]

/-- The frequency that a text holds, the standard one if it holds none. -/
def frequencyOf (s : String) : LogFrequency :=
  match LogFrequency.ofText s with
  | .ok f => f
  | .error _ => .standard

/-- The values that a deployment's annotations hold. -/
def ofLabels (annotations : Labels) : PolicyAnnotations where
  action := (annotations.get? Annotations.action).elim .unset Action.ofText
  groupLabel := (annotations.get? Annotations.groupLabel).elim .empty GroupLabel.ofText
  logFrequency :=
    (annotations.get? Annotations.logFrequency).elim .standard frequencyOf

end PolicyAnnotations

end SidecarPolicy
