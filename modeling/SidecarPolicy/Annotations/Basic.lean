/-
The annotations that a policy writes onto a workload, and the marks that tell
which pods carry the sidecar.

* `Annotations.inject`, `Annotations.status`, `Annotations.action`,
  `Annotations.groupLabel`, `Annotations.logFrequency`: the five keys;
* `Annotations.policyKeys`: all of them, in the order in which they are removed;
* `Annotations.isTruthy`: the values that turn an option on;
* `Annotations.isInjected`, `Annotations.requestsInjection`: the marks.
-/
import SidecarPolicy.Labels
import SidecarPolicy.Text.Ascii

namespace SidecarPolicy.Annotations

/-- Requests the sidecar for a deployment or a pod. -/
def inject : String := "sidecar-injector-webhook.cluster-monitor.io/inject"

/-- The value that policies give to the request. -/
def injectEnabled : String := "true"

/-- Set once the sidecar has been added. -/
def status : String := "sidecar-injector-webhook.cluster-monitor.io/status"

/-- The value that says that the sidecar has been added. -/
def statusInjected : String := "injected"

/-- What happens to the group of a reported pod. -/
def action : String := "Action"

/-- The label keys that identify a pod's group. -/
def groupLabel : String := "GroupLabel"

/-- The seconds between two log entries. -/
def logFrequency : String := "LogFrequency"

/-- Every key that a policy owns on a workload. -/
def policyKeys : List String := [inject, status, action, groupLabel, logFrequency]

/-- Whether a value turns an option on. -/
def isTruthy (value : String) : Bool :=
  ["y", "yes", "true", "on"].any fun t => Text.sameLetters value t

/-- Whether the sidecar has been added already. -/
def isInjected (annotations : Labels) : Bool :=
  match annotations.get? status with
  | none => false
  | some value => Text.sameLetters value statusInjected

/-- Whether the object asks for the sidecar by itself. -/
def requestsInjection (annotations : Labels) : Bool :=
  match annotations.get? inject with
  | none => false
  | some value => isTruthy value

end SidecarPolicy.Annotations
