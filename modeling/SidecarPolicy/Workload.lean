/-
The annotations of workloads that a policy selects.

* `Workload.isAnnotated`: whether a policy has been here;
* `Workload.annotate`: the patch that writes a policy's values;
* `Workload.strip`: the patch that takes them away.
-/
import SidecarPolicy.Amendment
import SidecarPolicy.Annotations.Policy
import SidecarPolicy.Object.Meta

namespace SidecarPolicy.Workload

/-- A workload is annotated if it is marked as injected or requests the sidecar
in the spelling of policies. -/
def isAnnotated (m : ObjectMeta) : Bool :=
  match m.annotations with
  | none => false
  | some a =>
      Annotations.isInjected a || a.get? Annotations.inject == some Annotations.injectEnabled

/-- The patch that writes a policy's values, unless the workload is annotated
or the patch would do nothing. -/
def annotate (m : ObjectMeta) (policy : PolicyAnnotations) : Option Patch :=
  if isAnnotated m then none
  else
    let patch := Amendment.setAnnotations m.annotations policy.toLabels
    if patch.isEmpty then none else some patch

/-- The patch that takes the policy's keys away, unless the workload does not
carry the request for the sidecar. -/
def strip (m : ObjectMeta) : Option Patch :=
  match m.annotations with
  | none => none
  | some a =>
      if a.contains Annotations.inject then
        some (Amendment.removeAnnotations (some a) Annotations.policyKeys)
      else none

end SidecarPolicy.Workload
