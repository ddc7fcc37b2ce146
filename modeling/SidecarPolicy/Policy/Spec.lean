/-
Policies: which deployments get the sidecar, and what happens to their group
when one of their pods is reported.

* `Destination`, `LogSpec`, `PolicySpec`: the content of a policy;
* `PolicySpec.namespaces`: where deployments are selected;
* `PolicySpec.annotations`: what is written onto them;
* `Policy`: a policy object of the cluster.
-/
import SidecarPolicy.Annotations.Policy
import SidecarPolicy.Selector

namespace SidecarPolicy

/-- A receiver of logs outside the cluster. -/
structure Destination where
  ipaddress : String := ""
  port : String := ""
  endpoint : String := ""
  deriving DecidableEq, Inhabited, Repr

/-- How often logs are written, and where they go.  The frequency zero selects
the default. -/
structure LogSpec where
  logFrequency : Nat := 0
  destination : List Destination := []
  deriving DecidableEq, Inhabited, Repr

/-- The content of a policy. -/
structure PolicySpec where
  «namespace» : List String := []
  action : String := ""
  labelSelector : Selector := {}
  groupLabel : List String := []
  logSpec : LogSpec := {}
  deriving DecidableEq, Inhabited, Repr

namespace PolicySpec

/-- The namespace of policies that name none. -/
def defaultNamespace : String := "default"

/-- The namespaces in which deployments are selected: those that are named,
empty names left out, and the default one if none is left. -/
def namespaces (spec : PolicySpec) : List String :=
  let named := spec.namespace.filter (· ≠ "")
  if named.isEmpty then [defaultNamespace] else named

/-- The values that are written onto every selected deployment. -/
def annotations (spec : PolicySpec) : PolicyAnnotations where
  action := .ofText spec.action
  groupLabel := .ofKeys spec.groupLabel
  logFrequency := .ofSeconds spec.logSpec.logFrequency

end PolicySpec

/-- A policy object: its names, the version under which the cluster stores it,
and its content. -/
structure Policy where
  name : Option String := none
  generateName : Option String := none
  «namespace» : Option String := none
  version : Option String := none
  spec : PolicySpec := {}
  deriving DecidableEq, Inhabited, Repr

end SidecarPolicy
