/-
Deployments.

Members by which nothing is decided are left out, such as the strategy by which pods are replaced.

* `PodTemplate`, `DeploymentSpec`, `Deployment`: a deployment, how many pods it
  keeps, which ones, and what new ones are made of;
* `Deployment.podSelector?`: the selector of its pods, if it selects any in
  particular;
* `Deployment.decode`, `Deployment.encode`: its document, which always names
  its kind.
-/
import SidecarPolicy.Object.LabelSelector
import SidecarPolicy.Object.Pod

namespace SidecarPolicy

variable {τ : Type} [Tree τ]

/-- What a deployment makes its pods of. -/
structure PodTemplate where
  metadata : Option ObjectMeta := none
  spec : Option PodSpec := none
  deriving DecidableEq, Inhabited, Repr

namespace PodTemplate

/-- The template that a document holds. -/
def decode (t : τ) : Decoded PodTemplate := do
  let fields ← Decode.members t
  return {
    metadata := ← Decode.nullable ObjectMeta.decode fields "metadata"
    spec := ← Decode.nullable PodSpec.decode fields "spec" }

def encode (p : PodTemplate) : Json :=
  Encode.object [
    ("metadata", p.metadata.map ObjectMeta.encode),
    ("spec", p.spec.map PodSpec.encode)]

end PodTemplate

/-- How many pods a deployment keeps, which ones, and what it makes them of. -/
structure DeploymentSpec where
  replicas : Option Int := none
  selector : LabelSelector := {}
  template : PodTemplate := {}
  deriving DecidableEq, Inhabited, Repr

namespace DeploymentSpec

/-- The specification that a document holds. -/
def decode (t : τ) : Decoded DeploymentSpec := do
  let fields ← Decode.members t
  return {
    replicas := ← Decode.nullable Decode.int32 fields "replicas"
    selector := (← Decode.nullable LabelSelector.decode fields "selector").getD {}
    template := (← Decode.nullable PodTemplate.decode fields "template").getD {} }

def encode (s : DeploymentSpec) : Json :=
  Encode.object [
    ("replicas", s.replicas.map .int),
    ("selector", some s.selector.encode),
    ("template", some s.template.encode)]

end DeploymentSpec

/-- A deployment. -/
structure Deployment where
  metadata : ObjectMeta := {}
  spec : Option DeploymentSpec := none
  status : Option Observed := none
  deriving DecidableEq, Inhabited, Repr

namespace Deployment

/-- The version of the API that deployments belong to. -/
def apiVersion : String := "apps/v1"

def kind : String := "Deployment"

/-- The selector of the deployment's pods, unless there is no specification or
the selector is empty and would take every pod. -/
def podSelector? (d : Deployment) : Option Selector :=
  match d.spec with
  | none => none
  | some spec =>
      if spec.selector.toSelector.isEmpty then none else some spec.selector.toSelector

/-- The deployment scaled to a number of pods, if it has a specification. -/
def scaledTo (d : Deployment) (replicas : Int) : Deployment :=
  { d with spec := d.spec.map fun spec => { spec with replicas := some replicas } }

/-- The deployment that a document holds. -/
def decode (t : τ) : Decoded Deployment := do
  let fields ← Decode.members t
  Decode.constant fields "apiVersion" apiVersion
  Decode.constant fields "kind" kind
  return {
    metadata := (← Decode.nullable ObjectMeta.decode fields "metadata").getD {}
    spec := ← Decode.nullable DeploymentSpec.decode fields "spec"
    status := ← Decode.nullable Observed.decode fields "status" }

def encode (d : Deployment) : Json :=
  Encode.object [
    ("apiVersion", some (.str apiVersion)),
    ("kind", some (.str kind)),
    ("metadata", some d.metadata.encode),
    ("spec", d.spec.map DeploymentSpec.encode),
    ("status", d.status.map Observed.encode)]

end Deployment

end SidecarPolicy
