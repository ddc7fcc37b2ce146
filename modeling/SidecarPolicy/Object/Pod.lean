/-
Pods.

Of what a pod runs, its containers and volumes are kept; of its observed state, that there is one.

* `PodSpec`, `Pod`: a pod, and what it runs;
* `Pod.decode`, `Pod.encode`: its document, which always names its kind.
-/
import SidecarPolicy.Object.Container
import SidecarPolicy.Object.Meta
import SidecarPolicy.Object.Volume

namespace SidecarPolicy

variable {τ : Type} [Tree τ]

/-- What a pod runs. -/
structure PodSpec where
  containers : List Container := []
  volumes : Option (List Volume) := none
  deriving DecidableEq, Inhabited, Repr

namespace PodSpec

/-- The specification that a document holds. -/
def decode (t : τ) : Decoded PodSpec := do
  let fields ← Decode.members t
  return {
    containers :=
      (← Decode.nullable (Decode.list Container.decode) fields "containers").getD []
    volumes := ← Decode.nullable (Decode.list Volume.decode) fields "volumes" }

def encode (s : PodSpec) : Json :=
  Encode.object [
    ("containers", some (Encode.list Container.encode s.containers)),
    ("volumes", s.volumes.map (Encode.list Volume.encode))]

end PodSpec

/-- The observed state of an object, of which nothing is kept but that there
is one. -/
structure Observed where
  deriving DecidableEq, Inhabited, Repr

/-- The observed state that a document holds. -/
def Observed.decode (t : τ) : Decoded Observed := do
  let _ ← Decode.members t
  return {}

/-- The document of an observed state. -/
def Observed.encode (_ : Observed) : Json := Encode.object []

/-- A pod. -/
structure Pod where
  metadata : ObjectMeta := {}
  spec : Option PodSpec := none
  status : Option Observed := none
  deriving DecidableEq, Inhabited, Repr

namespace Pod

/-- The version of the API that pods belong to. -/
def apiVersion : String := "v1"

def kind : String := "Pod"

/-- The pod that a document holds. -/
def decode (t : τ) : Decoded Pod := do
  let fields ← Decode.members t
  Decode.constant fields "apiVersion" apiVersion
  Decode.constant fields "kind" kind
  return {
    metadata := (← Decode.nullable ObjectMeta.decode fields "metadata").getD {}
    spec := ← Decode.nullable PodSpec.decode fields "spec"
    status := ← Decode.nullable Observed.decode fields "status" }

def encode (p : Pod) : Json :=
  Encode.object [
    ("apiVersion", some (.str apiVersion)),
    ("kind", some (.str kind)),
    ("metadata", some p.metadata.encode),
    ("spec", p.spec.map PodSpec.encode),
    ("status", p.status.map Observed.encode)]

end Pod

end SidecarPolicy
