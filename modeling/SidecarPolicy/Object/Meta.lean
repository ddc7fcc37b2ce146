/-
The metadata of a cluster object.

The records of cluster objects keep what is read by something that is decided.  Patches are made
to documents, so that the other members of a document stay as they are there; of an object that is
written back as a whole only the members of the records are told.  Of metadata these others are
owners, finalizers, times and the like.

* `ObjectMeta`: names, version, labels and annotations;
* `ObjectMeta.anyName`: the name, else the prefix of a generated one;
* `ObjectMeta.decode`, `ObjectMeta.encode`: its document.
-/
import SidecarPolicy.Decode

namespace SidecarPolicy

/-- The metadata of a cluster object. -/
structure ObjectMeta where
  name : Option String := none
  generateName : Option String := none
  «namespace» : Option String := none
  resourceVersion : Option String := none
  labels : Option Labels := none
  annotations : Option Labels := none
  deriving DecidableEq, Inhabited, Repr

namespace ObjectMeta

/-- The name of the object, else the prefix from which its name will be
generated, else the empty text. -/
def anyName (m : ObjectMeta) : String :=
  (m.name.or m.generateName).getD ""

/-- The namespace of the object, the empty text if it has none. -/
def anyNamespace (m : ObjectMeta) : String :=
  m.namespace.getD ""

/-- The labels, none if the field is absent. -/
def allLabels (m : ObjectMeta) : Labels := m.labels.getD .empty

/-- The annotations, none if the field is absent. -/
def allAnnotations (m : ObjectMeta) : Labels := m.annotations.getD .empty

variable {τ : Type} [Tree τ]

/-- The metadata that a document holds. -/
def decode (t : τ) : Decoded ObjectMeta := do
  let fields ← Decode.members t
  return {
    name := ← Decode.nullable Decode.text fields "name"
    generateName := ← Decode.nullable Decode.text fields "generateName"
    «namespace» := ← Decode.nullable Decode.text fields "namespace"
    resourceVersion := ← Decode.nullable Decode.text fields "resourceVersion"
    labels := ← Decode.nullable Decode.labels fields "labels"
    annotations := ← Decode.nullable Decode.labels fields "annotations" }

def encode (m : ObjectMeta) : Json :=
  Encode.object [
    ("annotations", m.annotations.map Encode.labels),
    ("generateName", m.generateName.map .str),
    ("labels", m.labels.map Encode.labels),
    ("name", m.name.map .str),
    ("namespace", m.namespace.map .str),
    ("resourceVersion", m.resourceVersion.map .str)]

end ObjectMeta

end SidecarPolicy
