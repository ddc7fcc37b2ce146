/-
The document of a policy's content.

A missing field takes its default; null is no value of any field.  The list of
namespaces may be spelled with a capital, but not in both ways at once.  A list
stands for the values of the first fields.

* `PolicySpec.decode`, `PolicySpec.encode`: the document of a content, which is
  always written whole.
-/
import SidecarPolicy.Policy.SelectorCodec
import SidecarPolicy.Policy.Spec

namespace SidecarPolicy

variable {τ : Type} [Tree τ]

/-- The receiver that a document holds. -/
def Destination.decode (t : τ) : Decoded Destination := do
  let fields ← Decode.record [] ["ipaddress", "port", "endpoint"] t
  return {
    ipaddress := ← Decode.defaulted Decode.text "" fields ["ipaddress"]
    port := ← Decode.defaulted Decode.text "" fields ["port"]
    endpoint := ← Decode.defaulted Decode.text "" fields ["endpoint"] }

def Destination.encode (d : Destination) : Json :=
  Encode.object [
    ("ipaddress", some (.str d.ipaddress)),
    ("port", some (.str d.port)),
    ("endpoint", some (.str d.endpoint))]

/-- The log settings that a document holds. -/
def LogSpec.decode (t : τ) : Decoded LogSpec := do
  let fields ← Decode.record [] ["logFrequency", "destination"] t
  return {
    logFrequency :=
      ← Decode.defaulted (Decode.naturalBelow UInt32.size) 0 fields ["logFrequency"]
    destination :=
      ← Decode.defaulted (Decode.list Destination.decode) [] fields ["destination"] }

def LogSpec.encode (l : LogSpec) : Json :=
  Encode.object [
    ("logFrequency", some (.int l.logFrequency)),
    ("destination", some (Encode.list Destination.encode l.destination))]

/-- The content of a policy that a document holds. -/
def PolicySpec.decode (t : τ) : Decoded PolicySpec := do
  let fields ← Decode.record []
    ["namespace", "action", "labelSelector", "groupLabel", "logSpec"] t
  return {
    «namespace» :=
      ← Decode.defaulted (Decode.list Decode.text) [] fields ["namespace", "Namespace"]
    action := ← Decode.defaulted Decode.text "" fields ["action"]
    labelSelector := ← Decode.defaulted Selector.decode {} fields ["labelSelector"]
    groupLabel := ← Decode.defaulted (Decode.list Decode.text) [] fields ["groupLabel"]
    logSpec := ← Decode.defaulted LogSpec.decode {} fields ["logSpec"] }

/-- The document of a policy's content. -/
def PolicySpec.encode (spec : PolicySpec) : Json :=
  Encode.object [
    ("namespace", some (Encode.texts spec.namespace)),
    ("action", some (.str spec.action)),
    ("labelSelector", some spec.labelSelector.encode),
    ("groupLabel", some (Encode.texts spec.groupLabel)),
    ("logSpec", some spec.logSpec.encode)]

end SidecarPolicy
