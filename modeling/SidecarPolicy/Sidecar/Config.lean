/-
The sidecar: the containers and volumes that are added to pods.

* `SidecarConfig`: what is added;
* `SidecarConfig.decode`, `SidecarConfig.encode`: its document, which is
  written whole.
-/
import SidecarPolicy.Object.Container
import SidecarPolicy.Object.Volume

namespace SidecarPolicy

/-- The containers and volumes that are added to pods. -/
structure SidecarConfig where
  containers : List Container := []
  volumes : List Volume := []
  deriving DecidableEq, Inhabited, Repr

namespace SidecarConfig

variable {τ : Type} [Tree τ]

/-- The sidecar that a document holds. -/
def decode (t : τ) : Decoded SidecarConfig := do
  let fields ← Decode.members t
  return {
    containers :=
      ← Decode.defaulted (Decode.list Container.decode) [] fields ["containers"]
    volumes := ← Decode.defaulted (Decode.list Volume.decode) [] fields ["volumes"] }

def encode (s : SidecarConfig) : Json :=
  Encode.object [
    ("containers", some (Encode.list Container.encode s.containers)),
    ("volumes", some (Encode.list Volume.encode s.volumes))]

end SidecarConfig

end SidecarPolicy
