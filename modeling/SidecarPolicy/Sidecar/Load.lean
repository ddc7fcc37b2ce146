/-
The sidecar that a configuration file describes.

* `LoadError`: why a file describes none;
* `SidecarConfig.load`: the sidecar of a file.
-/
import SidecarPolicy.Sidecar.Config
import SidecarPolicy.Yaml.Node

namespace SidecarPolicy

/-- Why a file describes no sidecar. -/
inductive LoadError where
  | unreadable
  | syntaxFault (fault : Yaml.Fault)
  | undecodable (e : DecodeError)
  | noContainers (path : String)
  deriving DecidableEq, Repr

/-- The wording for a file without containers. -/
def LoadError.noContainersMessage (path : String) : String :=
  "sidecar config " ++ path ++ " defines no containers"

/-- The sidecar of the file at a path, given its content if it can be read. -/
def SidecarConfig.load (path : String) (content : Option (List UInt8)) :
    Except LoadError SidecarConfig := do
  let bytes ← match content with
    | none => throw .unreadable
    | some bytes => pure bytes
  let node ← (Yaml.Node.parse bytes).mapError .syntaxFault
  let config ← (SidecarConfig.decode node).mapError .undecodable
  if config.containers.isEmpty then throw (.noContainers path) else return config

end SidecarPolicy
