/-
Volumes and their sources.

* `EmptyDirSource`, `HostPathSource`, `ConfigMapSource`, `SecretSource`: where
  the content of a volume comes from;
* `Volume`: a volume;
* `Volume.decode`, `Volume.encode`: its document.
-/
import SidecarPolicy.Decode

namespace SidecarPolicy

variable {τ : Type} [Tree τ]

/-- An empty directory. -/
structure EmptyDirSource where
  medium : Option String := none
  deriving DecidableEq, Inhabited, Repr

/-- The empty directory that a document holds. -/
def EmptyDirSource.decode (t : τ) : Decoded EmptyDirSource := do
  let fields ← Decode.members t
  return { medium := ← Decode.nullable Decode.text fields "medium" }

/-- The document of an empty directory. -/
def EmptyDirSource.encode (s : EmptyDirSource) : Json :=
  Encode.object [("medium", s.medium.map .str)]

/-- A path of the host. -/
structure HostPathSource where
  path : String := ""
  type : Option String := none
  deriving DecidableEq, Inhabited, Repr

/-- The host path that a document holds. -/
def HostPathSource.decode (t : τ) : Decoded HostPathSource := do
  let fields ← Decode.members t
  return {
    path := (← Decode.nullable Decode.text fields "path").getD ""
    type := ← Decode.nullable Decode.text fields "type" }

/-- The document of a host path. -/
def HostPathSource.encode (s : HostPathSource) : Json :=
  Encode.object [("path", some (.str s.path)), ("type", s.type.map .str)]

/-- A map of configuration values. -/
structure ConfigMapSource where
  name : String := ""
  deriving DecidableEq, Inhabited, Repr

/-- The configuration map that a document holds. -/
def ConfigMapSource.decode (t : τ) : Decoded ConfigMapSource := do
  let fields ← Decode.members t
  return { name := (← Decode.nullable Decode.text fields "name").getD "" }

/-- The document of a configuration map. -/
def ConfigMapSource.encode (s : ConfigMapSource) : Json :=
  Encode.object [("name", some (.str s.name))]

/-- A secret. -/
structure SecretSource where
  secretName : Option String := none
  deriving DecidableEq, Inhabited, Repr

/-- The secret that a document holds. -/
def SecretSource.decode (t : τ) : Decoded SecretSource := do
  let fields ← Decode.members t
  return { secretName := ← Decode.nullable Decode.text fields "secretName" }

def SecretSource.encode (s : SecretSource) : Json :=
  Encode.object [("secretName", s.secretName.map .str)]

/-- A volume. -/
structure Volume where
  name : String := ""
  emptyDir : Option EmptyDirSource := none
  hostPath : Option HostPathSource := none
  configMap : Option ConfigMapSource := none
  secret : Option SecretSource := none
  deriving DecidableEq, Inhabited, Repr

namespace Volume

/-- The volume that a document holds. -/
def decode (t : τ) : Decoded Volume := do
  let fields ← Decode.members t
  return {
    name := (← Decode.nullable Decode.text fields "name").getD ""
    emptyDir := ← Decode.nullable EmptyDirSource.decode fields "emptyDir"
    hostPath := ← Decode.nullable HostPathSource.decode fields "hostPath"
    configMap := ← Decode.nullable ConfigMapSource.decode fields "configMap"
    secret := ← Decode.nullable SecretSource.decode fields "secret" }

def encode (v : Volume) : Json :=
  Encode.object [
    ("configMap", v.configMap.map ConfigMapSource.encode),
    ("emptyDir", v.emptyDir.map EmptyDirSource.encode),
    ("hostPath", v.hostPath.map HostPathSource.encode),
    ("name", some (.str v.name)),
    ("secret", v.secret.map SecretSource.encode)]

end Volume

end SidecarPolicy
