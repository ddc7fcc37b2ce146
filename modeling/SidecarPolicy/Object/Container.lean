/-
Containers, with their environment, ports and mounts.

As in all records of cluster objects (see `ObjectMeta`), members by which nothing is decided are
left out: resources, probes, values taken from elsewhere.

* `EnvVar`, `ContainerPort`, `VolumeMount`: the parts of a container;
* `Container`: a container;
* `Container.decode`, `Container.encode`: its document.
-/
import SidecarPolicy.Decode

namespace SidecarPolicy

variable {τ : Type} [Tree τ]

/-- A variable of a container's environment. -/
structure EnvVar where
  name : String := ""
  value : Option String := none
  deriving DecidableEq, Inhabited, Repr

/-- The variable that a document holds. -/
def EnvVar.decode (t : τ) : Decoded EnvVar := do
  let fields ← Decode.members t
  return {
    name := (← Decode.nullable Decode.text fields "name").getD ""
    value := ← Decode.nullable Decode.text fields "value" }

def EnvVar.encode (v : EnvVar) : Json :=
  Encode.object [("name", some (.str v.name)), ("value", v.value.map .str)]

/-- A port that a container listens on. -/
structure ContainerPort where
  containerPort : Int := 0
  name : Option String := none
  protocol : Option String := none
  deriving DecidableEq, Inhabited, Repr

/-- The port that a document holds. -/
def ContainerPort.decode (t : τ) : Decoded ContainerPort := do
  let fields ← Decode.members t
  return {
    containerPort := (← Decode.nullable Decode.int32 fields "containerPort").getD 0
    name := ← Decode.nullable Decode.text fields "name"
    protocol := ← Decode.nullable Decode.text fields "protocol" }

def ContainerPort.encode (p : ContainerPort) : Json :=
  Encode.object [
    ("containerPort", some (.int p.containerPort)),
    ("name", p.name.map .str),
    ("protocol", p.protocol.map .str)]

/-- A volume mounted into a container. -/
structure VolumeMount where
  name : String := ""
  mountPath : String := ""
  readOnly : Option Bool := none
  subPath : Option String := none
  deriving DecidableEq, Inhabited, Repr

/-- The mount that a document holds. -/
def VolumeMount.decode (t : τ) : Decoded VolumeMount := do
  let fields ← Decode.members t
  return {
    name := (← Decode.nullable Decode.text fields "name").getD ""
    mountPath := (← Decode.nullable Decode.text fields "mountPath").getD ""
    readOnly := ← Decode.nullable Decode.truth fields "readOnly"
    subPath := ← Decode.nullable Decode.text fields "subPath" }

def VolumeMount.encode (m : VolumeMount) : Json :=
  Encode.object [
    ("mountPath", some (.str m.mountPath)),
    ("name", some (.str m.name)),
    ("readOnly", m.readOnly.map .bool),
    ("subPath", m.subPath.map .str)]

/-- A container. -/
structure Container where
  name : String := ""
  image : Option String := none
  imagePullPolicy : Option String := none
  workingDir : Option String := none
  command : Option (List String) := none
  args : Option (List String) := none
  env : Option (List EnvVar) := none
  ports : Option (List ContainerPort) := none
  volumeMounts : Option (List VolumeMount) := none
  stdin : Option Bool := none
  tty : Option Bool := none
  deriving DecidableEq, Inhabited, Repr

namespace Container

/-- The container that a document holds. -/
def decode (t : τ) : Decoded Container := do
  let fields ← Decode.members t
  return {
    name := (← Decode.nullable Decode.text fields "name").getD ""
    image := ← Decode.nullable Decode.text fields "image"
    imagePullPolicy := ← Decode.nullable Decode.text fields "imagePullPolicy"
    workingDir := ← Decode.nullable Decode.text fields "workingDir"
    command := ← Decode.nullable (Decode.list Decode.text) fields "command"
    args := ← Decode.nullable (Decode.list Decode.text) fields "args"
    env := ← Decode.nullable (Decode.list EnvVar.decode) fields "env"
    ports := ← Decode.nullable (Decode.list ContainerPort.decode) fields "ports"
    volumeMounts :=
      ← Decode.nullable (Decode.list VolumeMount.decode) fields "volumeMounts"
    stdin := ← Decode.nullable Decode.truth fields "stdin"
    tty := ← Decode.nullable Decode.truth fields "tty" }

/-- The document of a container. -/
def encode (c : Container) : Json :=
  Encode.object [
    ("args", c.args.map Encode.texts),
    ("command", c.command.map Encode.texts),
    ("env", c.env.map (Encode.list EnvVar.encode)),
    ("image", c.image.map .str),
    ("imagePullPolicy", c.imagePullPolicy.map .str),
    ("name", some (.str c.name)),
    ("ports", c.ports.map (Encode.list ContainerPort.encode)),
    ("stdin", c.stdin.map .bool),
    ("tty", c.tty.map .bool),
    ("volumeMounts", c.volumeMounts.map (Encode.list VolumeMount.encode)),
    ("workingDir", c.workingDir.map .str)]

end Container

end SidecarPolicy
