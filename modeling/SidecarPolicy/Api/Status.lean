/-
The statuses that report how an action has ended.

* `StatusCause`, `StatusDetails`, `Status`: a status with the object and the
  causes that it is about;
* `Status.decode`: the status that a document holds, every field of which may
  be left out;
* `Status.encode`: the document of a status, without what is as by default;
* `Status.failure`: the status of an action that has failed.
-/
import SidecarPolicy.Decode

namespace SidecarPolicy

variable {τ : Type} [Tree τ]

/-- One of the causes of a failure. -/
structure StatusCause where
  reason : String := ""
  message : String := ""
  field : String := ""
  deriving DecidableEq, Inhabited, Repr

/-- The cause that a document holds. -/
def StatusCause.decode (t : τ) : Decoded StatusCause := do
  let fields ← Decode.record [] ["reason", "message", "field"] t
  return {
    reason := ← Decode.defaulted Decode.text "" fields ["reason"]
    message := ← Decode.defaulted Decode.text "" fields ["message"]
    field := ← Decode.defaulted Decode.text "" fields ["field"] }

def StatusCause.encode (c : StatusCause) : Json :=
  Encode.object [
    ("reason", Encode.unlessEmpty c.reason),
    ("message", Encode.unlessEmpty c.message),
    ("field", Encode.unlessEmpty c.field)]

/-- The object that a status is about, and the causes. -/
structure StatusDetails where
  name : String := ""
  group : String := ""
  kind : String := ""
  uid : String := ""
  causes : List StatusCause := []
  retryAfterSeconds : Nat := 0
  deriving DecidableEq, Inhabited, Repr

/-- The details that a document holds. -/
def StatusDetails.decode (t : τ) : Decoded StatusDetails := do
  let fields ← Decode.record []
    ["name", "group", "kind", "uid", "causes", "retryAfterSeconds"] t
  return {
    name := ← Decode.defaulted Decode.text "" fields ["name"]
    group := ← Decode.defaulted Decode.text "" fields ["group"]
    kind := ← Decode.defaulted Decode.text "" fields ["kind"]
    uid := ← Decode.defaulted Decode.text "" fields ["uid"]
    causes := ← Decode.defaulted (Decode.list StatusCause.decode) [] fields ["causes"]
    retryAfterSeconds :=
      ← Decode.defaulted (Decode.naturalBelow UInt32.size) 0 fields ["retryAfterSeconds"] }

def StatusDetails.encode (d : StatusDetails) : Json :=
  Encode.object [
    ("name", Encode.unlessEmpty d.name),
    ("group", Encode.unlessEmpty d.group),
    ("kind", Encode.unlessEmpty d.kind),
    ("uid", Encode.unlessEmpty d.uid),
    ("causes", if d.causes = [] then none else some (Encode.list StatusCause.encode d.causes)),
    ("retryAfterSeconds", Encode.unlessZero d.retryAfterSeconds)]

/-- How an action has ended. -/
structure Status where
  status : Option String := none
  code : Nat := 0
  message : String := ""
  reason : String := ""
  details : Option StatusDetails := none
  deriving DecidableEq, Inhabited, Repr

namespace Status

def outcomes : List String := ["Success", "Failure"]

/-- The status that a document holds. -/
def decode (t : τ) : Decoded Status := do
  let fields ← Decode.record [] ["status", "code", "message", "reason", "details"] t
  return {
    status := ← Decode.optional (Decode.choice outcomes) fields ["status"]
    code := ← Decode.defaulted (Decode.naturalBelow UInt16.size) 0 fields ["code"]
    message := ← Decode.defaulted Decode.text "" fields ["message"]
    reason := ← Decode.defaulted Decode.text "" fields ["reason"]
    details := ← Decode.optional StatusDetails.decode fields ["details"] }

def encode (s : Status) : Json :=
  Encode.object [
    ("status", s.status.map .str),
    ("code", Encode.unlessZero s.code),
    ("message", Encode.unlessEmpty s.message),
    ("reason", Encode.unlessEmpty s.reason),
    ("details", s.details.map StatusDetails.encode)]

/-- The status of an action that has failed. -/
def failure (message reason : String) : Status :=
  { status := some "Failure", message, reason }

end Status

end SidecarPolicy
