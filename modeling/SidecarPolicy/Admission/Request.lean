/-
What the cluster asks about an object that is being created.

The reviewed object may be of any kind; only its metadata are read as such, and
its other fields as they are.

* `ReviewedObject`: an object of any kind;
* `ReviewedObject.toPod`: the object as a pod;
* `AdmissionRequest`: a request to admit an object;
* `AdmissionRequest.decode`: the request that a document holds.
-/
import SidecarPolicy.Object.Pod

namespace SidecarPolicy

/-! ### Reviewed objects -/

/-- An object of any kind: its API version and kind, if it names both, its
metadata, and its other fields. -/
structure ReviewedObject where
  types : Option (String × String)
  metadata : ObjectMeta
  fields : List (String × Json)
  deriving Repr

namespace ReviewedObject

/-- The API version and the kind among fields, after those that were found
before, and the fields that are left.  A field of either name that is no text,
or the second one, leaves the object without both, and what follows as it is. -/
def takeTypes (apiVersion kind : Option String) :
    List (String × Json) → Option (String × String) × List (String × Json)
  | [] => (apiVersion.bind fun v => kind.map (v, ·), [])
  | (name, value) :: rest =>
      if name = "apiVersion" then
        match apiVersion, value with
        | none, .str s => takeTypes (some s) kind rest
        | _, _ => (none, rest)
      else if name = "kind" then
        match kind, value with
        | none, .str s => takeTypes apiVersion (some s) rest
        | _, _ => (none, rest)
      else
        let (types, others) := takeTypes apiVersion kind rest
        (types, (name, value) :: others)

/-- The object that a document holds. -/
def decode (doc : Draft) : Decoded ReviewedObject := do
  let members ← Decode.members doc
  let metadata ← Decode.defaulted ObjectMeta.decode {} members ["metadata"]
  let others ← (members.filter (·.1 != "metadata")).mapM fun m =>
    return (m.1, ← Decode.readable m.2)
  let (types, fields) := takeTypes none none others
  return { types, metadata, fields }

/-- The document of an object, with the last field of each name. -/
def encode (o : ReviewedObject) : Json :=
  let types := match o.types with
    | none => []
    | some (apiVersion, kind) => [("apiVersion", .str apiVersion), ("kind", .str kind)]
  .obj (types ++ ("metadata", o.metadata.encode) :: Json.distinctMembers o.fields)

def toPod (o : ReviewedObject) : Decoded Pod := Pod.decode o.encode

end ReviewedObject

/-! ### Requests -/

/-- A request to admit an object; of its other fields nothing is kept. -/
structure AdmissionRequest where
  uid : String
  «namespace» : Option String
  object : Option ReviewedObject
  deriving Repr

namespace AdmissionRequest

def operations : List String := ["CREATE", "UPDATE", "DELETE", "CONNECT"]

/-- The fields of a request up to the last one that a list must hold. -/
def firstFields : List String :=
  ["uid", "kind", "resource", "subResource", "requestKind", "requestResource",
    "requestSubResource", "name", "namespace", "operation", "userInfo", "object",
    "oldObject"]

/-- The fields of a request that a list may leave out. -/
def lastFields : List String := ["dryRun", "options"]

/-- A record of texts, the last of which may be left out. -/
def checkTexts (first last : List String) (doc : Draft) : Decoded Unit := do
  let fields ← Decode.record first last doc
  first.forM fun name => discard (Decode.required Decode.text fields name)
  last.forM fun name => discard (Decode.defaulted Decode.text "" fields [name])

/-- The kind of an object. -/
def checkKind : Draft → Decoded Unit := checkTexts ["group", "version", "kind"] []

/-- The resource by which an object is reached. -/
def checkResource : Draft → Decoded Unit :=
  checkTexts ["group", "version", "resource"] ["api_version"]

/-- A map of lists of texts. -/
def checkTextLists (doc : Draft) : Decoded Unit := do
  (← Decode.members doc).forM fun m => discard (Decode.list Decode.text m.2)

/-- Who makes a request. -/
def checkUser (doc : Draft) : Decoded Unit := do
  let fields ← Decode.members doc
  let _ ← Decode.nullable checkTextLists fields "extra"
  let _ ← Decode.nullable (Decode.list Decode.text) fields "groups"
  let _ ← Decode.nullable Decode.text fields "uid"
  let _ ← Decode.nullable Decode.text fields "username"

/-- The fields of a request of which nothing is kept. -/
def checkRest (fields : List (String × Draft)) : Decoded Unit := do
  Decode.required checkKind fields "kind"
  Decode.required checkResource fields "resource"
  let _ ← Decode.optional Decode.text fields ["subResource"]
  let _ ← Decode.optional checkKind fields ["requestKind"]
  let _ ← Decode.optional checkResource fields ["requestResource"]
  let _ ← Decode.optional Decode.text fields ["requestSubResource"]
  let _ ← Decode.defaulted Decode.text "" fields ["name"]
  let _ ← Decode.required (Decode.choice operations) fields "operation"
  Decode.required checkUser fields "userInfo"
  let _ ← Decode.optional ReviewedObject.decode fields ["oldObject"]
  let _ ← Decode.defaulted Decode.truth false fields ["dryRun"]
  let _ ← Decode.optional Decode.readable fields ["options"]

/-- The request that a document holds. -/
def decode (doc : Draft) : Decoded AdmissionRequest := do
  let fields ← Decode.record firstFields lastFields doc
  checkRest fields
  return {
    uid := ← Decode.required Decode.text fields "uid"
    «namespace» := ← Decode.optional Decode.text fields ["namespace"]
    object := ← Decode.optional ReviewedObject.decode fields ["object"] }

end AdmissionRequest

end SidecarPolicy
