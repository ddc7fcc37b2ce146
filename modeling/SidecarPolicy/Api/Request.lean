/-
The requests by which calls are made to the API server of a cluster.

* `ApiRequest`: a request;
* `Api.Collection`: the collections of objects, and where they are reached;
* `Api.validTarget`: a path with a query as it is sent, if it can be sent;
* `Api.request`: the request of a call.
-/
import SidecarPolicy.Cluster.Program
import SidecarPolicy.Http.Target
import SidecarPolicy.Text.Form

namespace SidecarPolicy

/-- A request to the API server. -/
structure ApiRequest where
  method : String
  target : String
  accept : Option String := none
  contentType : Option String := none
  body : Option Json := none
  deriving Repr

/-- Why there is no request. -/
inductive BuildFault where
  | unnamed
  | invalidTarget
  | longTarget
  deriving DecidableEq, Repr

def BuildFault.message : BuildFault → String
  | .unnamed => "failed to validate request: A non-empty name is required"
  | .invalidTarget => "failed to build request: invalid uri character"
  | .longTarget => "failed to build request: uri too long"

namespace Api

/-! ### Targets -/

/-- The collections of the API. -/
inductive Collection where
  | deployments
  | pods
  deriving DecidableEq, Repr

/-- The path of the API that a collection belongs to. -/
def Collection.root : Collection → String
  | .deployments => "/apis/apps/v1"
  | .pods => "/api/v1"

def Collection.name : Collection → String
  | .deployments => "deployments"
  | .pods => "pods"

/-- The path of a collection, in one namespace or in all. -/
def Collection.path (c : Collection) («namespace» : Option String) : String :=
  match «namespace» with
  | none => c.root ++ "/" ++ c.name
  | some ns => c.root ++ "/namespaces/" ++ ns ++ "/" ++ c.name

/-- The path of an object; its name is not escaped. -/
def Collection.objectPath (c : Collection) («namespace» : Option String) (name : String) :
    String := c.path «namespace» ++ "/" ++ name

/-- The name under which the program writes. -/
def fieldManager : String := "cluster-monitor"

/-- A parameter, which follows a `&` also if it is the first one. -/
def parameter (name value : String) : String :=
  "&" ++ name ++ "="
    ++ String.ofList ((Text.Form.escape value).map fun b => Char.ofNat b.toNat)

/-- The query of a list: an empty selector is left out. -/
def listQuery (selector : Selector) : String :=
  if selector.isEmpty then "?" else "?" ++ parameter "labelSelector" selector.query

/-- The target that is sent for a text, in which every character must be one of a
path or a query. -/
def validTarget (s : String) : Except BuildFault String :=
  if Http.Target.maxLength < s.utf8ByteSize then .error .longTarget
  else match Http.Target.ofPath? s.toList with
    | none => .error .invalidTarget
    | some t => .ok t.text

/-! ### Requests -/

/-- A name that is not empty. -/
def named (name : String) : Except BuildFault Unit :=
  if name = "" then .error .unnamed else .ok ()

/-- The request of a call. -/
def request : Call → Except BuildFault ApiRequest
  | .listDeployments ns selector => do
      let target ← validTarget (Collection.deployments.path ns ++ listQuery selector)
      return { method := "GET", target }
  | .listPods ns selector => do
      let target ← validTarget (Collection.pods.path ns ++ listQuery selector)
      return { method := "GET", target }
  | .getDeployment ns name => do
      named name
      let target ← validTarget (Collection.deployments.objectPath (some ns) name)
      return { method := "GET", target }
  | .patchDeployment ns name patch => do
      named name
      let target ← validTarget (Collection.deployments.objectPath (some ns) name
        ++ "?" ++ parameter "fieldManager" fieldManager)
      return {
        method := "PATCH"
        target
        accept := some "application/json"
        contentType := some "application/json-patch+json"
        body := some patch.encode }
  | .updateDeployment d => do
      let name := d.metadata.name.getD ""
      named name
      let target ← validTarget
        (Collection.deployments.objectPath d.metadata.namespace name ++ "?")
      return {
        method := "PUT"
        target
        contentType := some "application/json"
        body := some d.encode }
  | .deletePod ns name => do
      named name
      let target ← validTarget (Collection.pods.objectPath (some ns) name ++ "?")
      return {
        method := "DELETE"
        target
        contentType := some "application/json"
        body := some (.obj []) }

end Api

end SidecarPolicy
