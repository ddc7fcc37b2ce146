/-
What the replies of the API server say.

* `ApiReply`: a reply, or the failure of the connection, after some time;
* `ApiFault`: why a call has no answer;
* `Api.answer`: the answer to a call that a reply holds;
* `Api.exchange`: the request of a call, and the answer within a limit of time.
-/
import SidecarPolicy.Api.Request
import SidecarPolicy.Api.Status
import SidecarPolicy.Json.Parser
import SidecarPolicy.Text.Duration
import SidecarPolicy.Text.Literal

namespace SidecarPolicy

/-- A reply of the API server: its status and its body, or the failure of the
connection, after some milliseconds. -/
structure ApiReply where
  status : Nat := 200
  body : Except String String
  delay : Nat := 0

/-- Why a call has no answer. -/
inductive ApiFault where
  | build (fault : BuildFault)
  | timedOut (limit : Nat)
  | connection (message : String)
  | refused (code : Nat) (reason message : String)
  | undecodable (e : DecodeError)
  deriving DecidableEq, Repr

/-- The wording of a call that took too long. -/
def ApiFault.timeoutMessage (limit : Nat) : String :=
  "request timed out after " ++ Text.durationText limit

namespace Api

/-! ### Documents -/

/-- The document that a text holds. -/
def document (text : String) : Decoded Draft :=
  Decode.answer "a JSON text" (Draft.parse? text.toList)

/-- The metadata of a list, of which nothing is kept. -/
def checkListMeta (doc : Draft) : Decoded Unit := do
  let fields ← Decode.members doc
  let _ ← Decode.nullable Decode.text fields "continue"
  let _ ← Decode.nullable Decode.int64 fields "remainingItemCount"
  let _ ← Decode.nullable Decode.text fields "resourceVersion"
  let _ ← Decode.nullable Decode.text fields "selfLink"

/-- The items of a list of objects; null is no items, but the field must be
there, and all other fields must have values. -/
def listOf {α : Type} (item : Draft → Decoded α) (doc : Draft) : Decoded (List α) := do
  let fields ← Decode.members doc
  Decode.checkOthers ["metadata", "items"] fields
  Decode.defaulted checkListMeta () fields ["metadata"]
  let items ← Decode.required (Decode.unlessNull (Decode.list item)) fields "items"
  return items.getD []

/-- Whether a document is of the kind of statuses; the last field that tells the
kind counts. -/
def isStatus (doc : Draft) : Bool :=
  match (Tree.members? doc).bind fun fields => (Decode.valuesOf "kind" fields).getLast? with
  | some (.str kind) => kind = "Status"
  | _ => false

/-- What a reply to a deletion holds: a status, or the pod.  All of it must have
values. -/
def deletion (doc : Draft) : Decoded Unit := do
  let _ ← Decode.readable doc
  if isStatus doc then discard (Status.decode doc) else discard (Pod.decode doc)

/-- The answer that the document of a reply holds. -/
def answerOf : (c : Call) → Draft → Decoded c.Answer
  | .listDeployments .., doc => listOf Deployment.decode doc
  | .listPods .., doc => listOf Pod.decode doc
  | .getDeployment .., doc => Deployment.decode doc
  | .patchDeployment .., doc | .updateDeployment _, doc => discard (Deployment.decode doc)
  | .deletePod .., doc => deletion doc

/-! ### Refusals -/

/-- The refusal that a document holds, with a code of its own. -/
def refusalOf (doc : Draft) : Decoded ApiFault := do
  let fields ← Decode.record ["status", "message", "reason", "code"] [] doc
  let _ ← Decode.required Decode.text fields "status"
  return .refused (← Decode.required (Decode.naturalBelow UInt16.size) fields "code")
    (← Decode.defaulted Decode.text "" fields ["reason"])
    (← Decode.defaulted Decode.text "" fields ["message"])

/-- The refusal of a reply with the status of an error. -/
def refusal (status : Nat) (text : String) : ApiFault :=
  match (document text).bind refusalOf with
  | .ok fault => fault
  | .error _ => .refused status "Failed to parse error data" (Text.literal text)

/-- Whether a fault is the refusal of what does not exist. -/
def isNotFound : ApiFault → Bool
  | .refused code _ _ => code == 404
  | _ => false

/-- A pod that is gone already counts as deleted. -/
def forgive : (c : Call) → Except ApiFault c.Answer → Except ApiFault c.Answer
  | .deletePod .., .error fault => if isNotFound fault then .ok () else .error fault
  | _, result => result

/-! ### Answers -/

/-- The answer to a call that a body holds, which came with a status. -/
def answerOfBody (c : Call) (status : Nat) (text : String) : Except ApiFault c.Answer :=
  if 400 ≤ status ∧ status < 600 then .error (refusal status text)
  else ((document text).bind (answerOf c)).mapError .undecodable

/-- The answer to a call that a reply holds. -/
def answer (c : Call) (reply : ApiReply) : Except ApiFault c.Answer :=
  match reply.body with
  | .error message => .error (.connection message)
  | .ok text => forgive c (answerOfBody c reply.status text)

/-- The requests that are sent for a call, and its answer within a limit of
time; without any time nothing is sent. -/
def exchange (limit : Nat) (c : Call) (reply : ApiReply) :
    List ApiRequest × Except ApiFault c.Answer :=
  match request c with
  | .error fault => ([], .error (.build fault))
  | .ok r =>
      if limit = 0 then ([], .error (.timedOut limit))
      else ([r], if limit < reply.delay then .error (.timedOut limit) else answer c reply)

end Api

end SidecarPolicy
