/-
Admission reviews: what the cluster asks about an object that is being created,
and the answers.

* `Review`: a review with its request;
* `Review.decode`, `Review.ofBytes?`: the review that a document or a text holds;
* `Review.toRequest`: its request, or why there is none;
* `Verdict`: an answer;
* `Verdict.ofRequest`, `Verdict.invalid`, `Verdict.deny`: answers that allow and that deny;
* `Verdict.encode`: the document of an answer.
-/
import SidecarPolicy.Admission.Request
import SidecarPolicy.Api.Status
import SidecarPolicy.Json.Parser
import SidecarPolicy.Json.Patch
import SidecarPolicy.Json.Printer
import SidecarPolicy.Text.Utf8

namespace SidecarPolicy

/-! ### Questions -/

/-- A review: its API version and kind, which are those of the answer, and the
request. -/
structure Review where
  apiVersion : String
  kind : String
  request : Option AdmissionRequest
  deriving Repr

namespace Review

/-- The answer that a review may hold already; nothing of it is kept. -/
def checkAnswer (doc : Draft) : Decoded Unit := do
  let fields ← Decode.record
    ["uid", "allowed", "status", "patch", "patchType", "auditAnnotations", "warnings"] [] doc
  let _ ← Decode.required Decode.text fields "uid"
  let _ ← Decode.required Decode.truth fields "allowed"
  let _ ← Decode.required Status.decode fields "status"
  let _ ← Decode.optional (Decode.list (Decode.naturalBelow UInt8.size)) fields ["patch"]
  let _ ← Decode.optional (Decode.choice ["JSONPatch"]) fields ["patchType"]
  let _ ← Decode.defaulted Decode.labels .empty fields ["auditAnnotations"]
  let _ ← Decode.optional (Decode.list Decode.text) fields ["warnings"]

/-- The review that a document holds.  All other fields must have values. -/
def decode (doc : Draft) : Decoded Review := do
  let fields ← Decode.members doc
  Decode.checkOthers ["request", "response"] fields
  let _ ← Decode.optional checkAnswer fields ["response"]
  return {
    apiVersion := ← Decode.required Decode.text fields "apiVersion"
    kind := ← Decode.required Decode.text fields "kind"
    request := ← Decode.optional AdmissionRequest.decode fields ["request"] }

/-- The review that a text holds. -/
def ofBytes? (bytes : List UInt8) : Option Review :=
  (Draft.ofBytes? bytes).bind fun doc => (decode doc).toOption

/-- The request of a review, or why there is none. -/
def toRequest (r : Review) : Except String AdmissionRequest :=
  match r.request with
  | some request => .ok request
  | none => .error "failed to convert AdmissionReview into AdmissionRequest"

end Review

/-! ### Answers -/

/-- An answer to a review: whether the object is allowed, how the review has ended, and the patch
that is made to the object. -/
structure Verdict where
  apiVersion : String
  kind : String
  uid : String
  allowed : Bool
  result : Status := {}
  patch : Option Patch := none
  deriving Repr

namespace Verdict

/-- The answer to a request that has nothing to report, and allows the object. -/
def ofRequest (review : Review) (request : AdmissionRequest) : Verdict where
  apiVersion := review.apiVersion
  kind := review.kind
  uid := request.uid
  allowed := true

/-- The answer to what holds no request.  There is nothing that it could allow. -/
def invalid (reason : String) : Verdict where
  apiVersion := "admission.k8s.io/v1beta1"
  kind := "AdmissionReview"
  uid := ""
  allowed := false
  result := .failure reason "InvalidRequest"

/-- The answer that denies the object for a reason. -/
def deny (v : Verdict) (reason : String) : Verdict :=
  { v with allowed := false, result := { v.result with message := reason } }

def withPatch (v : Verdict) (patch : Patch) : Verdict := { v with patch := some patch }

/-- The bytes of the text of a patch, as numbers. -/
def patchBytes (p : Patch) : Json :=
  Encode.list (fun b : UInt8 => .int b.toNat) (Text.Utf8.encode (Json.chars p.encode))

/-- The document of an answer. -/
def encode (v : Verdict) : Json :=
  .obj [
    ("apiVersion", .str v.apiVersion),
    ("kind", .str v.kind),
    ("response", Encode.object [
      ("uid", some (.str v.uid)),
      ("allowed", some (.bool v.allowed)),
      ("status", some v.result.encode),
      ("patch", v.patch.map patchBytes),
      ("patchType", v.patch.map fun _ => .str "JSONPatch")])]

end Verdict

end SidecarPolicy
