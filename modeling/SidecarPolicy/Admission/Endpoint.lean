/-
The endpoint at which new pods are reviewed.

A review is never answered by denying the object.  Whatever goes wrong, an answer that would deny
it is turned into one that allows it, and the reason stands in the answer's message.

* `Admission.allowed`, `Admission.allowWith`: answers that allow the object all the same;
* `Admission.answer`: the answer to a request;
* `Admission.review`: the answer to the body of a request;
* `Admission.serve`: the response to a request.
-/
import SidecarPolicy.Admission.Decision
import SidecarPolicy.Admission.Reader
import SidecarPolicy.Http.Message

namespace SidecarPolicy.Admission

variable {ε : Type} [Worded ε]

def path : String := "/mutate"

/-- The answer, but it allows the object.  What it reports stays. -/
def allowed (v : Verdict) : Verdict := { v with allowed := true }

/-- The answer that allows the object, and reports a reason for which it might be denied. -/
def allowWith (v : Verdict) (reason : String) : Verdict := allowed (v.deny reason)

/-- The reviewed pod, or why there is none. -/
def podOf (reader : Reader) (request : AdmissionRequest) : Except String Pod :=
  match request.object with
  | none => .error "admission request missing 'object'"
  | some o => reader.pod o

/-- The answer that a decision leads to. -/
def verdict (v : Verdict) : Except (LookupError ε) Decision → Verdict
  | .ok (.inject patch) => v.withPatch patch
  | .ok _ => v
  | .error e => allowWith v (Worded.message e)

/-- The answer to a request.  The pod is in the namespace of the request, else
in its own. -/
def answer (reader : Reader) (sidecar : SidecarConfig) (review : Review)
    (request : AdmissionRequest) : Deferred ε Verdict :=
  let v := Verdict.ofRequest review request
  match podOf reader request with
  | .error reason => .ready (allowWith v reason)
  | .ok pod =>
      (decide sidecar ((request.namespace.or pod.metadata.namespace).getD "") pod).map
        (verdict v)

/-- The answer to the body of a request. -/
def review (reader : Reader) (sidecar : SidecarConfig) (body : List UInt8) :
    Deferred ε Verdict :=
  match reader.review body with
  | .error reason => .ready (allowed (.invalid reason))
  | .ok r =>
      match r.toRequest with
      | .error reason => .ready (allowed (.invalid reason))
      | .ok request => answer reader sidecar r request

/-- The response to a request. -/
def serve (reader : Reader) (sidecar : SidecarConfig) (r : Http.Request) :
    Deferred ε (Except Http.ServiceFault Http.Response) :=
  if !r.isPostTo path then .ready (.ok .notFound)
  else if !r.hasContentType "application/json" then
    .ready (.ok (.plain 415 "expected content type application/json"))
  else
    match r.body.read with
    | .error fault => .ready (.error fault)
    | .ok [] => .ready (.ok (.plain 400 "empty body"))
    | .ok body => (review reader sidecar body).map fun v => .ok (.json 200 v.encode)

end SidecarPolicy.Admission
