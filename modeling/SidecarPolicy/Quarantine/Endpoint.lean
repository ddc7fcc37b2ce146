/-
The endpoint at which pods are reported.

* `Quarantine.podName?`: the pod that a request names, the form in the body
  taking precedence over the query;
* `Quarantine.receive`: the pod that is reported, or an answer at once;
* `Quarantine.response`: the response to a report.
-/
import SidecarPolicy.Http.Message
import SidecarPolicy.Quarantine
import SidecarPolicy.Text.Form

namespace SidecarPolicy.Quarantine

def path : String := "/action"

/-- The name of the field that names the pod. -/
def podField : String := "podname"

def formType : String := "application/x-www-form-urlencoded"

/-- The pod that a form names first, unless that name is empty. -/
def podOfForm? (form : List UInt8) : Option String :=
  (Text.Form.first? podField (Text.Form.parse form)).filter (· ≠ "")

/-- The pod that a request with the given body names. -/
def podName? (r : Http.Request) (body : List UInt8) : Option String :=
  (if r.hasContentType formType then podOfForm? body else none).or
    (r.target.query.bind fun q => podOfForm? (Text.Utf8.encode q.toList))

/-- What is at once answered to a request, or the name of the pod that it
reports. -/
def receive (r : Http.Request) :
    Except (Except Http.ServiceFault Http.Response) String :=
  if r.isPostTo path then
    match r.body.read with
    | .error fault => .error (.error fault)
    | .ok body =>
        match podName? r body with
        | none => .error (.ok (.plain 400 "missing podname"))
        | some name => .ok name
  else .error (.ok .notFound)

/-- The response that tells what became of a report. -/
def response {ε : Type} [Worded ε] : Except ε (List String) → Http.Response
  | .ok names => .json 201 (Encode.texts names)
  | .error e => .plain 500 (Worded.message e)

end SidecarPolicy.Quarantine
