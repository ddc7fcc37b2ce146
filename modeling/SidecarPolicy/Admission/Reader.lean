/-
Readers of reviews and of the objects in them.

Which texts hold a review, and which objects are pods, is told by the decoders.  What a reader
says of those that are not is its own.

* `Reader`: a reader, with what it says of a text or an object that it cannot read;
* `Reader.worded`: the reader that words its errors in a given way.
-/
import SidecarPolicy.Admission.Review

namespace SidecarPolicy.Admission

/-- A reader of reviews and of pods.  It reads what the decoders do, and has words of its own for
what it cannot read. -/
structure Reader where
  review : List UInt8 → Except String Review
  pod : ReviewedObject → Except String Pod
  review_eq_ok : ∀ bytes r, review bytes = .ok r ↔ Review.ofBytes? bytes = some r
  pod_eq_ok : ∀ o p, pod o = .ok p ↔ o.toPod = .ok p

namespace Reader

/-- The reader that words its errors in a given way. -/
def worded (unread : List UInt8 → String) (noPod : ReviewedObject → String) : Reader where
  review bytes := (Review.ofBytes? bytes).elim (.error (unread bytes)) .ok
  pod o := o.toPod.mapError fun _ => noPod o
  review_eq_ok bytes r := by cases h : Review.ofBytes? bytes <;> simp
  pod_eq_ok o p := by
    cases o.toPod with
    | ok q =>
        show Except.ok q = .ok p ↔ _
        rw [Except.ok.injEq, Except.ok.injEq]
    | error e => exact iff_of_false (show Except.error _ ≠ .ok p from nofun) nofun

end Reader

end SidecarPolicy.Admission
