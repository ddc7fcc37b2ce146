/-
The policies as they were last observed, and the queue of those that are to be
reconciled.

A deleted policy is kept until its annotations have been removed, since nobody
else remembers what it selected.

* `PolicyState`: a policy is live, or deleted and not cleaned up;
* `Registry`: the states and the queue;
* `Registry.observe`: an event is recorded and its key queued;
* `Registry.apply`, `Registry.delete`, `Registry.reset`: what a watch reports;
* `Registry.forgetDeleted`: a deleted policy is given up.
-/
import SidecarPolicy.Queue.Basic
import SidecarPolicy.Registry.Key

namespace SidecarPolicy

/-- The last observed state of a policy. -/
inductive PolicyState where
  | live (policy : Policy)
  | deleted (policy : Policy)
  deriving DecidableEq, Repr

/-- What happens to a policy. -/
inductive PolicyEvent where
  | created (policy : Policy)
  | updated (old new : Policy)
  | deleted (policy : Policy)
  deriving DecidableEq, Repr

/-- The policy of an event as it is afterwards, or was last. -/
def PolicyEvent.policy : PolicyEvent → Policy
  | .created p => p
  | .updated _ new => new
  | .deleted p => p

/-- The state of the policy after an event. -/
def PolicyEvent.state : PolicyEvent → PolicyState
  | .created p => .live p
  | .updated _ new => .live new
  | .deleted p => .deleted p

/-- The states of policies, and the queue of the keys to be reconciled. -/
structure Registry where
  policies : KeyMap ObjectKey PolicyState := .empty
  queue : Queue ObjectKey := {}

namespace Registry

def get? (r : Registry) (k : ObjectKey) : Option PolicyState := r.policies.get? k

/-- Records an event and queues the key of its policy.  A refusal by the queue
changes nothing of the record. -/
def observe (r : Registry) (e : PolicyEvent) : Registry where
  policies := r.policies.insert e.policy.key e.state
  queue := r.queue.offer e.policy.key

/-- Whether a policy is a replay of an observed one: both carry the same
version. -/
def isReplay (old new : Policy) : Bool :=
  old.version.isSome && old.version == new.version

/-- Takes up a policy that exists, unless it is a replay. -/
def apply (r : Registry) (p : Policy) : Registry :=
  match r.get? p.key with
  | some (.live old) => if isReplay old p then r else r.observe (.updated old p)
  | _ => r.observe (.created p)

/-- Takes notice of the deletion of a policy, if it was live. -/
def delete (r : Registry) (k : ObjectKey) : Registry :=
  match r.get? k with
  | some (.live p) => r.observe (.deleted p)
  | _ => r

/-- Takes up all policies that exist, and takes notice of a deletion. -/
def reset (r : Registry) (policies : List Policy) (removed : Option ObjectKey) : Registry :=
  let r := policies.foldl apply r
  removed.elim r r.delete

/-- Gives up a policy that is deleted; a live one stays. -/
def forgetDeleted (r : Registry) (k : ObjectKey) : Registry :=
  match r.get? k with
  | some (.deleted _) => { r with policies := r.policies.erase k }
  | _ => r

end Registry

end SidecarPolicy
