/-
Whether a pod that is being created gets the sidecar.

The pod itself tells, or else the deployment that it belongs to, which is
looked up in the cluster within a limit of time.

* `Decision`: a pod is left alone, not selected, or gets the sidecar;
* `Deferred`: an answer that is there, or that waits for a look-up;
* `Admission.ownerRequestsInjection`: the look-up;
* `Admission.decide`: the decision.
-/
import SidecarPolicy.Cluster.Program
import SidecarPolicy.Sidecar.Injection

namespace SidecarPolicy

/-- What happens to a pod that is being created. -/
inductive Decision where
  | skip (reason : Skip)
  | notSelected
  | inject (patch : Patch)
  deriving Repr

/-- Why a look-up has no answer. -/
inductive LookupError (ε : Type) where
  | cluster (e : ε)
  | timedOut
  deriving Repr

instance {ε : Type} [Worded ε] : Worded (LookupError ε) where
  message
    | .cluster e => Worded.message e
    | .timedOut => "timed out resolving the pod's deployment"

/-- An answer that is there, or that waits for a look-up which may be given up. -/
inductive Deferred (ε α : Type) where
  | ready (answer : α)
  | lookup (program : Program ε Bool) (answer : Except (LookupError ε) Bool → α)

namespace Deferred

variable {ε α β : Type}

/-- The deferred answer with a function applied to it. -/
def map (f : α → β) : Deferred ε α → Deferred ε β
  | .ready a => .ready (f a)
  | .lookup p answer => .lookup p fun found => f (answer found)

/-- The answer if the look-up is never given up, and the cluster afterwards. -/
def run {σ : Type} (handler : Program.Handler ε σ) : Deferred ε α → σ → α × σ
  | .ready a, s => (a, s)
  | .lookup p answer, s =>
      let (found, s) := p.run handler s
      (answer (found.mapError .cluster), s)

end Deferred

namespace Admission

variable {ε : Type}

/-- Whether one of the deployments requests the sidecar and has a pod among the
named ones; deployments that select no pods in particular have none. -/
def anyOwns (ns : String) (names : List String) : List Deployment → Program ε Bool
  | [] => pure false
  | d :: rest =>
      if d.metadata.allAnnotations.contains Annotations.inject then
        match d.podSelector? with
        | none => anyOwns ns names rest
        | some selector => do
            let owned ← Program.listPods (some ns) selector
            if owned.any fun p => names.contains p.metadata.anyName then pure true
            else anyOwns ns names rest
      else anyOwns ns names rest

/-- Whether a deployment that requests the sidecar has one of the pods that
carry the labels of a new one. -/
def ownerRequestsInjection (ns : String) (pod : Pod) : Program ε Bool := do
  let siblings ← Program.listPods (some ns) (.ofLabels pod.metadata.allLabels)
  let names := siblings.map (·.metadata.anyName)
  if names.isEmpty then pure false
  else
    let deployments ← Program.listDeployments (some ns) .everything
    anyOwns ns names deployments

/-- The decision about a pod of a namespace. -/
def decide (sidecar : SidecarConfig) (ns : String) (pod : Pod) :
    Deferred ε (Except (LookupError ε) Decision) :=
  match Injection.precheck ns pod with
  | .skip reason => .ready (.ok (.skip reason))
  | .inject => .ready (.ok (.inject (Injection.patch pod sidecar)))
  | .resolveOwner =>
      .lookup (ownerRequestsInjection ns pod) fun found =>
        found.map fun selected =>
          if selected then .inject (Injection.patch pod sidecar) else .notSelected

end Admission

end SidecarPolicy
