/-
Bringing the deployments and pods of a cluster in line with a policy.

A live policy annotates the deployments that it selects, and deletes those of
their pods that lack the sidecar, so that they come back with it.  A deleted
policy takes its annotations away again, and deletes the pods with the sidecar.

* `Reconcile.apply`, `Reconcile.cleanup`: these two programs;
* `Reconcile.program`: what a key's state asks for;
* `Reconcile.settle`, `Reconcile.conclude`: what becomes of the key afterwards.
-/
import SidecarPolicy.Cluster.Program
import SidecarPolicy.Registry.Basic
import SidecarPolicy.Workload

namespace SidecarPolicy.Reconcile

variable {ε : Type}

/-! ### What is asked of the cluster -/

/-- Whether a pod carries the sidecar. -/
def hasSidecar (p : Pod) : Bool := Annotations.isInjected p.metadata.allAnnotations

/-- Whether a deployment makes pods that ask for the sidecar by themselves. -/
def templateRequestsInjection (d : Deployment) : Bool :=
  match d.spec.bind (·.template.metadata) with
  | none => false
  | some m => Annotations.requestsInjection m.allAnnotations

/-- Deletes some of a deployment's pods; a deployment that selects no pods in
particular keeps them all. -/
def deletePods (ns : String) (d : Deployment) (select : Pod → Bool) : Program ε Unit :=
  match d.podSelector? with
  | none => pure ()
  | some selector => do
      let pods ← Program.listPods (some ns) selector
      (pods.filter select).forM fun p => Program.deletePod ns p.metadata.anyName

/-- Annotates a deployment and deletes its pods that lack the sidecar, unless
it is annotated already. -/
def applyTo (policy : PolicyAnnotations) (ns : String) (d : Deployment) : Program ε Unit :=
  match Workload.annotate d.metadata policy with
  | none => pure ()
  | some patch => do
      Program.patchDeployment ns d.metadata.anyName patch
      deletePods ns d fun p => !hasSidecar p

/-- Does the same to every deployment that a policy selects. -/
def forSelected (spec : PolicySpec) (act : String → Deployment → Program ε Unit) :
    Program ε Unit :=
  spec.namespaces.forM fun ns => do
    let deployments ← Program.listDeployments (some ns) spec.labelSelector
    deployments.forM (act ns)

/-- Brings a cluster in line with a live policy. -/
def apply (spec : PolicySpec) : Program ε Unit :=
  forSelected spec (applyTo spec.annotations)

/-- Takes a policy's annotations from a deployment and deletes its pods with
the sidecar, unless they would get it back from their template. -/
def cleanupOf (ns : String) (d : Deployment) : Program ε Unit := do
  match Workload.strip d.metadata with
  | none => pure ()
  | some patch => Program.patchDeployment ns d.metadata.anyName patch
  if templateRequestsInjection d then pure () else deletePods ns d hasSidecar

/-- Brings a cluster in line with the deletion of a policy. -/
def cleanup (spec : PolicySpec) : Program ε Unit := forSelected spec cleanupOf

/-- What the state of a key asks for. -/
def program : Option PolicyState → Program ε Unit
  | none => pure ()
  | some (.live p) => apply p.spec
  | some (.deleted p) => cleanup p.spec

/-! ### What becomes of the key -/

/-- So many times a failed key is tried again. -/
def maxRequeues : Nat := 5

/-- A deleted policy is given up as soon as it was cleaned up. -/
def settle (r : Registry) (k : ObjectKey) (state : Option PolicyState)
    (result : Except ε Unit) : Registry :=
  match state, result with
  | some (.deleted _), .ok () => r.forgetDeleted k
  | _, _ => r

/-- The delay after which a failed key is tried again, if it is, and the
registry.  A key that has failed too often is dropped, with a deleted policy
that it stands for. -/
def retry (r : Registry) (k : ObjectKey) : Option Nat × Registry :=
  if r.queue.requeues k < maxRequeues then
    let (delay, queue) := r.queue.addRateLimited k
    (some delay, { r with queue })
  else (none, { r with queue := r.queue.forget k }.forgetDeleted k)

/-- The registry after a key that was in a state has been processed, and the
delay after which it is to be added again, if it failed and is tried again. -/
def conclude (r : Registry) (k : ObjectKey) (state : Option PolicyState)
    (result : Except ε Unit) : Option Nat × Registry :=
  let r := settle r k state result
  let (again, r) := match result with
    | .ok () => (none, { r with queue := r.queue.forget k })
    | .error _ => retry r k
  (again, { r with queue := r.queue.done k })

end SidecarPolicy.Reconcile
