/-
Whether a pod gets the sidecar, as far as the pod itself tells, and the patch
that adds it.

* `Skip`, `Precheck`: why a pod is left alone, and what the pod tells;
* `Injection.precheck`: what the pod tells, the first rule that applies;
* `Injection.patch`: the patch that adds the sidecar.
-/
import SidecarPolicy.Amendment
import SidecarPolicy.Annotations.Basic
import SidecarPolicy.Object.Pod
import SidecarPolicy.Sidecar.Config

namespace SidecarPolicy

/-- Why a pod is left alone. -/
inductive Skip where
  | reservedNamespace
  | alreadyInjected
  | unlabeled
  deriving DecidableEq, Repr

def Skip.text : Skip → String
  | .reservedNamespace => "reserved namespace"
  | .alreadyInjected => "already injected"
  | .unlabeled => "pod has no labels"

/-- What a pod tells by itself: it is left alone, it gets the sidecar, or its
owner decides. -/
inductive Precheck where
  | skip (reason : Skip)
  | inject
  | resolveOwner
  deriving DecidableEq, Repr

namespace Injection

/-- The namespaces whose pods are left alone. -/
def reservedNamespaces : List String := ["kube-system", "kube-public"]

/-- What a pod of a namespace tells by itself. -/
def precheck («namespace» : String) (pod : Pod) : Precheck :=
  let annotations := pod.metadata.allAnnotations
  if reservedNamespaces.contains «namespace» then .skip .reservedNamespace
  else if Annotations.isInjected annotations then .skip .alreadyInjected
  else if Annotations.requestsInjection annotations then .inject
  else if pod.metadata.allLabels.isEmpty then .skip .unlabeled
  else .resolveOwner

/-- The mark that a pod gets with the sidecar. -/
def mark : Labels := KeyMap.ofList [(Annotations.status, Annotations.statusInjected)]

/-- The number of containers of a pod. -/
def containerCount (pod : Pod) : Nat :=
  pod.spec.elim 0 (·.containers.length)

/-- The number of volumes of a pod. -/
def volumeCount (pod : Pod) : Nat :=
  pod.spec.elim 0 fun spec => spec.volumes.elim 0 List.length

/-- The patch that adds the sidecar to a pod and marks it. -/
def patch (pod : Pod) (sidecar : SidecarConfig) : Patch :=
  Amendment.append ["spec", "containers"] (containerCount pod)
      (sidecar.containers.map Container.encode)
    ++ Amendment.append ["spec", "volumes"] (volumeCount pod)
      (sidecar.volumes.map Volume.encode)
    ++ Amendment.setAnnotations pod.metadata.annotations mark

end Injection

end SidecarPolicy
