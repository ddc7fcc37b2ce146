/-
A cluster in memory.

* `Cluster`: deployments and pods by their keys;
* `ClusterError`: why a call fails;
* `Cluster.answer`: what a call does to a cluster, and its answer.
-/
import SidecarPolicy.Cluster.Program
import SidecarPolicy.Registry.Key

namespace SidecarPolicy

/-- The deployments and pods of a cluster. -/
structure Cluster where
  deployments : KeyMap ObjectKey Deployment := .empty
  pods : KeyMap ObjectKey Pod := .empty
  deriving DecidableEq, Inhabited, Repr

/-- Why a call fails. -/
inductive ClusterError where
  | injected
  | notFound (k : ObjectKey)
  | patch (e : PatchError)
  | undecodable (e : DecodeError)
  deriving DecidableEq, Repr

def ClusterError.message : ClusterError → String
  | .injected => "injected failure"
  | .notFound k => "deployment " ++ k.text ++ " not found"
  | .patch e => e.message
  | .undecodable e => e.message

instance : Worded ClusterError := ⟨ClusterError.message⟩

namespace Cluster

/-- The cluster with a deployment under its own key. -/
def addDeployment (c : Cluster) (d : Deployment) : Cluster :=
  { c with deployments := c.deployments.insert d.metadata.key d }

/-- The cluster with a pod under its own key. -/
def addPod (c : Cluster) (p : Pod) : Cluster :=
  { c with pods := c.pods.insert p.metadata.key p }

/-- Whether an object is in a namespace, or anywhere, and carries labels that a
selector selects.  An object without a namespace is in the empty one. -/
def isListed («namespace» : Option String) (selector : Selector) (m : ObjectMeta) : Bool :=
  «namespace».all (· == m.anyNamespace) && selector.selects m.allLabels

/-- The deployment of a key, or the failure to find it. -/
def findDeployment (c : Cluster) (k : ObjectKey) : Except ClusterError Deployment :=
  match c.deployments.get? k with
  | some d => .ok d
  | none => .error (.notFound k)

/-- A deployment after a patch of its document. -/
def patched (d : Deployment) (patch : Patch) : Except ClusterError Deployment := do
  let doc ← (patch.apply d.encode).mapError .patch
  (Deployment.decode doc).mapError .undecodable

/-- An answer that changes a deployment, or leaves the cluster as it is. -/
def replace (c : Cluster) (k : ObjectKey) (d : Except ClusterError Deployment) :
    Except ClusterError Unit × Cluster :=
  match d with
  | .ok d => (.ok (), { c with deployments := c.deployments.insert k d })
  | .error e => (.error e, c)

/-- The answer to a call, and the cluster afterwards. -/
def answer : Program.Handler ClusterError Cluster
  | .listDeployments ns selector, c =>
      (.ok (c.deployments.values.filter fun d => isListed ns selector d.metadata), c)
  | .listPods ns selector, c =>
      (.ok (c.pods.values.filter fun p => isListed ns selector p.metadata), c)
  | .getDeployment ns name, c => (c.findDeployment ⟨ns, name⟩, c)
  | .patchDeployment ns name patch, c =>
      c.replace ⟨ns, name⟩ do patched (← c.findDeployment ⟨ns, name⟩) patch
  | .updateDeployment d, c =>
      c.replace d.metadata.key do
        let _ ← c.findDeployment d.metadata.key
        return d
  | .deletePod ns name, c => (.ok (), { c with pods := c.pods.erase ⟨ns, name⟩ })

end Cluster

end SidecarPolicy
