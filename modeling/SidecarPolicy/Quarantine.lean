/-
Scaling the group of a reported pod to zero.

* `Quarantine.findOwner`: the first deployment that has a pod of a name;
* `Quarantine.groupLabels`: the labels that a pod's group shares;
* `Quarantine.act`: the names of the deployments that were scaled to zero.
-/
import SidecarPolicy.Annotations.Policy
import SidecarPolicy.Cluster.Program

namespace SidecarPolicy.Quarantine

variable {ε : Type}

/-- The first of the deployments that has a pod of a name, with that pod.  A
deployment whose pods cannot be listed has none. -/
def findOwner (podName : String) : List Deployment → Program ε (Option (Deployment × Pod))
  | [] => pure none
  | d :: rest =>
      match d.podSelector? with
      | none => findOwner podName rest
      | some selector => do
          match ← Program.attempt (.listPods (some d.metadata.anyNamespace) selector) with
          | .error _ => findOwner podName rest
          | .ok pods =>
              match pods.find? (·.metadata.anyName = podName) with
              | none => findOwner podName rest
              | some p => pure (some (d, p))

/-- The labels that a pod's group shares: those of the named keys that the pod
carries, or all of its labels if no keys are named. -/
def groupLabels (keys : GroupLabel) (labels : Labels) : Labels :=
  if keys.isEmpty then labels
  else KeyMap.ofList (keys.keys.filterMap fun k => (labels.get? k).map (k, ·))

/-- Scales a listed deployment to zero, as it is by now. -/
def scaleDown (ns : String) (listed : Deployment) : Program ε String := do
  let current ← Program.getDeployment ns listed.metadata.anyName
  Program.updateDeployment (current.scaledTo 0)
  return listed.metadata.anyName

/-- Scales the deployments with the given labels to zero. -/
def scaleGroup (ns : String) (group : Labels) : Program ε (List String) := do
  if group.isEmpty then pure []
  else
    let targets ← Program.listDeployments (some ns) (.ofLabels group)
    targets.mapM (scaleDown ns)

/-- Does what the owner of a reported pod is annotated with.  The names are
those of the deployments that were scaled to zero. -/
def act (podName : String) : Program ε (List String) := do
  let deployments ← Program.listDeployments none .everything
  match ← findOwner podName deployments with
  | none => pure []
  | some (owner, pod) =>
      let policy := PolicyAnnotations.ofLabels owner.metadata.allAnnotations
      if policy.action.quarantines then
        scaleGroup owner.metadata.anyNamespace
          (groupLabels policy.groupLabel pod.metadata.allLabels)
      else pure []

end SidecarPolicy.Quarantine
