/-
What may be asked of a controller.

* `Controller.Step`, `Controller.Reply`: the steps and the answers;
* `Controller.step`: a step, after which everything happens that is due.
-/
import SidecarPolicy.Admission.Endpoint
import SidecarPolicy.Controller.Work
import SidecarPolicy.Quarantine.Endpoint

namespace SidecarPolicy.Controller

/-- What may be asked of a controller. -/
inductive Step where
  | addDeployment (d : Deployment) (ghost : Bool)
  | addPod (p : Pod)
  | removeDeployment (k : ObjectKey)
  | removePod (k : ObjectKey)
  | apply (p : Policy)
  | delete (k : ObjectKey)
  | reset (policies : List Policy) (removed : Option ObjectKey)
  | observe (e : PolicyEvent)
  | get (k : ObjectKey)
  | forgetDeleted (k : ObjectKey)
  | queueAdd (k : ObjectKey)
  | requeues (k : ObjectKey)
  | shutdown
  | next (within : Nat)
  | nextInBackground (within : Nat)
  | process (k : ObjectKey)
  | reconcile (k : ObjectKey)
  | run (time : Nat)
  | fail (faults : Faults)
  | delay (ms : Nat)
  | sleep (ms : Nat)
  | act (podName : String)
  | decide («namespace» : String) (pod : Pod)
  | mutate (r : Http.Request)
  | report (r : Http.Request)
  | dump

/-- The answers to steps. -/
inductive Reply where
  | nothing
  | state (s : Option PolicyState)
  | added (refusal : Option AddError)
  | count (n : Nat)
  | handout (h : Handout)
  | reconciled (result : Except ClusterError Unit)
  | names (result : Except ClusterError (List String))
  | decision (result : Except (LookupError ClusterError) Decision)
  | reviewed (result : Except Http.ServiceFault Http.Response)
  | reported (result : Except Http.ServiceFault Http.Response)
  | cluster (c : Cluster)

def withRegistry (c : Controller) (registry : Registry) : Controller := { c with registry }

def withQueue (c : Controller) (queue : Queue ObjectKey) : Controller :=
  c.withRegistry { c.registry with queue }

def withCluster (c : Controller) (cluster : Cluster) : Controller := { c with cluster }

/-- The controller with a deployment, which may be a ghost. -/
def addDeployment (c : Controller) (d : Deployment) (ghost : Bool) : Controller :=
  let others := c.ghosts.filter (· ≠ d.metadata.key)
  { c with
    cluster := c.cluster.addDeployment d
    ghosts := if ghost then d.metadata.key :: others else others }

/-- What a step does, and its answer. -/
def takeStep (c : Controller) : Step → Reply × Controller
  | .addDeployment d ghost => (.nothing, c.addDeployment d ghost)
  | .addPod p => (.nothing, c.withCluster (c.cluster.addPod p))
  | .removeDeployment k =>
      (.nothing, c.withCluster { c.cluster with deployments := c.cluster.deployments.erase k })
  | .removePod k => (.nothing, c.withCluster { c.cluster with pods := c.cluster.pods.erase k })
  | .apply p => (.nothing, c.withRegistry (c.registry.apply p))
  | .delete k => (.nothing, c.withRegistry (c.registry.delete k))
  | .reset policies removed => (.nothing, c.withRegistry (c.registry.reset policies removed))
  | .observe e => (.nothing, c.withRegistry (c.registry.observe e))
  | .get k => (.state (c.registry.get? k), c)
  | .forgetDeleted k => (.nothing, c.withRegistry (c.registry.forgetDeleted k))
  | .queueAdd k =>
      match c.registry.queue.add k with
      | .ok queue => (.added none, c.withQueue queue)
      | .error e => (.added (some e), c)
  | .requeues k => (.count (c.registry.queue.requeues k), c)
  | .shutdown => (.nothing, c.withQueue c.registry.queue.shutdown)
  | .next within =>
      match c.awaitKey (c.now + within) with
      | (.key k, c) => (.handout (.key k), c.process k)
      | (h, c) => (.handout h, c)
  | .nextInBackground within =>
      match c.awaitKey (c.now + within) with
      | (.key k, c) => (.handout (.key k), c.processInBackground k)
      | (h, c) => (.handout h, c)
  | .process k => (.nothing, c.process k)
  | .reconcile k => let (result, c) := c.reconcile k; (.reconciled result, c)
  | .run time => (.nothing, c.run time)
  | .fail faults => (.nothing, { c with faults })
  | .delay ms => (.nothing, { c with delay := ms })
  | .sleep ms => (.nothing, c.sleepUntil (c.now + ms))
  | .act podName => let (names, c) := perform (Quarantine.act podName) c; (.names names, c)
  | .decide ns pod =>
      let (decision, c) := c.resolve (Admission.decide c.sidecar ns pod)
      (.decision decision, c)
  | .mutate r =>
      let (response, c) := c.resolve (Admission.serve c.reader c.sidecar r)
      (.reviewed response, c)
  | .report r =>
      match Quarantine.receive r with
      | .error response => (.reported response, c)
      | .ok podName =>
          let (names, c) := perform (Quarantine.act podName) c
          (.reported (.ok (Quarantine.response names)), c)
  | .dump => (.cluster c.cluster, c)

/-- A step, after which everything happens that is due.  Only the calls that are
made during the step are kept as calls. -/
def step (c : Controller) (s : Step) : Reply × Controller :=
  let (reply, c) := takeStep { c with calls := [] } s
  (reply, c.settle)

end SidecarPolicy.Controller
