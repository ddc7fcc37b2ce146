import SidecarPolicy.Admission.Decision
import SidecarPolicy.Admission.Endpoint
import SidecarPolicy.Admission.Review
import SidecarPolicy.Api.Reply
import SidecarPolicy.Api.Request
import SidecarPolicy.Cluster.Program
import SidecarPolicy.Cluster.State
import SidecarPolicy.Controller.Basic
import SidecarPolicy.Controller.Step
import SidecarPolicy.Controller.Work
import SidecarPolicy.Http.Message
import SidecarPolicy.Json.Parser
import SidecarPolicy.Json.Printer
import SidecarPolicy.Object.Deployment
import SidecarPolicy.Policy.Codec
import SidecarPolicy.Quarantine
import SidecarPolicy.Quarantine.Endpoint
import SidecarPolicy.Queue.Dispatch
import SidecarPolicy.Queue.Span
import SidecarPolicy.Queue.Timers
import SidecarPolicy.Reconcile
import SidecarPolicy.Registry.Basic
import SidecarPolicy.Registry.Key
import SidecarPolicy.Sidecar.Injection
import SidecarPolicy.Sidecar.Load
import SidecarPolicy.Text.Duration
import SidecarPolicy.Text.Form
import SidecarPolicy.Text.Literal
import SidecarPolicy.Workload
import SidecarPolicy.Proofs.Queue.Consistency
import SidecarPolicy.Proofs.Queue.History
import SidecarPolicy.Proofs.Json.Patch
import SidecarPolicy.Proofs.Amendment
import SidecarPolicy.Proofs.Object.Deployment
import SidecarPolicy.Proofs.Workload
import SidecarPolicy.Proofs.Cluster.Secures
import SidecarPolicy.Proofs.Cluster.Sound
import SidecarPolicy.Proofs.Reconcile.Target
import SidecarPolicy.Proofs.Reconcile.Apply
import SidecarPolicy.Proofs.Controller.Alone
import SidecarPolicy.Proofs.Controller.Attempt
import SidecarPolicy.Proofs.Cluster.Looks
import SidecarPolicy.Proofs.Controller.Looking
import SidecarPolicy.Proofs.Reconcile.Retry
import SidecarPolicy.Proofs.Reconcile.Effect
import SidecarPolicy.Proofs.Reconcile.Resume
import SidecarPolicy.Proofs.Admission.Decision
import SidecarPolicy.Proofs.Sidecar.Injection
import SidecarPolicy.Proofs.Worker.Run
import SidecarPolicy.Proofs.Worker.Delivery
import SidecarPolicy.Proofs.Worker.Attempts
import SidecarPolicy.Proofs.Worker.Tombstone
import SidecarPolicy.Proofs.Reconcile.Sync
import SidecarPolicy.Proofs.Worker.Rest
import SidecarPolicy.Proofs.Admission.Restart
import SidecarPolicy.Proofs.Selector.Query
import SidecarPolicy.Proofs.Annotations.Policy
import SidecarPolicy.Proofs.Quarantine.Effect
import SidecarPolicy.Proofs.Quarantine.Failure
import SidecarPolicy.Proofs.Admission.Endpoint
import SidecarPolicy.Proofs.Registry
import SidecarPolicy.Proofs.Worker.Site
import SidecarPolicy.Proofs.Controller.Reconciling
import SidecarPolicy.Proofs.Reconcile.Apart
import SidecarPolicy.Proofs.Reconcile.Recreate
import SidecarPolicy.Proofs.Worker.Crew
import SidecarPolicy.Proofs.Worker.Retries
import SidecarPolicy.Proofs.Queue.Desk
import SidecarPolicy.Proofs.Queue.Dispatch
import SidecarPolicy.Proofs.Queue.Log
import SidecarPolicy.Proofs.Queue.Poised
import SidecarPolicy.Proofs.Controller.Confined
import SidecarPolicy.Proofs.Worker.Redelivery
import SidecarPolicy.Proofs.Policy.Codec
import SidecarPolicy.Proofs.Registry.History
import SidecarPolicy.Proofs.Annotations.ReadBack
import SidecarPolicy.Proofs.Workload.RoundTrip
import SidecarPolicy.Proofs.Cluster.Stations
import SidecarPolicy.Proofs.Quarantine.Retry
import SidecarPolicy.Proofs.Text.Form
import SidecarPolicy.Proofs.Api.Listing
import SidecarPolicy.Proofs.Queue.Closing
import SidecarPolicy.Proofs.Queue.Span
import SidecarPolicy.Proofs.Queue.Stray
import SidecarPolicy.Proofs.Selector.Canonical
import SidecarPolicy.Proofs.Selector.Laws
import SidecarPolicy.Proofs.Admission.Sponsor
import SidecarPolicy.Proofs.Amendment.Minimal
import SidecarPolicy.Proofs.Annotations.LogFrequency
import SidecarPolicy.Proofs.Quarantine.WriteBack
import SidecarPolicy.Proofs.Quarantine.Endpoint
