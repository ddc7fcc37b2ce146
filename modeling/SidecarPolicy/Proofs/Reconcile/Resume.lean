/-
Failed attempts to clean up after a deleted policy, and what a later one makes up for.

The pods of a deployment are restarted also when its annotations have been taken away
before.  So an attempt can be cut short anywhere: the next one finds what is left to be
done.  Until an attempt succeeds the deleted policy is kept, unless it has failed too
often.

* `Controller.Retries`: failed attempts, each within the limit of retries, and rest
  between them;
* `Controller.attempt_deleted`: **an attempt makes nothing but advances, and does
  everything if it does not fail**;
* `Controller.Retries.later_cleanup`: **after failed attempts a successful one leads to the
  cluster that a single one would have led to**.
-/
import SidecarPolicy.Proofs.Controller.Attempt
import SidecarPolicy.Proofs.Controller.Looking
import SidecarPolicy.Proofs.Reconcile.Release

namespace SidecarPolicy.Controller

open Reconcile

/-- Failed attempts to process a key, none of which is the last that is granted to it.
Between them anything may happen that leaves the cluster and the state of the key as they
are. -/
inductive Retries (k : ObjectKey) (c : Controller) : Controller → Prop
  | start : Retries k c c
  | attempt {c' : Controller} (h : Retries k c c') (faults : Faults)
      (hfails : c'.verdict k faults ≠ .ok ())
      (hlimit : c'.registry.queue.requeues k < maxRequeues) : Retries k c (c'.attempt k faults)
  | rest {c' c'' : Controller} (h : Retries k c c') (hcluster : c''.cluster = c'.cluster)
      (hstate : c''.registry.get? k = c'.registry.get? k) (halone : c''.IsAlone) :
      Retries k c c''

variable {c c' : Controller} {k : ObjectKey} {p : Policy}

/-! ### One attempt -/

/-- **An attempt makes nothing but advances, and does everything if it does not fail.**
Then the deleted policy is given up; if it fails within the limit the policy is kept. -/
theorem attempt_deleted (hc : c.IsAlone) (hsound : c.cluster.Sound)
    (hdeleted : c.registry.get? k = some (.deleted p)) (faults : Faults) :
    (c.attempt k faults).IsAlone ∧
      (c.verdict k faults = .ok () ∧ (c.attempt k faults).registry.get? k = none ∧
          (releasing p.spec).Complete c.cluster (c.attempt k faults).cluster ∨
        faults.count ≠ 0 ∧ c.verdict k faults = .error .injected ∧
          (c.registry.queue.requeues k < maxRequeues →
            (c.attempt k faults).registry.get? k = some (.deleted p)) ∧
          (releasing p.spec).Advances c.cluster (c.attempt k faults).cluster) := by
  obtain ⟨halone, ⟨r, hpolicies, hrequeued, hregistry⟩, hend⟩ :=
    attempt_cases hc hdeleted (secures_cleanup p.spec hsound) faults
  have hstill : r.get? k = some (.deleted p) := (congrArg (·.get? k) hpolicies).trans hdeleted
  refine ⟨halone, hend.imp ?_ ?_⟩
  · rintro ⟨hok, hcomplete⟩
    rw [hok] at hregistry
    exact ⟨hok, hregistry.symm ▸ conclude_deleted hstill, hcomplete⟩
  · rintro ⟨hcount, hcut, hadvances⟩
    rw [hcut] at hregistry
    refine ⟨hcount, hcut, fun hlimit => ?_, hadvances⟩
    have hlimit' : r.queue.requeues k < maxRequeues := by
      rw [Queue.requeues, hrequeued]
      exact hlimit
    rw [hregistry]
    exact (conclude_retry hlimit' _ _).trans hstill

lemma verdict_deleted_eq_ok (hc : c.IsAlone) (hsound : c.cluster.Sound)
    (hdeleted : c.registry.get? k = some (.deleted p)) : c.verdict k {} = .ok () := by
  obtain ⟨-, ⟨hok, -⟩ | ⟨hcount, -⟩⟩ := attempt_deleted hc hsound hdeleted {}
  · exact hok
  · exact absurd rfl hcount

lemma complete_of_verdict (hc : c.IsAlone) (hsound : c.cluster.Sound)
    (hdeleted : c.registry.get? k = some (.deleted p)) {faults : Faults}
    (hok : c.verdict k faults = .ok ()) :
    (c.attempt k faults).registry.get? k = none ∧
      (releasing p.spec).Complete c.cluster (c.attempt k faults).cluster := by
  obtain ⟨-, ⟨-, hdone⟩ | ⟨-, hcut, -⟩⟩ := attempt_deleted hc hsound hdeleted faults
  · exact hdone
  · cases hok.symm.trans hcut

/-! ### Many attempts -/

/-- Failed attempts make nothing but advances, and the policy is kept. -/
lemma Retries.advances (h : Retries k c c') (hc : c.IsAlone) (hsound : c.cluster.Sound)
    (hdeleted : c.registry.get? k = some (.deleted p)) :
    c'.IsAlone ∧ c'.registry.get? k = some (.deleted p) ∧
      (releasing p.spec).Advances c.cluster c'.cluster := by
  induction h with
  | start => exact ⟨hc, hdeleted, .refl _ _⟩
  | @attempt c' h faults hfails hlimit ih =>
      obtain ⟨halone, hstill, hadvances⟩ := ih
      obtain ⟨halone', ⟨hok, -⟩ | ⟨-, -, hkept, hadvances'⟩⟩ :=
        attempt_deleted halone (hadvances.sound hsound) hstill faults
      · exact absurd hok hfails
      · exact ⟨halone', hkept hlimit, hadvances.trans hadvances'⟩
  | rest h hcluster hstate halone ih =>
      obtain ⟨-, hstill, hadvances⟩ := ih
      exact ⟨halone, hstate.trans hstill, hcluster.symm ▸ hadvances⟩

/-- **After failed attempts to clean up, a successful one leads to the cluster that a
single one without failures would have led to.**  An attempt in which no call fails
succeeds in both cases.  In the end the marked deployments have lost the annotations of
policies, the pods of released deployments that carry the sidecar are gone, and nothing
else has changed.  The deleted policy is kept until then, and given up afterwards; to
clean up once more would ask for nothing but lists. -/
theorem Retries.later_cleanup (h : Retries k c c') (hc : c.IsAlone) (hsound : c.cluster.Sound)
    (hdeleted : c.registry.get? k = some (.deleted p)) :
    c.verdict k {} = .ok () ∧ c'.verdict k {} = .ok () ∧
      c'.registry.get? k = some (.deleted p) ∧
      ∀ faults, c'.verdict k faults = .ok () →
        (c'.attempt k faults).cluster = (c.attempt k {}).cluster ∧
        Outcome (IsMarked p.spec) Cleared (IsReleased p.spec c.cluster) c.cluster
          (c'.attempt k faults).cluster ∧
        (c'.attempt k faults).registry.get? k = none ∧
        ∀ later : Controller, later.IsAlone → later.faults.count = 0 →
          later.cluster = (c'.attempt k faults).cluster →
            (perform (Reconcile.cleanup p.spec) later).1 = .ok () ∧
            OnlyLooks later (perform (Reconcile.cleanup p.spec) later).2 := by
  obtain ⟨halone, hstill, hadvances⟩ := h.advances hc hsound hdeleted
  have hsound' := hadvances.sound hsound
  have hok := verdict_deleted_eq_ok hc hsound hdeleted
  refine ⟨hok, verdict_deleted_eq_ok halone hsound' hstill, hstill, fun faults hsucceeds => ?_⟩
  obtain ⟨-, hclean⟩ := complete_of_verdict hc hsound hdeleted hok
  obtain ⟨hgone, hrest⟩ := complete_of_verdict halone hsound' hstill hsucceeds
  have hlater := complete_of_advances hadvances hrest
  refine ⟨hlater.unique hclean, outcome_cleanup hlater, hgone, fun later hidle hcount heq => ?_⟩
  have hlooks := looks_cleanup (ε := ClusterError) hlater.idle
  obtain ⟨⟨⟩, hagain, -, honly⟩ := perform_looks (heq.symm ▸ hlooks) hidle hcount
  exact ⟨hagain, honly⟩

/-! ### An attempt that is cut short -/

/-- The labels of everything that belongs to the stall. -/
def stallLabels : Labels := KeyMap.ofList [("app", "stall")]

/-- A deployment that carries some annotations of policies, and one of its own. -/
def stall : Deployment where
  metadata := {
    name := some "stall", «namespace» := some "market", labels := some stallLabels
    annotations := some (KeyMap.ofList [(Annotations.inject, "true"),
      (Annotations.status, Annotations.statusInjected), ("owner", "market")]) }
  spec := some { selector := { matchLabels := some stallLabels } }

/-- Its pod, which carries the sidecar. -/
def stallPod : Pod where
  metadata := {
    name := some "stall-1", «namespace» := some "market", labels := some stallLabels
    annotations := some (KeyMap.ofList [(Annotations.status, Annotations.statusInjected)]) }

/-- A policy that selects the deployment. -/
def stallPolicy : Policy where
  name := some "stall-policy"
  version := some "1"
  spec := { «namespace» := ["market"], labelSelector := { matchLabels := some stallLabels } }

/-- The policy has been deleted, and nothing has been cleaned up. -/
def market : Controller where
  registry := (Registry.apply {} stallPolicy).delete stallPolicy.key
  cluster := (Cluster.addDeployment {} stall).addPod stallPod

/-- The annotations have been taken away, and the list of the pods failed. -/
def cutMarket : Controller := market.attempt stallPolicy.key { skips := 2, count := 1 }

/-- The attempt that was cut has failed, and is not the last one. -/
lemma retries_cutMarket : Retries stallPolicy.key market cutMarket :=
  .attempt .start _ (by decide +kernel) (by decide)

lemma market_sound : market.cluster.Sound :=
  (Cluster.sound_empty.addDeployment (by decide)).addPod stallPod

/-- The deployment that has been cleared already still has its pod restarted by the later
attempt, and the policy is given up only then. -/
theorem later_cleanup_cutMarket :
    cutMarket.cluster.pods.get? stallPod.metadata.key = some stallPod ∧
      cutMarket.registry.get? stallPolicy.key = some (.deleted stallPolicy) ∧
      (cutMarket.attempt stallPolicy.key {}).cluster =
        (market.attempt stallPolicy.key {}).cluster ∧
      (cutMarket.attempt stallPolicy.key {}).cluster.pods.get? stallPod.metadata.key = none ∧
      (∃ d, (cutMarket.attempt stallPolicy.key {}).cluster.deployments.get?
        stall.metadata.key = some d ∧ Cleared stall d) ∧
      (cutMarket.attempt stallPolicy.key {}).registry.get? stallPolicy.key = none := by
  obtain ⟨-, hok, hkept, hlater⟩ := retries_cutMarket.later_cleanup (p := stallPolicy)
    ⟨rfl, fun _ ht => absurd ht List.not_mem_nil⟩ market_sound (by decide)
  obtain ⟨hsame, houtcome, hgone, -⟩ := hlater {} hok
  have hstall : market.cluster.deployments.get? stall.metadata.key = some stall := by
    decide +kernel
  have hmarked : IsMarked stallPolicy.spec stall := isClearable_iff.mp (by decide +kernel)
  refine ⟨by decide +kernel, hkept, hsame, houtcome.deleted _ stallPod (by decide +kernel) ?_,
    houtcome.changed _ stall hstall hmarked, hgone⟩
  refine ⟨by decide +kernel, _, stall, _, hstall, hmarked.toIsSelected,
    ⟨rfl, by decide +kernel, by decide +kernel, by decide +kernel⟩, ?_⟩
  rintro m ⟨⟩

end SidecarPolicy.Controller
