/-
One attempt to process a key, while some calls fail.

* `Controller.attempt`, `Controller.verdict`: the attempt, and how its program ends;
* `Reconcile.conclude_live`, `Reconcile.conclude_deleted`, `Reconcile.conclude_retry`: what
  becomes of a policy afterwards;
* `Controller.attempt_cases`: **an attempt goes to its end, or is cut short by a failing
  call**.
-/
import SidecarPolicy.Proofs.Controller.Alone

namespace SidecarPolicy

/-! ### The state of the key -/

namespace Reconcile

variable {k : ObjectKey} {p : Policy} {r : Registry}

lemma forgetDeleted_live (h : r.get? k = some (.live p)) : r.forgetDeleted k = r := by
  rw [Registry.forgetDeleted, h]

/-- However a key has ended, a policy that is live stays so. -/
lemma conclude_live (h : r.get? k = some (.live p)) (result : Except ClusterError Unit) :
    (conclude r k (some (.live p)) result).2.get? k = some (.live p) := by
  cases result with
  | ok => exact h
  | error e =>
      show (retry r k).2.get? k = some (.live p)
      rw [retry]
      split_ifs
      · exact h
      · rw [forgetDeleted_live (r := { r with queue := r.queue.forget k }) h]
        exact h

lemma conclude_deleted (h : r.get? k = some (.deleted p)) :
    (conclude r k (some (.deleted p)) (.ok () : Except ClusterError Unit)).2.get? k = none := by
  show (r.forgetDeleted k).get? k = none
  rw [Registry.forgetDeleted, h]
  exact KeyMap.get?_erase_self _ _

/-- A key that has not failed too often stays in its state when it fails. -/
lemma conclude_retry (hlimit : r.queue.requeues k < maxRequeues) (state : Option PolicyState)
    (e : ClusterError) :
    (conclude r k state (.error e : Except ClusterError Unit)).2.get? k = r.get? k := by
  have hsettle : settle r k state (.error e : Except ClusterError Unit) = r := by
    unfold settle
    split
    · contradiction
    · rfl
  show (retry (settle r k state (.error e : Except ClusterError Unit)) k).2.get? k = r.get? k
  rw [hsettle, retry, if_pos hlimit]
  rfl

end Reconcile

/-! ### Attempts -/

namespace Controller

/-- The controller after a key has been processed while some calls fail. -/
def attempt (c : Controller) (k : ObjectKey) (faults : Faults) : Controller :=
  process { c with faults } k

/-- How the program of a key ends while some calls fail. -/
def verdict (c : Controller) (k : ObjectKey) (faults : Faults) : Except ClusterError Unit :=
  (perform (Reconcile.program (c.registry.get? k)) { c with faults }).1

variable {k : ObjectKey} {state : Option PolicyState}

/-- The end of a key leaves the cluster as it is. -/
lemma conclude_alone {c : Controller} (hc : c.IsAlone) (k : ObjectKey)
    (state : Option PolicyState) (result : Except ClusterError Unit) :
    (c.conclude k state result).IsAlone ∧ (c.conclude k state result).cluster = c.cluster ∧
      (c.conclude k state result).registry =
        (Reconcile.conclude c.registry k state result).2 := by
  rw [conclude]
  cases Reconcile.conclude c.registry k state result with
  | mk again registry =>
      cases again with
      | none => exact ⟨⟨hc.noGhost, hc.noJob⟩, rfl, rfl⟩
      | some delay =>
          refine ⟨⟨hc.noGhost, fun t ht => ?_⟩, rfl, rfl⟩
          obtain rfl | ht := Timers.mem_insert ht
          · trivial
          · exact hc.noJob t ht

/-- **An attempt goes to its end, or is cut short by a failing call**: in the first case
its end is as it should be, in the second one the cluster is one on which the program
makes a call.  The registry is concluded with, and meanwhile nothing has changed in it
but that keys may have been added to the queue. -/
theorem attempt_cases {c : Controller} (hc : c.IsAlone) (hstate : c.registry.get? k = state)
    {safe post : Cluster → Prop}
    (h : (Reconcile.program state : Program ClusterError Unit).Secures safe (fun _ => post)
      c.cluster)
    (faults : Faults) :
    (c.attempt k faults).IsAlone ∧
      (∃ r : Registry, r.policies = c.registry.policies ∧
        r.queue.requeued = c.registry.queue.requeued ∧
        (c.attempt k faults).registry =
          (Reconcile.conclude r k state (c.verdict k faults)).2) ∧
      (c.verdict k faults = .ok () ∧ post (c.attempt k faults).cluster ∨
        faults.count ≠ 0 ∧ c.verdict k faults = .error .injected ∧
          safe (c.attempt k faults).cluster) := by
  obtain ⟨hkeeps, hend⟩ := perform_cases (c := { c with faults }) h ⟨hc.noGhost, hc.noJob⟩
  have hverdict : c.verdict k faults =
      (perform (Reconcile.program state) { c with faults }).1 := by
    rw [verdict, hstate]
  have hattempt : c.attempt k faults =
      (perform (Reconcile.program state) { c with faults }).2.conclude k state
        (c.verdict k faults) := by
    rw [hverdict, attempt, process, hstate]
  obtain ⟨halone, hcluster, hregistry⟩ :=
    conclude_alone hkeeps.alone k state (c.verdict k faults)
  rw [hattempt, hcluster, hregistry]
  refine ⟨halone, ⟨_, hkeeps.policies, hkeeps.requeued, rfl⟩, ?_⟩
  obtain ⟨⟨⟩, hok, hpost⟩ | ⟨hcount, hcut, hsafe⟩ := hend
  · exact .inl ⟨hverdict.trans hok, hpost⟩
  · exact .inr ⟨hcount, hverdict.trans hcut, hsafe⟩

end Controller

end SidecarPolicy
