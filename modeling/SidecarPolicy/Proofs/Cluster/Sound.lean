/-
Clusters whose objects stand under their own keys.

* `Cluster.Keyed`, `Cluster.Sound`: such clusters, and those in which all numbers are in
  range as well;
* `Cluster.sound_empty`, `Cluster.Sound.addDeployment`, `Cluster.Sound.addPod`:
  the clusters that are built up object by object are sound;
* `Cluster.mem_listedDeployments`, `Cluster.mem_listedPods`: what a list shows;
* `Cluster.Sound.exists_deployment_iff`, `Cluster.Sound.exists_pod_iff`: where an object
  of a sound cluster is found;
* `Cluster.answer_patch`: **what a patch does** that fits a deployment.
-/
import SidecarPolicy.Cluster.State
import SidecarPolicy.Proofs.KeyMap
import SidecarPolicy.Proofs.Object.Deployment

namespace SidecarPolicy.Cluster

/-- Every object stands under its own key. -/
structure Keyed (c : Cluster) : Prop where
  deployments : ∀ k d, c.deployments.get? k = some d → d.metadata.key = k
  pods : ∀ k p, c.pods.get? k = some p → p.metadata.key = k

/-- Every object stands under its own key, and deployments have no numbers that
their documents could not hold. -/
structure Sound (c : Cluster) : Prop where
  deployments : ∀ k d, c.deployments.get? k = some d → d.metadata.key = k ∧ d.InRange
  pods : ∀ k p, c.pods.get? k = some p → p.metadata.key = k

lemma Sound.keyed {c : Cluster} (h : c.Sound) : c.Keyed :=
  ⟨fun k d hd => (h.deployments k d hd).1, h.pods⟩

lemma sound_empty : Sound {} where
  deployments _ _ h := by cases h
  pods _ _ h := by cases h

/-- A deployment may be added to a sound cluster. -/
lemma Sound.addDeployment {c : Cluster} (h : c.Sound) {d : Deployment} (hd : d.InRange) :
    (c.addDeployment d).Sound where
  deployments k d' hk := by
    by_cases heq : k = d.metadata.key
    · subst heq
      rw [Cluster.addDeployment, KeyMap.get?_insert_self] at hk
      exact Option.some.inj hk ▸ ⟨rfl, hd⟩
    · rw [Cluster.addDeployment, KeyMap.get?_insert_of_ne heq] at hk
      exact h.deployments k d' hk
  pods := h.pods

/-- A pod may be added to a sound cluster. -/
lemma Sound.addPod {c : Cluster} (h : c.Sound) (p : Pod) : (c.addPod p).Sound where
  deployments := h.deployments
  pods k p' hk := by
    by_cases heq : k = p.metadata.key
    · subst heq
      rw [Cluster.addPod, KeyMap.get?_insert_self] at hk
      exact Option.some.inj hk ▸ rfl
    · rw [Cluster.addPod, KeyMap.get?_insert_of_ne heq] at hk
      exact h.pods k p' hk

/-- The deployments that a list shows. -/
def listedDeployments (c : Cluster) («namespace» : Option String) (selector : Selector) :
    List Deployment :=
  c.deployments.values.filter fun d => isListed «namespace» selector d.metadata

/-- The pods that a list shows. -/
def listedPods (c : Cluster) («namespace» : Option String) (selector : Selector) : List Pod :=
  c.pods.values.filter fun p => isListed «namespace» selector p.metadata

/-- What is listed of a namespace is in it, and carries labels that are selected. -/
lemma isListed_iff {ns : String} {selector : Selector} {m : ObjectMeta} :
    isListed (some ns) selector m = true ↔
      m.anyNamespace = ns ∧ selector.selects m.allLabels = true := by
  rw [isListed, Bool.and_eq_true, Option.all_some, beq_iff_eq, eq_comm]

lemma mem_listedDeployments {c : Cluster} {ns : String} {selector : Selector}
    {d : Deployment} : d ∈ c.listedDeployments (some ns) selector ↔
      (∃ k, c.deployments.get? k = some d) ∧
        d.metadata.anyNamespace = ns ∧ selector.selects d.metadata.allLabels = true := by
  rw [listedDeployments, List.mem_filter, KeyMap.mem_values, isListed_iff]

lemma mem_listedPods {c : Cluster} {ns : String} {selector : Selector} {p : Pod} :
    p ∈ c.listedPods (some ns) selector ↔
      (∃ k, c.pods.get? k = some p) ∧
        p.metadata.anyNamespace = ns ∧ selector.selects p.metadata.allLabels = true := by
  rw [listedPods, List.mem_filter, KeyMap.mem_values, isListed_iff]

/-- A deployment of a sound cluster is found under its own key. -/
lemma Sound.exists_deployment_iff {c : Cluster} (h : c.Sound) {d : Deployment} :
    (∃ k, c.deployments.get? k = some d) ↔ c.deployments.get? d.metadata.key = some d :=
  ⟨fun ⟨k, hk⟩ => (h.deployments k d hk).1.symm ▸ hk, fun hd => ⟨_, hd⟩⟩

/-- A pod of a sound cluster is found under its own key. -/
lemma Sound.exists_pod_iff {c : Cluster} (h : c.Sound) {p : Pod} :
    (∃ k, c.pods.get? k = some p) ↔ c.pods.get? p.metadata.key = some p :=
  ⟨fun ⟨k, hk⟩ => (h.pods k p hk).symm ▸ hk, fun hp => ⟨_, hp⟩⟩

/-- Pods of one namespace with the same name are the same pod. -/
lemma eq_of_anyName {c : Cluster} (hkeys : ∀ k p, c.pods.get? k = some p → p.metadata.key = k)
    {k k' : ObjectKey} {p p' : Pod} (hp : c.pods.get? k = some p)
    (hp' : c.pods.get? k' = some p')
    (hns : p.metadata.anyNamespace = p'.metadata.anyNamespace)
    (hname : p.metadata.anyName = p'.metadata.anyName) : p = p' := by
  have hkey : k = k' := by
    rw [← hkeys k p hp, ← hkeys k' p' hp', ObjectMeta.key, ObjectMeta.key, hns, hname]
  exact Option.some.inj (hp.symm.trans (hkey ▸ hp'))

/-- No two deployments of a list have the same key. -/
lemma nodup_listed_deployments {c : Cluster} (h : c.Keyed) (ns : Option String)
    (selector : Selector) :
    ((c.listedDeployments ns selector).map fun d => d.metadata.key).Nodup := by
  have hkeys : c.deployments.values.map (fun d => d.metadata.key) =
      c.deployments.entries.map Prod.fst := by
    rw [KeyMap.values, List.map_map]
    refine List.map_congr_left fun e he => ?_
    exact h.deployments e.1 e.2 (KeyMap.mem_entries_iff.mp he)
  have hnodup : (c.deployments.values.map fun d => d.metadata.key).Nodup :=
    hkeys ▸ c.deployments.nodup_keys
  exact hnodup.sublist (List.filter_sublist.map _)

/-- **What a patch does** that fits the deployment: it changes this deployment, and
nothing else. -/
theorem answer_patch {c : Cluster} {d d' : Deployment}
    (hd : c.deployments.get? d.metadata.key = some d) {patch : Patch}
    (hpatched : patched d patch = .ok d') :
    answer (.patchDeployment d.metadata.anyNamespace d.metadata.anyName patch) c =
      (.ok (), { c with deployments := c.deployments.insert d.metadata.key d' }) := by
  have hfound : c.findDeployment d.metadata.key = .ok d := by rw [findDeployment, hd]
  show c.replace d.metadata.key (c.findDeployment d.metadata.key >>= fun d => patched d patch) = _
  rw [hfound]
  show c.replace d.metadata.key (patched d patch) = _
  rw [hpatched]
  rfl

end SidecarPolicy.Cluster
