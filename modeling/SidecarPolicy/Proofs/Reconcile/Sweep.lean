/-
What is to be done to a cluster for a policy, and how far it has come.

Annotating and cleaning up are alike: some of the deployments that a policy
selects get other annotations, and of some of them the pods are restarted that
carry the sidecar, or that lack it.  How far such a sweep has come can be told from
the cluster, whatever the order in which things were done, and however often it
was begun anew.

* `Reconcile.selects`, `Reconcile.owns`: the deployments of a policy, and their
  pods;
* `Reconcile.Sweep`: the deployments that are due, the annotations that they get,
  and the pods that are restarted;
* `Reconcile.Sweep.Advances`: a cluster in which some of this has been done, and
  nothing else;
* `Reconcile.Sweep.Advances.trans`: **advances add up**;
* `Reconcile.Sweep.Complete`: a cluster in which all of it has been done;
* `Reconcile.Sweep.Complete.unique`: **there is only one such cluster**;
* `Reconcile.Sweep.Advances.complete`: a sweep that can be begun anew at any time
  leads to the same cluster in the end.
-/
import SidecarPolicy.Proofs.Cluster.Sound
import SidecarPolicy.Reconcile

namespace SidecarPolicy.Reconcile

/-! ### Deployments and their pods -/

/-- Whether a policy selects a deployment, by its namespace and its labels. -/
def selects (spec : PolicySpec) (d : Deployment) : Bool :=
  spec.namespaces.contains d.metadata.anyNamespace &&
    spec.labelSelector.selects d.metadata.allLabels

/-- Whether a pod is one of a deployment's pods; of a deployment that selects no
pods in particular none is. -/
def owns (d : Deployment) (p : Pod) : Bool :=
  match d.podSelector? with
  | none => false
  | some selector => Cluster.isListed (some d.metadata.anyNamespace) selector p.metadata

/-- A policy selects the deployments in its namespaces that carry certain labels. -/
lemma selects_eq_true {spec : PolicySpec} {d : Deployment} :
    selects spec d = true ↔ d.metadata.anyNamespace ∈ spec.namespaces ∧
      spec.labelSelector.selects d.metadata.allLabels = true := by
  rw [selects, Bool.and_eq_true, List.contains_iff_mem]

/-! ### Sweeps -/

/-- What is to be done for a policy: some of the deployments that it selects are due,
and get other annotations, after which they are not due any more; of some, and of
no others because of that, the pods are restarted that are picked. -/
structure Sweep (spec : PolicySpec) where
  isDue : Deployment → Bool
  annotations : Deployment → Labels
  restarts : Deployment → Bool
  picks : Pod → Bool
  selects_of_isDue : ∀ {d}, isDue d = true → selects spec d = true
  selects_of_restarts : ∀ {d}, restarts d = true → selects spec d = true
  isDue_change : ∀ {d}, isDue d = true → isDue (d.withAnnotations (annotations d)) = false
  restarts_of_change : ∀ {d}, isDue d = true →
    restarts (d.withAnnotations (annotations d)) = true → restarts d = true

namespace Sweep

variable {spec : PolicySpec} (s : Sweep spec)

/-- A deployment with the annotations that it is to get. -/
def change (d : Deployment) : Deployment := d.withAnnotations (s.annotations d)

/-- A pod that is to be deleted: it is picked, and belongs to a deployment the pods of
which are restarted. -/
def Dooms (c : Cluster) (p : Pod) : Prop :=
  s.picks p = true ∧
    ∃ k d, c.deployments.get? k = some d ∧ s.restarts d = true ∧ owns d p = true

/-- Some deployments that were due have been changed and some doomed pods deleted, and
nothing else has changed. -/
structure Advances (c c' : Cluster) : Prop where
  deployments : ∀ k, c'.deployments.get? k = c.deployments.get? k ∨
    ∃ d, c.deployments.get? k = some d ∧ s.isDue d = true ∧
      c'.deployments.get? k = some (s.change d)
  pods : ∀ k, c'.pods.get? k = c.pods.get? k ∨
    ∃ p, c.pods.get? k = some p ∧ s.Dooms c p ∧ c'.pods.get? k = none

/-- Every deployment that was due has been changed and every doomed pod deleted, and
nothing else has changed. -/
structure Complete (c c' : Cluster) : Prop extends s.Advances c c' where
  noneDue : ∀ k d, c'.deployments.get? k = some d → s.isDue d = false
  noneDoomed : ∀ k p, c'.pods.get? k = some p → ¬ s.Dooms c p

variable {s} {c c' c'' : Cluster} {k : ObjectKey} {d : Deployment} {p : Pod}

lemma isDue_eq_false (s : Sweep spec) (h : selects spec d = false) : s.isDue d = false :=
  Bool.eq_false_iff.mpr fun hdue => Bool.false_ne_true (h.symm.trans (s.selects_of_isDue hdue))

/-! ### Some of it done -/

lemma Advances.refl (s : Sweep spec) (c : Cluster) : s.Advances c c :=
  ⟨fun _ => .inl rfl, fun _ => .inl rfl⟩

lemma Advances.get?_of_isDue (h : s.Advances c c') (hd : c'.deployments.get? k = some d)
    (hdue : s.isDue d = true) : c.deployments.get? k = some d := by
  obtain hsame | ⟨d', -, hdue', hchanged⟩ := h.deployments k
  · exact hsame.symm.trans hd
  · obtain rfl := Option.some.inj (hd.symm.trans hchanged)
    exact absurd (hdue.symm.trans (s.isDue_change hdue')) Bool.true_eq_false.mp

lemma Advances.get?_pods (h : s.Advances c c') (hp : c'.pods.get? k = some p) :
    c.pods.get? k = some p := by
  obtain hsame | ⟨_, -, -, hgone⟩ := h.pods k
  · exact hsame.symm.trans hp
  · cases hgone.symm.trans hp

lemma Advances.dooms (h : s.Advances c c') (hp : s.Dooms c' p) : s.Dooms c p := by
  obtain ⟨hpicked, k, d, hd, hrestarts, howns⟩ := hp
  obtain hsame | ⟨d', hd', hdue, hchanged⟩ := h.deployments k
  · exact ⟨hpicked, k, d, hsame.symm.trans hd, hrestarts, howns⟩
  · obtain rfl := Option.some.inj (hd.symm.trans hchanged)
    exact ⟨hpicked, k, d', hd', s.restarts_of_change hdue hrestarts, howns⟩

/-- **Advances add up.** -/
theorem Advances.trans (h : s.Advances c c') (h' : s.Advances c' c'') : s.Advances c c'' where
  deployments k := by
    obtain hsame | ⟨d, hd, hdue, hchanged⟩ := h'.deployments k
    · rw [hsame]
      exact h.deployments k
    · exact .inr ⟨d, h.get?_of_isDue hd hdue, hdue, hchanged⟩
  pods k := by
    obtain hsame | ⟨p, hp, hdoomed, hgone⟩ := h'.pods k
    · rw [hsame]
      exact h.pods k
    · exact .inr ⟨p, h.get?_pods hp, h.dooms hdoomed, hgone⟩

lemma Advances.sound (h : s.Advances c c') (hc : c.Sound) : c'.Sound where
  deployments k d hd := by
    obtain hsame | ⟨d', hd', -, hchanged⟩ := h.deployments k
    · exact hc.deployments k d (hsame.symm.trans hd)
    · obtain rfl := Option.some.inj (hd.symm.trans hchanged)
      exact hc.deployments k d' hd'
  pods k p hp := hc.pods k p (h.get?_pods hp)

/-! ### Everything done -/

/-- The deployments when everything has been done. -/
lemma Complete.get?_deployments (h : s.Complete c c') (k : ObjectKey) :
    c'.deployments.get? k = (c.deployments.get? k).map fun d =>
      if s.isDue d then s.change d else d := by
  obtain hsame | ⟨d, hd, hdue, hchanged⟩ := h.deployments k
  · rw [hsame]
    cases hd : c.deployments.get? k with
    | none => rfl
    | some d =>
        have hno := h.noneDue k d (hsame.trans hd)
        rw [Option.map_some, if_neg (Bool.not_eq_true _ ▸ hno)]
  · rw [hchanged, hd, Option.map_some, if_pos hdue]

lemma Complete.get?_pods_eq_some (h : s.Complete c c') :
    c'.pods.get? k = some p ↔ c.pods.get? k = some p ∧ ¬ s.Dooms c p := by
  constructor
  · intro hp
    exact ⟨h.get?_pods hp, h.noneDoomed k p hp⟩
  · rintro ⟨hp, hspared⟩
    obtain hsame | ⟨p', hp', hdoomed, -⟩ := h.pods k
    · exact hsame.trans hp
    · exact absurd (Option.some.inj (hp'.symm.trans hp) ▸ hdoomed) hspared

/-- **There is only one cluster in which everything has been done.** -/
theorem Complete.unique (h : s.Complete c c') (h' : s.Complete c c'') : c' = c'' := by
  have hdeployments : c'.deployments = c''.deployments := KeyMap.ext_get? fun k => by
    rw [h.get?_deployments, h'.get?_deployments]
  have hpods : c'.pods = c''.pods := KeyMap.ext_get? fun k => Option.ext fun p => by
    rw [h.get?_pods_eq_some, h'.get?_pods_eq_some]
  cases c'
  cases c''
  cases hdeployments
  cases hpods
  rfl

/-- Nothing is left to be done when everything has been done, as far as it is still
known what was to be done. -/
lemma Complete.not_dooms (h : s.Complete c c') (hp : c'.pods.get? k = some p) :
    ¬ s.Dooms c' p :=
  mt h.dooms (h.noneDoomed k p hp)

/-- A sweep that still restarts the pods of a deployment when it has been changed can be
begun anew at any time: what is left to be done leads to the same cluster. -/
lemma Advances.complete (h : s.Advances c c') (h' : s.Complete c' c'')
    (hsteady : ∀ d, s.isDue d = true → s.restarts d = true → s.restarts (s.change d) = true) :
    s.Complete c c'' where
  toAdvances := h.trans h'.toAdvances
  noneDue := h'.noneDue
  noneDoomed k p hp := by
    rintro ⟨hpicked, k', d, hd, hrestarts, howns⟩
    refine h'.noneDoomed k p hp ⟨hpicked, k', ?_⟩
    obtain hsame | ⟨d', hd', hdue, hchanged⟩ := h.deployments k'
    · exact ⟨d, hsame.trans hd, hrestarts, howns⟩
    · obtain rfl := Option.some.inj (hd.symm.trans hd')
      exact ⟨s.change d, hchanged, hsteady d hdue hrestarts, howns⟩

end Sweep

end SidecarPolicy.Reconcile
