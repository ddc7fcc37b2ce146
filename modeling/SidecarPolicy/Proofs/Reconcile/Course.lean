/-
The course of a sweep, call by call.

The namespaces of a policy, the deployments of a namespace and the pods of a
deployment are three nested loops.  What is listed may be out of date when its turn
comes, but only in what the sweep itself has done meanwhile: a deployment has either
been dealt with, or it is as it was in the beginning.

* `Reconcile.Purges`, `Reconcile.secures_deletePods`: some pods of a deployment are
  deleted;
* `Reconcile.Sweep.altered`, `Reconcile.Sweep.Deals`: a cluster with one deployment
  changed if it was due, and one in which all has been done on its account;
* `Reconcile.Sweep.secures_patch`, `Reconcile.Sweep.secures_restart`: a deployment is
  changed, and its pods are restarted;
* `Reconcile.Sweep.Underway`: what is left of a sweep;
* `Reconcile.Sweep.secures_forSelected`: **dealing with each deployment makes nothing
  but advances, and does everything unless a call fails**.
-/
import SidecarPolicy.Proofs.Cluster.Secures
import SidecarPolicy.Proofs.Reconcile.Sweep

namespace SidecarPolicy.Reconcile

open Program

/-! ### The pods of a deployment -/

/-- Some pods of a deployment that are picked have been deleted, and nothing else has
changed. -/
structure Purges (d : Deployment) (picks : Pod → Bool) (c c' : Cluster) : Prop where
  deployments : c'.deployments = c.deployments
  pods : ∀ k, c'.pods.get? k = c.pods.get? k ∨
    ∃ p, c.pods.get? k = some p ∧ picks p = true ∧ owns d p = true ∧ c'.pods.get? k = none

/-- Some pods are left to be deleted of those that were listed. -/
structure Purging (d : Deployment) (picks : Pod → Bool) (c : Cluster) (rest : List Pod)
    (c' : Cluster) : Prop extends Purges d picks c c' where
  remaining : ∀ k p, c'.pods.get? k = some p → owns d p = true → picks p = true → p ∈ rest
  listed : ∀ p ∈ rest, p.metadata.anyNamespace = d.metadata.anyNamespace ∧
    c.pods.get? p.metadata.key = some p ∧ picks p = true ∧ owns d p = true

variable {d : Deployment} {picks : Pod → Bool} {c c' : Cluster}

lemma Purges.get?_pods (h : Purges d picks c c') {k : ObjectKey} {p : Pod}
    (hp : c'.pods.get? k = some p) : c.pods.get? k = some p := by
  obtain hsame | ⟨_, -, -, -, hgone⟩ := h.pods k
  · exact hsame.symm.trans hp
  · cases hgone.symm.trans hp

/-- One pod is deleted. -/
lemma Purging.secures_deletePod {safe : Cluster → Prop} {p : Pod} {rest : List Pod}
    (hc : c.Sound) (hsafe : ∀ c', Purges d picks c c' → safe c')
    (h : Purging d picks c (p :: rest) c') :
    (deletePod d.metadata.anyNamespace p.metadata.anyName : Program ClusterError Unit).Secures
      safe (fun _ => Purging d picks c rest) c' := by
  obtain ⟨hns, hp, hpicked, howns⟩ := h.listed p List.mem_cons_self
  have hanswer : Cluster.answer (.deletePod d.metadata.anyNamespace p.metadata.anyName) c' =
      (.ok (), { c' with pods := c'.pods.erase p.metadata.key }) := by
    rw [← hns]
    rfl
  refine secures_request (hsafe c' h.toPurges) hanswer
    ⟨⟨h.deployments, fun k => ?_⟩, fun k p' hp' howns' hpicked' => ?_,
      fun p' hp' => h.listed p' (List.mem_cons_of_mem p hp')⟩
  · -- gone are the pods that were gone before, and this one
    by_cases hk : k = p.metadata.key
    · subst hk
      exact .inr ⟨p, hp, hpicked, howns, KeyMap.get?_erase_self _ _⟩
    · rw [KeyMap.get?_erase_of_ne hk]
      exact h.pods k
  · have hne : k ≠ p.metadata.key := by
      rintro rfl
      rw [KeyMap.get?_erase_self] at hp'
      cases hp'
    rw [KeyMap.get?_erase_of_ne hne] at hp'
    obtain rfl | hmem := List.mem_cons.mp (h.remaining k p' hp' howns' hpicked')
    · exact absurd (hc.pods k p' (h.get?_pods hp')).symm hne
    · exact hmem

/-- The pods of a deployment that are picked are deleted. -/
lemma secures_deletePods {safe : Cluster → Prop} (hc : c.Sound)
    (hsafe : ∀ c', Purges d picks c c' → safe c') :
    (deletePods d.metadata.anyNamespace d picks : Program ClusterError Unit).Secures safe
      (fun _ => Purging d picks c []) c := by
  have hnothing : Purges d picks c c := ⟨rfl, fun _ => .inl rfl⟩
  cases hselector : d.podSelector? with
  | none =>
      rw [deletePods, hselector]
      refine secures_pure ⟨hnothing, fun k p _ howns _ => ?_, by simp⟩
      rw [owns, hselector] at howns
      cases howns
  | some selector =>
      rw [deletePods, hselector]
      refine Secures.bind (secures_request (hsafe c hnothing) rfl (secures_forM
        (fun p rest c' h => h.secures_deletePod hc hsafe)
        ⟨hnothing, fun k p hp howns hpicked => ?_, fun p hp => ?_⟩))
      · rw [owns, hselector] at howns
        refine List.mem_filter.mpr ⟨?_, hpicked⟩
        exact Cluster.mem_listedPods.mpr ⟨⟨k, hp⟩, Cluster.isListed_iff.mp howns⟩
      · obtain ⟨hmem, hpicked⟩ := List.mem_filter.mp hp
        obtain ⟨hp, hlisted⟩ := Cluster.mem_listedPods.mp hmem
        have howns : owns d p = true := by
          rw [owns, hselector]
          exact Cluster.isListed_iff.mpr hlisted
        exact ⟨hlisted.1, hc.exists_pod_iff.mp hp, hpicked, howns⟩

namespace Sweep

variable {spec : PolicySpec} {s : Sweep spec}

/-! ### One deployment -/

/-- The cluster with one deployment changed, if it is due. -/
def altered (s : Sweep spec) (d : Deployment) (c : Cluster) : Cluster :=
  if s.isDue d then { c with deployments := c.deployments.insert d.metadata.key (s.change d) }
  else c

/-- All has been done on account of one deployment. -/
structure Deals (s : Sweep spec) (d : Deployment) (c c' : Cluster) : Prop
    extends s.Advances c c' where
  self : c'.deployments.get? d.metadata.key = some (if s.isDue d then s.change d else d)
  others : ∀ k, k ≠ d.metadata.key → c'.deployments.get? k = c.deployments.get? k
  noPod : s.restarts d = true →
    ∀ k p, c'.pods.get? k = some p → owns d p = true → s.picks p = false

/-- A deployment that is due is changed. -/
lemma advances_altered (hd : c.deployments.get? d.metadata.key = some d) :
    s.Advances c (s.altered d c) := by
  rw [altered]
  split_ifs with hdue
  · refine ⟨fun k => ?_, fun _ => .inl rfl⟩
    by_cases hk : k = d.metadata.key
    · subst hk
      exact .inr ⟨d, hd, hdue, KeyMap.get?_insert_self _ _ _⟩
    · exact .inl (KeyMap.get?_insert_of_ne hk _ _)
  · exact .refl s c

/-- The pods of a deployment are restarted. -/
lemma Advances.purges (h : s.Advances c c') (hd : c.deployments.get? d.metadata.key = some d)
    (hrestarts : s.restarts d = true) {c'' : Cluster} (h' : Purges d s.picks c' c'') :
    s.Advances c c'' where
  deployments k := by
    rw [h'.deployments]
    exact h.deployments k
  pods k := by
    obtain hsame | ⟨p, hp, hpicked, howns, hgone⟩ := h'.pods k
    · rw [hsame]
      exact h.pods k
    · exact .inr ⟨p, h.get?_pods hp, ⟨hpicked, _, d, hd, hrestarts, howns⟩, hgone⟩

/-- Once the deployment is changed, all has been done on its account if none of its
pods is left that is to be restarted. -/
lemma Advances.deals (h : s.Advances c c') (hd : c.deployments.get? d.metadata.key = some d)
    (hdeployments : c'.deployments = (s.altered d c).deployments)
    (hpods : s.restarts d = true →
      ∀ k p, c'.pods.get? k = some p → owns d p = true → s.picks p = false) :
    s.Deals d c c' where
  toAdvances := h
  self := by
    rw [hdeployments, altered]
    split_ifs
    · exact KeyMap.get?_insert_self _ _ _
    · exact hd
  others k hk := by
    rw [hdeployments, altered]
    split_ifs
    · exact KeyMap.get?_insert_of_ne hk _ _
    · rfl
  noPod := hpods

/-- Without pods to restart all has been done when the deployment is changed. -/
lemma deals_altered (hd : c.deployments.get? d.metadata.key = some d)
    (hrestarts : s.restarts d = false) : s.Deals d c (s.altered d c) :=
  (advances_altered hd).deals hd rfl fun h => absurd (h.symm.trans hrestarts) Bool.true_eq_false.mp

lemma altered_of_not_due (hdue : s.isDue d = false) : s.altered d c = c :=
  if_neg (Bool.not_eq_true _ ▸ hdue)

lemma secures_patch (hd : c.deployments.get? d.metadata.key = some d)
    (hdue : s.isDue d = true) {patch : Patch}
    (hpatched : Cluster.patched d patch = .ok (s.change d)) :
    (patchDeployment d.metadata.anyNamespace d.metadata.anyName patch :
        Program ClusterError Unit).Secures (s.Advances c) (fun _ c' => c' = s.altered d c) c :=
  secures_request (.refl s c) (Cluster.answer_patch hd hpatched) (if_pos hdue).symm

/-- When the deployment is changed its pods are restarted. -/
lemma secures_restart (hc : c.Sound) (hd : c.deployments.get? d.metadata.key = some d)
    (hrestarts : s.restarts d = true) :
    (deletePods d.metadata.anyNamespace d s.picks : Program ClusterError Unit).Secures
      (s.Advances c) (fun _ => s.Deals d c) (s.altered d c) := by
  have halter := advances_altered (s := s) hd
  refine (secures_deletePods (halter.sound hc) fun c' h => halter.purges hd hrestarts h).mono ?_
  intro _ c' h
  refine (halter.purges hd hrestarts h.toPurges).deals hd h.deployments fun _ k p hp howns => ?_
  exact Bool.eq_false_iff.mpr fun hpicked => List.not_mem_nil (h.remaining k p hp howns hpicked)

/-! ### All deployments -/

/-- The deployment of a key has been dealt with: it is not due, and of its pods none is
left that was to be restarted. -/
structure Settled (s : Sweep spec) (c₀ c : Cluster) (k : ObjectKey) : Prop where
  notDue : ∀ d, c.deployments.get? k = some d → s.isDue d = false
  noPod : ∀ d, c₀.deployments.get? k = some d → s.restarts d = true →
    ∀ k' p, c.pods.get? k' = some p → owns d p = true → s.picks p = false

/-- A sweep has advanced, deployment by deployment: each has been dealt with, or is as it
was in the beginning, and is among those that are left if it is selected. -/
structure Underway (s : Sweep spec) (c₀ : Cluster) (left : Deployment → Prop) (c : Cluster) :
    Prop extends s.Advances c₀ c where
  settled : ∀ k, s.Settled c₀ c k ∨ c.deployments.get? k = c₀.deployments.get? k ∧
    ∀ d, c.deployments.get? k = some d → selects spec d = true → left d

variable {c₀ : Cluster} {left left' : Deployment → Prop}

lemma underway_start (s : Sweep spec) (c₀ : Cluster) :
    s.Underway c₀ (fun d => d.metadata.anyNamespace ∈ spec.namespaces) c₀ where
  toAdvances := .refl s c₀
  settled _ := .inr ⟨rfl, fun _ _ hselected => (selects_eq_true.mp hselected).1⟩

/-- When no deployment is left everything has been done. -/
lemma Underway.complete (h : s.Underway c₀ (fun _ => False) c) : s.Complete c₀ c where
  toAdvances := h.toAdvances
  noneDue k d hd := by
    obtain hsettled | ⟨-, hleft⟩ := h.settled k
    · exact hsettled.notDue d hd
    · exact Bool.eq_false_iff.mpr fun hdue => hleft d hd (s.selects_of_isDue hdue)
  noneDoomed k p hp := by
    rintro ⟨hpicked, k', d, hd, hrestarts, howns⟩
    obtain hsettled | ⟨hsame, hleft⟩ := h.settled k'
    · exact Bool.false_ne_true ((hsettled.noPod d hd hrestarts k p hp howns).symm.trans hpicked)
    · exact hleft d (hsame.trans hd) (s.selects_of_restarts hrestarts)

lemma Underway.imp (h : s.Underway c₀ left c)
    (himp : ∀ k d, c.deployments.get? k = some d → selects spec d = true → left d → left' d) :
    s.Underway c₀ left' c where
  toAdvances := h.toAdvances
  settled k := (h.settled k).imp_right fun ⟨hsame, hleft⟩ =>
    ⟨hsame, fun d hd hselected => himp k d hd hselected (hleft d hd hselected)⟩

/-- One of the deployments that are left is dealt with. -/
lemma Underway.deal (hc₀ : c₀.Sound) (h : s.Underway c₀ left c)
    (hd : c.deployments.get? d.metadata.key = some d) (h' : s.Deals d c c')
    (hleft : ∀ d', left d' → d' = d ∨ left' d') : s.Underway c₀ left' c' where
  toAdvances := h.toAdvances.trans h'.toAdvances
  settled k := by
    have hpods : ∀ k' p, c'.pods.get? k' = some p → c.pods.get? k' = some p :=
      fun _ _ hp => h'.get?_pods hp
    -- the deployment itself is settled from now on, and the others are as they were
    by_cases hk : k = d.metadata.key
    · subst hk
      refine .inl ⟨fun d' hd' => ?_, fun d' hd' hrestarts k' p hp howns => ?_⟩
      · obtain rfl := Option.some.inj (hd'.symm.trans h'.self)
        split_ifs with hdue
        · exact s.isDue_change hdue
        · exact Bool.eq_false_iff.mpr hdue
      · obtain hsettled | ⟨hsame, -⟩ := h.settled d.metadata.key
        · exact hsettled.noPod d' hd' hrestarts k' p (hpods k' p hp) howns
        · obtain rfl := Option.some.inj ((hsame.symm.trans hd).symm.trans hd')
          exact h'.noPod hrestarts k' p hp howns
    · have hother := h'.others k hk
      refine (h.settled k).imp (fun hsettled => ?_) fun ⟨hsame, hall⟩ => ?_
      · exact ⟨fun d' hd' => hsettled.notDue d' (hother.symm.trans hd'),
          fun d' hd' hrestarts k' p hp => hsettled.noPod d' hd' hrestarts k' p (hpods k' p hp)⟩
      · refine ⟨hother.trans hsame, fun d' hd' hselected => ?_⟩
        have hd' := hother.symm.trans hd'
        refine (hleft d' (hall d' hd' hselected)).resolve_left ?_
        rintro rfl
        exact hk ((h.toAdvances.sound hc₀).deployments k d' hd').1.symm

/-! ### The loops -/

/-- Some listed deployments of a namespace are left, and all those of some namespaces
after it. -/
structure Round (s : Sweep spec) (c₀ : Cluster) (ns : String) (later : List String)
    (rest : List Deployment) (c : Cluster) : Prop extends
    s.Underway c₀ (fun d => d ∈ rest ∨ d.metadata.anyNamespace ∈ later) c where
  listed : ∀ d ∈ rest, c.deployments.get? d.metadata.key = some d ∧
    d.metadata.anyNamespace = ns ∧ selects spec d = true
  nodup : (rest.map fun d => d.metadata.key).Nodup

/-- A program deals with a deployment that is selected: it makes nothing but advances,
and does all on account of the deployment unless a call fails. -/
def DealtBy (s : Sweep spec) (act : String → Deployment → Program ClusterError Unit) : Prop :=
  ∀ c d, c.Sound → c.deployments.get? d.metadata.key = some d → selects spec d = true →
    (act d.metadata.anyNamespace d).Secures (s.Advances c) (fun _ => s.Deals d c) c

variable {act : String → Deployment → Program ClusterError Unit} {ns : String}
  {later : List String}

/-- A deployment of the list is dealt with. -/
lemma Round.secures_act (hact : s.DealtBy act) (hc₀ : c₀.Sound) {rest : List Deployment}
    (h : s.Round c₀ ns later (d :: rest) c) :
    (act ns d).Secures (s.Advances c₀) (fun _ => s.Round c₀ ns later rest) c := by
  obtain ⟨hd, rfl, hselected⟩ := h.listed d List.mem_cons_self
  obtain ⟨hnew, hnodup⟩ := List.nodup_cons.mp h.nodup
  have hdeals := hact c d (h.toAdvances.sound hc₀) hd hselected
  refine (hdeals.weaken fun c' => h.toAdvances.trans).mono fun _ c' h' => ⟨?_, ?_, hnodup⟩
  · refine h.toUnderway.deal hc₀ hd h' fun d' => ?_
    rintro (hmem | hlater)
    · exact (List.mem_cons.mp hmem).imp_right Or.inl
    · exact .inr (.inr hlater)
  · intro d' hd'
    have hne : d'.metadata.key ≠ d.metadata.key :=
      fun heq => hnew (List.mem_map.mpr ⟨d', hd', heq⟩)
    rw [h'.others _ hne]
    exact h.listed d' (List.mem_cons_of_mem d hd')

/-- The deployments of a namespace are dealt with. -/
lemma Underway.secures_namespace (hact : s.DealtBy act) (hc₀ : c₀.Sound)
    (hns : ns ∈ spec.namespaces)
    (h : s.Underway c₀ (fun d => d.metadata.anyNamespace ∈ ns :: later) c) :
    (do let deployments ← listDeployments (some ns) spec.labelSelector
        deployments.forM (act ns) : Program ClusterError Unit).Secures (s.Advances c₀)
      (fun _ => s.Underway c₀ fun d => d.metadata.anyNamespace ∈ later) c := by
  have hsound := h.toAdvances.sound hc₀
  have hstart : s.Round c₀ ns later (c.listedDeployments (some ns) spec.labelSelector) c := by
    refine ⟨h.imp fun k d hd hselected hleft => ?_, fun d hmem => ?_,
      Cluster.nodup_listed_deployments hsound.keyed _ _⟩
    · refine (List.mem_cons.mp hleft).imp_left fun hd' => ?_
      exact Cluster.mem_listedDeployments.mpr
        ⟨⟨k, hd⟩, hd', (selects_eq_true.mp hselected).2⟩
    · obtain ⟨hd, rfl, hlabels⟩ := Cluster.mem_listedDeployments.mp hmem
      exact ⟨hsound.exists_deployment_iff.mp hd, rfl, selects_eq_true.mpr ⟨hns, hlabels⟩⟩
  refine Secures.bind (secures_request h.toAdvances rfl ?_)
  refine (secures_forM (fun d rest c' => Round.secures_act hact hc₀) hstart).mono ?_
  exact fun _ c' hend => hend.toUnderway.imp fun _ _ _ _ hleft =>
    hleft.resolve_left List.not_mem_nil

/-- Some namespaces of the policy are left, and the deployments in them. -/
structure Pass (s : Sweep spec) (c₀ : Cluster) (later : List String) (c : Cluster) : Prop
    extends s.Underway c₀ (fun d => d.metadata.anyNamespace ∈ later) c where
  within : ∀ ns ∈ later, ns ∈ spec.namespaces

/-- **Dealing with each deployment that is selected makes nothing but advances, and does
everything unless a call fails.** -/
theorem secures_forSelected (hact : s.DealtBy act) (hc₀ : c₀.Sound) :
    (forSelected spec act).Secures (s.Advances c₀) (fun _ => s.Complete c₀) c₀ := by
  have hround : ∀ ns later c, s.Pass c₀ (ns :: later) c →
      (do let deployments ← listDeployments (some ns) spec.labelSelector
          deployments.forM (act ns) : Program ClusterError Unit).Secures (s.Advances c₀)
        (fun _ => s.Pass c₀ later) c := by
    intro ns later c h
    refine (h.secures_namespace hact hc₀ (h.within ns List.mem_cons_self)).mono ?_
    exact fun _ _ h' => ⟨h', fun ns' hns' => h.within ns' (List.mem_cons_of_mem ns hns')⟩
  have hstart : s.Pass c₀ spec.namespaces c₀ := ⟨underway_start s c₀, fun _ hns => hns⟩
  exact (secures_forM hround hstart).mono fun _ _ hend =>
    (hend.imp fun _ _ _ _ hleft => List.not_mem_nil hleft).complete

end Sweep

end SidecarPolicy.Reconcile
