/-
Failed attempts to apply a policy, and what a later one makes up for.

A deployment that is annotated is taken to be dealt with.  So an attempt that
fails after it has marked a deployment, but before it has deleted all its
doomed pods, leaves pods behind that no later attempt deletes.

* `Reconcile.IsStranded`: such a pod;
* `Controller.Fails`: failed attempts, and rest between them;
* `Controller.attempt_live`: **an attempt makes progress, and does everything if it
  does not fail**;
* `Controller.Fails.later_attempt`: **after failed attempts a successful one leads
  to the cluster that a single one would have led to, but for stranded pods**;
* `Controller.not_resumed`: one pod that is stranded.
-/
import SidecarPolicy.Proofs.Controller.Attempt
import SidecarPolicy.Proofs.Reconcile.Apply

namespace SidecarPolicy

/-! ### Two ways to the end -/

namespace Reconcile

/-- A pod that was doomed and is still there, although every target to which it
belonged has been marked meanwhile. -/
structure IsStranded (spec : PolicySpec) (c c' : Cluster) (k : ObjectKey) (p : Pod) :
    Prop where
  present : c'.pods.get? k = some p
  doomed : IsDoomed spec c p
  marked : ∀ k' d, c.deployments.get? k' = some d → isTarget spec d = true →
    owns d p = true → c'.deployments.get? k' = some (Reconcile.marked spec d)

variable {spec : PolicySpec} {c c' clean later : Cluster}

/-- A doomed pod that is still there is stranded if it is not doomed any more. -/
lemma Progress.isStranded_iff (h : Progress spec c c') {k : ObjectKey} {p : Pod} :
    IsStranded spec c c' k p ↔
      c'.pods.get? k = some p ∧ IsDoomed spec c p ∧ ¬ IsDoomed spec c' p := by
  constructor
  · rintro ⟨hp, hdoomed, hmarked⟩
    refine ⟨hp, hdoomed, fun ⟨_, k', d, hd, htarget, howns⟩ => ?_⟩
    have hnow := hmarked k' d (h.get?_of_isDue hd htarget) htarget howns
    exact ne_marked_of_isTarget htarget (Option.some.inj (hd.symm.trans hnow))
  · rintro ⟨hp, hdoomed, hspared⟩
    refine ⟨hp, hdoomed, fun k' d hd htarget howns => ?_⟩
    obtain hsame | ⟨d', hd', -, hnow⟩ := h.deployments k'
    · exact absurd ⟨hdoomed.1, k', d, hsame.trans hd, htarget, howns⟩ hspared
    · exact Option.some.inj (hd'.symm.trans hd) ▸ hnow

/-- After some progress the same deployments are marked in the end. -/
lemma Progress.deployments_eq (h : Progress spec c c') (hclean : Applied spec c clean)
    (hlater : Applied spec c' later) : later.deployments = clean.deployments := by
  refine KeyMap.ext_get? fun k => ?_
  rw [hlater.get?_deployments, hclean.get?_deployments]
  obtain hsame | ⟨d, hd, htarget, hmarked⟩ := h.deployments k
  · rw [hsame]
  · have htarget : isTarget spec d = true := htarget
    have hmarked : c'.deployments.get? k = some (marked spec d) := hmarked
    have hdone : ¬ isTarget spec (marked spec d) = true := by
      rw [isTarget_marked]
      exact Bool.false_ne_true
    rw [hmarked, hd, Option.map_some, Option.map_some, if_pos htarget, if_neg hdone]

/-- After some progress the same pods are left in the end, and the stranded ones. -/
lemma Progress.get?_pods_iff (h : Progress spec c c') (hclean : Applied spec c clean)
    (hlater : Applied spec c' later) {k : ObjectKey} {p : Pod} :
    later.pods.get? k = some p ↔ clean.pods.get? k = some p ∨ IsStranded spec c c' k p := by
  rw [hlater.get?_pods_eq_some, hclean.get?_pods_eq_some, h.isStranded_iff]
  constructor
  · rintro ⟨hp, hspared⟩
    by_cases hdoomed : IsDoomed spec c p
    · exact .inr ⟨hp, hdoomed, hspared⟩
    · exact .inl ⟨h.get?_pods hp, hdoomed⟩
  · rintro (⟨hp, hspared⟩ | ⟨hp, -, hspared⟩)
    · refine ⟨?_, mt h.isDoomed hspared⟩
      obtain hsame | ⟨p', hp', hdoomed, -⟩ := h.pods k
      · exact hsame.trans hp
      · rw [dooms_annotating, Option.some.inj (hp'.symm.trans hp)] at hdoomed
        exact absurd hdoomed hspared
    · exact ⟨hp, hspared⟩

/-- After some progress the end is the same if no pod is stranded, and only
then. -/
lemma Progress.eq_iff (h : Progress spec c c') (hclean : Applied spec c clean)
    (hlater : Applied spec c' later) :
    later = clean ↔ ∀ k p, ¬ IsStranded spec c c' k p := by
  constructor
  · rintro rfl k p hstranded
    have hp := (h.get?_pods_iff hclean hlater).mpr (.inr hstranded)
    exact (hclean.get?_pods_eq_some.mp hp).2 hstranded.doomed
  · intro hnone
    have hdeployments := h.deployments_eq hclean hlater
    have hpods : later.pods = clean.pods := KeyMap.ext_get? fun k => Option.ext fun p =>
      (h.get?_pods_iff hclean hlater).trans (or_iff_left (hnone k p))
    cases later
    cases clean
    cases hdeployments
    cases hpods
    rfl

end Reconcile

/-! ### Attempts -/

namespace Controller

open Reconcile

/-- Failed attempts to process a key.  Between them anything may happen that leaves
the cluster and the state of the key as they are. -/
inductive Fails (k : ObjectKey) (c : Controller) : Controller → Prop
  | start : Fails k c c
  | attempt {c' : Controller} (h : Fails k c c') (faults : Faults)
      (hfails : c'.verdict k faults ≠ .ok ()) : Fails k c (c'.attempt k faults)
  | rest {c' c'' : Controller} (h : Fails k c c') (hcluster : c''.cluster = c'.cluster)
      (hstate : c''.registry.get? k = c'.registry.get? k) (halone : c''.IsAlone) :
      Fails k c c''

variable {k : ObjectKey} {p : Policy}

/-- **An attempt makes progress, and does everything if it does not fail.** -/
theorem attempt_live {c : Controller} (hc : c.IsAlone) (hsound : c.cluster.Sound)
    (hlive : c.registry.get? k = some (.live p)) (faults : Faults) :
    (c.attempt k faults).IsAlone ∧ (c.attempt k faults).registry.get? k = some (.live p) ∧
      (c.verdict k faults = .ok () ∧ Applied p.spec c.cluster (c.attempt k faults).cluster ∨
        faults.count ≠ 0 ∧ c.verdict k faults = .error .injected ∧
          Progress p.spec c.cluster (c.attempt k faults).cluster) := by
  obtain ⟨halone, ⟨r, hpolicies, -, hregistry⟩, hend⟩ :=
    attempt_cases hc hlive (secures_apply p.spec hsound) faults
  have hstill : r.get? k = some (.live p) := (congrArg (·.get? k) hpolicies).trans hlive
  refine ⟨halone, ?_, hend⟩
  rw [hregistry]
  exact conclude_live hstill _

lemma verdict_eq_ok {c : Controller} (hc : c.IsAlone) (hsound : c.cluster.Sound)
    (hlive : c.registry.get? k = some (.live p)) : c.verdict k {} = .ok () := by
  obtain ⟨-, -, ⟨hok, -⟩ | ⟨hcount, -⟩⟩ := attempt_live hc hsound hlive {}
  · exact hok
  · exact absurd rfl hcount

lemma applied_of_verdict {c : Controller} (hc : c.IsAlone) (hsound : c.cluster.Sound)
    (hlive : c.registry.get? k = some (.live p)) {faults : Faults}
    (hok : c.verdict k faults = .ok ()) :
    Applied p.spec c.cluster (c.attempt k faults).cluster := by
  obtain ⟨-, -, ⟨-, happlied⟩ | ⟨-, hcut, -⟩⟩ := attempt_live hc hsound hlive faults
  · exact happlied
  · cases hok.symm.trans hcut

/-- Failed attempts make nothing but progress. -/
lemma Fails.progress {c c' : Controller} (h : Fails k c c') (hc : c.IsAlone)
    (hsound : c.cluster.Sound) (hlive : c.registry.get? k = some (.live p)) :
    c'.IsAlone ∧ c'.registry.get? k = some (.live p) ∧ Progress p.spec c.cluster c'.cluster := by
  induction h with
  | start => exact ⟨hc, hlive, .refl _ _⟩
  | @attempt c' h faults hfails ih =>
      obtain ⟨halone, hstill, hprogress⟩ := ih
      obtain ⟨halone', hstill', ⟨hok, -⟩ | ⟨-, -, hprogress'⟩⟩ :=
        attempt_live halone (hprogress.sound hsound) hstill faults
      · exact absurd hok hfails
      · exact ⟨halone', hstill', hprogress.trans hprogress'⟩
  | rest h hcluster hstate halone ih =>
      obtain ⟨-, hstill, hprogress⟩ := ih
      exact ⟨halone, hstate.trans hstill, hcluster.symm ▸ hprogress⟩

/-- **After failed attempts to apply a policy, a successful one leads to the
cluster that a single one without failures would have led to, but for stranded
pods.**  An attempt in which no call fails succeeds in both cases.  The
deployments are the same in the end, and of the pods exactly the stranded ones are
left over; so the clusters are the same if there is none, and only then. -/
theorem Fails.later_attempt {c c' : Controller} (h : Fails k c c') (hc : c.IsAlone)
    (hsound : c.cluster.Sound) (hlive : c.registry.get? k = some (.live p)) :
    c.verdict k {} = .ok () ∧ c'.verdict k {} = .ok () ∧
      ∀ faults, c'.verdict k faults = .ok () →
        (c'.attempt k faults).cluster.deployments = (c.attempt k {}).cluster.deployments ∧
        (∀ key pod, (c'.attempt k faults).cluster.pods.get? key = some pod ↔
          (c.attempt k {}).cluster.pods.get? key = some pod ∨
            IsStranded p.spec c.cluster c'.cluster key pod) ∧
        ((c'.attempt k faults).cluster = (c.attempt k {}).cluster ↔
          ∀ key pod, ¬ IsStranded p.spec c.cluster c'.cluster key pod) := by
  obtain ⟨halone, hstill, hprogress⟩ := h.progress hc hsound hlive
  have hsound' := hprogress.sound hsound
  have hok := verdict_eq_ok hc hsound hlive
  refine ⟨hok, verdict_eq_ok halone hsound' hstill, fun faults hsucceeds => ?_⟩
  have hclean := applied_of_verdict hc hsound hlive hok
  have hlater := applied_of_verdict halone hsound' hstill hsucceeds
  exact ⟨hprogress.deployments_eq hclean hlater,
    fun _ _ => hprogress.get?_pods_iff hclean hlater, hprogress.eq_iff hclean hlater⟩

/-! ### A stranded pod -/

/-- The labels of everything that belongs to the web. -/
def webLabels : Labels := ⟨[("app", "web")], by decide⟩

/-- A deployment that no policy has been at. -/
def web : Deployment where
  metadata := { name := some "web", «namespace» := some "default", labels := some webLabels }
  spec := some { selector := { matchLabels := some webLabels } }

/-- Its pod, which lacks the sidecar. -/
def webPod : Pod where
  metadata := { name := some "web-1", «namespace» := some "default", labels := some webLabels }

/-- A policy that selects the deployment. -/
def webPolicy : Policy where
  name := some "web-policy"
  «namespace» := some "monitoring"
  version := some "1"
  spec := { «namespace» := ["default"], labelSelector := { matchLabels := some webLabels } }

/-- The policy has been observed, and nothing has been done for it. -/
def webSite : Controller where
  registry := Registry.apply {} webPolicy
  cluster := (Cluster.addDeployment {} web).addPod webPod

/-- The deployment has been marked, and the list of its pods failed. -/
def cutSite : Controller := webSite.attempt webPolicy.key { skips := 2, count := 1 }

lemma fails_cutSite : Fails webPolicy.key webSite cutSite :=
  .attempt .start _ (by decide +kernel)

lemma webSite_isAlone : webSite.IsAlone := ⟨rfl, fun _ ht => absurd ht List.not_mem_nil⟩

lemma webSite_sound : webSite.cluster.Sound :=
  (Cluster.sound_empty.addDeployment (by decide)).addPod webPod

/-- A later attempt does not end where one without failures would have ended. -/
lemma cutSite_differs : (cutSite.attempt webPolicy.key {}).cluster ≠
    (webSite.attempt webPolicy.key {}).cluster := by decide +kernel

/-- The deployment that was marked is taken to be dealt with: the later attempt
succeeds, but it leaves the pod behind. -/
theorem later_attempt_cutSite : cutSite.verdict webPolicy.key {} = .ok () ∧
    (cutSite.attempt webPolicy.key {}).cluster.deployments =
      (webSite.attempt webPolicy.key {}).cluster.deployments ∧
    ∃ key pod, IsStranded webPolicy.spec webSite.cluster cutSite.cluster key pod := by
  obtain ⟨-, hok, hlater⟩ := fails_cutSite.later_attempt webSite_isAlone webSite_sound
    (p := webPolicy) (by decide)
  obtain ⟨hdeployments, -, hsame⟩ := hlater {} hok
  refine ⟨hok, hdeployments, ?_⟩
  by_contra hnone
  exact cutSite_differs (hsame.mpr fun key pod hstranded => hnone ⟨key, pod, hstranded⟩)

/-- **Not every successful attempt makes up for the failed ones before it.** -/
theorem not_resumed : ¬ ∀ (c c' : Controller) (k : ObjectKey) (p : Policy), c.IsAlone →
    c.cluster.Sound → c.registry.get? k = some (.live p) → Fails k c c' →
      ∀ faults, c'.verdict k faults = .ok () →
        (c'.attempt k faults).cluster = (c.attempt k {}).cluster := by
  intro hresumed
  exact cutSite_differs (hresumed webSite cutSite webPolicy.key webPolicy webSite_isAlone
    webSite_sound (by decide) fails_cutSite {} (by decide +kernel))

end Controller

end SidecarPolicy
