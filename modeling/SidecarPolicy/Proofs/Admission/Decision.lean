/-
The decision about a pod, told without the calls by which it is found.

The look-up asks for pods and deployments one list after another, and compares pods by
their names.  As the pods of a namespace have different names, a pod of both lists is
one pod that carries the labels of the new one and belongs to the deployment.

* `Admission.OwnerRequests`: an owner of the new pod requests the sidecar;
* `Admission.due`: the decision that is due, the first rule that applies;
* `Admission.looks_ownerRequestsInjection`: **the look-up finds out whether an owner
  requests the sidecar**, in whatever order objects are listed;
* `Admission.decide_eq_due`: **the decision is the one that is due**;
* `Controller.resolve_decide`: so it is for a controller, unless the look-up is given up.
-/
import SidecarPolicy.Admission.Decision
import SidecarPolicy.Proofs.Controller.Looking
import SidecarPolicy.Proofs.Selector

namespace SidecarPolicy

namespace Admission

open Program

/-! ### Marks -/

/-- An object is marked as injected, in any case of the letters. -/
def IsInjected (m : ObjectMeta) : Prop :=
  ∃ value, m.allAnnotations.get? Annotations.status = some value ∧
    Text.lowered value = Text.lowered Annotations.statusInjected

/-- An object asks for the sidecar by a value that turns an option on. -/
def AsksForSidecar (m : ObjectMeta) : Prop :=
  ∃ value, m.allAnnotations.get? Annotations.inject = some value ∧
    Annotations.isTruthy value = true

lemma isInjected_iff {m : ObjectMeta} :
    Annotations.isInjected m.allAnnotations = true ↔ IsInjected m := by
  rw [Annotations.isInjected, IsInjected]
  cases m.allAnnotations.get? Annotations.status with
  | none => simp
  | some value => simp [Text.sameLetters_iff]

lemma requestsInjection_iff {m : ObjectMeta} :
    Annotations.requestsInjection m.allAnnotations = true ↔ AsksForSidecar m := by
  rw [Annotations.requestsInjection, AsksForSidecar]
  cases m.allAnnotations.get? Annotations.inject with
  | none => simp
  | some value => simp

lemma not_unlabelled {m : ObjectMeta} (h : ∃ key v, m.allLabels.get? key = some v) :
    ¬ ∀ key, m.allLabels.get? key = none := by
  obtain ⟨key, v, hv⟩ := h
  exact fun hnone => by cases (hnone key).symm.trans hv

/-! ### What is due -/

/-- A deployment of a namespace carries the request for the sidecar, whatever its value,
and one of its pods carries every label of a new pod. -/
def OwnerRequests (c : Cluster) (ns : String) (pod : Pod) : Prop :=
  ∃ k d k' p s, c.deployments.get? k = some d ∧ d.metadata.anyNamespace = ns ∧
    (∃ value, d.metadata.allAnnotations.get? Annotations.inject = some value) ∧
    c.pods.get? k' = some p ∧ p.BelongsTo d s ∧
    ∀ key v, pod.metadata.allLabels.get? key = some v → p.metadata.allLabels.get? key = some v

open scoped Classical in
/-- The decision that is due about a pod of a namespace: the first rule that applies. -/
noncomputable def due (c : Cluster) (sidecar : SidecarConfig) (ns : String) (pod : Pod) :
    Decision :=
  if ns ∈ Injection.reservedNamespaces then .skip .reservedNamespace
  else if IsInjected pod.metadata then .skip .alreadyInjected
  else if AsksForSidecar pod.metadata then .inject (Injection.patch pod sidecar)
  else if ∀ key, pod.metadata.allLabels.get? key = none then .skip .unlabeled
  else if OwnerRequests c ns pod then .inject (Injection.patch pod sidecar)
  else .notSelected

/-! ### The look-up -/

variable {ε : Type} {c : Cluster} {ns : String}

/-- A deployment carries the request for the sidecar, and selects a pod of the namespace
that has one of some names. -/
def Claims (c : Cluster) (ns : String) (names : List String) (d : Deployment) : Prop :=
  (∃ value, d.metadata.allAnnotations.get? Annotations.inject = some value) ∧
    ∃ selector, d.podSelector? = some selector ∧
      ∃ p ∈ c.listedPods (some ns) selector, p.metadata.anyName ∈ names

/-- The deployments are asked one after another, until one of them claims a pod. -/
lemma looks_anyOwns (names : List String) (deployments : List Deployment) :
    (anyOwns ns names deployments : Program ε Bool).Looks c fun found =>
      found = true ↔ ∃ d ∈ deployments, Claims c ns names d := by
  induction deployments with
  | nil =>
      rw [anyOwns]
      exact looks_pure (by simp)
  | cons d rest ih =>
      -- a deployment that claims nothing leaves the question to the others
      have hskip (hno : ¬ Claims c ns names d) : (anyOwns ns names rest : Program ε Bool).Looks c
          fun found => found = true ↔ ∃ d' ∈ d :: rest, Claims c ns names d' := by
        refine ih.mono fun found hfound => hfound.trans ?_
        rw [List.exists_mem_cons_iff, or_iff_right hno]
      rw [anyOwns]
      split_ifs with hrequest
      · have hrequest := Option.isSome_iff_exists.mp hrequest
        cases hselector : d.podSelector? with
        | none =>
            refine hskip fun ⟨_, selector, hsome, _⟩ => ?_
            cases hselector.symm.trans hsome
        | some selector =>
            refine Looks.bind (looks_request rfl fun owned howned => ?_)
            have hany : (owned.any fun p => names.contains p.metadata.anyName) = true ↔
                Claims c ns names d := by
              simp only [List.any_eq_true, List.contains_iff_mem]
              constructor
              · rintro ⟨p, hp, hname⟩
                exact ⟨hrequest, selector, hselector, p, howned.mem_iff.mp hp, hname⟩
              · rintro ⟨-, selector', hselector', p, hp, hname⟩
                obtain rfl := Option.some.inj (hselector.symm.trans hselector')
                exact ⟨p, howned.mem_iff.mpr hp, hname⟩
            split_ifs with hclaims
            · exact looks_pure (iff_of_true rfl ⟨d, List.mem_cons_self, hany.mp hclaims⟩)
            · exact hskip (mt hany.mpr hclaims)
      · exact hskip fun ⟨hsome, _⟩ => hrequest (Option.isSome_iff_exists.mpr hsome)

/-- A deployment by which an owner requests the sidecar claims one of the pods that carry the
labels of the new one. -/
lemma OwnerRequests.exists_claims {pod : Pod} {siblings : List Pod}
    {deployments : List Deployment}
    (hsiblings : siblings.Perm (c.listedPods (some ns) (.ofLabels pod.metadata.allLabels)))
    (hdeployments : deployments.Perm (c.listedDeployments (some ns) .everything))
    (howner : OwnerRequests c ns pod) :
    ∃ d ∈ deployments, Claims c ns (siblings.map (·.metadata.anyName)) d := by
  obtain ⟨k, d, kp, p, s, hd, rfl, hrequest, hp, hbelongs, hcarries⟩ := howner
  obtain ⟨selector, hselector, hns, hlabels⟩ := Pod.exists_belongsTo_iff.mp ⟨s, hbelongs⟩
  have hlisted : d ∈ c.listedDeployments (some d.metadata.anyNamespace) .everything :=
    Cluster.mem_listedDeployments.mpr ⟨⟨k, hd⟩, rfl, rfl⟩
  have howned : p ∈ c.listedPods (some d.metadata.anyNamespace) selector :=
    Cluster.mem_listedPods.mpr ⟨⟨kp, hp⟩, hns, hlabels⟩
  have hsibling : p ∈ siblings := hsiblings.mem_iff.mpr
    (Cluster.mem_listedPods.mpr ⟨⟨kp, hp⟩, hns, Selector.selects_ofLabels.mpr hcarries⟩)
  exact ⟨d, hdeployments.mem_iff.mpr hlisted, hrequest, selector, hselector, p, howned,
    List.mem_map_of_mem hsibling⟩

/-- An owner requests the sidecar if one of the deployments of the namespace claims one of
the pods that carry the labels of the new one. -/
lemma exists_claims_iff (hkeys : ∀ k p, c.pods.get? k = some p → p.metadata.key = k)
    {pod : Pod} {siblings : List Pod} {deployments : List Deployment}
    (hsiblings : siblings.Perm (c.listedPods (some ns) (.ofLabels pod.metadata.allLabels)))
    (hdeployments : deployments.Perm (c.listedDeployments (some ns) .everything)) :
    (∃ d ∈ deployments, Claims c ns (siblings.map (·.metadata.anyName)) d) ↔
      OwnerRequests c ns pod := by
  refine ⟨?_, OwnerRequests.exists_claims hsiblings hdeployments⟩
  rintro ⟨d, hd, hrequest, selector, hselector, p, hp, hname⟩
  obtain ⟨p', hp', hsame⟩ := List.mem_map.mp hname
  obtain ⟨⟨k, hd⟩, rfl, -⟩ := Cluster.mem_listedDeployments.mp (hdeployments.mem_iff.mp hd)
  obtain ⟨⟨kp, hp⟩, hns, hlabels⟩ := Cluster.mem_listedPods.mp hp
  obtain ⟨⟨kp', hp'⟩, hns', hcarries⟩ :=
    Cluster.mem_listedPods.mp (hsiblings.mem_iff.mp hp')
  obtain rfl := Cluster.eq_of_anyName hkeys hp' hp (hns'.trans hns.symm) hsame
  obtain ⟨s, hbelongs⟩ := Pod.exists_belongsTo_iff.mpr ⟨selector, hselector, hns, hlabels⟩
  exact ⟨k, d, kp, p', s, hd, rfl, hrequest, hp, hbelongs,
    Selector.selects_ofLabels.mp hcarries⟩

/-- The look-up finds out whether a deployment of the namespace claims one of the pods that
carry the labels of the new one. -/
lemma looks_claims (c : Cluster) (ns : String) (pod : Pod) :
    (ownerRequestsInjection ns pod : Program ε Bool).Looks c fun found =>
      ∃ (siblings : List Pod) (deployments : List Deployment),
        siblings.Perm (c.listedPods (some ns) (.ofLabels pod.metadata.allLabels)) ∧
        deployments.Perm (c.listedDeployments (some ns) .everything) ∧
        (found = true ↔
          ∃ d ∈ deployments, Claims c ns (siblings.map (·.metadata.anyName)) d) := by
  rw [ownerRequestsInjection]
  refine Looks.bind (looks_request rfl fun siblings hsiblings => ?_)
  dsimp only
  split_ifs with hempty
  · -- without siblings no pod is claimed, whatever the deployments are
    refine looks_pure ⟨siblings, _, hsiblings, List.Perm.refl _,
      iff_of_false Bool.false_ne_true ?_⟩
    rintro ⟨d, -, -, selector, -, p, -, hname⟩
    rw [List.isEmpty_iff.mp hempty] at hname
    exact List.not_mem_nil hname
  · refine Looks.bind (looks_request rfl fun deployments hdeployments => ?_)
    exact (looks_anyOwns _ deployments).mono fun found hfound =>
      ⟨siblings, deployments, hsiblings, hdeployments, hfound⟩

/-- **The look-up finds out whether an owner requests the sidecar.** -/
theorem looks_ownerRequestsInjection
    (hkeys : ∀ k p, c.pods.get? k = some p → p.metadata.key = k) (ns : String) (pod : Pod) :
    (ownerRequestsInjection ns pod : Program ε Bool).Looks c fun found =>
      found = true ↔ OwnerRequests c ns pod :=
  (looks_claims c ns pod).mono fun _ ⟨_, _, hsiblings, hdeployments, hfound⟩ =>
    hfound.trans (exists_claims_iff hkeys hsiblings hdeployments)

/-! ### The decision -/

open scoped Classical in
lemma precheck_eq (ns : String) (pod : Pod) :
    Injection.precheck ns pod =
      if ns ∈ Injection.reservedNamespaces then .skip .reservedNamespace
      else if IsInjected pod.metadata then .skip .alreadyInjected
      else if AsksForSidecar pod.metadata then .inject
      else if ∀ key, pod.metadata.allLabels.get? key = none then .skip .unlabeled
      else .resolveOwner := by
  have hbare := if_congr (KeyMap.isEmpty_iff (m := pod.metadata.allLabels))
    (Eq.refl (Precheck.skip .unlabeled)) (Eq.refl Precheck.resolveOwner)
  exact if_congr List.contains_iff_mem rfl
    (if_congr isInjected_iff rfl (if_congr requestsInjection_iff rfl hbare))

/-- The decision that is due is there at once, or it depends on the look-up. -/
lemma decide_cases (c : Cluster) (sidecar : SidecarConfig) (ns : String) (pod : Pod) :
    (decide sidecar ns pod : Deferred ε _) = .ready (.ok (due c sidecar ns pod)) ∨
      ∃ answer, decide sidecar ns pod = .lookup (ownerRequestsInjection ns pod) answer ∧
        (∀ found : Bool, (found = true ↔ OwnerRequests c ns pod) →
          answer (.ok found) = .ok (due c sidecar ns pod)) ∧
        ∀ e : LookupError ε, answer (.error e) = .error e := by
  rw [decide, precheck_eq, due]
  split_ifs with hreserved hinjected hasks hbare howner
  · exact .inl rfl
  · exact .inl rfl
  · exact .inl rfl
  · exact .inl rfl
  · refine .inr ⟨_, rfl, fun found hfound => ?_, fun e => rfl⟩
    rw [hfound.mpr howner]
    rfl
  · refine .inr ⟨_, rfl, fun found hfound => ?_, fun e => rfl⟩
    rw [Bool.eq_false_iff.mpr (mt hfound.mp howner)]
    rfl

/-- **The decision is the one that is due**, whoever answers calls for lists and in
whatever order, if pods stand under their own keys; and the cluster is unchanged. -/
theorem decide_eq_due {σ : Type} {answer : Handler ε σ} {view : σ → Cluster}
    (hanswer : Lists answer view) {s : σ}
    (hkeys : ∀ k p, (view s).pods.get? k = some p → p.metadata.key = k)
    (sidecar : SidecarConfig) (ns : String) (pod : Pod) :
    ((decide sidecar ns pod).run answer s).1 = .ok (due (view s) sidecar ns pod) ∧
      view ((decide sidecar ns pod).run answer s).2 = view s := by
  obtain hready | ⟨answer', hlookup, hdue, -⟩ := decide_cases (view s) sidecar ns pod
  · rw [hready]
    exact ⟨rfl, rfl⟩
  · obtain ⟨found, hfound, howner, hview⟩ :=
      (looks_ownerRequestsInjection hkeys ns pod).run_eq hanswer
    rw [hlookup, Deferred.run]
    dsimp only
    rw [hfound]
    exact ⟨hdue found howner, hview⟩

/-! ### An owner that is found by a sibling -/

/-- A cluster that lists everything backwards. -/
def backwards : Handler ClusterError Cluster
  | .listDeployments ns selector, c => (.ok (c.listedDeployments ns selector).reverse, c)
  | .listPods ns selector, c => (.ok (c.listedPods ns selector).reverse, c)
  | asked, c => Cluster.answer asked c

lemma lists_backwards : Lists backwards id := by
  intro asked c hlists
  cases asked with
  | listDeployments ns selector => exact ⟨_, c, rfl, List.reverse_perm _, rfl⟩
  | listPods ns selector => exact ⟨_, c, rfl, List.reverse_perm _, rfl⟩
  | _ => cases hlists

/-- A deployment that carries the request for the sidecar, and selects the pods of two
lines. -/
def ferry : Deployment where
  metadata := { name := some "ferry", «namespace» := some "pier",
                annotations := some (KeyMap.ofList [(Annotations.inject, "no")]) }
  spec := some { selector := { matchExpressions := some [
    ⟨"line", "in", some ["north", "south"]⟩] } }

/-- A pod of the northern line. -/
def ferryPod : Pod where
  metadata := { name := some "ferry-1", «namespace» := some "pier",
                labels := some (KeyMap.ofList [("app", "ferry"), ("line", "north")]) }

/-- A new pod, which is of no line yet. -/
def newPod : Pod where
  metadata := { generateName := some "ferry-",
                labels := some (KeyMap.ofList [("app", "ferry")]) }

/-- The pier, with another pod. -/
def pier : Cluster :=
  ((({} : Cluster).addDeployment ferry).addPod ferryPod).addPod
    { metadata := { name := some "tug-1", «namespace» := some "pier" } }

/-- The new pod gets the sidecar in the namespace of its sibling, and nowhere else. -/
theorem decide_pier :
    ((decide {} "pier" newPod).run backwards pier).1 =
        .ok (.inject (Injection.patch newPod {})) ∧
      ((decide {} "dock" newPod).run backwards pier).1 = .ok .notSelected := by
  have hsound : pier.Sound :=
    ((Cluster.sound_empty.addDeployment (by decide)).addPod _).addPod _
  have hinjected : ¬ IsInjected newPod.metadata := mt isInjected_iff.mpr (by decide)
  have hasks : ¬ AsksForSidecar newPod.metadata := mt requestsInjection_iff.mpr (by decide)
  have hlabels : ¬ ∀ key, newPod.metadata.allLabels.get? key = none :=
    fun hnone => absurd (hnone "app") (by decide)
  obtain ⟨hpier, -⟩ := decide_eq_due lists_backwards (s := pier) hsound.pods {} "pier" newPod
  obtain ⟨hdock, -⟩ := decide_eq_due lists_backwards (s := pier) hsound.pods {} "dock" newPod
  constructor
  · have howner : OwnerRequests pier "pier" newPod := by
      refine ⟨ferry.metadata.key, ferry, ferryPod.metadata.key, ferryPod, _, by decide +kernel, rfl,
        ⟨"no", by decide +kernel⟩, by decide +kernel,
        ⟨rfl, by decide +kernel, rfl, by decide +kernel⟩, ?_⟩
      exact Selector.selects_ofLabels.mp (by decide +kernel)
    have hnamespace : "pier" ∉ Injection.reservedNamespaces := by decide
    rw [hpier, id, due, if_neg hnamespace, if_neg hinjected, if_neg hasks, if_neg hlabels,
      if_pos howner]
  · have hnobody : ¬ OwnerRequests pier "dock" newPod := by
      rintro ⟨k, d, -, -, -, hd, hns, -⟩
      have hferry : d ∈ [ferry] := KeyMap.mem_values.mpr ⟨k, hd⟩
      rw [List.mem_singleton.mp hferry] at hns
      exact absurd hns (by decide)
    have hnamespace : "dock" ∉ Injection.reservedNamespaces := by decide
    rw [hdock, id, due, if_neg hnamespace, if_neg hinjected, if_neg hasks, if_neg hlabels,
      if_neg hnobody]

end Admission

/-- A controller comes to the decision that is due, unless the look-up is given up, and
asks for nothing but lists. -/
theorem Controller.resolve_decide {c : Controller} (hc : c.IsAlone)
    (hcount : c.faults.count = 0)
    (hkeys : ∀ k p, c.cluster.pods.get? k = some p → p.metadata.key = k)
    (sidecar : SidecarConfig) (ns : String) (pod : Pod) :
    ((c.resolve (Admission.decide sidecar ns pod)).1 = .error .timedOut ∨
        (c.resolve (Admission.decide sidecar ns pod)).1 =
          .ok (Admission.due c.cluster sidecar ns pod)) ∧
      OnlyLooks c (c.resolve (Admission.decide sidecar ns pod)).2 := by
  obtain hready | ⟨answer, hlookup, hdue, herror⟩ :=
    Admission.decide_cases (ε := ClusterError) c.cluster sidecar ns pod
  · rw [hready]
    exact ⟨.inr rfl, .refl c⟩
  · obtain ⟨hfound, hlooks⟩ := performBy_looks
      (Admission.looks_ownerRequestsInjection hkeys ns pod) hc hcount (c.now + c.timeout)
    rw [hlookup, resolve]
    refine ⟨?_, hlooks⟩
    dsimp only
    obtain hlate | ⟨found, hfound, howner⟩ := hfound
    · rw [hlate]
      exact .inl (herror .timedOut)
    · rw [hfound]
      exact .inr (hdue found howner)

end SidecarPolicy
