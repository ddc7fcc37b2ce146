/-
What the controller asks of a cluster, whatever it is answered.

Where a selector requires nothing, all pods of a namespace are meant.  So pods are only ever
listed by a selector that requires something, and nothing is written but to what has been
listed before, by whoever answers and however he answers.

* `Call.IsSelective`: a call for pods tells a namespace and requires something of them;
* `Reconcile.Confined`, `Reconcile.abides_program`: patched are deployments that were listed
  for a namespace of the policy, and deleted are pods that were listed for one of them and
  are on the wrong side of the sidecar;
* `Admission.Confined`, `Admission.abides_serve`: a review only asks for lists;
* `Quarantine.Confined`, `Quarantine.abides_act`: replaced are deployments that have just
  been read, after they were listed for a group;
* `Controller.calls_confined`: **every call is confined, whatever is answered**.
-/
import SidecarPolicy.Admission.Endpoint
import SidecarPolicy.Proofs.Cluster.Looks
import SidecarPolicy.Proofs.Cluster.Transcript
import SidecarPolicy.Proofs.Registry
import SidecarPolicy.Proofs.Selector
import SidecarPolicy.Quarantine
import SidecarPolicy.Reconcile

namespace SidecarPolicy

open Program

variable {ε : Type} {past past' : List (Exchange ε)}

/-! ### Lists -/

/-- A call for pods tells a namespace and requires something of them. -/
def Call.IsSelective : Call → Prop
  | .listPods ns selector => ns.isSome = true ∧ selector.isEmpty = false
  | _ => True

/-- A deployment has been listed for a namespace and a selector. -/
def ListsDeployment (past : List (Exchange ε)) (ns : String) (selector : Selector)
    (d : Deployment) : Prop :=
  ∃ ds, ⟨.listDeployments (some ns) selector, .ok ds⟩ ∈ past ∧ d ∈ ds

/-- A pod has been listed for a namespace and a selector. -/
def ListsPod (past : List (Exchange ε)) (ns : String) (selector : Selector) (p : Pod) : Prop :=
  ∃ ps, ⟨.listPods (some ns) selector, .ok ps⟩ ∈ past ∧ p ∈ ps

lemma ListsDeployment.mono {ns : String} {selector : Selector} {d : Deployment}
    (h : ListsDeployment past ns selector d) (hpast : past <+: past') :
    ListsDeployment past' ns selector d := by
  obtain ⟨ds, hmem, hd⟩ := h
  exact ⟨ds, hpast.subset hmem, hd⟩

lemma Deployment.podSelector?_selective {d : Deployment} {selector : Selector}
    (h : d.podSelector? = some selector) : selector.isEmpty = false := by
  obtain ⟨s, -, hselective, rfl⟩ := podSelector?_eq_some.mp h
  exact hselective

/-! ### Reconciling -/

namespace Reconcile

variable {st : PolicyState} {ns : String} {d : Deployment}

/-- A deployment that was listed for a policy, in one of its namespaces. -/
structure Targeted (st : PolicyState) (past : List (Exchange ε)) (ns : String)
    (d : Deployment) : Prop where
  «namespace» : ns ∈ st.policy.spec.namespaces
  listed : ListsDeployment past ns st.policy.spec.labelSelector d

/-- A pod that was listed for a targeted deployment, by a selector that requires something.
It lacks the sidecar if the policy is live, and carries it if the policy is deleted. -/
structure Doomed (st : PolicyState) (past : List (Exchange ε)) (ns : String) (p : Pod) :
    Prop where
  listed : ∃ d selector, Targeted st past ns d ∧ d.podSelector? = some selector ∧
    selector.isEmpty = false ∧ ListsPod past ns selector p
  bare : ∀ policy, st = .live policy → Annotations.isInjected p.metadata.allAnnotations = false
  marked : ∀ policy, st = .deleted policy →
    Annotations.isInjected p.metadata.allAnnotations = true

/-- What a policy's reconciliation may ask for: it patches targeted deployments, and deletes
doomed pods; and it neither reads nor replaces a single deployment. -/
def Confined (st : PolicyState) (past : List (Exchange ε)) : Call → Prop
  | .listDeployments .. => True
  | .listPods ns selector => (Call.listPods ns selector).IsSelective
  | .patchDeployment ns name _ => ∃ d, Targeted st past ns d ∧ d.metadata.anyName = name
  | .deletePod ns name => ∃ p, Doomed st past ns p ∧ p.metadata.anyName = name
  | .getDeployment .. | .updateDeployment _ => False

lemma Targeted.mono (h : Targeted st past ns d) (hpast : past <+: past') :
    Targeted st past' ns d :=
  ⟨h.namespace, h.listed.mono hpast⟩

/-- The pods of a targeted deployment that are selected for it are deleted. -/
lemma abides_deletePods {select : Pod → Bool} (h : Targeted st past ns d)
    (hlive : ∀ policy, st = .live policy → ∀ p, select p = true → hasSidecar p = false)
    (hdeleted : ∀ policy, st = .deleted policy → ∀ p, select p = true → hasSidecar p = true) :
    (deletePods ns d select).Abides (Confined st) (fun _ _ => True) past := by
  rw [deletePods]
  cases hselector : d.podSelector? with
  | none => exact abides_pure trivial
  | some selector =>
      have hselective := Deployment.podSelector?_selective hselector
      refine abides_request_bind ⟨rfl, hselective⟩ fun pods => ?_
      refine abides_forM fun p hp past' hpast => ?_
      obtain ⟨hp, hselect⟩ := List.mem_filter.mp hp
      have hlisted : ListsPod past' ns selector p :=
        ⟨pods, hpast.subset (by simp), hp⟩
      have htargeted := (h.mono (List.prefix_append past _)).mono hpast
      refine abides_request ⟨p, ⟨⟨d, selector, htargeted, hselector, hselective, hlisted⟩, ?_, ?_⟩,
        rfl⟩
      · exact fun policy hst => hlive policy hst p hselect
      · exact fun policy hst => hdeleted policy hst p hselect

lemma abides_applyTo {policy : Policy} (h : Targeted (.live policy) past ns d) :
    (applyTo policy.spec.annotations ns d).Abides (Confined (.live policy))
      (fun _ _ => True) past := by
  rw [applyTo]
  cases Workload.annotate d.metadata policy.spec.annotations with
  | none => exact abides_pure trivial
  | some patch =>
      refine abides_request_bind ⟨d, h, rfl⟩ fun _ => ?_
      refine abides_deletePods (h.mono (List.prefix_append past _)) ?_ fun _ hst => nomatch hst
      exact fun _ _ p hselect => (Bool.not_eq_true' _).mp hselect

/-- A policy is taken away from a targeted deployment. -/
lemma abides_cleanupOf {policy : Policy} (h : Targeted (.deleted policy) past ns d) :
    (cleanupOf ns d).Abides (Confined (.deleted policy)) (fun _ _ => True) past := by
  have hrest : ∀ past', past <+: past' →
      ((if templateRequestsInjection d then pure () else deletePods ns d hasSidecar :
        Program ε Unit)).Abides (Confined (.deleted policy)) (fun _ _ => True) past' := by
    intro past' hpast
    split_ifs
    · exact abides_pure trivial
    · exact abides_deletePods (h.mono hpast) (fun _ hst => nomatch hst)
        fun _ _ _ hselect => hselect
  rw [cleanupOf]
  cases Workload.strip d.metadata with
  | none => exact hrest past (List.prefix_refl past)
  | some patch =>
      exact abides_request_bind ⟨d, h, rfl⟩ fun _ => hrest _ (List.prefix_append past _)

/-- What is done to targeted deployments is done to those that are listed for a policy. -/
lemma abides_forSelected {act : String → Deployment → Program ε Unit}
    (hact : ∀ ns d past, Targeted st past ns d →
      (act ns d).Abides (Confined st) (fun _ _ => True) past) (past : List (Exchange ε)) :
    (forSelected st.policy.spec act).Abides (Confined st) (fun _ _ => True) past := by
  refine abides_forM fun ns hns past₁ _ => abides_request_bind trivial fun ds => ?_
  refine abides_forM fun d hd past₂ hpast => hact ns d past₂ ⟨hns, ds, ?_, hd⟩
  exact hpast.subset (by simp)

/-- **Reconciling a policy asks for nothing else.** -/
theorem abides_program (st : PolicyState) (past : List (Exchange ε)) :
    (program (some st)).Abides (Confined st) (fun _ _ => True) past := by
  cases st with
  | live policy => exact abides_forSelected (fun _ _ _ => abides_applyTo) past
  | deleted policy => exact abides_forSelected (fun _ _ _ => abides_cleanupOf) past

end Reconcile

/-! ### Reviews -/

namespace Admission

/-- What a review may ask for: lists, those of pods by a selector that requires something. -/
def Confined (asked : Call) : Prop := asked.lists = true ∧ asked.IsSelective

/-- The search for an owner asks for the pods of deployments that select some in
particular. -/
lemma abides_anyOwns (ns : String) (names : List String) (deployments : List Deployment)
    (past : List (Exchange ε)) :
    (anyOwns ns names deployments).Abides (fun _ => Confined) (fun _ _ => True) past := by
  induction deployments generalizing past with
  | nil => exact abides_pure trivial
  | cons d rest ih =>
      rw [anyOwns]
      split_ifs
      · cases hselector : d.podSelector? with
        | none => exact ih past
        | some selector =>
            have hselective := Deployment.podSelector?_selective hselector
            refine abides_request_bind ⟨rfl, rfl, hselective⟩ fun owned => ?_
            split_ifs
            · exact abides_pure trivial
            · exact ih _
      · exact ih past

/-- The look-up for a pod that carries labels only asks for lists. -/
lemma abides_ownerRequestsInjection {ns : String} {pod : Pod}
    (h : pod.metadata.allLabels.isEmpty = false) (past : List (Exchange ε)) :
    (ownerRequestsInjection ns pod).Abides (fun _ => Confined) (fun _ _ => True) past := by
  have hselective : (Selector.ofLabels pod.metadata.allLabels).isEmpty = false := by
    rw [Selector.isEmpty, Bool.and_eq_false_iff]
    exact .inl h
  refine abides_request_bind ⟨rfl, rfl, hselective⟩ fun siblings => ?_
  dsimp only
  split_ifs
  · exact abides_pure trivial
  · exact abides_request_bind ⟨rfl, trivial⟩ fun deployments => abides_anyOwns _ _ deployments _

lemma labelled_of_precheck {ns : String} {pod : Pod}
    (h : Injection.precheck ns pod = .resolveOwner) :
    pod.metadata.allLabels.isEmpty = false := by
  rw [Injection.precheck] at h
  split_ifs at h with _ _ _ hbare
  exact Bool.eq_false_iff.mpr hbare

/-- The look-up of a decision, if there is one, only asks for lists. -/
lemma abides_decide (sidecar : SidecarConfig) (ns : String) (pod : Pod) :
    (decide sidecar ns pod : Deferred ε _).Abides fun _ => Confined := by
  rw [decide]
  cases hprecheck : Injection.precheck ns pod with
  | skip reason => trivial
  | inject => trivial
  | resolveOwner => exact abides_ownerRequestsInjection (labelled_of_precheck hprecheck) []

variable [Worded ε]

lemma abides_answer (reader : Reader) (sidecar : SidecarConfig) (review : Review)
    (request : AdmissionRequest) :
    (answer reader sidecar review request : Deferred ε _).Abides fun _ => Confined := by
  rw [answer]
  cases podOf reader request with
  | error reason => trivial
  | ok pod => exact (abides_decide sidecar _ pod).map _

lemma abides_review (reader : Reader) (sidecar : SidecarConfig) (body : List UInt8) :
    (review reader sidecar body : Deferred ε _).Abides fun _ => Confined := by
  rw [review]
  rcases reader.review body with reason | r
  · trivial
  · dsimp only
    rcases r.toRequest with reason | request
    · trivial
    · exact abides_answer reader sidecar r request

/-- **A review only asks for lists**, whatever the request is. -/
theorem abides_serve (reader : Reader) (sidecar : SidecarConfig) (r : Http.Request) :
    (serve reader sidecar r : Deferred ε _).Abides fun _ => Confined := by
  rw [serve]
  split_ifs
  · trivial
  · trivial
  · rcases r.body.read with fault | _ | ⟨b, rest⟩
    · trivial
    · trivial
    · exact (abides_review reader sidecar (b :: rest)).map _

end Admission

/-! ### Reports -/

namespace Quarantine

/-- A deployment that has just been read, after it was listed for a group whose labels
require something. -/
def JustRead (past : List (Exchange ε)) (current : Deployment) : Prop :=
  ∃ before ns group listed,
    past = before ++ [⟨.getDeployment ns listed.metadata.anyName, .ok current⟩] ∧
      (Selector.ofLabels group).isEmpty = false ∧
        ListsDeployment before ns (.ofLabels group) listed

/-- What a report may ask for: it replaces deployments that have just been read, without a
change but to the number of their pods; and it neither patches nor deletes. -/
def Confined (past : List (Exchange ε)) : Call → Prop
  | .listDeployments .. | .getDeployment .. => True
  | .listPods ns selector => (Call.listPods ns selector).IsSelective
  | .updateDeployment d => ∃ current, JustRead past current ∧ d = current.scaledTo 0
  | .patchDeployment .. | .deletePod .. => False

/-- The search for the owner asks for the pods of deployments that select some in
particular. -/
lemma abides_findOwner (podName : String) (deployments : List Deployment)
    (past : List (Exchange ε)) :
    (findOwner podName deployments).Abides Confined (fun _ _ => True) past := by
  induction deployments generalizing past with
  | nil => exact abides_pure trivial
  | cons d rest ih =>
      rw [findOwner]
      cases hselector : d.podSelector? with
      | none => exact ih past
      | some selector =>
          have hselective := Deployment.podSelector?_selective hselector
          refine abides_attempt_bind ⟨rfl, hselective⟩ fun answer => ?_
          -- a list that fails is passed over
          cases answer with
          | error e => exact ih _
          | ok pods =>
              dsimp only
              cases pods.find? (·.metadata.anyName = podName) with
              | none => exact ih _
              | some p => exact abides_pure trivial

/-- A group is scaled to zero if its labels require something. -/
lemma abides_scaleGroup (ns : String) (group : Labels) (past : List (Exchange ε)) :
    (scaleGroup ns group).Abides Confined (fun _ _ => True) past := by
  rw [scaleGroup]
  split_ifs with hempty
  · exact abides_pure trivial
  · have hselective : (Selector.ofLabels group).isEmpty = false := by
      rw [Selector.isEmpty, Bool.and_eq_false_iff]
      exact .inl (Bool.eq_false_iff.mpr hempty)
    refine abides_request_bind trivial fun targets => ?_
    refine abides_mapM fun listed hlisted past' hpast => ?_
    refine abides_request_bind trivial fun current => ?_
    refine abides_request_bind ⟨current, ⟨past', ns, group, listed, rfl, hselective, ?_⟩, rfl⟩
      fun _ => abides_pure trivial
    exact ⟨targets, hpast.subset (by simp), hlisted⟩

/-- **A report asks for nothing else.** -/
theorem abides_act (podName : String) (past : List (Exchange ε)) :
    (act podName).Abides Confined (fun _ _ => True) past := by
  refine abides_request_bind trivial fun deployments => ?_
  refine Abides.bind ((abides_findOwner podName deployments _).mono fun found past' _ _ => ?_)
  cases found with
  | none => exact abides_pure trivial
  | some owned =>
      dsimp only
      split_ifs
      · exact abides_scaleGroup _ _ past'
      · exact abides_pure trivial

end Quarantine

/-! ### All calls -/

namespace Controller

/-- **Every call is confined, whatever is answered.**  Whoever answers, and wherever a
program is broken off: pods are listed only in a namespace and by a selector that requires
something; reconciling patches and deletes only what was listed for the policy, in its
namespaces, and pods that are on the wrong side of the sidecar; a review writes nothing; and
a report replaces only what has just been read, after it was listed for a group. -/
theorem calls_confined [Worded ε] (earlier later : List (Exchange ε)) (x : Exchange ε) :
    (∀ state, (Reconcile.program state).Transcript (earlier ++ x :: later) →
        ∃ st, state = some st ∧ Reconcile.Confined st earlier x.call) ∧
      (∀ sidecar ns pod,
        (Admission.decide sidecar ns pod : Deferred ε _).Transcript (earlier ++ x :: later) →
          Admission.Confined x.call) ∧
      (∀ reader sidecar r,
        (Admission.serve reader sidecar r : Deferred ε _).Transcript (earlier ++ x :: later) →
          Admission.Confined x.call) ∧
      ∀ podName, (Quarantine.act podName).Transcript (earlier ++ x :: later) →
        Quarantine.Confined earlier x.call := by
  refine ⟨fun state h => ?_,
    fun sidecar ns pod h => (Admission.abides_decide sidecar ns pod).rule_of_transcript h,
    fun reader sidecar r h => (Admission.abides_serve reader sidecar r).rule_of_transcript h,
    fun podName h => ?_⟩
  · cases state with
    | none =>
        -- a key without a policy asks for nothing, so no call is its
        rw [Reconcile.program] at h
        obtain ⟨⟩ | ⟨y, rest⟩ := earlier <;> nomatch h
    | some st => exact ⟨st, rfl, (Reconcile.abides_program st []).rule_of_transcript h⟩
  · exact (Quarantine.abides_act podName []).rule_of_transcript h

/-! ### One tent -/

def tentLabels : Labels := ⟨[("app", "tent")], by decide⟩

/-- A tent, the group of which is scaled to zero when a pod is reported. -/
def tent : Deployment where
  metadata := {
    name := some "tent"
    «namespace» := some "default"
    labels := some tentLabels
    annotations := some ⟨[("Action", "quarantine")], by decide⟩ }
  spec := some { replicas := some 1, selector := { matchLabels := some tentLabels } }

/-- A pod of the tent. -/
def tentPod : Pod where
  metadata :=
    { name := some "tent-1", «namespace» := some "default", labels := some tentLabels }

/-- A policy that selects everything, in the default namespace. -/
def tentPolicy : Policy where
  name := some "tents"

/-- The patch that the policy has for the tent. -/
def tentPatch : Patch :=
  Amendment.setAnnotations tent.metadata.annotations tentPolicy.spec.annotations.toLabels

/-- What has been asked and answered when the policy is about to delete a pod. -/
def tentRestart : List (Exchange ClusterError) := [
  ⟨.listDeployments (some "default") {}, .ok [tent]⟩,
  ⟨.patchDeployment "default" "tent" tentPatch, .ok ()⟩,
  ⟨.listPods (some "default") (.ofLabels tentLabels), .ok [tentPod]⟩]

/-- What has been asked and answered when the tent is about to be scaled to zero. -/
def tentReport : List (Exchange ClusterError) := [
  ⟨.listDeployments none .everything, .ok [tent]⟩,
  ⟨.listPods (some "default") (.ofLabels tentLabels), .ok [tentPod]⟩,
  ⟨.listDeployments (some "default") (.ofLabels tentLabels), .ok [tent]⟩,
  ⟨.getDeployment "default" "tent", .ok tent⟩]

/-- The pod is deleted since the tent was listed for the policy, and the pod for the tent;
a pod that is like it is reviewed; and the tent is scaled to zero when the pod is
reported. -/
theorem calls_confined_tent :
    Reconcile.Confined (.live tentPolicy) tentRestart (.deletePod "default" "tent-1") ∧
      Admission.Confined (.listPods (some "default") (.ofLabels tentLabels)) ∧
      Quarantine.Confined tentReport (.updateDeployment (tent.scaledTo 0)) := by
  refine ⟨?_, ?_, ?_⟩
  · obtain ⟨st, hst, hconfined⟩ :=
      (calls_confined tentRestart [] ⟨.deletePod "default" "tent-1", .ok ()⟩).1
        (some (.live tentPolicy)) (.cons _ (.cons _ (.cons _ (.cons _ (.nil _)))))
    cases hst
    exact hconfined
  · exact (calls_confined [] [] (⟨.listPods (some "default") (.ofLabels tentLabels), .ok []⟩ :
      Exchange ClusterError)).2.1 {} "default" tentPod (.cons _ (.nil _))
  · exact (calls_confined tentReport [] ⟨.updateDeployment (tent.scaledTo 0), .ok ()⟩).2.2.2
      "tent-1" (.cons _ (.cons _ (.cons _ (.cons _ (.cons _ (.nil _))))))

end Controller

end SidecarPolicy
