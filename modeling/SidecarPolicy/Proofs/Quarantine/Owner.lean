/-
The owner of a reported pod, and its group.

The owner is the first deployment that has a pod of the reported name.  It tells, by keys
of labels, which of the pod's labels the group has in common.

* `Quarantine.Reports`, `Quarantine.IsOwner`: a pod of the reported name that belongs to a
  deployment, and the first deployment with such a pod;
* `Quarantine.owner?_eq_some`: **the search finds the owner**;
* `Quarantine.Shares`, `Quarantine.IsMember`: the labels that a group shares, and the
  deployments of the group;
* `Quarantine.get?_groupOf`, `Quarantine.isListed_groupOf`: these are the labels and the
  deployments that are asked for;
* `Quarantine.run_act`: **nothing is done before the owner has been found**.
-/
import SidecarPolicy.Proofs.Cluster.Exchange
import SidecarPolicy.Proofs.Cluster.Looks
import SidecarPolicy.Proofs.Selector
import SidecarPolicy.Quarantine

namespace SidecarPolicy.Quarantine

open Program

variable {c : Cluster} {podName : String} {owner d : Deployment} {pod p : Pod}

/-! ### The owner -/

/-- A pod of the reported name that belongs to a deployment. -/
structure Reports (c : Cluster) (podName : String) (d : Deployment) (p : Pod) : Prop where
  present : ∃ k, c.pods.get? k = some p
  name : p.metadata.anyName = podName
  belongs : ∃ s, p.BelongsTo d s

/-- The first deployment that has a pod of the reported name, with that pod. -/
structure IsOwner (c : Cluster) (podName : String) (owner : Deployment) (pod : Pod) :
    Prop where
  first : ∃ before after, c.deployments.values = before ++ owner :: after ∧
    ∀ d ∈ before, ∀ p, ¬ Reports c podName d p
  reports : Reports c podName owner pod

/-- The pod of the reported name that is listed for a deployment. -/
def reported? (c : Cluster) (podName : String) (d : Deployment) : Option Pod :=
  d.podSelector?.bind fun selector =>
    (c.listedPods (some d.metadata.anyNamespace) selector).find? (·.metadata.anyName = podName)

lemma Reports.unique (hc : c.Keyed) (h : Reports c podName d p) {p' : Pod}
    (h' : Reports c podName d p') : p = p' := by
  obtain ⟨⟨k, hp⟩, hname, s, -, -, hns, -⟩ := h
  obtain ⟨⟨k', hp'⟩, hname', s', -, -, hns', -⟩ := h'
  exact Cluster.eq_of_anyName hc.pods hp hp' (hns.trans hns'.symm) (hname.trans hname'.symm)

lemma reports_of_reported? (h : reported? c podName d = some p) : Reports c podName d p := by
  obtain ⟨selector, hselector, hfound⟩ := Option.bind_eq_some_iff.mp h
  obtain ⟨hpresent, hns, hlabels⟩ := Cluster.mem_listedPods.mp (List.mem_of_find?_eq_some hfound)
  refine ⟨hpresent, ?_, Pod.exists_belongsTo_iff.mpr ⟨selector, hselector, hns, hlabels⟩⟩
  simpa using List.find?_some hfound

/-- The pod that is listed is the one that belongs to the deployment. -/
lemma reported?_eq_some (hc : c.Keyed) :
    reported? c podName d = some p ↔ Reports c podName d p := by
  refine ⟨reports_of_reported?, fun h => ?_⟩
  obtain ⟨selector, hselector, hns, hlabels⟩ := Pod.exists_belongsTo_iff.mp h.belongs
  have hlisted : p ∈ c.listedPods (some d.metadata.anyNamespace) selector :=
    Cluster.mem_listedPods.mpr ⟨h.present, hns, hlabels⟩
  have hfound : (reported? c podName d).isSome = true := by
    rw [reported?, hselector, Option.bind_some, List.find?_isSome]
    exact ⟨p, hlisted, decide_eq_true h.name⟩
  obtain ⟨p', hp'⟩ := Option.isSome_iff_exists.mp hfound
  rw [hp', h.unique hc (reports_of_reported? hp')]

/-- The owner that the search finds, with its pod. -/
def owner? (c : Cluster) (podName : String) : Option (Deployment × Pod) :=
  c.deployments.values.findSome? fun d => (reported? c podName d).map (d, ·)

/-- **The search finds the owner.** -/
theorem owner?_eq_some (hc : c.Keyed) :
    owner? c podName = some (owner, pod) ↔ IsOwner c podName owner pod := by
  rw [owner?, List.findSome?_eq_some_iff]
  constructor
  · rintro ⟨before, d, after, hvalues, hfound, hbefore⟩
    obtain ⟨p, hp, heq⟩ := Option.map_eq_some_iff.mp hfound
    cases heq
    refine ⟨⟨before, after, hvalues, fun d' hd' p' hreports => ?_⟩, (reported?_eq_some hc).mp hp⟩
    have hnone := Option.map_eq_none_iff.mp (hbefore d' hd')
    cases hnone.symm.trans ((reported?_eq_some hc).mpr hreports)
  · rintro ⟨⟨before, after, hvalues, hbefore⟩, hreports⟩
    refine ⟨before, owner, after, hvalues, ?_, fun d' hd' => ?_⟩
    · rw [(reported?_eq_some hc).mpr hreports]
      rfl
    · refine Option.map_eq_none_iff.mpr (Option.eq_none_iff_forall_ne_some.mpr fun p' hp' => ?_)
      exact hbefore d' hd' p' ((reported?_eq_some hc).mp hp')

/-! ### The search -/

variable {ε σ : Type}

/-- The search looks at the pods of one deployment after another. -/
lemma run_findOwner (podName : String) (deployments : List Deployment) (c : Cluster) :
    (findOwner podName deployments).run Cluster.answer c =
      (.ok (deployments.findSome? fun d => (reported? c podName d).map (d, ·)), c) := by
  induction deployments with
  | nil => rfl
  | cons d rest ih =>
      rw [findOwner, List.findSome?_cons, reported?]
      cases d.podSelector? with
      | none => exact ih
      | some selector =>
          have hanswer : run Cluster.answer
              (attempt (.listPods (some d.metadata.anyNamespace) selector)) c =
              (.ok (.ok (c.listedPods (some d.metadata.anyNamespace) selector)), c) := rfl
          rw [run_bind, hanswer, Option.bind_some]
          dsimp only
          cases (c.listedPods (some d.metadata.anyNamespace) selector).find?
            (·.metadata.anyName = podName) with
          | none => exact ih
          | some p => rfl

/-- The search asks for nothing but lists. -/
lemma lists_findOwner (answer : Handler ε σ) (podName : String) (deployments : List Deployment)
    (s : σ) : ∀ x ∈ (findOwner podName deployments : Program ε _).exchanges answer s,
      x.call.lists = true := by
  induction deployments generalizing s with
  | nil => exact fun x hx => absurd hx List.not_mem_nil
  | cons d rest ih =>
      rw [findOwner]
      cases d.podSelector? with
      | none => exact ih s
      | some selector =>
          dsimp only
          rw [exchanges_attempt_bind]
          refine List.forall_mem_cons.mpr ⟨rfl, ?_⟩
          generalize answer _ s = answered
          obtain ⟨e | pods, s'⟩ := answered
          · exact ih s'
          · dsimp only
            cases pods.find? (·.metadata.anyName = podName) with
            | none => exact ih s'
            | some p => exact fun x hx => absurd hx List.not_mem_nil

lemma run_listDeployments («namespace» : Option String) (selector : Selector) (c : Cluster) :
    (listDeployments «namespace» selector).run Cluster.answer c =
      (.ok (c.listedDeployments «namespace» selector), c) := rfl

lemma run_search (c : Cluster) (podName : String) :
    (listDeployments none .everything >>= findOwner podName).run Cluster.answer c =
      (.ok (owner? c podName), c) := by
  have hall : c.listedDeployments none .everything = c.deployments.values :=
    List.filter_eq_self.mpr fun _ _ => rfl
  rw [run_bind, run_listDeployments, hall]
  exact run_findOwner podName c.deployments.values c

/-! ### The group -/

/-- A key of labels by which a deployment tells its group. -/
def Names (owner : Deployment) (key : String) : Prop :=
  ∃ text, owner.metadata.allAnnotations.get? Annotations.groupLabel = some text ∧
    key ∈ (GroupLabel.ofText text).keys

/-- A label that the group shares: one of the pod's, the key of which the owner names, or
any if it names none. -/
structure Shares (owner : Deployment) (pod : Pod) (key v : String) : Prop where
  carried : pod.metadata.allLabels.get? key = some v
  named : Names owner key ∨ ∀ key', ¬ Names owner key'

/-- The deployments of the group: those in the owner's namespace that carry every label
that is shared. -/
structure IsMember (owner : Deployment) (pod : Pod) (d : Deployment) : Prop where
  «namespace» : d.metadata.anyNamespace = owner.metadata.anyNamespace
  labels : ∀ key v, Shares owner pod key v → d.metadata.allLabels.get? key = some v

/-- The owner's action quarantines: none is named, or the empty one, or this one. -/
def Acts (owner : Deployment) : Prop :=
  ∀ name, owner.metadata.allAnnotations.get? Annotations.action = some name →
    name = "" ∨ name = "quarantine"

/-- The labels that are taken from the pod. -/
def groupOf (owner : Deployment) (pod : Pod) : Labels :=
  groupLabels (PolicyAnnotations.ofLabels owner.metadata.allAnnotations).groupLabel
    pod.metadata.allLabels

/-- The keys that are read of an owner are those that it names. -/
lemma mem_keys_iff {key : String} :
    key ∈ (PolicyAnnotations.ofLabels owner.metadata.allAnnotations).groupLabel.keys ↔
      Names owner key := by
  rw [Names, PolicyAnnotations.ofLabels]
  cases owner.metadata.allAnnotations.get? Annotations.groupLabel with
  | none => simp [GroupLabel.empty]
  | some text => simp

/-- **The labels that are taken are those that the group shares.** -/
theorem get?_groupOf {key v : String} :
    (groupOf owner pod).get? key = some v ↔ Shares owner pod key v := by
  rw [groupOf, groupLabels]
  split_ifs with hempty
  · have hnone : ∀ key', ¬ Names owner key' := by
      intro key' hnames
      have hmem := mem_keys_iff.mpr hnames
      rw [List.isEmpty_iff.mp hempty] at hmem
      exact List.not_mem_nil hmem
    exact ⟨fun h => ⟨h, .inr hnone⟩, fun h => h.carried⟩
  · have hnamed : ¬ ∀ key', ¬ Names owner key' := by
      intro hnone
      refine hempty (List.isEmpty_iff.mpr (List.eq_nil_iff_forall_not_mem.mpr fun key' hmem => ?_))
      exact hnone key' (mem_keys_iff.mp hmem)
    -- a key that is named twice has the same value both times
    refine (KeyMap.get?_ofList_eq_some (f := pod.metadata.allLabels.get?) ?_).trans ?_
    · intro e he
      obtain ⟨key', -, hpair⟩ := List.mem_filterMap.mp he
      obtain ⟨v', hv', rfl⟩ := Option.map_eq_some_iff.mp hpair
      exact hv'
    · rw [List.mem_filterMap]
      constructor
      · rintro ⟨key', hmem, hpair⟩
        obtain ⟨v', hv', heq⟩ := Option.map_eq_some_iff.mp hpair
        cases heq
        exact ⟨hv', .inl (mem_keys_iff.mp hmem)⟩
      · rintro ⟨hcarried, hor⟩
        refine ⟨key, mem_keys_iff.mpr (hor.resolve_right hnamed), ?_⟩
        rw [hcarried]
        rfl

lemma isEmpty_groupOf : (groupOf owner pod).isEmpty = false ↔ ∃ key v, Shares owner pod key v := by
  rw [Bool.eq_false_iff, Ne, KeyMap.isEmpty_iff]
  simp only [← get?_groupOf, ← Option.ne_none_iff_exists', not_forall]

/-- **The deployments that are asked for are those of the group.** -/
theorem isListed_groupOf :
    Cluster.isListed (some owner.metadata.anyNamespace) (.ofLabels (groupOf owner pod))
      d.metadata = true ↔ IsMember owner pod d := by
  rw [Cluster.isListed_iff, Selector.selects_ofLabels]
  simp only [get?_groupOf]
  exact ⟨fun h => ⟨h.1, h.2⟩, fun h => ⟨h.namespace, h.labels⟩⟩

instance (owner : Deployment) (pod : Pod) (d : Deployment) : Decidable (IsMember owner pod d) :=
  decidable_of_iff _ isListed_groupOf

/-- The action that is read of an owner quarantines if the owner says so. -/
lemma quarantines_iff :
    (PolicyAnnotations.ofLabels owner.metadata.allAnnotations).action.quarantines = true ↔
      Acts owner := by
  rw [Acts, PolicyAnnotations.ofLabels]
  cases owner.metadata.allAnnotations.get? Annotations.action with
  | none => simp [Action.quarantines]
  | some name =>
      by_cases hempty : name = ""
      · simp [hempty, Action.ofText, Action.quarantines]
      · by_cases hquarantine : name = "quarantine"
        · simp [hquarantine, Action.ofText, Action.quarantines]
        · simp [hempty, hquarantine, Action.ofText, Action.quarantines]

/-! ### What is done -/

/-- What is done once the owner has been looked for. -/
def deal : Option (Deployment × Pod) → Program ε (List String)
  | none => pure []
  | some (owner, pod) =>
      if (PolicyAnnotations.ofLabels owner.metadata.allAnnotations).action.quarantines then
        scaleGroup owner.metadata.anyNamespace (groupOf owner pod)
      else pure []

lemma act_eq (podName : String) : (act podName : Program ε _) =
    (listDeployments none .everything >>= findOwner podName) >>= deal := by
  rw [bind_assoc]
  refine congrArg (_ >>= ·) (funext fun deployments => congrArg (_ >>= ·) (funext fun found => ?_))
  cases found <;> rfl

/-- Nothing is done for an owner that does not act, or if no label is shared. -/
lemma deal_eq_pure (h : ¬ (Acts owner ∧ ∃ key v, Shares owner pod key v)) :
    deal (some (owner, pod)) = (pure [] : Program ε _) := by
  rw [← quarantines_iff, ← isEmpty_groupOf] at h
  rw [deal]
  split_ifs with hacts
  · rw [scaleGroup, if_pos (by simpa [hacts] using h)]
  · rfl

lemma deal_eq_scaleDown (hacts : Acts owner) (hshares : ∃ key v, Shares owner pod key v) :
    deal (some (owner, pod)) =
      (listDeployments (some owner.metadata.anyNamespace) (.ofLabels (groupOf owner pod)) >>=
        fun targets => targets.mapM (scaleDown owner.metadata.anyNamespace) : Program ε _) := by
  rw [deal, if_pos (quarantines_iff.mpr hacts), scaleGroup, isEmpty_groupOf.mpr hshares]
  rfl

/-- **Nothing is done before the owner has been found.** -/
theorem run_act (c : Cluster) (podName : String) :
    (act podName).run Cluster.answer c = (deal (owner? c podName)).run Cluster.answer c := by
  rw [act_eq, run_bind, run_search]

/-- Nothing is asked for before the owner has been found but lists. -/
lemma lists_of_mem_exchanges {x : Exchange ClusterError}
    (hx : x ∈ (act podName).exchanges Cluster.answer c) :
    x.call.lists = true ∨ x ∈ (deal (owner? c podName)).exchanges Cluster.answer c := by
  rw [act_eq, exchanges_bind, run_search] at hx
  refine (List.mem_append.mp hx).imp_left fun hx => ?_
  obtain rfl | hx := List.mem_cons.mp hx
  · rfl
  · exact lists_findOwner _ _ _ _ x hx

end SidecarPolicy.Quarantine
