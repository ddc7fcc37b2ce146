/-
What becomes of a group when one of its pods is reported.

* `Quarantine.run_scaleDown`, `Quarantine.run_mapM_scaleDown`: what scaling one deployment
  to zero does, and then many of them;
* `Quarantine.scaled`: the cluster with a group scaled to zero;
* `Quarantine.run_deal`: the group is scaled to zero, and nothing else happens;
* `Quarantine.Lowers`, `Quarantine.lowered`: a part of a group scaled to zero;
* `Quarantine.Due`: an owner that acts on its group;
* `Quarantine.Lowers.run_act`: **it makes no difference which part of the group has been
  scaled to zero before**;
* `Quarantine.act_scales`: **the deployments of the group are scaled to zero, and reporting
  the pod again makes no difference; without a group nothing is done**.
-/
import SidecarPolicy.Proofs.Quarantine.Owner
import SidecarPolicy.Proofs.Reconcile.Outcome

namespace SidecarPolicy.Quarantine

open Program

variable {c : Cluster} {podName : String} {owner d : Deployment} {pod p : Pod}

/-! ### Scaling down -/

/-- A deployment is there as it was, but for the number of its pods, which is zero if it has
a specification. -/
structure ScaledToZero (d d' : Deployment) : Prop where
  metadata : d'.metadata = d.metadata
  status : d'.status = d.status
  spec : d'.spec = d.spec.map fun s => { s with replicas := some 0 }

/-- Scaling a deployment to zero changes this deployment. -/
lemma run_scaleDown (hd : c.deployments.get? d.metadata.key = some d) :
    (scaleDown d.metadata.anyNamespace d).run Cluster.answer c =
      (.ok d.metadata.anyName,
        { c with deployments := c.deployments.insert d.metadata.key (d.scaledTo 0) }) := by
  have hfound : c.findDeployment d.metadata.key = .ok d := by rw [Cluster.findDeployment, hd]
  have hget : run Cluster.answer
      (getDeployment d.metadata.anyNamespace d.metadata.anyName) c = (.ok d, c) :=
    congrArg (·, c) hfound
  have hupdate : run Cluster.answer (updateDeployment (d.scaledTo 0)) c =
      (.ok (), { c with deployments := c.deployments.insert d.metadata.key (d.scaledTo 0) }) := by
    show c.replace d.metadata.key
      (c.findDeployment d.metadata.key >>= fun _ => pure (d.scaledTo 0)) = _
    rw [hfound]
    rfl
  rw [scaleDown, run_bind, hget]
  dsimp only
  rw [run_bind, hupdate]
  rfl

/-- Scaling deployments to zero one after another changes these deployments. -/
lemma run_mapM_scaleDown {ns : String} {targets : List Deployment}
    (hns : ∀ d ∈ targets, d.metadata.anyNamespace = ns)
    (hdistinct : (targets.map (·.metadata.key)).Nodup)
    (hpresent : ∀ d ∈ targets, c.deployments.get? d.metadata.key = some d) :
    (targets.mapM (scaleDown ns)).run Cluster.answer c =
      (.ok (targets.map (·.metadata.anyName)),
        { c with deployments :=
            c.deployments.insertAll (targets.map fun d => (d.metadata.key, d.scaledTo 0)) }) := by
  induction targets generalizing c with
  | nil => rfl
  | cons d rest ih =>
      obtain ⟨rfl, hns⟩ := List.forall_mem_cons.mp hns
      obtain ⟨hd, hpresent⟩ := List.forall_mem_cons.mp hpresent
      obtain ⟨hfirst, hdistinct⟩ := List.nodup_cons.mp hdistinct
      -- the others are still there as they were, since their keys are others
      have hstill : ∀ d' ∈ rest, (c.deployments.insert d.metadata.key (d.scaledTo 0)).get?
          d'.metadata.key = some d' := by
        intro d' hd'
        have hne : d'.metadata.key ≠ d.metadata.key :=
          fun heq => hfirst (List.mem_map.mpr ⟨d', hd', heq⟩)
        rw [KeyMap.get?_insert_of_ne hne]
        exact hpresent d' hd'
      rw [List.mapM_cons, run_bind, run_scaleDown hd]
      dsimp only
      rw [run_bind, ih hns hdistinct hstill]
      rfl

/-! ### The group -/

/-- A deployment after its group has been dealt with. -/
def adjust (owner : Deployment) (pod : Pod) (d : Deployment) : Deployment :=
  if IsMember owner pod d then d.scaledTo 0 else d

/-- The cluster with a group scaled to zero. -/
def scaled (c : Cluster) (owner : Deployment) (pod : Pod) : Cluster :=
  { c with deployments := c.deployments.mapValues (adjust owner pod) }

def members (c : Cluster) (owner : Deployment) (pod : Pod) : List Deployment :=
  c.deployments.values.filter fun d => IsMember owner pod d

lemma listed_group (c : Cluster) (owner : Deployment) (pod : Pod) :
    c.listedDeployments (some owner.metadata.anyNamespace) (.ofLabels (groupOf owner pod)) =
      members c owner pod := by
  refine List.filter_congr fun d _ => ?_
  rw [Bool.eq_iff_iff, isListed_groupOf, decide_eq_true_eq]

lemma mem_members (hc : c.Keyed) : d ∈ members c owner pod ↔
    c.deployments.get? d.metadata.key = some d ∧ IsMember owner pod d := by
  rw [members, List.mem_filter, decide_eq_true_eq, KeyMap.mem_values]
  refine and_congr_left fun _ => ⟨fun ⟨k, hk⟩ => ?_, fun hd => ⟨_, hd⟩⟩
  exact (hc.deployments k d hk).symm ▸ hk

lemma nodup_members (hc : c.Keyed) (owner : Deployment) (pod : Pod) :
    ((members c owner pod).map (·.metadata.key)).Nodup :=
  listed_group c owner pod ▸ Cluster.nodup_listed_deployments hc _ _

/-- To set the deployments of a group one after another is to adjust all deployments. -/
lemma insertAll_members (hc : c.Keyed) (owner : Deployment) (pod : Pod) :
    c.deployments.insertAll ((members c owner pod).map fun d => (d.metadata.key, d.scaledTo 0)) =
      c.deployments.mapValues (adjust owner pod) := by
  have hkeys : ((members c owner pod).map fun d => (d.metadata.key, d.scaledTo 0)).map Prod.fst =
      (members c owner pod).map (·.metadata.key) := by
    rw [List.map_map]
    rfl
  -- a key is that of a deployment of the group, or it is not set at all
  refine KeyMap.ext_get? fun k => ?_
  rw [KeyMap.get?_mapValues]
  by_cases hk : k ∈ (members c owner pod).map (·.metadata.key)
  · obtain ⟨d, hd, rfl⟩ := List.mem_map.mp hk
    obtain ⟨hpresent, hmember⟩ := (mem_members hc).mp hd
    have hpair : (d.metadata.key, d.scaledTo 0) ∈
        (members c owner pod).map fun d => (d.metadata.key, d.scaledTo 0) :=
      List.mem_map_of_mem hd
    rw [KeyMap.get?_insertAll_of_mem (hkeys ▸ nodup_members hc owner pod) hpair, hpresent,
      Option.map_some, adjust, if_pos hmember]
  · rw [KeyMap.get?_insertAll_of_not_mem (hkeys ▸ hk)]
    cases hd : c.deployments.get? k with
    | none => rfl
    | some d =>
        obtain rfl := hc.deployments k d hd
        have hother : ¬ IsMember owner pod d :=
          fun hmember => hk (List.mem_map_of_mem ((mem_members hc).mpr ⟨hd, hmember⟩))
        rw [Option.map_some, adjust, if_neg hother]

/-- **The group is scaled to zero, and nothing else happens.** -/
theorem run_deal (hc : c.Keyed) (hacts : Acts owner) (hshares : ∃ key v, Shares owner pod key v) :
    (deal (some (owner, pod))).run Cluster.answer c =
      (.ok ((members c owner pod).map (·.metadata.anyName)), scaled c owner pod) := by
  rw [deal_eq_scaleDown hacts hshares, run_bind, run_listDeployments, listed_group]
  dsimp only
  rw [run_mapM_scaleDown (fun d hd => ((mem_members hc).mp hd).2.namespace)
    (nodup_members hc owner pod) fun d hd => ((mem_members hc).mp hd).1,
    insertAll_members hc owner pod]
  rfl

/-! ### A part of the group -/

/-- Deployments are left as they are, but that some of a group are scaled to zero. -/
def Lowers (owner : Deployment) (pod : Pod) (f : Deployment → Deployment) : Prop :=
  ∀ d, f d = d ∨ IsMember owner pod d ∧ f d = d.scaledTo 0

/-- The cluster with its deployments changed. -/
def lowered (c : Cluster) (f : Deployment → Deployment) : Cluster :=
  { c with deployments := c.deployments.mapValues f }

variable {f : Deployment → Deployment}

lemma lowers_adjust (owner : Deployment) (pod : Pod) : Lowers owner pod (adjust owner pod) := by
  intro d
  by_cases hmember : IsMember owner pod d
  · exact .inr ⟨hmember, if_pos hmember⟩
  · exact .inl (if_neg hmember)

namespace Lowers

lemma metadata (hf : Lowers owner pod f) (d : Deployment) : (f d).metadata = d.metadata := by
  obtain hsame | ⟨-, hscaled⟩ := hf d
  · rw [hsame]
  · rw [hscaled, Deployment.scaledTo]

lemma podSelector? (hf : Lowers owner pod f) (d : Deployment) :
    (f d).podSelector? = d.podSelector? := by
  obtain hsame | ⟨-, hscaled⟩ := hf d
  · rw [hsame]
  · rw [hscaled, Deployment.podSelector?, Deployment.podSelector?, Deployment.scaledTo]
    cases d.spec <;> rfl

/-- The same labels are shared as before. -/
lemma shares (hf : Lowers owner pod f) {key v : String} :
    Shares (f owner) pod key v ↔ Shares owner pod key v := by
  have hnames : Names (f owner) = Names owner := by
    funext key
    rw [Names, Names, hf.metadata]
  constructor
  · rintro ⟨hcarried, hnamed⟩
    exact ⟨hcarried, hnames ▸ hnamed⟩
  · rintro ⟨hcarried, hnamed⟩
    exact ⟨hcarried, hnames ▸ hnamed⟩

/-- The same deployments are in the group as before. -/
lemma isMember (hf : Lowers owner pod f) :
    IsMember (f owner) pod (f d) ↔ IsMember owner pod d := by
  constructor
  · rintro ⟨hns, hlabels⟩
    rw [hf.metadata, hf.metadata] at hns
    rw [hf.metadata] at hlabels
    exact ⟨hns, fun key v hshares => hlabels key v (hf.shares.mpr hshares)⟩
  · rintro ⟨hns, hlabels⟩
    refine ⟨?_, fun key v hshares => ?_⟩
    · rw [hf.metadata, hf.metadata]
      exact hns
    · rw [hf.metadata]
      exact hlabels key v (hf.shares.mp hshares)

/-- Scaled to zero by now or not, a deployment becomes what it would have become before. -/
lemma adjust (hf : Lowers owner pod f) (d : Deployment) :
    adjust (f owner) pod (f d) = Quarantine.adjust owner pod d := by
  rw [Quarantine.adjust, Quarantine.adjust]
  simp only [hf.isMember]
  split_ifs with hmember
  · obtain hsame | ⟨-, hscaled⟩ := hf d
    · rw [hsame]
    · rw [hscaled, Deployment.scaledTo, Deployment.scaledTo, Option.map_map]
      rfl
  · exact (hf d).resolve_right fun h => hmember h.1

/-- The group comes to the same when all of it is scaled to zero. -/
lemma scaled (hf : Lowers owner pod f) :
    scaled (lowered c f) (f owner) pod = Quarantine.scaled c owner pod := by
  have hcomp : Quarantine.adjust (f owner) pod ∘ f = Quarantine.adjust owner pod :=
    funext hf.adjust
  rw [Quarantine.scaled, Quarantine.scaled, lowered, KeyMap.mapValues_mapValues, hcomp]

/-- The deployments of the group have the same names as before. -/
lemma names (hf : Lowers owner pod f) :
    (members (lowered c f) (f owner) pod).map (·.metadata.anyName) =
      (members c owner pod).map (·.metadata.anyName) := by
  rw [members, lowered, KeyMap.values_mapValues, List.filter_map, List.map_map]
  have hname : (fun d : Deployment => d.metadata.anyName) ∘ f = fun d => d.metadata.anyName := by
    funext d
    rw [Function.comp_apply, hf.metadata]
  have hmember : (fun d => decide (IsMember (f owner) pod d)) ∘ f =
      fun d => decide (IsMember owner pod d) := by
    funext d
    rw [Function.comp_apply]
    exact decide_eq_decide.mpr hf.isMember
  rw [hname, hmember]
  rfl

/-- Every deployment stands under its own key as before. -/
lemma keyed (hf : Lowers owner pod f) (hc : c.Keyed) : (lowered c f).Keyed where
  deployments k d hd := by
    obtain ⟨d, hbefore, rfl⟩ :=
      Option.map_eq_some_iff.mp ((KeyMap.get?_mapValues _ _ k).symm.trans hd)
    rw [hf.metadata]
    exact hc.deployments k d hbefore
  pods := hc.pods

lemma reports (hf : Lowers owner pod f) :
    Reports (lowered c f) podName (f d) p ↔ Reports c podName d p := by
  have hbelongs : (∃ s, p.BelongsTo (f d) s) ↔ ∃ s, p.BelongsTo d s := by
    rw [Pod.exists_belongsTo_iff, Pod.exists_belongsTo_iff, hf.podSelector?, hf.metadata]
  exact ⟨fun h => ⟨h.present, h.name, hbelongs.mp h.belongs⟩,
    fun h => ⟨h.present, h.name, hbelongs.mpr h.belongs⟩⟩

lemma isOwner (hf : Lowers owner pod f) (h : IsOwner c podName owner pod) :
    IsOwner (lowered c f) podName (f owner) pod := by
  obtain ⟨⟨before, after, hvalues, hbefore⟩, hreports⟩ := h
  refine ⟨⟨before.map f, after.map f, ?_, fun d hd p => ?_⟩, hf.reports.mpr hreports⟩
  · rw [lowered, KeyMap.values_mapValues, hvalues, List.map_append, List.map_cons]
  · obtain ⟨d, hmem, rfl⟩ := List.mem_map.mp hd
    exact mt hf.reports.mp (hbefore d hmem p)

end Lowers

/-- Exactly the deployments of the group have been scaled to zero. -/
lemma outcome_scaled (c : Cluster) (owner : Deployment) (pod : Pod) :
    Reconcile.Outcome (IsMember owner pod) ScaledToZero (fun _ => False) c
      (scaled c owner pod) where
  changed k d hd hmember := by
    refine ⟨d.scaledTo 0, ?_, rfl, rfl, rfl⟩
    rw [scaled, KeyMap.get?_mapValues, hd, Option.map_some, adjust, if_pos hmember]
  unchanged k hother := by
    rw [scaled, KeyMap.get?_mapValues]
    cases hd : c.deployments.get? k with
    | none => rfl
    | some d => rw [Option.map_some, adjust, if_neg (hother d hd)]
  deleted _ _ _ hdoomed := hdoomed.elim
  kept _ _ := rfl

/-! ### Reports -/

/-- The owner of the reported pod acts, and there is a label that its group shares. -/
structure Due (c : Cluster) (podName : String) (owner : Deployment) (pod : Pod) : Prop where
  isOwner : IsOwner c podName owner pod
  acts : Acts owner
  shares : ∃ key v, Shares owner pod key v

/-- An owner that is due is due until its group has been scaled to zero, and after that. -/
lemma Lowers.due (hf : Lowers owner pod f) (h : Due c podName owner pod) :
    Due (lowered c f) podName (f owner) pod where
  isOwner := hf.isOwner h.isOwner
  acts := by
    rw [Acts, hf.metadata]
    exact h.acts
  shares := by
    obtain ⟨key, v, hshares⟩ := h.shares
    exact ⟨key, v, hf.shares.mpr hshares⟩

/-- The group of an owner that is due is scaled to zero. -/
lemma Due.run_act (hc : c.Keyed) (h : Due c podName owner pod) :
    (act podName).run Cluster.answer c =
      (.ok ((members c owner pod).map (·.metadata.anyName)), Quarantine.scaled c owner pod) := by
  rw [Quarantine.run_act, (owner?_eq_some hc).mpr h.isOwner, run_deal hc h.acts h.shares]

/-- **Whatever part of the group has been scaled to zero before**, a report of the pod tells the
same and leads to the same cluster. -/
theorem Lowers.run_act (hf : Lowers owner pod f) (hc : c.Keyed) (h : Due c podName owner pod) :
    (act podName).run Cluster.answer (lowered c f) = (act podName).run Cluster.answer c := by
  rw [(hf.due h).run_act (hf.keyed hc), h.run_act hc, hf.names, hf.scaled]

lemma deal_owner? (hc : c.Keyed) (hnone : ∀ owner pod, ¬ Due c podName owner pod) :
    deal (owner? c podName) = (pure [] : Program ClusterError _) := by
  cases howner : owner? c podName with
  | none => rfl
  | some found =>
      obtain ⟨owner, pod⟩ := found
      have hisOwner := (owner?_eq_some hc).mp howner
      exact deal_eq_pure fun ⟨hacts, hshares⟩ => hnone owner pod ⟨hisOwner, hacts, hshares⟩

/-- **The deployments of the group are scaled to zero, and nothing else changes.**  Their
names are told in order, and reporting the pod again tells the same and changes nothing.  If
no owner is due nothing is told, and nothing is asked for but lists. -/
theorem act_scales (hc : c.Keyed) (podName : String) :
    ((∀ owner pod, ¬ Due c podName owner pod) →
      (act podName).run Cluster.answer c = (.ok [], c) ∧
        ∀ x ∈ (act podName).exchanges Cluster.answer c, x.call.lists = true) ∧
      ∀ owner pod, Due c podName owner pod → ∃ c',
        (act podName).run Cluster.answer c =
            (.ok ((c.deployments.values.filter fun d => IsMember owner pod d).map
              (·.metadata.anyName)), c') ∧
          Reconcile.Outcome (IsMember owner pod) ScaledToZero (fun _ => False) c c' ∧
          (act podName).run Cluster.answer c' =
            (.ok ((c.deployments.values.filter fun d => IsMember owner pod d).map
              (·.metadata.anyName)), c') := by
  constructor
  · intro hnone
    have hdeal := deal_owner? hc hnone
    refine ⟨by rw [run_act, hdeal, run_pure], fun x hx => ?_⟩
    refine (lists_of_mem_exchanges hx).resolve_right ?_
    rw [hdeal]
    exact List.not_mem_nil
  · intro owner pod hdue
    refine ⟨scaled c owner pod, hdue.run_act hc, outcome_scaled c owner pod, ?_⟩
    exact ((lowers_adjust owner pod).run_act hc hdue).trans (hdue.run_act hc)

/-! ### A group -/

/-- The labels of the front of a market. -/
def frontLabels : Labels := ⟨[("app", "market"), ("tier", "front")], by decide⟩

/-- A deployment of the market, which tells its group by two keys. -/
def stand : Deployment where
  metadata := {
    name := some "stand"
    «namespace» := some "default"
    labels := some frontLabels
    annotations := some ⟨[("Action", "quarantine"), ("GroupLabel", "app--tier")], by decide⟩ }
  spec := some { replicas := some 2, selector := { matchLabels := some frontLabels } }

/-- Another one with the same labels. -/
def cache : Deployment where
  metadata :=
    { name := some "cache", «namespace» := some "default", labels := some frontLabels }

/-- A deployment at the back of the market. -/
def store : Deployment where
  metadata := {
    name := some "store"
    «namespace» := some "default"
    labels := some ⟨[("app", "market"), ("tier", "back")], by decide⟩ }

/-- A pod at the front of the market. -/
def standPod : Pod where
  metadata :=
    { name := some "stand-1", «namespace» := some "default", labels := some frontLabels }

/-- The market. -/
def market : Cluster :=
  ((((({} : Cluster).addDeployment stand).addDeployment cache).addDeployment store).addPod
    standPod)

lemma market_keyed : market.Keyed :=
  ((((Cluster.sound_empty.addDeployment (by decide)).addDeployment (by decide)).addDeployment
    (by decide)).addPod standPod).keyed

lemma due_stand : Due market "stand-1" stand standPod where
  isOwner := (owner?_eq_some market_keyed).mp (by decide +kernel)
  acts := quarantines_iff.mp (by decide +kernel)
  shares := isEmpty_groupOf.mp (by decide +kernel)

/-- The front of the market is scaled to zero, once and for all. -/
theorem act_scales_market : market.Keyed ∧ ∃ c',
    (act "stand-1").run Cluster.answer market = (.ok ["cache", "stand"], c') ∧
      Reconcile.Outcome (IsMember stand standPod) ScaledToZero (fun _ => False) market c' ∧
      (act "stand-1").run Cluster.answer c' = (.ok ["cache", "stand"], c') := by
  have hnames : ((market.deployments.values.filter fun d => IsMember stand standPod d).map
      (·.metadata.anyName)) = ["cache", "stand"] := by decide +kernel
  obtain ⟨-, hdue⟩ := act_scales market_keyed "stand-1"
  exact ⟨market_keyed, hnames ▸ hdue stand standPod due_stand⟩

end SidecarPolicy.Quarantine
