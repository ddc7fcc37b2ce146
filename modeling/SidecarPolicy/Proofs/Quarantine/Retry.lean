/-
Reports that are cut short, and repeated.

A report that is cut short may leave a part of its group scaled to zero, and what is done
when it is repeated is found out anew on the cluster that it has left.

* `Quarantine.Partway`: a cluster in which a part of a group has been scaled to zero;
* `Quarantine.secures_scaleDown`, `Quarantine.secures_deal`: scaling one deployment leads
  from such a cluster to another one, and so does all that is done with an owner;
* `Quarantine.run_act_of_mem_stations`: **at every station of a report it makes no difference
  to begin again**;
* `Controller.fallible_handler`: a controller that nobody disturbs answers for its cluster,
  or fails;
* `Quarantine.Attempts`: the clusters that reports of a pod leave, while calls fail;
* `Quarantine.Attempts.act_repeated`: **a report that is repeated comes to what the first one
  would have come to**.
-/
import SidecarPolicy.Proofs.Cluster.Stations
import SidecarPolicy.Proofs.Controller.Alone
import SidecarPolicy.Proofs.Quarantine.Effect
import SidecarPolicy.Proofs.Quarantine.Failure

namespace SidecarPolicy

open Program

/-- A controller that nobody disturbs answers for its cluster, or fails. -/
lemma Controller.fallible_handler :
    Fallible Controller.handler Controller.IsAlone Controller.cluster := by
  -- nothing happens while a call is waited for; then it fails, or the cluster answers
  have hcases : ∀ asked s, s.IsAlone → ∃ faults c', Controller.Rests (s.record asked) c' ∧
      (Controller.handler asked s = (.error .injected, { c' with faults }) ∨
        Controller.handler asked s = ((Cluster.answer asked s.cluster).1,
          { c' with faults, cluster := (Cluster.answer asked s.cluster).2 })) := by
    intro asked s hs
    have hrests : Controller.Rests (s.record asked) (s.record asked).await :=
      Controller.rests_await ⟨hs.noGhost, hs.noJob⟩
    have hcluster : (s.record asked).await.cluster = s.cluster := hrests.cluster
    obtain ⟨-, faults, -, hfails⟩ | ⟨faults, -, hanswers⟩ :=
      Controller.answer_cases hrests.alone asked
    · exact ⟨faults, _, hrests, .inl hfails⟩
    · exact ⟨faults, _, hrests, .inr (hcluster ▸ hanswers)⟩
  constructor
  · intro asked s hs
    obtain ⟨faults, c', hrests, hanswer | hanswer⟩ := hcases asked s hs
    · exact hanswer ▸ ⟨hrests.alone.noGhost, hrests.alone.noJob⟩
    · exact hanswer ▸ ⟨hrests.alone.noGhost, hrests.alone.noJob⟩
  · intro asked s hs
    obtain ⟨faults, c', hrests, hanswer | hanswer⟩ := hcases asked s hs
    · exact .inr ⟨⟨_, congrArg Prod.fst hanswer⟩, .inl (hanswer ▸ hrests.cluster)⟩
    · exact .inl ⟨congrArg Prod.fst hanswer, congrArg (·.2.cluster) hanswer⟩

namespace Quarantine

variable {c c' : Cluster} {podName : String} {owner d : Deployment} {pod : Pod}

/-! ### One report -/

/-- A part of a group has been scaled to zero. -/
def Partway (owner : Deployment) (pod : Pod) (c c' : Cluster) : Prop :=
  ∃ f, Lowers owner pod f ∧ c' = lowered c f

/-- No deployment has been scaled to zero so far. -/
lemma partway_start (owner : Deployment) (pod : Pod) (c : Cluster) : Partway owner pod c c := by
  refine ⟨id, fun d => .inl rfl, ?_⟩
  have hsame : c.deployments.mapValues id = c.deployments := by
    refine KeyMap.ext_get? fun k => ?_
    rw [KeyMap.get?_mapValues, Option.map_id, id]
  rw [lowered, hsame]

/-- One more deployment of the group is scaled to zero. -/
lemma Partway.insert (hc : c.Keyed) (h : Partway owner pod c c') (hd : d ∈ members c owner pod) :
    Partway owner pod c
      { c' with deployments := c'.deployments.insert d.metadata.key (d.scaledTo 0) } := by
  obtain ⟨hpresent, hmember⟩ := (mem_members hc).mp hd
  obtain ⟨f, hf, rfl⟩ := h
  -- the deployment of this key is adjusted, the others are as they are by now
  refine ⟨fun e => if e.metadata.key = d.metadata.key then adjust owner pod e else f e,
    fun e => ?_, ?_⟩
  · dsimp only
    split_ifs
    · exact lowers_adjust owner pod e
    · exact hf e
  · refine congrArg (Cluster.mk · c.pods) (KeyMap.ext_get? fun k => ?_)
    rw [KeyMap.get?_mapValues]
    by_cases hk : k = d.metadata.key
    · rw [hk, KeyMap.get?_insert_self, hpresent, Option.map_some, if_pos rfl, adjust,
        if_pos hmember]
    · rw [KeyMap.get?_insert_of_ne hk, lowered, KeyMap.get?_mapValues]
      refine Option.map_congr fun e he => ?_
      have hkey : e.metadata.key ≠ d.metadata.key := (hc.deployments k e he).trans_ne hk
      rw [if_neg hkey]

/-- Scaling a deployment of the group to zero is safe, however many have been. -/
lemma secures_scaleDown (hc : c.Keyed) (h : Partway owner pod c c')
    (hd : d ∈ members c owner pod) :
    (scaleDown owner.metadata.anyNamespace d).Secures (Partway owner pod c)
      (fun _ => Partway owner pod c) c' := by
  obtain ⟨hpresent, hmember⟩ := (mem_members hc).mp hd
  have hnext := h.insert hc hd
  obtain ⟨f, hf, rfl⟩ := id h
  -- the deployment is read as it is by now, which may be scaled to zero already
  have hfound : (lowered c f).findDeployment d.metadata.key = .ok (f d) := by
    rw [Cluster.findDeployment, lowered, KeyMap.get?_mapValues, hpresent]
    rfl
  have hscaled : (f d).scaledTo 0 = d.scaledTo 0 := by
    have hadjust := hf.adjust d
    rwa [adjust, adjust, if_pos hmember, if_pos (hf.isMember.mpr hmember)] at hadjust
  have hget : Cluster.answer
      (.getDeployment owner.metadata.anyNamespace d.metadata.anyName) (lowered c f) =
      (.ok (f d), lowered c f) := by
    rw [← hmember.namespace]
    exact congrArg (·, lowered c f) hfound
  have hupdate : Cluster.answer (.updateDeployment ((f d).scaledTo 0)) (lowered c f) =
      (.ok (), { lowered c f with
        deployments := (lowered c f).deployments.insert d.metadata.key (d.scaledTo 0) }) := by
    rw [hscaled]
    show (lowered c f).replace d.metadata.key
      ((lowered c f).findDeployment d.metadata.key >>= fun _ => pure (d.scaledTo 0)) = _
    rw [hfound]
    rfl
  refine Secures.bind (secures_request h hget ?_)
  exact Secures.bind (secures_request h hupdate (secures_pure hnext))

/-- All that is done with an owner scales a part of its group to zero at most. -/
lemma secures_deal (hc : c.Keyed) (hacts : Acts owner)
    (hshares : ∃ key v, Shares owner pod key v) :
    (deal (some (owner, pod))).Secures (Partway owner pod c) (fun _ => Partway owner pod c) c := by
  have hstart := partway_start owner pod c
  have hlist : Cluster.answer (.listDeployments (some owner.metadata.anyNamespace)
      (.ofLabels (groupOf owner pod))) c = (.ok (members c owner pod), c) := by
    rw [← listed_group]
    rfl
  rw [deal_eq_scaleDown hacts hshares]
  refine Secures.bind (secures_request hstart hlist ?_)
  exact secures_mapM (fun d hd c' hc' => secures_scaleDown hc hc' hd) hstart

/-- The stations of a report: nothing has been done, or a part of the group of an owner that is
due has been scaled to zero. -/
lemma partway_of_mem_stations (hc : c.Keyed) (h : c' ∈ (act podName).stations c) :
    c' = c ∨ ∃ owner pod, Due c podName owner pod ∧ Partway owner pod c c' := by
  rw [act_eq] at h
  obtain h | ⟨found, c₁, hsearch, h⟩ := mem_stations_bind h
  · refine .inl (eq_of_mem_stations (fun x hx => ?_) h)
    obtain rfl | hx := List.mem_cons.mp hx
    · rfl
    · exact lists_findOwner _ _ _ _ x hx
  · obtain ⟨hfound, rfl⟩ := Prod.mk.inj ((run_search c podName).symm.trans hsearch)
    obtain rfl := Except.ok.inj hfound
    by_cases hdue : ∃ owner pod, Due c podName owner pod
    · obtain ⟨owner, pod, hdue⟩ := hdue
      rw [(owner?_eq_some hc).mpr hdue.isOwner] at h
      have hsecures := secures_deal hc hdue.acts hdue.shares
      exact .inr ⟨owner, pod, hdue, hsecures.of_mem_stations (fun _ _ hpost => hpost) h⟩
    · rw [deal_owner? hc fun owner pod hdue' => hdue ⟨owner, pod, hdue'⟩] at h
      exact .inl (List.mem_singleton.mp h)

/-- **At every station of a report it makes no difference to begin again.** -/
theorem run_act_of_mem_stations (hc : c.Keyed) (h : c' ∈ (act podName).stations c) :
    c'.Keyed ∧ (act podName).run Cluster.answer c' = (act podName).run Cluster.answer c := by
  obtain rfl | ⟨owner, pod, hdue, f, hf, rfl⟩ := partway_of_mem_stations hc h
  · exact ⟨hc, rfl⟩
  · exact ⟨hf.keyed hc, hf.run_act hc hdue⟩

/-! ### Many reports -/

/-- The clusters that reports of a pod leave, one after another.  Each of them is answered by
someone who may fail, at any call or at several ones; but no list of pods fails, since a
report would go on as if there were no pods. -/
inductive Attempts (podName : String) (c : Cluster) : Cluster → Prop
  | none : Attempts podName c c
  | report {σ : Type} {answer : Handler ClusterError σ} {fit : σ → Prop} {view : σ → Cluster}
      {s : σ} (earlier : Attempts podName c (view s)) (hanswer : Fallible answer fit view)
      (hfit : fit s) (hpods : ∀ x ∈ (act podName).exchanges answer s, x.Fails →
        x.call.asksForPods = false) : Attempts podName c (view ((act podName).run answer s).2)

/-- After any reports it makes no difference to begin again. -/
lemma Attempts.run_eq (h : Attempts podName c c') (hc : c.Keyed) :
    c'.Keyed ∧ (act podName).run Cluster.answer c' = (act podName).run Cluster.answer c := by
  induction h with
  | none => exact ⟨hc, rfl⟩
  | @report σ answer fit view s earlier hanswer hfit hpods ih =>
      have hnone : ∀ x ∈ (act podName).exchanges answer s,
          x.Fails → noPods x.call = Option.none := by
        intro x hx hfails
        rw [← Option.isNone_iff_eq_none, ← Option.isSome_eq_false_iff, isSome_noPods]
        exact hpods x hx hfails
      have hstation := (surfaces_act podName).mem_stations hanswer hfit hnone
      obtain ⟨hkeyed, hrun⟩ := run_act_of_mem_stations ih.1 hstation
      exact ⟨hkeyed, hrun.trans ih.2⟩

/-- **A report that is repeated comes to what the first one would have come to**, however many
have been made before and wherever they have been cut short: it ends well, tells the same
names and leaves the same cluster. -/
theorem Attempts.act_repeated (h : Attempts podName c c') (hc : c.Keyed) :
    ∃ names c'', (act podName).run Cluster.answer c = (.ok names, c'') ∧
      (act podName).run Cluster.answer c' = (.ok names, c'') := by
  obtain ⟨-, hrun⟩ := h.run_eq hc
  rw [hrun]
  by_cases hdue : ∃ owner pod, Due c podName owner pod
  · obtain ⟨owner, pod, hdue⟩ := hdue
    exact ⟨_, _, hdue.run_act hc, hdue.run_act hc⟩
  · have hnone : ∀ owner pod, ¬ Due c podName owner pod :=
      fun owner pod hdue' => hdue ⟨owner, pod, hdue'⟩
    have hidle := ((act_scales hc podName).1 hnone).1
    exact ⟨_, _, hidle, hidle⟩

/-! ### A report that is cut short twice -/

/-- One more deployment at the front of the market. -/
def tables : Deployment where
  metadata :=
    { name := some "tables", «namespace» := some "default", labels := some frontLabels }
  spec := some { replicas := some 3, selector := { matchLabels := some frontLabels } }

/-- The market with the tables. -/
def bazaar : Cluster := market.addDeployment tables

lemma bazaar_keyed : bazaar.Keyed :=
  (((((Cluster.sound_empty.addDeployment (by decide)).addDeployment (by decide)).addDeployment
    (by decide)).addPod standPod).addDeployment (by decide)).keyed

/-- The first report finds the tables no more, when the stand has been scaled down. -/
def firstReport : Controller := { cluster := bazaar, faults := { skips := 7, count := 1 } }

/-- The second report is cut short when the group is to be listed. -/
def secondReport : Controller where
  cluster := ((act "stand-1").run Controller.handler firstReport).2.cluster
  faults := { skips := 2, count := 1 }

/-- The pods of a deployment. -/
def replicasOf (c : Cluster) (d : Deployment) : Option Int :=
  (c.deployments.get? d.metadata.key).bind fun d => d.spec.bind (·.replicas)

/-- Two reports fail, the first of which leaves the stand without pods and the tables with
theirs.  The third one comes to what the first one would have come to. -/
theorem act_repeated_bazaar :
    (Controller.perform (act "stand-1") firstReport).1 = .error .injected ∧
      replicasOf secondReport.cluster stand = some 0 ∧
      replicasOf secondReport.cluster tables = some 3 ∧
      (Controller.perform (act "stand-1") secondReport).1 = .error .injected ∧
      ∃ names c', (act "stand-1").run Cluster.answer bazaar = (.ok names, c') ∧
        (act "stand-1").run Cluster.answer
          (Controller.perform (act "stand-1") secondReport).2.cluster = (.ok names, c') := by
  have halone : ∀ (cluster : Cluster) (faults : Faults),
      Controller.IsAlone { cluster, faults } := fun _ _ => ⟨rfl, fun _ ht => nomatch ht⟩
  have hfirst : Attempts "stand-1" bazaar secondReport.cluster :=
    .report (s := firstReport) .none Controller.fallible_handler (halone _ _) (by decide +kernel)
  have hsecond : Attempts "stand-1" bazaar _ :=
    .report (s := secondReport) hfirst Controller.fallible_handler (halone _ _)
      (by decide +kernel)
  rw [Controller.perform_eq_run, Controller.perform_eq_run]
  exact ⟨by decide +kernel, by decide +kernel, by decide +kernel, by decide +kernel,
    hsecond.act_repeated bazaar_keyed⟩

end Quarantine

end SidecarPolicy
