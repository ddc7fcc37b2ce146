/-
What a report writes back to an API server.

A deployment is read again just before it is scaled to zero, so what is written is what the
server has last said of it, and under the same version.  Whatever the server replies, he is
sent nothing else to replace, and nothing more once he has refused.

* `Quarantine.exchanges_act_cases`: the calls of a report, lists and then perhaps those that
  scale a group;
* `Quarantine.exists_served`: each deployment of the group is replaced at most once;
* `Quarantine.WritesBack`, `Quarantine.PutsOnce`: a request that writes back what has just
  been read, and such requests one after another;
* `Quarantine.act_writes_back`: **nothing is put but what has just been got, once for each
  deployment that was listed, and nothing after a failure**.
-/
import SidecarPolicy.Proofs.Api.Session
import SidecarPolicy.Proofs.Controller.Confined
import SidecarPolicy.Proofs.Object.Range
import SidecarPolicy.Proofs.Quarantine.Effect
import SidecarPolicy.Proofs.Quarantine.Failure

namespace SidecarPolicy

/-- Whether a call replaces a deployment. -/
def Call.replaces : Call → Bool
  | .updateDeployment _ => true
  | _ => false

lemma Call.replaces_of_lists {asked : Call} (h : asked.lists = true) : asked.replaces = false := by
  cases asked <;> first | rfl | cases h

namespace Quarantine

open Program Api

variable {ε σ : Type} {answer : Handler ε σ} {ns : String}

/-! ### Calls -/

/-- Nothing is replaced before the owner has been found. -/
lemma replaces_search (answer : Handler ε σ) (podName : String) (s : σ) :
    ∀ x ∈ (listDeployments none .everything >>= findOwner podName).exchanges answer s,
      x.call.replaces = false := by
  intro x hx
  refine Call.replaces_of_lists ?_
  rw [exchanges_bind] at hx
  obtain hx | hx := List.mem_append.mp hx
  · obtain rfl := List.mem_singleton.mp hx
    rfl
  · split at hx
    · exact lists_findOwner answer podName _ _ x hx
    · exact absurd hx List.not_mem_nil

/-- What is called for when an owner has been looked for: nothing that replaces anything, or
the list of a group, and then what scales the deployments that have been listed. -/
lemma exchanges_deal_cases (answer : Handler ε σ) (found : Option (Deployment × Pod)) (s : σ) :
    (∀ x ∈ (deal found).exchanges answer s, x.call.replaces = false) ∨
      ∃ ns group targets s', (deal found).exchanges answer s =
        ⟨.listDeployments (some ns) (.ofLabels group), .ok targets⟩ ::
          (targets.mapM (scaleDown ns)).exchanges answer s' := by
  have hnothing : ∀ x ∈ (pure [] : Program ε (List String)).exchanges answer s,
      x.call.replaces = false := fun x hx => absurd hx List.not_mem_nil
  rcases found with _ | ⟨owner, pod⟩
  · exact .inl hnothing
  · by_cases hdue : Acts owner ∧ ∃ key v, Shares owner pod key v
    · rw [deal_eq_scaleDown hdue.1 hdue.2, listDeployments, exchanges_request_bind]
      obtain ⟨e | targets, s'⟩ := answer (.listDeployments (some owner.metadata.anyNamespace)
        (.ofLabels (groupOf owner pod))) s
      · exact .inl (List.forall_mem_singleton.mpr rfl)
      · exact .inr ⟨_, _, targets, s', rfl⟩
    · rw [deal_eq_pure hdue]
      exact .inl hnothing

/-- The calls of a report: lists, the last one perhaps of a group, and then what scales the
deployments that have been listed. -/
lemma exchanges_act_cases (answer : Handler ε σ) (podName : String) (s : σ) :
    (∀ x ∈ (act podName).exchanges answer s, x.call.replaces = false) ∨
      ∃ looks ns group targets s', (∀ x ∈ looks, x.call.replaces = false) ∧
        (act podName).exchanges answer s =
          looks ++ ⟨.listDeployments (some ns) (.ofLabels group), .ok targets⟩ ::
            (targets.mapM (scaleDown ns)).exchanges answer s' := by
  have hsearch := replaces_search answer podName s
  rw [act_eq, exchanges_bind]
  split
  · next found s' _ =>
      obtain hnothing | ⟨ns, group, targets, s'', hcalls⟩ := exchanges_deal_cases answer found s'
      · exact .inl (List.forall_mem_append.mpr ⟨hsearch, hnothing⟩)
      · exact .inr ⟨_, ns, group, targets, s'', hsearch, by rw [hcalls]⟩
  · rw [List.append_nil]
    exact .inl hsearch

/-- Scaling a deployment is to read it, and to replace it by what has been read. -/
lemma exchanges_scaleDown (answer : Handler ε σ) (ns : String) (listed : Deployment) (s : σ) :
    (∃ e, (scaleDown ns listed).exchanges answer s =
        [⟨.getDeployment ns listed.metadata.anyName, .error e⟩]) ∨
      ∃ current r, (scaleDown ns listed).exchanges answer s =
        [⟨.getDeployment ns listed.metadata.anyName, .ok current⟩,
          ⟨.updateDeployment (current.scaledTo 0), r⟩] := by
  rw [scaleDown, getDeployment, exchanges_request_bind]
  obtain ⟨e | current, s'⟩ := answer (.getDeployment ns listed.metadata.anyName) s
  · exact .inl ⟨e, rfl⟩
  · refine .inr ⟨current, (answer (.updateDeployment (current.scaledTo 0)) s').1, ?_⟩
    dsimp only
    rw [updateDeployment, exchanges_request_bind]
    obtain ⟨e | u, s''⟩ := answer (.updateDeployment (current.scaledTo 0)) s' <;> rfl

/-- A call replaces a listed deployment by what has been read under its name. -/
def Serves (calls : List (Exchange ε)) (ns : String) (x : Exchange ε) (listed : Deployment) :
    Prop :=
  ∃ current, ⟨.getDeployment ns listed.metadata.anyName, .ok current⟩ ∈ calls ∧
    x.call = .updateDeployment (current.scaledTo 0)

lemma Serves.mono {calls calls' : List (Exchange ε)} {x : Exchange ε} {listed : Deployment}
    (h : Serves calls ns x listed) (hsub : calls.Sublist calls') : Serves calls' ns x listed := by
  obtain ⟨current, hread, hx⟩ := h
  exact ⟨current, hsub.subset hread, hx⟩

/-- Each of the deployments that are listed is replaced at most once, in their order. -/
lemma exists_served (answer : Handler ε σ) (ns : String) (targets : List Deployment) (s : σ) :
    ∃ served, served.Sublist targets ∧
      List.Forall₂ (Serves ((targets.mapM (scaleDown ns)).exchanges answer s) ns)
        (((targets.mapM (scaleDown ns)).exchanges answer s).filter (·.call.replaces)) served := by
  induction targets generalizing s with
  | nil => exact ⟨[], .slnil, .nil⟩
  | cons target rest ih =>
      -- the calls for the others are those that are made for them alone, or there are none
      obtain ⟨later, hcalls, served, hserved, hlater⟩ : ∃ later,
          ((target :: rest).mapM (scaleDown ns)).exchanges answer s =
            (scaleDown ns target).exchanges answer s ++ later ∧
          ∃ served, served.Sublist rest ∧
            List.Forall₂ (Serves later ns) (later.filter (·.call.replaces)) served := by
        rw [exchanges_mapM_cons]
        split
        · next s' _ => exact ⟨_, rfl, ih s'⟩
        · exact ⟨[], rfl, [], List.nil_sublist rest, .nil⟩
      rw [hcalls]
      obtain ⟨e, hfirst⟩ | ⟨current, r, hfirst⟩ := exchanges_scaleDown answer ns target s
      · rw [hfirst]
        exact ⟨served, hserved.cons target, hlater.imp fun _ _ h => h.mono (by simp)⟩
      · rw [hfirst]
        refine ⟨target :: served, hserved.cons_cons target, .cons ?_ ?_⟩
        · exact ⟨current, List.mem_cons_self, rfl⟩
        · exact hlater.imp fun _ _ h => h.mono (by simp)

/-! ### Requests -/

variable {limit : Nat} {replies : Nat → ApiReply} {podName : String} {turns : List Turn}

/-- A request that writes back the deployment which another request has just read, under the
same path and without a change but to the number of its pods. -/
structure WritesBack (limit : Nat) (get put : Turn) (d d' : Deployment) : Prop where
  reads : get.request.method = "GET"
  returned : get.Returns limit d
  path : put.path = get.path
  scaled : ScaledToZero d d'
  body : put.request.body = some d'.encode
  read_back : Deployment.decode d'.encode = .ok d'

/-- Something is put at most once for each of the deployments that were listed, in their order,
and under the path under which each of them was read. -/
def PutsOnce (ns : String) (targets : List Deployment) (turns : List Turn) : Prop :=
  ∃ served : List Deployment, served.Sublist targets ∧
    List.Forall₂ (fun put listed => ∃ get ∈ turns,
      get.call = .getDeployment ns listed.metadata.anyName ∧ put.path = get.path)
      (turns.filter fun t => t.request.method = "PUT") served

lemma records_act (hrun : ((act podName).run (session limit replies) []).2 = turns) :
    Records limit ((act podName).exchanges (session limit replies) []) turns := by
  obtain ⟨later, hturns, hrecords⟩ := records_run (act podName) []
  rw [hturns, List.nil_append] at hrun
  exact hrun ▸ hrecords

/-- A deployment that has been read can be scaled and written, and is read back then. -/
lemma decode_scaledTo {t : Draft} {d : Deployment} (h : Deployment.decode t = .ok d) :
    Deployment.decode (d.scaledTo 0).encode = .ok (d.scaledTo 0) := by
  have hrange : (d.scaledTo 0).InRange := by
    intro s hs
    obtain ⟨s, hspec, rfl⟩ := Option.map_eq_some_iff.mp hs
    refine ⟨fun n hn => ?_, (Deployment.ensures_inRange t d h s hspec).2⟩
    obtain rfl := Option.some.inj hn
    decide
  exact (Deployment.recovers hrange).read_write

/-- Whatever is put writes back what has just been got. -/
lemma exists_writesBack {earlier later : List Turn} {put : Turn}
    (hrecords : Records limit ((act podName).exchanges (session limit replies) [])
      (earlier ++ put :: later))
    (hfaithful : Faithful limit (earlier ++ put :: later)) (hput : put.request.method = "PUT") :
    ∃ before get d d', earlier = before ++ [get] ∧ WritesBack limit get put d d' := by
  obtain ⟨xs, ys, hcalls, hrequest, hearlier, -⟩ := hrecords.split_turns
  obtain ⟨d', hupdate⟩ := request_eq_put hrequest hput
  have htranscript := transcript_exchanges (session limit replies) (act podName) []
  rw [hcalls] at htranscript
  have hconfined := (abides_act podName []).rule_of_transcript htranscript
  -- the deployment is one that has just been read
  have hasked : (put.exchange limit).call = .updateDeployment d' := hupdate
  rw [hasked, List.nil_append] at hconfined
  obtain ⟨d, ⟨read, ns, group, listed, rfl, -, -⟩, rfl⟩ := hconfined
  obtain ⟨before, get, rfl, hget, hgot, -⟩ := hearlier.last_of_ok Exchange.not_fails
  obtain ⟨hcall, hholds⟩ := Turn.of_exchange_eq_ok hget fun _ _ heq => Call.noConfusion heq
  rw [hcall] at hgot
  rw [hupdate] at hrequest
  obtain ⟨hname, hns⟩ := hfaithful get (by simp) _ _ d hcall hholds
  obtain ⟨-, hbody, -⟩ := request_updateDeployment hrequest
  obtain ⟨text, doc, -, -, hdecode⟩ := hholds.held
  exact ⟨before, get, d, d.scaledTo 0, rfl,
    { reads := (request_getDeployment hgot).1
      returned := hholds
      path := Turn.path_eq hgot hrequest hname hns
      scaled := ⟨rfl, rfl, rfl⟩
      body := hbody
      read_back := decode_scaledTo hdecode }⟩

/-- Whether a request puts something tells whether its call replaces something. -/
lemma filter_put {xs : List (Exchange ApiFault)} (hrecords : Records limit xs turns) :
    (turns.filter fun t => t.request.method = "PUT") = turns.filter (·.call.replaces) := by
  refine List.filter_congr fun t ht => ?_
  obtain ⟨-, hrequest⟩ := hrecords.exists_of_mem ht
  rw [Bool.eq_iff_iff, decide_eq_true_eq]
  constructor
  · intro hput
    obtain ⟨d, hcall⟩ := request_eq_put hrequest hput
    rw [hcall]
    rfl
  · intro hreplaces
    cases hcall : t.call with
    | updateDeployment d => exact (request_updateDeployment (hcall ▸ hrequest)).1
    | _ =>
        rw [hcall] at hreplaces
        cases hreplaces

lemma not_put {xs : List (Exchange ApiFault)} (hrecords : Records limit xs turns)
    (h : ∀ x ∈ xs, x.call.replaces = false) : ∀ t ∈ turns, t.request.method ≠ "PUT" := by
  intro t ht hput
  obtain ⟨hmem, hrequest⟩ := hrecords.exists_of_mem ht
  obtain ⟨d, hcall⟩ := request_eq_put hrequest hput
  have hreplaces : t.call.replaces = false := h _ hmem
  rw [hcall] at hreplaces
  cases hreplaces

/-- Nothing is put, or a group has been listed, and what is put then is put once. -/
lemma exists_listed (hrecords : Records limit ((act podName).exchanges (session limit replies) [])
    turns) (hfaithful : Faithful limit turns) :
    (∀ t ∈ turns, t.request.method ≠ "PUT") ∨
      ∃ (before after : List Turn) (list : Turn) (ns : String) (group : Labels)
        (targets : List Deployment), turns = before ++ list :: after ∧
        (∀ t ∈ before, t.request.method ≠ "PUT") ∧
        list.call = .listDeployments (some ns) (.ofLabels group) ∧ list.Lists limit targets ∧
        PutsOnce ns targets after := by
  -- the calls are told first, and from them the turns that record them
  obtain hnothing | ⟨looks, ns, group, targets, s', hlooks, hcalls⟩ :=
    exchanges_act_cases (session limit replies) podName []
  · exact .inl (not_put hrecords hnothing)
  · rw [hcalls, List.append_cons] at hrecords
    obtain ⟨front, after, rfl, hfront, hafter⟩ := hrecords.split_exchanges
    obtain ⟨before, list, rfl, hlist, -, hbefore⟩ := hfront.last_of_ok Exchange.not_fails
    obtain ⟨hcall, hholds⟩ := Turn.of_exchange_eq_ok hlist fun _ _ heq => Call.noConfusion heq
    obtain ⟨all, hall, hserves⟩ := exists_served (session limit replies) ns targets s'
    obtain ⟨served, hserved, hputs⟩ := hafter.exists_forall₂ hserves
    refine .inr ⟨before, after, list, ns, group, targets, by simp, not_put hbefore hlooks, hcall,
      hholds, served, hserved.trans hall, ?_⟩
    have hsent : ∀ t ∈ after.filter (·.call.replaces), Api.request t.call = .ok t.request :=
      fun t ht => (hafter.exists_of_mem (List.mem_filter.mp ht).1).2
    rw [filter_put hafter]
    refine ((List.forall₂_and_left _ _).mpr ⟨hsent, hputs⟩).imp ?_
    rintro put listed ⟨hrequest, current, hread, hcall⟩
    obtain ⟨get, hget, hexchange, hgot⟩ := hafter.exists_turn hread Exchange.not_fails
    obtain ⟨hasked, hreturns⟩ :=
      Turn.of_exchange_eq_ok hexchange fun _ _ heq => Call.noConfusion heq
    -- the server is faithful, so what is put goes where it was read
    obtain ⟨hname, hns⟩ := hfaithful get (by simp [hget]) _ _ current hasked hreturns
    have hupdate : put.call = .updateDeployment (current.scaledTo 0) := hcall
    rw [hupdate] at hrequest
    rw [hasked] at hgot
    exact ⟨get, hget, hasked, Turn.path_eq hgot hrequest hname hns⟩

/-- After a deployment could not be read or replaced nothing is sent, and the report fails. -/
lemma ends_of_not_returns {earlier later : List Turn} {t : Turn}
    (hrecords : Records limit ((act podName).exchanges (session limit replies) [])
      (earlier ++ t :: later))
    (hcall : (∃ ns name, t.call = .getDeployment ns name) ∨ t.request.method = "PUT")
    (hreturns : ∀ d, ¬ t.Returns limit d) :
    later = [] ∧ ∃ fault, ((act podName).run (session limit replies) []).1 = .error fault := by
  obtain ⟨xs, ys, hcalls, hrequest, -, hlater⟩ := hrecords.split_turns
  have hsingle := hcall.imp_right (request_eq_put hrequest)
  have hnone : noPods t.call = none := by
    obtain ⟨ns, name, hget⟩ | ⟨d, hput⟩ := hsingle
    · rw [hget]
      rfl
    · rw [hput]
      rfl
  obtain ⟨rfl, fault, -, hrun⟩ :=
    (surfaces_act podName).ends hcalls (Turn.fails_of_not_returns hsingle hreturns) hnone
  cases hlater
  exact ⟨rfl, fault, hrun⟩

/-- **A report writes back what it has read.**  Whatever a server replies, as long as he
returns deployments under the names by which they are asked for: a request that puts something
follows directly on one that has got a deployment from the same path, and writes it back with
nothing changed but the number of its pods; for each deployment that was listed for the group
there is at most one such request; and after one that could not get or put a deployment there
are no more, and the report fails. -/
theorem act_writes_back (limit : Nat) (replies : Nat → ApiReply) (podName : String)
    {result : Except ApiFault (List String)} {turns : List Turn}
    (hrun : (act podName).run (session limit replies) [] = (result, turns))
    (hfaithful : Faithful limit turns) :
    (∀ earlier put later, turns = earlier ++ put :: later → put.request.method = "PUT" →
        ∃ before get d d', earlier = before ++ [get] ∧ WritesBack limit get put d d') ∧
      ((∀ t ∈ turns, t.request.method ≠ "PUT") ∨
        ∃ (before after : List Turn) (list : Turn) (ns : String) (group : Labels)
          (targets : List Deployment), turns = before ++ list :: after ∧
          (∀ t ∈ before, t.request.method ≠ "PUT") ∧
          list.call = .listDeployments (some ns) (.ofLabels group) ∧ list.Lists limit targets ∧
          PutsOnce ns targets after) ∧
      ∀ earlier t later, turns = earlier ++ t :: later →
        (∃ ns name, t.call = .getDeployment ns name) ∨ t.request.method = "PUT" →
          (∀ d, ¬ t.Returns limit d) → later = [] ∧ ∃ fault, result = .error fault := by
  have hrecords := records_act (congrArg Prod.snd hrun)
  refine ⟨?_, exists_listed hrecords hfaithful, ?_⟩
  · rintro earlier put later rfl hput
    exact exists_writesBack hrecords hfaithful hput
  · rintro earlier t later rfl hcall hreturns
    have hends := ends_of_not_returns hrecords hcall hreturns
    rwa [hrun] at hends

/-! ### One group -/

/-- The labels of a kiosk, as they are written. -/
def kioskLabels : Json := .obj [("app", .str "kiosk")]

/-- The metadata of an object of a name, with other fields. -/
def metadataOf (name : String) (others : List (String × Json)) : String × Json :=
  ("metadata", .obj (("name", .str name) :: others))

/-- What is replied to a report of the pod of a kiosk: the deployments, the pods of the kiosk,
its group, and the kiosk as it is by now, with two pods and under a version. -/
def kioskReplies (k : Nat) : ApiReply where
  body := .ok <| Json.render <| [
    Json.obj [("items", .arr [.obj [metadataOf "kiosk" [("namespace", .str "fair")],
      ("spec", .obj [("selector", .obj [("matchLabels", kioskLabels)])])]])],
    .obj [("items", .arr [.obj [metadataOf "kiosk-1" [("labels", kioskLabels)]]])],
    .obj [("items", .arr [.obj [metadataOf "kiosk" []]])],
    .obj [metadataOf "kiosk" [("namespace", .str "fair"), ("resourceVersion", .str "7")],
      ("spec", .obj [("replicas", .int 2)])]].getD k (.obj [])

/-- The kiosk is written back at the end. -/
theorem act_writes_back_kiosk : ∃ result turns,
    (act "kiosk-1").run (session 1000 kioskReplies) [] = (result, turns) ∧
      Faithful 1000 turns ∧ ∃ before get put d d', turns = before ++ [get, put] ∧
        WritesBack 1000 get put d d' := by
  have hcomputed : Faithful 1000 ((act "kiosk-1").run (session 1000 kioskReplies) []).2 ∧
      ((act "kiosk-1").run (session 1000 kioskReplies) []).2.map (·.request.method) =
        ["GET", "GET", "GET", "GET"] ++ ["PUT"] := by decide +kernel
  generalize hrun : (act "kiosk-1").run (session 1000 kioskReplies) [] = r at hcomputed
  obtain ⟨result, turns⟩ := r
  obtain ⟨hfaithful, hmethods⟩ := hcomputed
  obtain ⟨hputs, -, -⟩ := act_writes_back 1000 kioskReplies "kiosk-1" hrun hfaithful
  obtain ⟨earlier, last, rfl, -, hlast⟩ := List.map_eq_append_iff.mp hmethods
  obtain ⟨put, rfl, hput⟩ := List.map_eq_singleton_iff.mp hlast
  obtain ⟨before, get, d, d', rfl, hback⟩ := hputs earlier put [] rfl hput
  exact ⟨result, _, rfl, hfaithful, before, get, put, d, d', by simp, hback⟩

end Quarantine

end SidecarPolicy
