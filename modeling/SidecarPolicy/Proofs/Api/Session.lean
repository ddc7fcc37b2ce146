/-
Sessions with an API server.

A server gives one reply after another, whatever he is asked.  A call that cannot be sent
leaves no trace with him, and it fails.  So the turns of a session are the calls that are
made, in order, but for some that fail.

* `Api.Turn`, `Api.session`: a request with the reply to it, and a server with the turns so
  far;
* `Api.Turn.Holds`, `Api.Turn.answer_eq_ok_iff`: **what a reply holds**, if it is no error
  and comes in time;
* `Api.Records`, `Api.records_run`: **the turns of a session record the calls**;
* `Api.Records.split_exchanges`, `Api.Records.split_turns`: both are cut at the same place;
* `Api.Faithful`: servers that return what they are asked for;
* `Api.request_eq_put`: the one call by which something is replaced;
* `Api.Turn.path_eq`: **what was read is replaced under the same path**.
-/
import SidecarPolicy.Api.Reply
import SidecarPolicy.Proofs.Cluster.Exchange
import SidecarPolicy.Proofs.Decode
import SidecarPolicy.Proofs.Text.Pieces

namespace SidecarPolicy.Api

open Program

variable {α : Type} {limit : Nat} {replies : Nat → ApiReply}

/-! ### Turns -/

/-- A request that was sent for a call, and the reply to it. -/
structure Turn where
  call : Call
  request : ApiRequest
  reply : ApiReply

/-- A server that gives one reply after another, whatever he is asked; the answers are those
that come within a limit of time.  His state are the turns so far. -/
def session (limit : Nat) (replies : Nat → ApiReply) : Handler ApiFault (List Turn) :=
  fun asked turns =>
    let reply := replies turns.length
    let (sent, answer) := exchange limit asked reply
    (answer, turns ++ sent.map fun request => ⟨asked, request, reply⟩)

namespace Turn

/-- The answer that a reply is taken for. -/
def answer (limit : Nat) (t : Turn) : Except ApiFault t.call.Answer :=
  if limit < t.reply.delay then .error (.timedOut limit) else Api.answer t.call t.reply

/-- The call with its answer. -/
def exchange (limit : Nat) (t : Turn) : Exchange ApiFault := ⟨t.call, t.answer limit⟩

/-- The path to which the request is directed. -/
def path (t : Turn) : List Char := (Text.cut '?' t.request.target.toList).1

/-- A reply that comes in time, does not have the status of an error, and the document of
which is read as some value. -/
structure Holds (limit : Nat) (read : Draft → Decoded α) (t : Turn) (a : α) : Prop where
  prompt : t.reply.delay ≤ limit
  accepted : ¬ (400 ≤ t.reply.status ∧ t.reply.status < 600)
  held : ∃ text doc, t.reply.body = .ok text ∧ document text = .ok doc ∧ read doc = .ok a

/-- A reply that holds a deployment. -/
abbrev Returns (limit : Nat) (t : Turn) (d : Deployment) : Prop :=
  t.Holds limit Deployment.decode d

/-- A reply that holds a list of deployments. -/
abbrev Lists (limit : Nat) (t : Turn) (ds : List Deployment) : Prop :=
  t.Holds limit (listOf Deployment.decode) ds

end Turn

/-! ### Replies -/

/-- A body is read, unless it comes with the status of an error. -/
lemma answerOfBody_eq_ok_iff {asked : Call} {status : Nat} {text : String} {a : asked.Answer} :
    answerOfBody asked status text = .ok a ↔ ¬ (400 ≤ status ∧ status < 600) ∧
      ∃ doc, document text = .ok doc ∧ answerOf asked doc = .ok a := by
  rw [answerOfBody]
  split_ifs with herror
  · simp [herror]
  · rw [← Decode.bind_eq_ok]
    have hbind : (document text).bind (answerOf asked) = document text >>= answerOf asked := rfl
    rw [hbind]
    cases document text >>= answerOf asked <;> simp [Except.mapError, herror]

lemma forgive_eq {asked : Call} (h : ∀ ns name, asked ≠ .deletePod ns name)
    (r : Except ApiFault asked.Answer) : forgive asked r = r := by
  cases asked with
  | deletePod ns name => exact absurd rfl (h ns name)
  | _ => rfl

/-- **What a reply holds is the answer**, to any call but a deletion. -/
theorem Turn.answer_eq_ok_iff {t : Turn} {a : t.call.Answer}
    (h : ∀ ns name, t.call ≠ .deletePod ns name) :
    t.answer limit = .ok a ↔ t.Holds limit (answerOf t.call) a := by
  rw [Turn.answer, Api.answer]
  split_ifs with hlate
  · -- a reply that comes too late holds nothing
    exact ⟨nofun, fun hholds => absurd hholds.prompt (Nat.not_le_of_lt hlate)⟩
  · have hprompt := Nat.le_of_not_lt hlate
    cases hbody : t.reply.body with
    | error message =>
        refine ⟨nofun, fun hholds => ?_⟩
        obtain ⟨text, doc, htext, -⟩ := hholds.held
        cases hbody.symm.trans htext
    | ok text =>
        dsimp only
        rw [forgive_eq h, answerOfBody_eq_ok_iff]
        constructor
        · rintro ⟨haccepted, doc, hdoc, hread⟩
          exact ⟨hprompt, haccepted, text, doc, hbody, hdoc, hread⟩
        · rintro ⟨-, haccepted, text', doc, htext, hdoc, hread⟩
          cases hbody.symm.trans htext
          exact ⟨haccepted, doc, hdoc, hread⟩

/-- A call that has been answered well, and what the reply to it holds. -/
lemma Turn.of_exchange_eq_ok {t : Turn} {asked : Call} {a : asked.Answer}
    (h : t.exchange limit = ⟨asked, .ok a⟩) (hkept : ∀ ns name, asked ≠ .deletePod ns name) :
    t.call = asked ∧ t.Holds limit (answerOf asked) a := by
  obtain ⟨call, request, reply⟩ := t
  injection h with hcall hanswer
  subst hcall
  exact ⟨rfl, (Turn.answer_eq_ok_iff hkept).mp (eq_of_heq hanswer)⟩

/-- A deployment is not read or replaced if the reply does not hold one. -/
lemma Turn.fails_of_not_returns {t : Turn}
    (hcall : (∃ ns name, t.call = .getDeployment ns name) ∨ ∃ d, t.call = .updateDeployment d)
    (h : ∀ d, ¬ t.Returns limit d) : (t.exchange limit).Fails := by
  obtain ⟨call, request, reply⟩ := t
  cases hanswer : Turn.answer limit ⟨call, request, reply⟩ with
  | error fault => exact ⟨fault, hanswer⟩
  | ok a =>
      exfalso
      obtain ⟨ns, name, rfl⟩ | ⟨d, rfl⟩ := hcall
      · exact h a ((Turn.answer_eq_ok_iff fun _ _ heq => Call.noConfusion heq).mp hanswer)
      · obtain ⟨hprompt, haccepted, text, doc, hbody, hdoc, hread⟩ :=
          (Turn.answer_eq_ok_iff fun _ _ heq => Call.noConfusion heq).mp hanswer
        cases hdecode : Deployment.decode doc with
        | ok d' => exact h d' ⟨hprompt, haccepted, text, doc, hbody, hdoc, hdecode⟩
        | error e =>
            rw [answerOf, hdecode] at hread
            cases hread

/-! ### Records -/

/-- Turns that record calls: those that were sent, in order.  The others fail. -/
inductive Records (limit : Nat) : List (Exchange ApiFault) → List Turn → Prop
  | nil : Records limit [] []
  | unsent {x : Exchange ApiFault} {xs : List (Exchange ApiFault)} {ts : List Turn}
      (hfails : x.Fails) (h : Records limit xs ts) : Records limit (x :: xs) ts
  | sent {t : Turn} {xs : List (Exchange ApiFault)} {ts : List Turn}
      (hrequest : Api.request t.call = .ok t.request) (h : Records limit xs ts) :
      Records limit (t.exchange limit :: xs) (t :: ts)

variable {xs ys : List (Exchange ApiFault)} {ts us : List Turn}

/-- A call is sent, or it fails and the server does not hear of it. -/
lemma session_cases (limit : Nat) (replies : Nat → ApiReply) (asked : Call) (turns : List Turn) :
    (∃ request reply, Api.request asked = .ok request ∧ session limit replies asked turns =
        (Turn.answer limit ⟨asked, request, reply⟩, turns ++ [⟨asked, request, reply⟩])) ∨
      ∃ fault, session limit replies asked turns = (.error fault, turns) := by
  rw [session, Api.exchange]
  cases hrequest : Api.request asked with
  | error fault => exact .inr ⟨.build fault, by simp⟩
  | ok request =>
      dsimp only
      by_cases hzero : limit = 0
      · rw [if_pos hzero]
        exact .inr ⟨.timedOut limit, by simp⟩
      · rw [if_neg hzero]
        exact .inl ⟨request, replies turns.length, rfl, rfl⟩

/-- **The turns of a session record the calls that are made.** -/
theorem records_run (p : Program ApiFault α) (turns : List Turn) :
    ∃ later, (p.run (session limit replies) turns).2 = turns ++ later ∧
      Records limit (p.exchanges (session limit replies) turns) later := by
  -- by induction on the program, with the turns that have been before
  induction p generalizing turns with
  | done r => exact ⟨[], (List.append_nil turns).symm, .nil⟩
  | call asked next ih =>
      rw [run, exchanges]
      obtain ⟨request, reply, hrequest, hsent⟩ | ⟨fault, hunsent⟩ :=
        session_cases limit replies asked turns
      · rw [hsent]
        obtain ⟨later, hturns, hrecords⟩ := ih (Turn.answer limit ⟨asked, request, reply⟩)
          (turns ++ [⟨asked, request, reply⟩])
        refine ⟨⟨asked, request, reply⟩ :: later, ?_, ?_⟩
        · rw [hturns, List.append_assoc]
          rfl
        · exact .sent (t := ⟨asked, request, reply⟩) hrequest hrecords
      · -- a request that cannot be built is not sent, and there is no turn
        rw [hunsent]
        obtain ⟨later, hturns, hrecords⟩ := ih (.error fault) turns
        exact ⟨later, hturns, .unsent ⟨fault, rfl⟩ hrecords⟩

/-- What is told of a list, one item after another, is told of the items that remain. -/
lemma forall₂_of_sublist {α β : Type} {R : α → β → Prop} {as as' : List α} {bs : List β}
    (hsub : as'.Sublist as) (h : List.Forall₂ R as bs) :
    ∃ bs', bs'.Sublist bs ∧ List.Forall₂ R as' bs' := by
  induction hsub generalizing bs with
  | slnil => exact ⟨[], List.nil_sublist bs, .nil⟩
  | cons a hsub ih =>
      obtain ⟨b, bs, -, hrest, rfl⟩ := List.forall₂_cons_left_iff.mp h
      obtain ⟨bs', hbs', hforall⟩ := ih hrest
      exact ⟨bs', hbs'.cons b, hforall⟩
  | cons_cons a hsub ih =>
      obtain ⟨b, bs, hab, hrest, rfl⟩ := List.forall₂_cons_left_iff.mp h
      obtain ⟨bs', hbs', hforall⟩ := ih hrest
      exact ⟨b :: bs', hbs'.cons_cons b, .cons hab hforall⟩

namespace Records

/-- Calls that are cut cut the turns. -/
lemma split_exchanges (h : Records limit (xs ++ ys) ts) :
    ∃ earlier later, ts = earlier ++ later ∧ Records limit xs earlier ∧ Records limit ys later := by
  induction xs generalizing ts with
  | nil => exact ⟨[], ts, rfl, .nil, h⟩
  | cons x xs ih =>
      cases h with
      | unsent hfails h =>
          obtain ⟨earlier, later, rfl, hxs, hys⟩ := ih h
          exact ⟨earlier, later, rfl, .unsent hfails hxs, hys⟩
      | sent hrequest h =>
          obtain ⟨earlier, later, rfl, hxs, hys⟩ := ih h
          exact ⟨_ :: earlier, later, rfl, .sent hrequest hxs, hys⟩

/-- Turns that are cut cut the calls. -/
lemma split_turns {t : Turn} (h : Records limit xs (ts ++ t :: us)) :
    ∃ earlier later, xs = earlier ++ t.exchange limit :: later ∧
      Api.request t.call = .ok t.request ∧ Records limit earlier ts ∧ Records limit later us := by
  generalize hall : ts ++ t :: us = all at h
  induction h generalizing ts with
  | nil => cases ts <;> cases hall
  | unsent hfails h ih =>
      obtain ⟨earlier, later, rfl, hrequest, hearlier, hlater⟩ := ih hall
      exact ⟨_ :: earlier, later, rfl, hrequest, .unsent hfails hearlier, hlater⟩
  | sent hrequest h ih =>
      cases ts with
      | nil =>
          cases hall
          exact ⟨[], _, rfl, hrequest, .nil, h⟩
      | cons t' ts =>
          cases hall
          obtain ⟨earlier, later, rfl, hrequest', hearlier, hlater⟩ := ih rfl
          exact ⟨_ :: earlier, later, rfl, hrequest', .sent hrequest hearlier, hlater⟩

/-- The last call is the last turn if it does not fail. -/
lemma last_of_ok {x : Exchange ApiFault} (h : Records limit (xs ++ [x]) ts)
    (hok : ¬ x.Fails) : ∃ earlier t, ts = earlier ++ [t] ∧ t.exchange limit = x ∧
      Api.request t.call = .ok t.request ∧ Records limit xs earlier := by
  obtain ⟨earlier, later, rfl, hearlier, hlast⟩ := h.split_exchanges
  cases hlast with
  | unsent hfails hrest => exact absurd hfails hok
  | sent hrequest hrest =>
      cases hrest
      exact ⟨earlier, _, rfl, rfl, hrequest, hearlier⟩

/-- Every call that does not fail is a turn. -/
lemma exists_turn {x : Exchange ApiFault} (h : Records limit xs ts) (hx : x ∈ xs)
    (hok : ¬ x.Fails) :
    ∃ t ∈ ts, t.exchange limit = x ∧ Api.request t.call = .ok t.request := by
  obtain ⟨before, after, rfl⟩ := List.append_of_mem hx
  rw [List.append_cons] at h
  obtain ⟨front, later, rfl, hfront, -⟩ := h.split_exchanges
  obtain ⟨earlier, t, rfl, ht, hrequest, -⟩ := hfront.last_of_ok hok
  exact ⟨t, by simp, ht, hrequest⟩

lemma sublist (h : Records limit xs ts) : (ts.map (Turn.exchange limit)).Sublist xs := by
  induction h with
  | nil => exact .slnil
  | unsent hfails h ih => exact ih.cons _
  | sent hrequest h ih => exact ih.cons_cons _

/-- What can be told of calls of some kind, one after another, can be told of the turns of
this kind. -/
lemma exists_forall₂ {β : Type} {p : Call → Bool} {R : Exchange ApiFault → β → Prop} {bs : List β}
    (h : Records limit xs ts) (hR : List.Forall₂ R (xs.filter (p ·.call)) bs) :
    ∃ bs', bs'.Sublist bs ∧
      List.Forall₂ (fun t b => R (t.exchange limit) b) (ts.filter (p ·.call)) bs' := by
  have hsub : ((ts.filter (p ·.call)).map (Turn.exchange limit)).Sublist
      (xs.filter (p ·.call)) := by
    have hfilter := h.sublist.filter (p ·.call)
    rwa [List.filter_map] at hfilter
  obtain ⟨bs', hbs', hforall⟩ := forall₂_of_sublist hsub hR
  exact ⟨bs', hbs', List.forall₂_map_left_iff.mp hforall⟩

lemma exists_of_mem {t : Turn} (h : Records limit xs ts) (ht : t ∈ ts) :
    t.exchange limit ∈ xs ∧ Api.request t.call = .ok t.request := by
  obtain ⟨before, after, rfl⟩ := List.append_of_mem ht
  obtain ⟨earlier, later, rfl, hrequest, -⟩ := h.split_turns
  exact ⟨List.mem_append_right earlier List.mem_cons_self, hrequest⟩

end Records

/-! ### Faithful servers -/

/-- A server that returns deployments under the names and namespaces by which they are
asked for. -/
def Faithful (limit : Nat) (ts : List Turn) : Prop :=
  ∀ t ∈ ts, ∀ ns name d, t.call = .getDeployment ns name → t.Returns limit d →
    d.metadata.name = some name ∧ d.metadata.namespace = some ns

/-- Whether a deployment, if the turn returns one, is what was asked for. -/
def isFaithful (limit : Nat) : Turn → Bool
  | ⟨.getDeployment ns name, sent, reply⟩ =>
      match Turn.answer limit ⟨.getDeployment ns name, sent, reply⟩ with
      | .ok d => d.metadata.name = some name ∧ d.metadata.namespace = some ns
      | .error _ => true
  | _ => true

/-- A server is faithful in each turn. -/
lemma faithful_iff : Faithful limit ts ↔ ∀ t ∈ ts, isFaithful limit t = true := by
  refine forall₂_congr fun t _ => ?_
  obtain ⟨call, sent, reply⟩ := t
  -- of all calls only a request for one deployment can be answered with another one
  cases call with
  | getDeployment ns name =>
      have hreturns : ∀ d, Turn.answer limit ⟨.getDeployment ns name, sent, reply⟩ = .ok d ↔
          Turn.Returns limit ⟨.getDeployment ns name, sent, reply⟩ d := fun d =>
        Turn.answer_eq_ok_iff (t := ⟨.getDeployment ns name, sent, reply⟩)
          fun _ _ heq => Call.noConfusion heq
      rw [isFaithful]
      constructor
      · intro h
        cases hanswer : Turn.answer limit ⟨.getDeployment ns name, sent, reply⟩ with
        | error fault => rfl
        | ok d => exact decide_eq_true (h ns name d rfl ((hreturns d).mp hanswer))
      · intro h ns' name' d hcall hd
        cases hcall
        rw [(hreturns d).mpr hd] at h
        exact of_decide_eq_true h
  | _ => exact iff_of_true (fun _ _ _ hcall => Call.noConfusion hcall) (by rw [isFaithful]; nofun)

instance : Decidable (Faithful limit ts) := decidable_of_iff _ faithful_iff.symm

/-! ### Requests -/

/-- What is sent when a target is valid, and there is a name where one is needed. -/
lemma of_validTarget_map {path : String} {f : String → ApiRequest} {r : ApiRequest}
    (h : (validTarget path >>= fun target => pure (f target)) = .ok r) :
    ∃ target, validTarget path = .ok target ∧ r = f target := by
  cases htarget : validTarget path with
  | error fault => rw [htarget] at h; cases h
  | ok target =>
      rw [htarget] at h
      exact ⟨target, rfl, (Except.ok.inj h).symm⟩

lemma of_named {name path : String} {f : String → ApiRequest} {r : ApiRequest}
    (h : (named name >>= fun _ => validTarget path >>= fun target => pure (f target)) = .ok r) :
    ∃ target, validTarget path = .ok target ∧ r = f target := by
  cases hnamed : named name with
  | error fault => rw [hnamed] at h; cases h
  | ok _ =>
      rw [hnamed] at h
      exact of_validTarget_map h

lemma request_getDeployment {ns name : String} {r : ApiRequest}
    (h : request (.getDeployment ns name) = .ok r) :
    r.method = "GET" ∧
      validTarget (Collection.deployments.objectPath (some ns) name) = .ok r.target := by
  obtain ⟨target, htarget, rfl⟩ := of_named h
  exact ⟨rfl, htarget⟩

lemma request_updateDeployment {d : Deployment} {r : ApiRequest}
    (h : request (.updateDeployment d) = .ok r) :
    r.method = "PUT" ∧ r.body = some d.encode ∧
      validTarget (Collection.deployments.objectPath d.metadata.namespace
        (d.metadata.name.getD "") ++ "?") = .ok r.target := by
  obtain ⟨target, htarget, rfl⟩ := of_named h
  exact ⟨rfl, rfl, htarget⟩

/-- Nothing is put but a deployment that replaces another one. -/
lemma request_eq_put {asked : Call} {r : ApiRequest} (h : request asked = .ok r)
    (hput : r.method = "PUT") : ∃ d, asked = .updateDeployment d := by
  cases asked with
  | updateDeployment d => exact ⟨d, rfl⟩
  | listDeployments ns selector =>
      obtain ⟨target, -, rfl⟩ := of_validTarget_map h
      simp at hput
  | listPods ns selector =>
      obtain ⟨target, -, rfl⟩ := of_validTarget_map h
      simp at hput
  | getDeployment ns name =>
      obtain ⟨target, -, rfl⟩ := of_named h
      simp at hput
  | patchDeployment ns name patch =>
      obtain ⟨target, -, rfl⟩ := of_named h
      simp at hput
  | deletePod ns name =>
      obtain ⟨target, -, rfl⟩ := of_named h
      simp at hput

/-! ### Paths -/

/-- The path to which a request with a target is directed: what stands before a fragment and
a query. -/
lemma cut_validTarget {s target : String} (h : validTarget s = .ok target) :
    (Text.cut '?' target.toList).1 = (Text.cut '?' (Text.cut '#' s.toList).1).1 := by
  have hplain := Text.not_mem_cut '?' (Text.cut '#' s.toList).1
  rw [validTarget, Http.Target.ofPath?] at h
  split_ifs at h
  · obtain rfl := Except.ok.inj h
    rw [Http.Target.text]
    cases (Text.cut '?' (Text.cut '#' s.toList).1).2 with
    | none => simp [Text.cut_of_not_mem hplain]
    | some query => simp [Text.cut_append_cons hplain]

/-- A question mark at the end makes no difference to the path. -/
lemma cut_concat_query (cs : List Char) :
    (Text.cut '?' (Text.cut '#' (cs ++ ['?'])).1).1 = (Text.cut '?' (Text.cut '#' cs).1).1 := by
  by_cases hfragment : '#' ∈ cs
  · rw [Text.cut_append_of_mem hfragment]
  · have hfragment' : '#' ∉ cs ++ ['?'] := by simp [hfragment]
    rw [Text.cut_of_not_mem hfragment, Text.cut_of_not_mem hfragment']
    by_cases hquery : '?' ∈ cs
    · exact Text.cut_append_of_mem hquery ['?']
    · rw [Text.cut_of_not_mem hquery, Text.cut_append_cons hquery]

/-- **A deployment is replaced under the path under which it was read**, if it has the name
and the namespace by which it was read. -/
theorem Turn.path_eq {get put : Turn} {ns name : String} {d : Deployment}
    (hget : Api.request (.getDeployment ns name) = .ok get.request)
    (hput : Api.request (.updateDeployment d) = .ok put.request)
    (hname : d.metadata.name = some name) (hns : d.metadata.namespace = some ns) :
    put.path = get.path := by
  obtain ⟨-, htarget⟩ := request_getDeployment hget
  obtain ⟨-, -, htarget'⟩ := request_updateDeployment hput
  rw [hname, hns, Option.getD_some] at htarget'
  rw [path, path, cut_validTarget htarget, cut_validTarget htarget', String.toList_append]
  exact cut_concat_query _

end SidecarPolicy.Api
