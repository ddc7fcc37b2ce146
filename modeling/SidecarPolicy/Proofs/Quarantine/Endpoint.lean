/-
Which pod a report acts on.

A request names a pod in the form that it carries, or else in its query, and only the first
field of the name counts in either of them.  A report of this pod is all that is done for
it; a request that names none, or is not posted to the endpoint, does nothing.

* `Program.conclude`: a program whose failure is a result like any other;
* `Http.Declares`, `Http.hasContentType_iff`: the media type that a request declares;
* `Quarantine.NamesFirst`, `Quarantine.NamesPod`: the pod that a form names, and a request;
* `Quarantine.podName?_eq_some_iff`: **this is the pod that is found in it**;
* `Quarantine.serve`, `Quarantine.takeStep_report`: what is done for a request;
* `Quarantine.namesFirst_render`: a form that is written is read so;
* `Quarantine.serve_acts`: **a report of the pod that is named, or nothing**.
-/
import SidecarPolicy.Controller.Step
import SidecarPolicy.Proofs.Cluster.Exchange
import SidecarPolicy.Proofs.Controller.Answering
import SidecarPolicy.Proofs.Text.Blank
import SidecarPolicy.Proofs.Text.Form

namespace SidecarPolicy

variable {ε α β σ : Type}

namespace Program

/-! ### Failures as results -/

/-- A program that goes on with what another one comes to, be it an error. -/
def conclude (f : Except ε α → β) : Program ε α → Program ε β
  | .done r => pure (f r)
  | .call asked next => .call asked fun answer => (next answer).conclude f

@[simp]
lemma run_conclude (answer : Handler ε σ) (f : Except ε α → β) (p : Program ε α) (s : σ) :
    (p.conclude f).run answer s = (.ok (f (p.run answer s).1), (p.run answer s).2) := by
  induction p generalizing s with
  | done r => rfl
  | call asked next ih => exact ih _ _

@[simp]
lemma exchanges_conclude (answer : Handler ε σ) (f : Except ε α → β) (p : Program ε α) (s : σ) :
    (p.conclude f).exchanges answer s = p.exchanges answer s := by
  induction p generalizing s with
  | done r => rfl
  | call asked next ih => exact congrArg (List.cons _) (ih _ _)

end Program

/-! ### Media types -/

namespace Http

/-- The first content type of a request is a media type, in letters of any case, between
blanks, and perhaps with parameters behind a semicolon. -/
def Declares (r : Request) (mediaType : String) : Prop :=
  ∃ value others padded written, r.contentTypes = value :: others ∧
    Request.isHeaderText value = true ∧ ';' ∉ padded ∧
    (value.toList = padded ∨ ∃ parameters, value.toList = padded ++ ';' :: parameters) ∧
    Text.IsTrimming padded written ∧
    Text.lowered (String.ofList written) = Text.lowered mediaType

/-- **The media type that is found in a request is the one that it declares.** -/
theorem hasContentType_iff {r : Request} {mediaType : String} :
    r.hasContentType mediaType = true ↔ Declares r mediaType := by
  rw [Request.hasContentType, Declares]
  cases hvalues : r.contentTypes with
  | nil => simp
  | cons value others =>
      rw [Bool.and_eq_true, Text.sameLetters_iff]
      constructor
      · rintro ⟨htext, hletters⟩
        obtain ⟨hpadded, hvalue⟩ := Text.cut_fst_eq_iff.mp
          (rfl : (Text.cut ';' value.toList).1 = (Text.cut ';' value.toList).1)
        exact ⟨value, others, _, _, rfl, htext, hpadded, hvalue, Text.isTrimming_trimmed _,
          hletters⟩
      · rintro ⟨value, others, padded, written, ⟨⟩, htext, hpadded, hvalue, hwritten, hletters⟩
        rw [Text.cut_fst_eq_iff.mpr ⟨hpadded, hvalue⟩, Text.trimmed_eq_iff.mpr hwritten]
        exact ⟨htext, hletters⟩

lemma isPostTo_iff {r : Request} {path : String} :
    r.isPostTo path = true ↔ r.method = "POST" ∧ r.target.path = path := by
  rw [Request.isPostTo, Bool.and_eq_true, beq_iff_eq, beq_iff_eq]

end Http

namespace Quarantine

open Program Text

variable {r : Http.Request} {body form : List UInt8} {name : String}

/-! ### Names -/

/-- The first field of a form that is to name a pod names this one. -/
structure NamesFirst (form : List UInt8) (name : String) : Prop where
  first : ∃ before after, Form.parse form = before ++ ("podname", name) :: after ∧
    ∀ pair ∈ before, pair.1 ≠ "podname"
  ne_empty : name ≠ ""

/-- The pod that a request names: in the form that it carries if it declares to carry one, or
else in its query. -/
inductive NamesPod (r : Http.Request) (body : List UInt8) (name : String) : Prop
  | inForm (htype : Http.Declares r "application/x-www-form-urlencoded")
      (hbody : NamesFirst body name)
  | inQuery {query : String} (hform : Http.Declares r "application/x-www-form-urlencoded" →
      ∀ other, ¬ NamesFirst body other) (hquery : r.target.query = some query)
      (hname : NamesFirst (Utf8.encode query.toList) name)

/-- The value of the first field of a name. -/
lemma first?_eq_some_iff {field v : String} {pairs : List (String × String)} :
    Form.first? field pairs = some v ↔ ∃ before after, pairs = before ++ (field, v) :: after ∧
      ∀ pair ∈ before, pair.1 ≠ field := by
  rw [Form.first?, Option.map_eq_some_iff]
  constructor
  · rintro ⟨⟨field', v⟩, hfound, rfl⟩
    obtain ⟨hfield, before, after, hpairs, hbefore⟩ := List.find?_eq_some_iff_append.mp hfound
    obtain rfl := beq_iff_eq.mp hfield
    exact ⟨before, after, hpairs, fun pair hpair => by simpa using hbefore pair hpair⟩
  · rintro ⟨before, after, hpairs, hbefore⟩
    refine ⟨(field, v), List.find?_eq_some_iff_append.mpr ⟨beq_self_eq_true field, before, after,
      hpairs, fun pair hpair => ?_⟩, rfl⟩
    simpa using hbefore pair hpair

/-- The pod that is found in a form is the one that it names first. -/
lemma podOfForm?_eq_some_iff : podOfForm? form = some name ↔ NamesFirst form name := by
  rw [podOfForm?, Option.filter_eq_some_iff, first?_eq_some_iff, decide_eq_true_eq]
  exact ⟨fun h => ⟨h.1, h.2⟩, fun h => ⟨h.first, h.ne_empty⟩⟩

lemma podOfForm?_eq_none_iff : podOfForm? form = none ↔ ∀ name, ¬ NamesFirst form name := by
  simp only [← podOfForm?_eq_some_iff, Option.eq_none_iff_forall_ne_some]

/-- **The pod that is found in a request is the one that it names.** -/
theorem podName?_eq_some_iff : podName? r body = some name ↔ NamesPod r body name := by
  have hquery : (r.target.query.bind fun q => podOfForm? (Utf8.encode q.toList)) = some name ↔
      ∃ query, r.target.query = some query ∧ NamesFirst (Utf8.encode query.toList) name := by
    simp only [Option.bind_eq_some_iff, podOfForm?_eq_some_iff]
  rw [podName?, Option.or_eq_some_iff, hquery]
  -- the body comes first, but only if a form is declared
  by_cases htype : r.hasContentType formType = true
  · have hdeclares := Http.hasContentType_iff.mp htype
    rw [if_pos htype, podOfForm?_eq_some_iff, podOfForm?_eq_none_iff]
    constructor
    · rintro (hbody | ⟨hform, query, hquery, hname⟩)
      · exact .inForm hdeclares hbody
      · exact .inQuery (fun _ => hform) hquery hname
    · rintro (⟨-, hbody⟩ | ⟨hform, hquery, hname⟩)
      · exact .inl hbody
      · exact .inr ⟨hform hdeclares, _, hquery, hname⟩
  · have hdeclares := mt Http.hasContentType_iff.mpr htype
    rw [if_neg htype]
    constructor
    · rintro (hnone | ⟨-, query, hquery, hname⟩)
      · cases hnone
      · exact .inQuery (fun h => absurd h hdeclares) hquery hname
    · rintro (⟨h, -⟩ | ⟨-, hquery, hname⟩)
      · exact absurd h hdeclares
      · exact .inr ⟨rfl, _, hquery, hname⟩

/-! ### Reports -/

variable [Worded ε]

/-- What is done for a request: the report of the pod that it names, if it is posted and names
one. -/
def serve (r : Http.Request) : Program ε (Except Http.ServiceFault Http.Response) :=
  match receive r with
  | .error answered => pure answered
  | .ok name => (act name).conclude fun names => .ok (response names)

/-- A controller does this for a request. -/
theorem takeStep_report (c : Controller) (r : Http.Request) :
    ∃ reported, (serve r).run Controller.handler c =
        (.ok reported, (Controller.takeStep c (.report r)).2) ∧
      (Controller.takeStep c (.report r)).1 = .reported reported := by
  rw [serve, Controller.takeStep]
  cases receive r with
  | error answered => exact ⟨answered, rfl, rfl⟩
  | ok name =>
      dsimp only
      rw [run_conclude, Controller.perform_eq_run]
      exact ⟨_, rfl, rfl⟩

lemma isPostTo_path_iff :
    r.isPostTo path = true ↔ r.method = "POST" ∧ r.target.path = "/action" :=
  Http.isPostTo_iff

lemma serve_of_not_post (h : ¬ (r.method = "POST" ∧ r.target.path = "/action")) :
    (serve r : Program ε _) = pure (.ok .notFound) := by
  rw [serve, receive, if_neg (mt isPostTo_path_iff.mp h)]

section Posted

variable (hpost : r.method = "POST" ∧ r.target.path = "/action")

include hpost

/-- A request the body of which cannot be read has no answer. -/
lemma serve_of_unreadable {fault : Http.ServiceFault} (hbody : r.body.read = .error fault) :
    (serve r : Program ε _) = pure (.error fault) := by
  rw [serve, receive, if_pos (isPostTo_path_iff.mpr hpost), hbody]

/-- A request that names no pod is told so. -/
lemma serve_of_unnamed (hbody : r.body.read = .ok body) (h : ∀ name, ¬ NamesPod r body name) :
    (serve r : Program ε _) = pure (.ok (.plain 400 "missing podname")) := by
  have hnone : podName? r body = none :=
    Option.eq_none_iff_forall_ne_some.mpr fun name hname => h name (podName?_eq_some_iff.mp hname)
  rw [serve, receive, if_pos (isPostTo_path_iff.mpr hpost), hbody]
  dsimp only
  rw [hnone]

lemma serve_of_namesPod (hbody : r.body.read = .ok body) (h : NamesPod r body name) :
    (serve r : Program ε _) = (act name).conclude fun names => .ok (response names) := by
  rw [serve, receive, if_pos (isPostTo_path_iff.mpr hpost), hbody]
  dsimp only
  rw [podName?_eq_some_iff.mpr h]

end Posted

/-- Calls are made only for a request that is posted to the endpoint and names a pod. -/
lemma namesPod_of_exchanges {answer : Handler ε σ} {s : σ}
    (hcalls : (serve r).exchanges answer s ≠ []) :
    (r.method = "POST" ∧ r.target.path = "/action") ∧
      ∃ body name, r.body.read = .ok body ∧ NamesPod r body name := by
  have hsilent : ∀ answered, (serve r : Program ε _) ≠ pure answered := by
    intro answered hserve
    rw [hserve] at hcalls
    exact hcalls rfl
  by_cases hpost : r.method = "POST" ∧ r.target.path = "/action"
  · refine ⟨hpost, ?_⟩
    cases hbody : r.body.read with
    | error fault => exact absurd (serve_of_unreadable hpost hbody) (hsilent _)
    | ok body =>
        by_contra hnone
        refine hsilent _ (serve_of_unnamed hpost hbody fun name hnames => ?_)
        exact hnone ⟨body, name, rfl, hnames⟩
  · exact absurd (serve_of_not_post hpost) (hsilent _)

/-- A form in which other fields stand before the one that is to name a pod is read so. -/
lemma namesFirst_render {pairs : List (String × String)} (hne : name ≠ "")
    (h : ∀ pair ∈ pairs, pair.1 ≠ "podname") :
    NamesFirst (Form.render (pairs ++ [("podname", name)])) name :=
  ⟨⟨pairs, [], Form.parse_render _, h⟩, hne⟩

/-- **A request acts on the pod that it names, or on none.**  Nothing is called for unless it is
posted to the endpoint and names a pod.  What is posted elsewhere, or not posted, is not found;
where the body cannot be read there is no answer; and else the report of the pod that is named
is all that is done, or the answer is that the name is missing.  So if a form is posted in which
a pod is named behind other fields, this pod is reported, whatever its name is. -/
theorem serve_acts (r : Http.Request) :
    (∀ {σ : Type} (answer : Handler ε σ) (s : σ), (serve r).exchanges answer s ≠ [] →
        (r.method = "POST" ∧ r.target.path = "/action") ∧
          ∃ body name, r.body.read = .ok body ∧ NamesPod r body name) ∧
      (¬ (r.method = "POST" ∧ r.target.path = "/action") →
        (serve r : Program ε _) = pure (.ok .notFound)) ∧
      (r.method = "POST" ∧ r.target.path = "/action" →
        (∀ fault, r.body.read = .error fault → (serve r : Program ε _) = pure (.error fault)) ∧
        ∀ body, r.body.read = .ok body →
          (∀ name, NamesPod r body name →
            (serve r : Program ε _) = (act name).conclude fun names => .ok (response names)) ∧
          ((∀ name, ¬ NamesPod r body name) →
            (serve r : Program ε _) = pure (.ok (.plain 400 "missing podname")))) ∧
      ∀ (name : String) (pairs : List (String × String)), name ≠ "" →
        (∀ pair ∈ pairs, pair.1 ≠ "podname") → r.method = "POST" ∧ r.target.path = "/action" →
          Http.Declares r "application/x-www-form-urlencoded" →
            r.body.read = .ok (Form.render (pairs ++ [("podname", name)])) →
              (serve r : Program ε _) =
                (act name).conclude fun names => .ok (response names) := by
  refine ⟨fun answer s => namesPod_of_exchanges, serve_of_not_post, fun hpost => ⟨?_, ?_⟩, ?_⟩
  · exact fun fault => serve_of_unreadable hpost
  · exact fun body hbody =>
      ⟨fun name => serve_of_namesPod hpost hbody, serve_of_unnamed hpost hbody⟩
  · intro name pairs hne hpairs hpost htype hbody
    exact serve_of_namesPod hpost hbody (.inForm htype (namesFirst_render hne hpairs))

/-- A form in which a pod is named behind a reason, posted with another name in the query. -/
def gateRequest : Http.Request where
  target := { path := "/action", query := some "podname=fence" }
  contentTypes := ["Application/X-WWW-Form-Urlencoded ; charset=utf-8"]
  body := { bytes := Form.render ([("reason", "50% & more")] ++ [("podname", "tür+tor 1")]) }

/-- The pod of the form is reported. -/
theorem serve_acts_gate : (∀ pair ∈ [("reason", "50% & more")], pair.1 ≠ "podname") ∧
    (serve gateRequest : Program ClusterError _) =
      (act "tür+tor 1").conclude fun names => .ok (response names) := by
  have hothers : ∀ pair ∈ [("reason", "50% & more")], pair.1 ≠ "podname" := by decide
  have htype : Http.Declares gateRequest "application/x-www-form-urlencoded" :=
    Http.hasContentType_iff.mp (by decide +kernel)
  obtain ⟨-, -, -, hform⟩ := serve_acts (ε := ClusterError) gateRequest
  exact ⟨hothers, hform "tür+tor 1" _ (by decide) hothers ⟨rfl, rfl⟩ htype rfl⟩

end Quarantine

end SidecarPolicy
