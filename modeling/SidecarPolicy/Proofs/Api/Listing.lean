/-
What a request for a list asks for.

A request for a list carries the query of its selector as a parameter, unless the selector
requires nothing.  A server that finds no parameter, or an empty one, lists everything.  So
it matters which selectors have an empty query: one that requires nothing, and one that
requires nothing but that there is a label with the empty key.

* `ApiRequest.parameters`, `ApiRequest.selector?`: what a server reads of a request;
* `ApiRequest.IsUnrestricted`: a request for everything;
* `Selector.IsUnkeyed`, `Selector.query_eq_empty_iff`: **the selectors with an empty query**;
* `Api.IsSegment`, `Api.request_listing`: the namespaces that do not end a path, and the
  request for a list;
* `Api.parameters_listRequest`: **a server reads the query of the selector**;
* `Api.list_restricted_iff`: **the lists that are not restricted**;
* `Api.not_restricted`: one of them, with a selector that is not empty.
-/
import SidecarPolicy.Api.Request
import SidecarPolicy.Proofs.Text.Form

namespace SidecarPolicy

open Text

/-! ### Requests as they are read -/

namespace ApiRequest

/-- The parameters that a server reads of a request. -/
def parameters (r : ApiRequest) : List (String × String) :=
  Form.parse (Utf8.encode ((cut '?' r.target.toList).2.getD []))

/-- The query of a selector that a server reads of a request. -/
def selector? (r : ApiRequest) : Option String := Form.first? "labelSelector" r.parameters

/-- A request for everything: it has no selector, or an empty one. -/
def IsUnrestricted (r : ApiRequest) : Prop := r.selector?.getD "" = ""

instance (r : ApiRequest) : Decidable r.IsUnrestricted :=
  inferInstanceAs (Decidable (r.selector?.getD "" = ""))

end ApiRequest

/-! ### Empty queries -/

/-- The requirement that there is a label with the empty key. -/
def Expression.IsUnkeyed (e : Expression) : Prop := e.op? = some .exists ∧ e.key = ""

/-- A selector that requires nothing but that there is a label with the empty key. -/
def Selector.IsUnkeyed (s : Selector) : Prop :=
  s.equalities = [] ∧ ∃ e, s.expressions = [e] ∧ e.IsUnkeyed

/-- A requirement is written as the empty text only if it is that there is a label with the
empty key. -/
lemma Expression.query_eq_empty_iff (e : Expression) : e.query = "" ↔ e.IsUnkeyed := by
  rw [Expression.query, Expression.IsUnkeyed, ← String.toList_eq_nil_iff]
  cases e.op? with
  | none => simp [canonical]
  | some op => cases op <;> simp

/-- **The selectors with an empty query** require nothing, or nothing but that there is a label
with the empty key. -/
theorem Selector.query_eq_empty_iff (s : Selector) :
    s.query = "" ↔ s.isEmpty = true ∨ s.IsUnkeyed := by
  have hequality : ∀ e : String × String, Selector.equality e ≠ "" := by
    intro e
    rw [Ne, ← String.toList_eq_nil_iff]
    simp [equality]
  rw [query, intercalate_eq_empty_iff, isEmpty, IsUnkeyed]
  cases hequalities : s.equalities with
  | cons e rest => simp [hequality]
  | nil =>
      cases hexpressions : s.expressions with
      | nil => simp
      | cons e rest =>
          cases rest with
          | nil => simp [e.query_eq_empty_iff]
          | cons e' rest => simp

lemma Selector.IsUnkeyed.selects {s : Selector} (h : s.IsUnkeyed) (labels : Labels) :
    s.selects labels = (labels.get? "").isSome := by
  obtain ⟨hequalities, e, hexpressions, hop, hkey⟩ := h
  simp [Selector.selects, hequalities, hexpressions, Expression.holds, hop, hkey]

namespace Api

open Http

variable {col : Collection} {ns : Option String}

/-! ### Addresses -/

/-- A text that does not end the path it stands in. -/
def IsSegment (s : String) : Prop := '?' ∉ s.toList ∧ '#' ∉ s.toList

instance (s : String) : Decidable (IsSegment s) :=
  inferInstanceAs (Decidable ('?' ∉ s.toList ∧ '#' ∉ s.toList))

/-- Whether all characters of a text may stand in a path. -/
def isPathText (s : String) : Bool := s.toList.all fun c => Target.isPlain c && c != '\x60'

/-- A text that stands in a query as it is, and does not end it. -/
def IsQuery (s : String) : Prop :=
  ∀ c ∈ s.toList, (Target.isPlain c && !(['"', '#'].contains c)) = true

lemma IsSegment.append {s s' : String} (h : IsSegment s) (h' : IsSegment s') :
    IsSegment (s ++ s') := by
  rw [IsSegment, String.toList_append, List.mem_append, List.mem_append]
  exact ⟨not_or.mpr ⟨h.1, h'.1⟩, not_or.mpr ⟨h.2, h'.2⟩⟩

/-- Texts that follow one another may stand in a path if both may. -/
@[simp]
lemma isPathText_append (s s' : String) :
    isPathText (s ++ s') = (isPathText s && isPathText s') := by
  rw [isPathText, String.toList_append, List.all_append]
  rfl

/-- The path of a collection is one segment after another. -/
lemma isSegment_path (hns : ∀ n ∈ ns, IsSegment n) : IsSegment (col.path ns) := by
  have hroot : IsSegment col.root := by cases col <;> decide
  have hname : IsSegment col.name := by cases col <;> decide
  cases ns with
  | none => exact (hroot.append (by decide)).append hname
  | some n =>
      exact (((hroot.append (by decide)).append (hns n rfl)).append (by decide)).append hname

/-- Only the namespace may be no text for a path. -/
lemma isPathText_path (col : Collection) (ns : Option String) :
    isPathText (col.path ns) = ns.all isPathText := by
  have hroot : isPathText col.root = true := by cases col <;> decide
  have hname : isPathText col.name = true := by cases col <;> decide
  have hslash : isPathText "/" = true := by decide
  have hnamespaces : isPathText "/namespaces/" = true := by decide
  cases ns with
  | none => simp [Collection.path, hroot, hname, hslash]
  | some n => simp [Collection.path, hroot, hname, hslash, hnamespaces]

lemma cut_target {path : String} (hpath : IsSegment path) (query : String) :
    cut '?' (path ++ "?" ++ query).toList = (path.toList, some query.toList) := by
  rw [String.toList_append, String.toList_append, List.append_assoc]
  exact cut_append_cons hpath.1 query.toList

/-- A path with a query is sent as it is, unless it is too long or a character may not stand in
the path. -/
lemma validTarget_eq {path query : String} (hpath : IsSegment path) (hquery : IsQuery query) :
    validTarget (path ++ "?" ++ query) =
      if Target.maxLength < (path ++ "?" ++ query).utf8ByteSize then .error .longTarget
      else if isPathText path then .ok (path ++ "?" ++ query)
      else .error .invalidTarget := by
  have hfragment : '#' ∉ (path ++ "?" ++ query).toList := by
    rw [String.toList_append, String.toList_append, List.mem_append, List.mem_append]
    rintro ((hc | hc) | hc)
    · exact hpath.2 hc
    · exact absurd hc (by decide)
    · exact absurd (hquery '#' hc) (by decide)
  have hqueryChars : (query.toList.all fun c => Target.isPlain c && c != '"') = true := by
    refine List.all_eq_true.mpr fun c hc => ?_
    have hplain := hquery c hc
    simp_all
  have hpathChars : (path.toList.all fun c => Target.isPlain c && c != '\x60') =
    isPathText path := rfl
  rw [validTarget, Target.ofPath?, cut_of_not_mem hfragment]
  dsimp only
  rw [cut_target hpath, Option.getD_some, hpathChars, hqueryChars, Bool.and_true]
  split_ifs <;> simp [Target.text]

/-! ### Parameters -/

/-- A parameter stands in a query as it is. -/
lemma isQuery_parameter {name : String} (hname : IsQuery name) (value : String) :
    IsQuery (parameter name value) := by
  -- byte by byte: what a form is written with may stand in a query
  have hbytes : ∀ k : Fin 128, (Form.isPlain (.ofNat k) || UInt8.ofNat k == 0x2B ||
      UInt8.ofNat k == 0x25) = true →
      (Target.isPlain (Char.ofNat k) && !(['"', '#'].contains (Char.ofNat k))) = true := by
    decide +kernel
  intro c hc
  simp only [parameter, String.toList_append, String.toList_ofList, List.mem_append,
    List.mem_map] at hc
  obtain ((hc | hc) | hc) | ⟨b, hb, rfl⟩ := hc
  · obtain rfl := List.mem_singleton.mp hc
    decide
  · exact hname c hc
  · obtain rfl := List.mem_singleton.mp hc
    decide
  · have hwritten := Form.isWritten_escape b hb
    refine hbytes ⟨b.toNat, hwritten.lt⟩ ?_
    rw [UInt8.ofNat_toNat]
    simpa [Form.IsWritten, or_assoc] using hwritten

/-- A parameter is read back, if its name stands for itself. -/
lemma parse_parameter {name : String} (hname : Utf8.encode name.toList = Form.escape name)
    (value : String) : Form.parse (Utf8.encode (parameter name value).toList) =
      [(name, value)] := by
  have hvalue := Utf8.encode_ascii fun b hb => (Form.isWritten_escape (s := value) b hb).lt
  have happend : ∀ cs cs', Utf8.encode (cs ++ cs') = Utf8.encode cs ++ Utf8.encode cs' :=
    fun cs cs' => List.flatMap_append
  have hand : Utf8.encode "&".toList = [0x26] := by decide
  have hequals : Utf8.encode "=".toList = [0x3D] := by decide
  calc Form.parse (Utf8.encode (parameter name value).toList)
      = Form.parse (0x26 :: Form.render [(name, value)]) := by
        simp only [parameter, String.toList_append, String.toList_ofList, happend, hname, hvalue,
          hand, hequals, Form.render, List.map_cons, List.map_nil, List.intercalate_singleton,
          List.cons_append, List.nil_append]
    _ = [(name, value)] := by rw [Form.parse_cons_separator, Form.parse_render]

/-! ### Lists -/

/-- The call for a list of a collection. -/
def listing (col : Collection) (ns : Option String) (s : Selector) : Call :=
  match col with
  | .deployments => .listDeployments ns s
  | .pods => .listPods ns s

/-- The request for a list of a collection. -/
def listRequest (col : Collection) (ns : Option String) (s : Selector) : ApiRequest where
  method := "GET"
  target := col.path ns ++ listQuery s

/-- The query of a list, with what a server reads of it. -/
lemma listQuery_eq (s : Selector) : ∃ query, listQuery s = "?" ++ query ∧ IsQuery query ∧
    Form.parse (Utf8.encode query.toList) =
      if s.isEmpty then [] else [("labelSelector", s.query)] := by
  rw [listQuery]
  split_ifs with hempty
  · exact ⟨"", rfl, fun c hc => absurd hc List.not_mem_nil, rfl⟩
  · have hname : IsQuery "labelSelector" := by
      intro c hc
      have hall : ("labelSelector".toList.all fun c => Target.isPlain c &&
        !(['"', '#'].contains c)) = true := by decide
      exact List.all_eq_true.mp hall c hc
    exact ⟨_, rfl, isQuery_parameter hname s.query, parse_parameter (by decide) s.query⟩

/-- A list is asked for, unless its address is too long or a character of the namespace may
not stand in it. -/
lemma request_listing (col : Collection) (hns : ∀ n ∈ ns, IsSegment n) (s : Selector) :
    request (listing col ns s) =
      if Target.maxLength < (listRequest col ns s).target.utf8ByteSize then .error .longTarget
      else if ns.all isPathText then .ok (listRequest col ns s)
      else .error .invalidTarget := by
  obtain ⟨query, hquery, hchars, -⟩ := listQuery_eq s
  have hrequest : request (listing col ns s) =
      (validTarget (col.path ns ++ listQuery s)).map fun target => { method := "GET", target } := by
    cases col <;> rfl
  rw [hrequest, listRequest, hquery, ← String.append_assoc,
    validTarget_eq (isSegment_path hns) hchars, isPathText_path]
  split_ifs <;> rfl

/-- **A server reads the query of the selector**, unless the selector requires nothing. -/
theorem parameters_listRequest (col : Collection) (hns : ∀ n ∈ ns, IsSegment n) (s : Selector) :
    (listRequest col ns s).parameters =
      if s.isEmpty then [] else [("labelSelector", s.query)] := by
  obtain ⟨query, hquery, -, hread⟩ := listQuery_eq s
  rw [ApiRequest.parameters, listRequest, hquery, ← String.append_assoc,
    cut_target (isSegment_path hns)]
  exact hread

lemma selector?_listRequest (col : Collection) (hns : ∀ n ∈ ns, IsSegment n) (s : Selector) :
    (listRequest col ns s).selector? = if s.isEmpty then none else some s.query := by
  rw [ApiRequest.selector?, parameters_listRequest col hns s]
  split_ifs <;> rfl

/-- A list is not restricted if the query of the selector is empty. -/
lemma isUnrestricted_iff (col : Collection) (hns : ∀ n ∈ ns, IsSegment n) (s : Selector) :
    (listRequest col ns s).IsUnrestricted ↔ s.query = "" := by
  rw [ApiRequest.IsUnrestricted, selector?_listRequest col hns s]
  split_ifs with hempty
  · exact iff_of_true rfl (s.query_eq_empty_iff.mpr (.inl hempty))
  · rfl

/-- **The lists that are not restricted.**  A list is asked for with the query of its selector,
unless the selector requires nothing.  So everything is listed if the selector is empty, and
also if it requires nothing but that there is a label with the empty key, although it selects
only what has such a label. -/
theorem list_restricted_iff (col : Collection) {ns : Option String}
    (hns : ∀ n ∈ ns, IsSegment n) (s : Selector) :
    (request (listing col ns s) =
      if Target.maxLength < (listRequest col ns s).target.utf8ByteSize then .error .longTarget
      else if ns.all isPathText then .ok (listRequest col ns s)
      else .error .invalidTarget) ∧
    (listRequest col ns s).selector? = (if s.isEmpty then none else some s.query) ∧
    ((listRequest col ns s).IsUnrestricted ↔ s.isEmpty = true ∨ s.IsUnkeyed) ∧
    (s.IsUnkeyed → ∀ labels, s.selects labels = (labels.get? "").isSome) :=
  ⟨request_listing col hns s, selector?_listRequest col hns s,
    (isUnrestricted_iff col hns s).trans s.query_eq_empty_iff, fun h labels => h.selects labels⟩

/-- The deployments of a namespace that are labelled as a web application. -/
def webApps : Selector := .ofExpressions [{ key := "app", operator := "In", values := ["web"] }]

/-- They are asked for, and for them only. -/
theorem list_restricted_webApps :
    request (.listDeployments (some "default") webApps) =
      .ok (listRequest .deployments (some "default") webApps) ∧
    (listRequest .deployments (some "default") webApps).target =
      "/apis/apps/v1/namespaces/default/deployments?&labelSelector=app+in+%28web%29" ∧
    ¬ (listRequest .deployments (some "default") webApps).IsUnrestricted := by
  have hns : ∀ n ∈ some "default", IsSegment n := by decide
  obtain ⟨hrequest, -, hunrestricted, -⟩ := list_restricted_iff .deployments hns webApps
  have htarget : (listRequest .deployments (some "default") webApps).target =
      "/apis/apps/v1/namespaces/default/deployments?&labelSelector=app+in+%28web%29" := by
    decide +kernel
  rw [htarget, if_neg (by decide), if_pos (by decide)] at hrequest
  refine ⟨hrequest, htarget, fun h => ?_⟩
  obtain h | ⟨-, e, he, -, hkey⟩ := hunrestricted.mp h
  · exact absurd h (by decide)
  · obtain rfl := List.mem_singleton.mp (he ▸ List.mem_singleton_self e)
    exact absurd hkey (by decide)

/-- The requirement that there is a label with the empty key. -/
def unkeyed : Selector := .ofExpressions [{ key := "", operator := "Exists", values := [] }]

/-- Everything **can be asked for by a selector that is not empty**. -/
theorem not_restricted :
    ¬ ∀ (col : Collection) (ns : Option String) (s : Selector) (r : ApiRequest),
      (∀ n ∈ ns, IsSegment n) → request (listing col ns s) = .ok r → r.IsUnrestricted →
        s.isEmpty = true := by
  intro h
  have hns : ∀ n ∈ some "default", IsSegment n := by decide
  have hrequest : request (listing .deployments (some "default") unkeyed) =
      .ok (listRequest .deployments (some "default") unkeyed) := by
    rw [request_listing .deployments hns, if_neg (by decide +kernel), if_pos (by decide)]
  have hquery : unkeyed.query = "" := by decide
  exact absurd (h _ _ _ _ hns hrequest ((isUnrestricted_iff _ hns _).mpr hquery)) (by decide)

end Api

end SidecarPolicy
