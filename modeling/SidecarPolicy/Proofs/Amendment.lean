/-
Amendments of a document, step by step.

Each step says what it expects to find at its place: a list of a certain
length, or certain annotations.  If it finds that, its patch does to the
document what the step is meant to do, and nothing else.

* `Amendment.Describes`: annotations, and what stands at their place;
* `Amendment.Step`, `Amendment.build`: the steps, and the patch of several ones;
* `Amendment.Step.perform`: the document after a step;
* `Amendment.Step.Fits`, `Amendment.Step.Leaves`, `Amendment.Step.Spares`: what
  a step expects, what it leaves at its place, and what it leaves alone;
* `Amendment.Step.leads`, `Amendment.Step.leaves_outcome`,
  `Amendment.Step.get?_perform`: one step;
* `Amendment.apply_build`: **the patch of a sequence of steps performs them**.
-/
import SidecarPolicy.Amendment
import SidecarPolicy.Proofs.Json.Patch
import SidecarPolicy.Proofs.Labels

namespace SidecarPolicy.Amendment

open Json Patch Labels

/-! ### Steps -/

/-- The annotations of an object are what stands at their place, where absent
ones may be left out or null. -/
def Describes : Option Labels → Option Json → Prop
  | none, v => v = none ∨ v = some .null
  | some m, v => ∃ ms, v = some (.obj ms) ∧ Mirrors m ms

/-- One step of an amendment, with what it expects to find: items appended to a
list of a known length, annotations set, annotations removed. -/
inductive Step where
  | append (path : Pointer) (length : Nat) (added : List Json)
  | setAnnotations (current : Option Labels) (desired : Labels)
  | removeAnnotations (current : Option Labels) (keys : List String)

/-- The items of what stands at a place, none if that is no list. -/
def itemsOf : Option Json → List Json
  | some (.arr items) => items
  | _ => []

/-- The members of what stands at a place, none if that is no object. -/
def membersOf : Option Json → List (String × Json)
  | some (.obj ms) => ms
  | _ => []

namespace Step

/-- The place that a step changes. -/
def place : Step → Pointer
  | .append path _ _ => path
  | .setAnnotations .. | .removeAnnotations .. => annotationsPath

def patch : Step → Patch
  | .append path length added => Amendment.append path length added
  | .setAnnotations current desired => Amendment.setAnnotations current desired
  | .removeAnnotations current keys => Amendment.removeAnnotations current keys

/-- What a step is meant to make of what stands at its place: the list is
extended, the annotations are overwritten, or those named are removed.  Nothing
is created where nothing is to be appended or set. -/
def outcome : Step → Option Json → Option Json
  | .append _ _ added, v => if added.isEmpty then v else some (.arr (itemsOf v ++ added))
  | .setAnnotations _ desired, v =>
      if desired.isEmpty then v else some (.obj (setAll desired.entries (membersOf v)))
  | .removeAnnotations _ keys, v =>
      match v with
      | some (.obj ms) => some (.obj (removeAll keys ms))
      | v => v

def perform (s : Step) (doc : Json) : Json :=
  doc.fill? s.place (s.outcome (doc.get? s.place))

/-- What a step expects at its place: a list of the given length, where an empty
one may be missing or null; the given annotations, of which none is to be
removed twice. -/
def Suits : Step → Option Json → Prop
  | .append _ length _, v =>
      (∃ items, v = some (.arr items) ∧ items.length = length) ∨
        length = 0 ∧ (v = none ∨ v = some .null)
  | .setAnnotations current _, v => Describes current v
  | .removeAnnotations current keys, v => Describes current v ∧ keys.Nodup

/-- A step fits a document if its place is reached through objects, and holds
what the step expects. -/
def Fits (s : Step) (doc : Json) : Prop := ∃ v, Slot s.place doc v ∧ s.Suits v

/-- What a step leaves at its place, as far as it is meant to: the list with the items
appended in their order, the annotations with the desired ones set, or without
those removed. -/
def Leaves : Step → Option Json → Option Json → Prop
  | .append _ _ added, v, w => w = if added.isEmpty then v else some (.arr (itemsOf v ++ added))
  | .setAnnotations current desired, _, w =>
      Describes (if desired.isEmpty then current else
        some ((current.getD .empty).overwrite desired)) w
  | .removeAnnotations current keys, _, w => Describes (current.map (·.without keys)) w

/-- What a step leaves alone at its place: the items that a list has already, and
the annotations that are neither set nor removed. -/
def Keeps : Step → String → Prop
  | .append _ length _, token => ∃ i, Pointer.index? token = some i ∧ i < length
  | .setAnnotations _ desired, key => desired.get? key = none
  | .removeAnnotations _ keys, key => key ∉ keys

/-- The pointers at which a step changes nothing: those apart from its place, and
those that lead through what it leaves alone there. -/
def Spares (s : Step) (q : Pointer) : Prop :=
  Apart s.place q ∨ ∃ token rest, q = s.place ++ token :: rest ∧ s.Keeps token

end Step

/-- The patch of several steps. -/
def build (steps : List Step) : Patch := steps.flatMap Step.patch

/-- The document after several steps. -/
def performAll (steps : List Step) (doc : Json) : Json :=
  steps.foldl (fun doc s => s.perform doc) doc

/-- Each step fits the document as the steps before it leave it. -/
def AllFit : List Step → Json → Prop
  | [], _ => True
  | s :: rest, doc => s.Fits doc ∧ AllFit rest (s.perform doc)

/-! ### The patch of one step -/

variable {path : Pointer} {doc : Json}

/-- Items that are added at the end of a list one by one extend it. -/
lemma leads_items {items : List Json} (h : Slot path doc (some (.arr items)))
    (added : List Json) :
    Leads doc (added.map (.add (path ++ ["-"]) ·)) (doc.fill path (.arr (items ++ added))) := by
  induction added generalizing doc items with
  | nil =>
      rw [List.append_nil, h.fill_self]
      exact leads_nil doc
  | cons item added ih =>
      have hfirst := leads_add_item h item
      have hrest := ih (h.fill (.arr (items ++ [item])))
      rw [h.fill_fill, List.append_assoc, List.singleton_append] at hrest
      exact hfirst.append hrest

/-- The patch of annotations that are set one by one, if those that are replaced
are there with their value. -/
lemma leads_setPairs {current : Option Labels} {ms : List (String × Json)}
    (h : Slot path doc (some (.obj ms))) (hpath : path = annotationsPath)
    (pairs : List (String × String)) (hdistinct : (pairs.map Prod.fst).Nodup)
    (hcurrent : ∀ e ∈ pairs, ∀ v, current.bind (·.get? e.1) = some v →
      Json.member? e.1 ms = some (.str v)) :
    Leads doc (pairs.flatMap (setPair current)) (doc.fill path (.obj (setAll pairs ms))) := by
  -- by induction on the pairs, with the document as those before have left it
  induction pairs generalizing doc ms with
  | nil =>
      rw [setAll, List.foldl_nil, h.fill_self]
      exact leads_nil doc
  | cons e pairs ih =>
      obtain ⟨hnew, hdistinct⟩ := List.nodup_cons.mp hdistinct
      have hfirst : Leads doc (setPair current e)
          (doc.fill path (.obj (setMember e.1 (.str e.2) ms))) := by
        rw [setPair, ← hpath]
        cases hv : current.bind (·.get? e.1) with
        | none => exact leads_add_member h e.1 (.str e.2)
        | some v =>
            have hmember := hcurrent e List.mem_cons_self v hv
            by_cases heq : v = e.2
            · rw [heq] at hmember
              rw [setMember_of_member? hmember, h.fill_self]
              simpa [heq] using leads_nil doc
            · simpa [heq] using leads_replace_member h hmember (.str e.2)
      -- the keys are distinct, so the members that come later are as they were
      have hrest := ih (h.fill (.obj (setMember e.1 (.str e.2) ms))) hdistinct
        fun e' he' v hv => by
          have hne : e'.1 ≠ e.1 := fun heq => hnew (heq ▸ List.mem_map_of_mem he')
          rw [member?_setMember_of_ne hne]
          exact hcurrent e' (List.mem_cons_of_mem e he') v hv
      rw [h.fill_fill] at hrest
      exact hfirst.append hrest

/-- The patch of annotations that are removed one by one, no key twice. -/
lemma leads_removeKeys {m : Labels} {ms : List (String × Json)}
    (h : Slot path doc (some (.obj ms))) (hpath : path = annotationsPath)
    (keys : List String) (hdistinct : keys.Nodup)
    (hcurrent : ∀ k ∈ keys, Json.member? k ms = (m.get? k).map .str) :
    Leads doc ((keys.filter m.contains).map fun k => .remove (annotationsPath ++ [k]))
      (doc.fill path (.obj (removeAll keys ms))) := by
  induction keys generalizing doc ms with
  | nil =>
      rw [removeAll, List.foldl_nil, h.fill_self]
      exact leads_nil doc
  | cons k keys ih =>
      obtain ⟨hnew, hdistinct⟩ := List.nodup_cons.mp hdistinct
      have hk := hcurrent k List.mem_cons_self
      -- no key comes twice, so the others are there as they were
      have hkeys : ∀ k' ∈ keys, Json.member? k' (removeMember k ms) = (m.get? k').map .str := by
        intro k' hk'
        have hne : k' ≠ k := fun heq => hnew (heq ▸ hk')
        rw [member?_removeMember_of_ne hne]
        exact hcurrent k' (List.mem_cons_of_mem k hk')
      cases hv : m.get? k with
      | none =>
          have hskip : m.contains k = false := by rw [KeyMap.contains, hv]; rfl
          have hsame : removeMember k ms = ms := by
            rw [hv] at hk
            exact removeMember_of_member?_eq_none hk
          rw [List.filter_cons_of_neg (by simp [hskip])]
          rw [hsame] at hkeys
          rw [removeAll, List.foldl_cons, hsame]
          exact ih h hdistinct hkeys
      | some v =>
          have hfound : m.contains k = true := by rw [KeyMap.contains, hv]; rfl
          rw [hv] at hk
          have hfirst := leads_remove_member h hk
          have hrest := ih (h.fill (.obj (removeMember k ms))) hdistinct hkeys
          rw [h.fill_fill] at hrest
          rw [List.filter_cons_of_pos hfound, List.map_cons, ← hpath]
          rw [← hpath] at hrest
          exact hfirst.append hrest

/-- The patch that appends items to a list of the expected length. -/
lemma leads_append {v : Option Json} (h : Slot path doc v) {length : Nat} {added : List Json}
    (hv : (Step.append path length added).Suits v) (hadded : added.isEmpty = false) :
    Leads doc (append path length added) (doc.fill path (.arr (itemsOf v ++ added))) := by
  rw [append, if_neg (by simp [hadded])]
  obtain ⟨items, rfl, rfl⟩ | ⟨rfl, hempty⟩ := hv
  · split_ifs with hlength
    · rw [itemsOf, List.length_eq_zero_iff.mp hlength, List.nil_append]
      exact leads_add h (.arr added)
    · exact leads_items h added
  · have hnone : itemsOf v = [] := by obtain rfl | rfl := hempty <;> rfl
    rw [if_pos rfl, hnone, List.nil_append]
    exact leads_add h (.arr added)

/-- The patch that overwrites the expected annotations. -/
lemma leads_setAnnotations {v : Option Json} (h : Slot annotationsPath doc v)
    {current : Option Labels} {desired : Labels} (hv : Describes current v)
    (hdesired : desired.isEmpty = false) :
    Leads doc (setAnnotations current desired)
      (doc.fill annotationsPath (.obj (setAll desired.entries (membersOf v)))) := by
  have hdistinct := KeyMap.nodup_keys desired
  cases current with
  | some m =>
      obtain ⟨ms, rfl, hms⟩ := hv
      rw [setAnnotations]
      refine leads_setPairs h rfl desired.entries hdistinct fun e _ u hu => ?_
      rw [hms.member?]
      exact congrArg (Option.map Json.str) hu
  | none =>
      -- where there are no annotations they are created with the first one
      have hnone : membersOf v = [] := by obtain rfl | rfl := hv <;> rfl
      rw [hnone]
      unfold setAnnotations
      cases hentries : desired.entries with
      | nil => simp [KeyMap.isEmpty, hentries] at hdesired
      | cons e rest =>
          rw [hentries] at hdistinct
          have hfirst := leads_add h (.obj [(e.1, .str e.2)])
          have hrest : Leads _ (rest.flatMap (setPair none)) _ :=
            leads_setPairs (h.fill (.obj [(e.1, .str e.2)])) rfl rest
              (List.nodup_cons.mp hdistinct).2 (by simp)
          rw [h.fill_fill] at hrest
          exact hfirst.append hrest

lemma leads_removeAnnotations {m : Labels} {ms : List (String × Json)}
    (h : Slot annotationsPath doc (some (.obj ms))) (hms : Mirrors m ms) {keys : List String}
    (hkeys : keys.Nodup) :
    Leads doc (removeAnnotations (some m) keys)
      (doc.fill annotationsPath (.obj (removeAll keys ms))) :=
  leads_removeKeys h rfl keys hkeys fun k _ => hms.member? k

/-- **The patch of a step performs the step**, on every document that it fits. -/
theorem Step.leads {s : Step} (h : s.Fits doc) : Leads doc s.patch (s.perform doc) := by
  obtain ⟨v, hslot, hv⟩ := h
  rw [Step.perform, hslot.get?_eq]
  -- a step that has nothing to do leaves what stands at its place
  have hidle : Leads doc [] (doc.fill? s.place v) := hslot.fill?_self.symm ▸ leads_nil doc
  cases s with
  | append path length added =>
      cases hadded : added.isEmpty with
      | true =>
          rw [Step.outcome, if_pos hadded, Step.patch, Amendment.append, if_pos hadded]
          exact hidle
      | false =>
          rw [Step.outcome, if_neg (by simp [hadded])]
          exact leads_append hslot hv hadded
  | setAnnotations current desired =>
      cases hdesired : desired.isEmpty with
      | true =>
          have hentries : desired.entries = [] := List.isEmpty_iff.mp hdesired
          have hpatch : Amendment.setAnnotations current desired = [] := by
            cases current <;> simp [Amendment.setAnnotations, hentries]
          rw [Step.outcome, if_pos hdesired, Step.patch, hpatch]
          exact hidle
      | false =>
          rw [Step.outcome, if_neg (by simp [hdesired])]
          exact leads_setAnnotations hslot hv hdesired
  | removeAnnotations current keys =>
      obtain ⟨hv, hkeys⟩ := hv
      cases current with
      | none => obtain rfl | rfl := hv <;> exact hidle
      | some m =>
          obtain ⟨ms, rfl, hms⟩ := hv
          exact leads_removeAnnotations hslot hms hkeys

/-! ### What a step leaves at its place -/

lemma describes_labels (current : Option Labels) :
    Describes current (current.map Encode.labels) := by
  cases current with
  | none => exact .inl rfl
  | some m => exact ⟨_, rfl, mirrors_entries m⟩

/-- Setting annotations overwrites those at their place. -/
lemma Describes.mirrors_setAll {current : Option Labels} {v : Option Json}
    (h : Describes current v) (desired : Labels) :
    Mirrors ((current.getD .empty).overwrite desired) (setAll desired.entries (membersOf v)) := by
  cases current with
  | none =>
      have hnone : membersOf v = [] := by obtain rfl | rfl := h <;> rfl
      rw [hnone]
      exact (mirrors_entries .empty).setAll desired.entries
  | some m =>
      obtain ⟨ms, rfl, hms⟩ := h
      exact hms.setAll desired.entries

/-- The outcome of a step is what the step is meant to leave. -/
lemma Step.leaves_outcome {s : Step} {v : Option Json} (hv : s.Suits v) :
    s.Leaves v (s.outcome v) := by
  cases s with
  | append path length added => rfl
  | setAnnotations current desired =>
      rw [Step.Leaves, Step.outcome]
      split_ifs with hdesired
      · exact hv
      · exact ⟨_, rfl, Describes.mirrors_setAll hv desired⟩
  | removeAnnotations current keys =>
      obtain ⟨hv, -⟩ := hv
      cases current with
      | none => obtain rfl | rfl := hv <;> simp [Step.Leaves, Step.outcome, Describes]
      | some m =>
          obtain ⟨ms, rfl, hms⟩ := hv
          exact ⟨_, rfl, hms.removeAll keys⟩

/-- Only where nothing stands can a step leave nothing. -/
lemma Step.eq_none_of_outcome {s : Step} {v : Option Json} (h : s.outcome v = none) :
    v = none := by
  cases s with
  | append path length added =>
      rw [Step.outcome] at h
      split_ifs at h
      exact h
  | setAnnotations current desired =>
      rw [Step.outcome] at h
      split_ifs at h
      exact h
  | removeAnnotations current keys =>
      rcases v with _ | (_ | _ | _ | _ | _ | _) <;> first | rfl | cases h

lemma Step.get?_place {s : Step} (h : s.Fits doc) :
    (s.perform doc).get? s.place = s.outcome (doc.get? s.place) := by
  obtain ⟨v, hslot, -⟩ := h
  rw [Step.perform, hslot.get?_eq]
  cases hw : s.outcome v with
  | some w => exact (hslot.fill w).get?_eq
  | none => exact hslot.get?_eq.trans (Step.eq_none_of_outcome hw)

/-! ### What a step leaves alone -/

/-- What stands below the place of a step, and is left alone, stands below its
outcome as well. -/
lemma Step.get?_outcome {s : Step} {v : Option Json} {w : Json} (hv : s.Suits v)
    (hw : s.outcome v = some w) {token : String} (hkept : s.Keeps token) (rest : Pointer) :
    w.get? (token :: rest) = v.bind (·.get? (token :: rest)) := by
  -- items are added behind the others, and the keys that are set or removed are other ones
  cases s with
  | append path length added =>
      obtain ⟨i, hi, hlt⟩ := hkept
      rw [Step.outcome] at hw
      split_ifs at hw with hadded
      · rw [hw]
        rfl
      · obtain rfl := Option.some.inj hw
        obtain ⟨items, rfl, rfl⟩ | ⟨rfl, -⟩ := hv
        · simp [Json.get?, hi, itemsOf, List.getElem?_append_left hlt]
        · exact absurd hlt (Nat.not_lt_zero i)
  | setAnnotations current desired =>
      rw [Step.outcome] at hw
      split_ifs at hw with hdesired
      · rw [hw]
        rfl
      · obtain rfl := Option.some.inj hw
        rw [Json.get?, member?_setAll (KeyMap.not_mem_keys hkept)]
        cases current with
        | none => obtain rfl | rfl := hv <;> rfl
        | some m =>
            obtain ⟨ms, rfl, -⟩ := hv
            rfl
  | removeAnnotations current keys =>
      obtain ⟨hv, -⟩ := hv
      cases current with
      | none =>
          obtain rfl | rfl := hv
          · cases hw
          · obtain rfl := Option.some.inj hw
            rfl
      | some m =>
          obtain ⟨ms, rfl, -⟩ := hv
          obtain rfl := Option.some.inj hw
          rw [Json.get?, member?_removeAll hkept]
          rfl

/-- **A step changes nothing that it spares.** -/
theorem Step.get?_perform {s : Step} (h : s.Fits doc) {q : Pointer} (hq : s.Spares q) :
    (s.perform doc).get? q = doc.get? q := by
  obtain ⟨v, hslot, hv⟩ := h
  rw [Step.perform, hslot.get?_eq]
  cases hw : s.outcome v with
  | none => rfl
  | some w =>
      obtain hapart | ⟨token, rest, rfl, hkept⟩ := hq
      · exact hslot.get?_fill_of_apart hapart w
      · rw [Json.fill?, hslot.get?_fill_append, get?_append, hslot.get?_eq]
        exact Step.get?_outcome hv hw hkept rest

/-! ### Several steps -/

lemma leads_build {steps : List Step} (h : AllFit steps doc) :
    Leads doc (build steps) (performAll steps doc) := by
  induction steps generalizing doc with
  | nil => exact leads_nil doc
  | cons s steps ih => exact (Step.leads h.1).append (ih h.2)

lemma performAll_concat (steps : List Step) (s : Step) :
    performAll (steps ++ [s]) doc = s.perform (performAll steps doc) := by
  rw [performAll, List.foldl_append]
  rfl

/-- If one more step fits after several ones, it fits the document that they
leave. -/
lemma fits_of_allFit_concat {steps : List Step} {s : Step} (h : AllFit (steps ++ [s]) doc) :
    s.Fits (performAll steps doc) := by
  induction steps generalizing doc with
  | nil => exact h.1
  | cons s' steps ih => exact ih h.2

/-- Several steps change nothing that each of them spares. -/
lemma get?_performAll {steps : List Step} (h : AllFit steps doc) {q : Pointer}
    (hq : ∀ s ∈ steps, s.Spares q) : (performAll steps doc).get? q = doc.get? q := by
  induction steps generalizing doc with
  | nil => rfl
  | cons s steps ih =>
      have hfirst := Step.get?_perform h.1 (hq s List.mem_cons_self)
      exact (ih h.2 fun s' hs' => hq s' (List.mem_cons_of_mem s hs')).trans hfirst

/-- **The patch of a sequence of steps performs them.**  If each step fits the
document as the steps before it leave it, then the patch that is built, written
down and read back leads without failure to the document that one gets by
performing the steps; the last step, and so each one in its turn, leaves at its
place what it is meant to; and whatever every step spares stands where it
stood. -/
theorem apply_build {steps : List Step} (h : AllFit steps doc) :
    ∃ p, Patch.decode (Patch.encode (build steps)) = .ok p
      ∧ p.apply doc = .ok (performAll steps doc)
      ∧ (∀ earlier s, steps = earlier ++ [s] →
        s.Leaves ((performAll earlier doc).get? s.place) ((performAll steps doc).get? s.place))
      ∧ ∀ q, (∀ s ∈ steps, s.Spares q) → (performAll steps doc).get? q = doc.get? q := by
  refine ⟨build steps, Patch.decode_encode _, (leads_build h).apply, ?_,
    fun _ => get?_performAll h⟩
  rintro earlier s rfl
  have hfit := fits_of_allFit_concat h
  rw [performAll_concat, Step.get?_place hfit]
  obtain ⟨v, hslot, hv⟩ := hfit
  rw [hslot.get?_eq]
  exact Step.leaves_outcome hv

/-- A pod without volumes and annotations. -/
def plainPod : Json :=
  .obj [("metadata", .obj [("name", .str "web")]),
    ("spec", .obj [("containers", .arr [.str "app"])])]

/-- Annotations whose keys need escapes. -/
def awkward : Labels := ⟨[("a/b~c", "1"), ("x", "2")], by decide⟩

/-- The annotations after one of them has been set anew. -/
def awkwardLater : Labels := ⟨[("a/b~c", "1"), ("x", "3")], by decide⟩

/-- A volume and two containers are added, and annotations created, overwritten
and removed. -/
def manySteps : List Step :=
  [.append ["spec", "volumes"] 0 [.str "logs"],
    .append ["spec", "containers"] 1 [.str "monitor", .str "shipper"],
    .setAnnotations none awkward,
    .setAnnotations (some awkward) ⟨[("x", "3")], by decide⟩,
    .removeAnnotations (some awkwardLater) ["a/b~c", "absent"]]

/-- The many steps fit the plain pod, and their patch performs them; the name of the
pod and its first container stay. -/
theorem apply_build_manySteps : AllFit manySteps plainPod
    ∧ ∃ p, Patch.decode (Patch.encode (build manySteps)) = .ok p
      ∧ p.apply plainPod = .ok (.obj [
        ("metadata", .obj [("name", .str "web"), ("annotations", .obj [("x", .str "3")])]),
        ("spec", .obj [
          ("containers", .arr [.str "app", .str "monitor", .str "shipper"]),
          ("volumes", .arr [.str "logs"])])]) := by
  have hfit : AllFit manySteps plainPod :=
    ⟨⟨none, .inner rfl (.own _ _), .inr ⟨rfl, .inl rfl⟩⟩,
      ⟨some (.arr [.str "app"]), .inner rfl (.own _ _), .inl ⟨_, rfl, rfl⟩⟩,
      ⟨none, .inner rfl (.own _ _), .inl rfl⟩,
      ⟨some (Encode.labels awkward), .inner rfl (.own _ _), ⟨_, rfl, mirrors_entries _⟩⟩,
      ⟨some (Encode.labels awkwardLater), .inner rfl (.own _ _),
        ⟨⟨_, rfl, mirrors_entries _⟩, by decide⟩⟩, trivial⟩
  obtain ⟨p, hread, happly, -, -⟩ := apply_build hfit
  exact ⟨hfit, p, hread, happly⟩

end SidecarPolicy.Amendment
