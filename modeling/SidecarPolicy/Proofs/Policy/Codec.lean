/-
The content of a policy is read back from its document.

A document may spell a field in one of two ways, leave it out, or have fields that mean
nothing; a written one does none of this.  What is read tells no longer how it was written,
so writing it and reading it again cannot tell either.

* `Decode.spelled`, `Decode.sole_eq_ok`: the values of a field in any of its spellings, and
  that there may be one at most;
* `Decode.sole_present_of_not_mem`, `Decode.sole_present_self`: the fields of a written
  object;
* `Expression.recovers`, `Selector.recovers`, `Destination.recovers`, `LogSpec.recovers`,
  `PolicySpec.recovers`: the parts of a content, and contents, are read back;
* `PolicySpec.decode_eq_ok`, `Selector.decode_eq_ok`: what can be read depends on the values
  of the fields;
* `PolicySpec.round_trips`: **contents are read back, whatever they were first read from,
  and no field may be spelled in both ways**.
-/
import SidecarPolicy.Policy.Codec
import SidecarPolicy.Proofs.Object.Meta

namespace SidecarPolicy

/-! ### Fields that stand alone -/

namespace Decode

variable {τ α : Type}

/-- The values of the fields that have one of some names. -/
def spelled (names : List String) (fields : List (String × τ)) : List τ :=
  (fields.filter (names.contains ·.1)).map (·.2)

/-- A field stands alone if there is one at most in any of its spellings. -/
lemma sole_eq_ok {fields : List (String × τ)} {names : List String} {v : Option τ} :
    sole fields names = .ok v ↔ spelled names fields = v.toList := by
  rw [sole, spelled]
  generalize fields.filter (names.contains ·.1) = found
  rcases found with _ | ⟨m, _ | ⟨m', rest⟩⟩ <;> cases v <;> simp

/-- A field that stands in two spellings does not stand alone. -/
lemma spelled_of_both {fields : List (String × τ)} {names : List String} {n n' : String}
    (hne : n ≠ n') (hn : n ∈ names) (hn' : n' ∈ names) (h : n ∈ fields.map Prod.fst)
    (h' : n' ∈ fields.map Prod.fst) (v : Option τ) : spelled names fields ≠ v.toList := by
  intro hv
  obtain ⟨m, hm, rfl⟩ := List.mem_map.mp h
  obtain ⟨m', hm', rfl⟩ := List.mem_map.mp h'
  have hfound : m ∈ fields.filter (names.contains ·.1) :=
    List.mem_filter.mpr ⟨hm, List.contains_iff_mem.mpr hn⟩
  have hfound' : m' ∈ fields.filter (names.contains ·.1) :=
    List.mem_filter.mpr ⟨hm', List.contains_iff_mem.mpr hn'⟩
  rw [spelled] at hv
  generalize fields.filter (names.contains ·.1) = found at hfound hfound' hv
  rcases found with _ | ⟨x, _ | ⟨y, rest⟩⟩
  · exact List.not_mem_nil hfound
  · rw [List.mem_singleton.mp hfound, List.mem_singleton.mp hfound'] at hne
    exact hne rfl
  · cases v <;> cases hv

/-- Which value a field with a default has depends on the values in its spellings. -/
lemma defaulted_eq_ok {read : τ → Decoded α} {absent a : α} {fields : List (String × τ)}
    {names : List String} : defaulted read absent fields names = .ok a ↔
      ∃ v : Option τ, spelled names fields = v.toList ∧ v.elim (.ok absent) read = .ok a := by
  rw [defaulted, bind_eq_ok]
  simp only [sole_eq_ok]
  exact exists_congr fun v => and_congr_right fun _ => by cases v <;> rfl

/-- Which value an optional field has depends on the values in its spellings. -/
lemma optional_eq_ok [Tree τ] {read : τ → Decoded α} {a : Option α}
    {fields : List (String × τ)} {names : List String} :
    Decode.optional read fields names = .ok a ↔
      ∃ v : Option τ, spelled names fields = v.toList ∧
        v.elim (.ok none) (unlessNull read) = .ok a := by
  rw [Decode.optional, bind_eq_ok]
  simp only [sole_eq_ok]
  exact exists_congr fun v => and_congr_right fun _ => by cases v <;> rfl

/-! ### Fields of a written object -/

/-- The names of the fields that are present are among all of them. -/
lemma fst_mem_of_mem_present {fields : List (String × Option Json)} {m : String × Json}
    (h : m ∈ present fields) : ∃ f ∈ fields, f.1 = m.1 := by
  obtain ⟨f, hf, hfm⟩ := List.mem_filterMap.mp h
  obtain ⟨w, -, rfl⟩ := Option.map_eq_some_iff.mp hfm
  exact ⟨f, hf, rfl⟩

@[simp]
lemma sole_present_of_not_mem {key : String} {names : List String} (h : key ∉ names)
    (v : Option Json) (fields : List (String × Option Json)) :
    sole (present ((key, v) :: fields)) names = sole (present fields) names := by
  cases v with
  | none => rfl
  | some v => simp [sole, present, h]

/-- A field stands alone in a written object if no later one has one of its names. -/
@[simp]
lemma sole_present_self {key : String} {names : List String}
    {fields : List (String × Option Json)} (h : key ∈ names)
    (hrest : ∀ f ∈ fields, f.1 ∉ names) (v : Option Json) :
    sole (present ((key, v) :: fields)) names = .ok v := by
  have hnone : (present fields).filter (names.contains ·.1) = [] := by
    refine List.filter_eq_nil_iff.mpr fun m hm hmem => ?_
    obtain ⟨f, hf, hfm⟩ := fst_mem_of_mem_present hm
    exact hrest f hf (hfm ▸ List.contains_iff_mem.mp hmem)
  rw [sole_eq_ok]
  cases v with
  | none => exact congrArg (List.map Prod.snd) hnone
  | some v =>
      have hfirst : names.contains key = true := List.contains_iff_mem.mpr h
      have hpresent : present ((key, some v) :: fields) = (key, v) :: present fields := rfl
      rw [spelled, hpresent, List.filter_cons, if_pos hfirst, hnone]
      rfl

@[simp]
lemma optional_present_of_not_mem {read : Json → Decoded α} {key : String} {names : List String}
    (h : key ∉ names) (v : Option Json) (fields : List (String × Option Json)) :
    Decode.optional read (present ((key, v) :: fields)) names =
      Decode.optional read (present fields) names := by
  rw [Decode.optional, sole_present_of_not_mem h]
  rfl

@[simp]
lemma optional_present_self {read : Json → Decoded α} {key : String} {names : List String}
    {fields : List (String × Option Json)} (h : key ∈ names)
    (hrest : ∀ f ∈ fields, f.1 ∉ names) (v : Option Json) :
    Decode.optional read (present ((key, v) :: fields)) names = field read v := by
  rw [Decode.optional, sole_present_self h hrest]
  cases v <;> rfl

@[simp]
lemma record_object (first last : List String) (fields : List (String × Option Json)) :
    record first last (Encode.object fields) = .ok (present fields) := rfl

end Decode

open Decode

/-! ### The parts of a content -/

lemma Destination.recovers (d : Destination) :
    Recovers Destination.decode Destination.encode d := by
  refine ⟨?_, rfl⟩
  simp [Destination.decode, Destination.encode, defaulted, (recovers_text _).read_write]

lemma Expression.recovers (e : Expression) :
    Recovers Expression.decode Expression.encode e := by
  refine ⟨?_, rfl⟩
  simp [Expression.decode, Expression.encode, defaulted, required, (recovers_text _).read_write,
    (recovers_texts _).read_write]

/-- A selector is read back, be its parts absent or empty. -/
lemma Selector.recovers (s : Selector) : Recovers Selector.decode Selector.encode s := by
  refine ⟨?_, rfl⟩
  have hlabels := field_map (a := s.matchLabels) fun l _ => Labels.recovers l
  have hexpressions := field_map (a := s.matchExpressions) fun _ _ =>
    Recovers.list fun e _ => Expression.recovers e
  simp [Selector.decode, Selector.encode, hlabels, hexpressions]

lemma Decode.naturalBelow_int {n bound : Nat} (h : n < bound) :
    naturalBelow bound (Json.int n) = .ok n := by
  have hrange : (0 : Int) ≤ n ∧ (n : Int) ≤ bound - 1 := by omega
  have hinteger : integer 0 (bound - 1) (Json.int n) = .ok (n : Int) := by
    rw [integer]
    exact if_pos hrange
  rw [naturalBelow, hinteger]
  rfl

lemma LogSpec.recovers {l : LogSpec} (h : l.logFrequency < UInt32.size) :
    Recovers LogSpec.decode LogSpec.encode l := by
  refine ⟨?_, rfl⟩
  have hdestination : Recovers (list Destination.decode) (Encode.list Destination.encode)
      l.destination := .list fun d _ => Destination.recovers d
  simp [LogSpec.decode, LogSpec.encode, defaulted, naturalBelow_int h, hdestination.read_write]

lemma PolicySpec.recovers {spec : PolicySpec} (h : spec.logSpec.logFrequency < UInt32.size) :
    Recovers PolicySpec.decode PolicySpec.encode spec := by
  refine ⟨?_, rfl⟩
  have hlog := (LogSpec.recovers h).read_write
  have hselector := (Selector.recovers spec.labelSelector).read_write
  simp [PolicySpec.decode, PolicySpec.encode, defaulted, hlog, hselector,
    (recovers_text _).read_write, (recovers_texts _).read_write]

/-! ### What can be read -/

variable {τ : Type} [Tree τ]

/-- A number that is read is below its bound. -/
lemma Decode.lt_of_naturalBelow {t : τ} {n bound : Nat} (h : naturalBelow bound t = .ok n) :
    n < bound := by
  obtain ⟨i, hi, hn⟩ := bind_eq_ok.mp h
  obtain rfl := Except.ok.inj hn
  obtain ⟨j, -, hj⟩ := bind_eq_ok.mp hi
  split_ifs at hj with hrange
  obtain rfl := Except.ok.inj hj
  omega

/-- A frequency that is read has 32 bits. -/
lemma LogSpec.frequency_lt {t : τ} {l : LogSpec} (h : LogSpec.decode t = .ok l) :
    l.logFrequency < UInt32.size := by
  obtain ⟨fields, -, h⟩ := bind_eq_ok.mp h
  obtain ⟨frequency, hfrequency, h⟩ := bind_eq_ok.mp h
  obtain ⟨destination, -, h⟩ := bind_eq_ok.mp h
  obtain rfl := Except.ok.inj h
  obtain ⟨v, -, hread⟩ := defaulted_eq_ok.mp hfrequency
  cases v with
  | none =>
      obtain rfl := Except.ok.inj hread
      exact Nat.two_pow_pos 32
  | some v => exact lt_of_naturalBelow hread

lemma Selector.decode_eq_ok {t : τ} {s : Selector} : Selector.decode t = .ok s ↔
    ∃ fields, record [] ["matchLabels", "matchExpression"] t = .ok fields ∧
      Decode.optional labels fields ["matchLabels"] = .ok s.matchLabels ∧
      Decode.optional (list Expression.decode) fields ["matchExpression", "matchExpressions"] =
        .ok s.matchExpressions := by
  simp only [Selector.decode, bind_eq_ok]
  constructor
  · rintro ⟨fields, hfields, _, hlabels, _, hexpressions, heq⟩
    obtain rfl := Except.ok.inj heq
    exact ⟨fields, hfields, hlabels, hexpressions⟩
  · rintro ⟨fields, hfields, hlabels, hexpressions⟩
    exact ⟨fields, hfields, _, hlabels, _, hexpressions, rfl⟩

lemma PolicySpec.decode_eq_ok {t : τ} {spec : PolicySpec} : PolicySpec.decode t = .ok spec ↔
    ∃ fields,
      record [] ["namespace", "action", "labelSelector", "groupLabel", "logSpec"] t =
        .ok fields ∧
      defaulted (list text) [] fields ["namespace", "Namespace"] = .ok spec.namespace ∧
      defaulted text "" fields ["action"] = .ok spec.action ∧
      defaulted Selector.decode {} fields ["labelSelector"] = .ok spec.labelSelector ∧
      defaulted (list text) [] fields ["groupLabel"] = .ok spec.groupLabel ∧
      defaulted LogSpec.decode {} fields ["logSpec"] = .ok spec.logSpec := by
  simp only [PolicySpec.decode, bind_eq_ok]
  constructor
  · rintro ⟨fields, hfields, _, hns, _, haction, _, hselector, _, hgroup, _, hlog, heq⟩
    obtain rfl := Except.ok.inj heq
    exact ⟨fields, hfields, hns, haction, hselector, hgroup, hlog⟩
  · rintro ⟨fields, hfields, hns, haction, hselector, hgroup, hlog⟩
    exact ⟨fields, hfields, _, hns, _, haction, _, hselector, _, hgroup, _, hlog, rfl⟩

/-- A content that is read has a frequency of 32 bits. -/
lemma PolicySpec.frequency_lt {t : τ} {spec : PolicySpec} (h : PolicySpec.decode t = .ok spec) :
    spec.logSpec.logFrequency < UInt32.size := by
  obtain ⟨fields, -, -, -, -, -, hlog⟩ := PolicySpec.decode_eq_ok.mp h
  obtain ⟨v, -, hread⟩ := defaulted_eq_ok.mp hlog
  cases v with
  | none =>
      rw [← Except.ok.inj hread]
      decide
  | some v => exact LogSpec.frequency_lt hread

/-! ### Spellings -/

/-- A node is an object with the given members, and no list. -/
structure Decode.IsObject (t : τ) (ms : List (String × τ)) : Prop where
  items : Tree.items? t = none
  members : Tree.members? t = some ms

lemma Decode.IsObject.record_eq {t : τ} {ms : List (String × τ)} (h : IsObject t ms)
    (first last : List String) : record first last t = .ok ms := by
  rw [record, h.items, Decode.members, h.members]
  rfl

/-- The names of each field of a selector. -/
def Selector.spellings : List (List String) :=
  [["matchLabels"], ["matchExpression", "matchExpressions"]]

/-- The names of each field of a content. -/
def PolicySpec.spellings : List (List String) :=
  [["namespace", "Namespace"], ["action"], ["labelSelector"], ["groupLabel"], ["logSpec"]]

/-- **A selector depends on the values of its fields alone**, not on how they are spelled, on
their order, or on other fields. -/
theorem Selector.decode_of_spelled {t t' : τ} {ms ms' : List (String × τ)} {s : Selector}
    (ht : IsObject t ms) (ht' : IsObject t' ms')
    (hspelled : ∀ names ∈ spellings, spelled names ms = spelled names ms')
    (h : Selector.decode t = .ok s) : Selector.decode t' = .ok s := by
  obtain ⟨fields, hfields, hlabels, hexpressions⟩ := decode_eq_ok.mp h
  obtain rfl := Except.ok.inj ((ht.record_eq _ _).symm.trans hfields)
  have hfield : ∀ names ∈ spellings, ∀ {α : Type} {read : τ → Decoded α} {a : Option α},
      Decode.optional read ms names = .ok a → Decode.optional read ms' names = .ok a :=
    fun names hnames α read a hread =>
      optional_eq_ok.mpr (hspelled names hnames ▸ optional_eq_ok.mp hread)
  exact decode_eq_ok.mpr ⟨ms', ht'.record_eq _ _, hfield _ (by decide) hlabels,
    hfield _ (by decide) hexpressions⟩

/-- **A content depends on the values of its fields alone**, not on how they are spelled, on
their order, or on other fields. -/
theorem PolicySpec.decode_of_spelled {t t' : τ} {ms ms' : List (String × τ)} {spec : PolicySpec}
    (ht : IsObject t ms) (ht' : IsObject t' ms')
    (hspelled : ∀ names ∈ spellings, spelled names ms = spelled names ms')
    (h : PolicySpec.decode t = .ok spec) : PolicySpec.decode t' = .ok spec := by
  obtain ⟨fields, hfields, hns, haction, hselector, hgroup, hlog⟩ := decode_eq_ok.mp h
  obtain rfl := Except.ok.inj ((ht.record_eq _ _).symm.trans hfields)
  have hfield : ∀ names ∈ spellings, ∀ {α : Type} {read : τ → Decoded α} {absent a : α},
      defaulted read absent ms names = .ok a → defaulted read absent ms' names = .ok a :=
    fun names hnames α read absent a hread =>
      defaulted_eq_ok.mpr (hspelled names hnames ▸ defaulted_eq_ok.mp hread)
  exact decode_eq_ok.mpr ⟨ms', ht'.record_eq _ _, hfield _ (by decide) hns,
    hfield _ (by decide) haction, hfield _ (by decide) hselector, hfield _ (by decide) hgroup,
    hfield _ (by decide) hlog⟩

/-- A selector whose expressions are spelled in both ways is rejected. -/
lemma Selector.decode_of_both {t : τ} {ms : List (String × τ)} (ht : IsObject t ms)
    (h : "matchExpression" ∈ ms.map Prod.fst) (h' : "matchExpressions" ∈ ms.map Prod.fst)
    (s : Selector) : Selector.decode t ≠ .ok s := by
  intro hread
  obtain ⟨fields, hfields, -, hexpressions⟩ := decode_eq_ok.mp hread
  obtain rfl := Except.ok.inj ((ht.record_eq _ _).symm.trans hfields)
  obtain ⟨v, hv, -⟩ := optional_eq_ok.mp hexpressions
  exact spelled_of_both (by decide) (by decide) (by decide) h h' v hv

/-- A content whose namespaces are spelled in both ways is rejected. -/
lemma PolicySpec.decode_of_both {t : τ} {ms : List (String × τ)} (ht : IsObject t ms)
    (h : "namespace" ∈ ms.map Prod.fst) (h' : "Namespace" ∈ ms.map Prod.fst)
    (spec : PolicySpec) : PolicySpec.decode t ≠ .ok spec := by
  intro hread
  obtain ⟨fields, hfields, hns, -⟩ := decode_eq_ok.mp hread
  obtain rfl := Except.ok.inj ((ht.record_eq _ _).symm.trans hfields)
  obtain ⟨v, hv, -⟩ := defaulted_eq_ok.mp hns
  exact spelled_of_both (by decide) (by decide) (by decide) h h' v hv

/-- The selector of a content that is read can be read. -/
lemma PolicySpec.decode_labelSelector {t v : τ} {ms : List (String × τ)} {spec : PolicySpec}
    (ht : IsObject t ms) (hv : ("labelSelector", v) ∈ ms) (h : PolicySpec.decode t = .ok spec) :
    Selector.decode v = .ok spec.labelSelector := by
  obtain ⟨fields, hfields, -, -, hselector, -⟩ := decode_eq_ok.mp h
  obtain rfl := Except.ok.inj ((ht.record_eq _ _).symm.trans hfields)
  have hmem : v ∈ spelled ["labelSelector"] ms :=
    List.mem_map.mpr ⟨_, List.mem_filter.mpr ⟨hv, by simp⟩, rfl⟩
  obtain ⟨w, hw, hread⟩ := defaulted_eq_ok.mp hselector
  rw [hw, Option.mem_toList] at hmem
  obtain rfl := Option.mem_def.mp hmem
  exact hread

/-- **Contents are read back.**  What is written for a content with a frequency of 32 bits is
read as this content; what a content was first read from makes no difference to what it is
read as when it has been written; and an object that spells one of its fields in both ways
is rejected, and so is one that has such an object for its selector. -/
theorem PolicySpec.round_trips :
    (∀ spec : PolicySpec, spec.logSpec.logFrequency < UInt32.size →
        PolicySpec.decode spec.encode = .ok spec) ∧
      (∀ (t : τ) (spec : PolicySpec), PolicySpec.decode t = .ok spec →
        PolicySpec.decode spec.encode = .ok spec) ∧
      (∀ (t : τ) (ms : List (String × τ)), IsObject t ms → "namespace" ∈ ms.map Prod.fst →
        "Namespace" ∈ ms.map Prod.fst → ∀ spec, PolicySpec.decode t ≠ .ok spec) ∧
      ∀ (t v : τ) (ms vms : List (String × τ)), IsObject t ms → ("labelSelector", v) ∈ ms →
        IsObject v vms → "matchExpression" ∈ vms.map Prod.fst →
          "matchExpressions" ∈ vms.map Prod.fst → ∀ spec, PolicySpec.decode t ≠ .ok spec := by
  refine ⟨fun spec h => (recovers h).read_write, fun t spec h => ?_,
    fun t ms ht h h' => decode_of_both ht h h', fun t v ms vms ht hv hvms h h' spec hread => ?_⟩
  · exact (recovers (frequency_lt h)).read_write
  · exact Selector.decode_of_both hvms h h' _ (decode_labelSelector ht hv hread)

/-! ### A document that is written by hand -/

/-- A document with the other spellings, with parts that are null, empty or left out, and with
a field that means nothing. -/
def draftedPolicy : Json := .obj [
  ("Namespace", .arr [.str "shop"]),
  ("labelSelector", .obj [
    ("matchLabels", .null),
    ("matchExpressions", .arr [.obj [("key", .str "app"), ("operator", .str "exists")]])]),
  ("logSpec", .obj [("destination", .arr [.obj [("port", .str "514"), ("comment", .null)]])]),
  ("comment", .bool true)]

/-- The content of the document. -/
def draftedSpec : PolicySpec where
  «namespace» := ["shop"]
  labelSelector := { matchExpressions := some [⟨"app", "exists", []⟩] }
  logSpec := { destination := [{ port := "514" }] }

/-- A document that spells its namespaces in both ways. -/
def twiceNamed : List (String × Json) := [("namespace", .arr []), ("Namespace", .arr [])]

/-- A selector that spells its expressions in both ways. -/
def twiceSelecting : List (String × Json) :=
  [("matchExpressions", .null), ("matchExpression", .arr [])]

/-- The content is read back, and neither of the other documents is read. -/
theorem round_trips_drafted :
    draftedSpec.logSpec.logFrequency < UInt32.size ∧
      PolicySpec.decode draftedPolicy = .ok draftedSpec ∧
      PolicySpec.decode draftedSpec.encode = .ok draftedSpec ∧
      (∀ spec, PolicySpec.decode (Json.obj twiceNamed) ≠ .ok spec) ∧
      ∀ spec, PolicySpec.decode (Json.obj [("labelSelector", .obj twiceSelecting)]) ≠ .ok spec := by
  have hread : PolicySpec.decode draftedPolicy = .ok draftedSpec := by decide
  obtain ⟨-, hagain, hnamed, hselecting⟩ := PolicySpec.round_trips (τ := Json)
  refine ⟨by decide, hread, hagain _ _ hread, ?_, ?_⟩
  · exact hnamed _ twiceNamed ⟨rfl, rfl⟩ (by decide) (by decide)
  · exact hselecting _ _ _ twiceSelecting ⟨rfl, rfl⟩ List.mem_cons_self ⟨rfl, rfl⟩ (by decide)
      (by decide)

end SidecarPolicy
