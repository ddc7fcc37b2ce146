/-
What is written is read back.

* `Decode.Recovers`: what is written for a value is read as this value again;
* `Decode.recovers_text`, `Decode.recovers_truth`, `Decode.recovers_int32`,
  `Decode.Recovers.list`: scalars and lists;
* `Decode.bind_eq_ok`, `Decode.list_eq_ok`, `Decode.eq_map_of_mapM`: what can be told of a
  document from what is read;
* `Decode.nullable_cons_self`, `Decode.nullable_cons_of_ne`,
  `Decode.field_map`, `Decode.field_some`: **a field of a written object is read
  back**, be it there or not;
* `Decode.nullable_setMember`, `Decode.constant_setMember`: setting one field
  leaves the others as they are.
-/
import Mathlib.Tactic
import SidecarPolicy.Decode
import SidecarPolicy.Proofs.Json.Slot

namespace SidecarPolicy.Decode

open Json

variable {α : Type}

/-! ### Values -/

/-- What is written for a value is read as this value again, and it is not null,
so it is read as well where the value may be left out. -/
structure Recovers (read : Json → Decoded α) (write : α → Json) (a : α) : Prop where
  read_write : read (write a) = .ok a
  notNull : Tree.isNull (write a) = false

lemma recovers_text (s : String) : Recovers text .str s := ⟨rfl, rfl⟩

lemma recovers_truth (b : Bool) : Recovers truth .bool b := ⟨rfl, rfl⟩

lemma recovers_int32 {i : Int} (h : -2147483648 ≤ i ∧ i ≤ 2147483647) :
    Recovers int32 .int i := by
  refine ⟨?_, rfl⟩
  rw [int32, integer]
  exact if_pos h

/-- Items that are read back one by one are read back together. -/
lemma mapM_map_eq_ok {β : Type} {read : β → Decoded α} {write : α → β} {xs : List α}
    (h : ∀ x ∈ xs, read (write x) = .ok x) : (xs.map write).mapM read = .ok xs := by
  induction xs with
  | nil => rfl
  | cons x xs ih =>
      rw [List.map_cons, List.mapM_cons, h x List.mem_cons_self,
        ih fun y hy => h y (List.mem_cons_of_mem x hy)]
      rfl

lemma list_encode {read : Json → Decoded α} {write : α → Json} {xs : List α}
    (h : ∀ x ∈ xs, read (write x) = .ok x) : list read (Encode.list write xs) = .ok xs :=
  mapM_map_eq_ok h

lemma Recovers.list {read : Json → Decoded α} {write : α → Json} {xs : List α}
    (h : ∀ x ∈ xs, Recovers read write x) :
    Recovers (Decode.list read) (Encode.list write) xs :=
  ⟨list_encode fun x hx => (h x hx).read_write, rfl⟩

lemma recovers_texts (xs : List String) : Recovers (list text) Encode.texts xs :=
  .list fun x _ => recovers_text x

/-! ### What has been read -/

/-- A result that was come to in two parts. -/
lemma bind_eq_ok {β : Type} {x : Decoded α} {f : α → Decoded β} {b : β} :
    (x >>= f) = .ok b ↔ ∃ a, x = .ok a ∧ f a = .ok b := by
  cases x with
  | error e => exact ⟨nofun, fun ⟨_, ha, _⟩ => nomatch ha⟩
  | ok a =>
      refine ⟨fun h => ⟨a, rfl, h⟩, ?_⟩
      rintro ⟨_, ⟨⟩, h⟩
      exact h

lemma text_eq_ok {v : Json} {s : String} (h : text v = .ok s) : v = .str s := by
  cases v with
  | str t => exact congrArg Json.str (Except.ok.inj h)
  | _ => cases h

lemma members_eq_ok {v : Json} {ms : List (String × Json)} (h : members v = .ok ms) :
    v = .obj ms := by
  cases v with
  | obj ms' => exact congrArg Json.obj (Except.ok.inj h)
  | _ => cases h

/-- What is read as a list is one, each item of which is read. -/
lemma list_eq_ok {read : Json → Decoded α} {v : Json} {xs : List α}
    (h : list read v = .ok xs) : ∃ items, v = .arr items ∧ items.mapM read = .ok xs := by
  obtain ⟨items, hitems, hread⟩ := bind_eq_ok.mp h
  cases v with
  | arr items' =>
      obtain rfl : items' = items := Except.ok.inj hitems
      exact ⟨items', rfl, hread⟩
  | _ => cases hitems

/-- Items that can be told from what they are read as. -/
lemma eq_map_of_mapM {β : Type} {read : β → Decoded α} {write : α → β}
    (hread : ∀ x a, read x = .ok a → x = write a) {items : List β} {xs : List α}
    (h : items.mapM read = .ok xs) : items = xs.map write := by
  induction items generalizing xs with
  | nil =>
      obtain rfl := Except.ok.inj h
      rfl
  | cons item items ih =>
      rw [List.mapM_cons] at h
      obtain ⟨x, hx, h⟩ := bind_eq_ok.mp h
      obtain ⟨rest, hrest, h⟩ := bind_eq_ok.mp h
      obtain rfl := Except.ok.inj h
      rw [List.map_cons, hread item x hx, ih hrest]

/-- As many items are read as there are. -/
lemma length_of_mapM {β : Type} {read : β → Decoded α} {items : List β} {xs : List α}
    (h : items.mapM read = .ok xs) : items.length = xs.length := by
  induction items generalizing xs with
  | nil =>
      obtain rfl := Except.ok.inj h
      rfl
  | cons item items ih =>
      rw [List.mapM_cons] at h
      obtain ⟨x, -, h⟩ := bind_eq_ok.mp h
      obtain ⟨rest, hrest, h⟩ := bind_eq_ok.mp h
      obtain rfl := Except.ok.inj h
      rw [List.length_cons, List.length_cons, ih hrest]

lemma mapM_append_eq_ok {β : Type} {read : β → Decoded α} {items items' : List β}
    {xs xs' : List α} (h : items.mapM read = .ok xs) (h' : items'.mapM read = .ok xs') :
    (items ++ items').mapM read = .ok (xs ++ xs') := by
  rw [List.mapM_append, h, h']
  rfl

/-! ### Values of a name -/

lemma valuesOf_cons_self (name : String) (v : Json) (ms : List (String × Json)) :
    valuesOf name ((name, v) :: ms) = v :: valuesOf name ms := by
  simp [valuesOf]

lemma valuesOf_cons_of_ne {name : String} {m : String × Json} (h : m.1 ≠ name)
    (ms : List (String × Json)) : valuesOf name (m :: ms) = valuesOf name ms := by
  have hkey : (m.1 == name) = false := beq_eq_false_iff_ne.mpr h
  simp [valuesOf, hkey]

/-- A name that no member has has no values. -/
lemma valuesOf_eq_nil {name : String} {ms : List (String × Json)}
    (h : name ∉ ms.map Prod.fst) : valuesOf name ms = [] := by
  induction ms with
  | nil => rfl
  | cons m rest ih =>
      obtain ⟨hm, hrest⟩ := not_or.mp (mt List.mem_cons.mpr h)
      rw [valuesOf_cons_of_ne (Ne.symm hm), ih hrest]

/-- The values of a name that stands at most once. -/
lemma valuesOf_eq_toList {name : String} {ms : List (String × Json)}
    (h : (ms.map Prod.fst).Nodup) : valuesOf name ms = (member? name ms).toList := by
  induction ms with
  | nil => rfl
  | cons m rest ih =>
      obtain ⟨hfirst, hrest⟩ := List.nodup_cons.mp h
      rw [member?]
      split_ifs with hm
      · obtain ⟨key, v⟩ := m
        obtain rfl : key = name := hm
        rw [valuesOf_cons_self, valuesOf_eq_nil hfirst]
        rfl
      · rw [valuesOf_cons_of_ne hm, ih hrest]

/-- What a field is read as depends on the values of its name. -/
lemma nullable_congr {read : Json → Decoded α} {name : String} {ms ms' : List (String × Json)}
    (h : valuesOf name ms = valuesOf name ms') :
    nullable read ms name = nullable read ms' name := by
  rw [nullable, h]
  rfl

/-- What is checked of a field depends on the values of its name. -/
lemma constant_congr {name : String} {ms ms' : List (String × Json)}
    (h : valuesOf name ms = valuesOf name ms') (expected : String) :
    constant ms name expected = constant ms' name expected := by
  rw [constant, h]
  rfl

/-! ### Fields of a written object -/

/-- The fields that are present. -/
def present (fields : List (String × Option Json)) : List (String × Json) :=
  fields.filterMap fun f => f.2.map (f.1, ·)

@[simp]
lemma members_obj (ms : List (String × Json)) : members (Json.obj ms) = .ok ms := rfl

/-- The members of a written object are its fields that are present. -/
@[simp]
lemma members_object (fields : List (String × Option Json)) :
    members (Encode.object fields) = .ok (present fields) := rfl

@[simp]
lemma ok_bind {β : Type} (a : α) (f : α → Decoded β) :
    ((Except.ok a : Decoded α) >>= f) = f a := rfl

@[simp]
lemma pure_eq_ok (a : α) : (pure a : Decoded α) = .ok a := rfl

/-- The names of the fields that are present are among all of them. -/
lemma present_sublist (fields : List (String × Option Json)) :
    ((present fields).map Prod.fst).Sublist (fields.map Prod.fst) := by
  induction fields with
  | nil => exact .slnil
  | cons f fields ih =>
      obtain ⟨key, v⟩ := f
      cases v with
      | none => exact ih.cons key
      | some v => exact ih.cons_cons key

lemma valuesOf_present_of_ne {key name : String} (h : key ≠ name) (v : Option Json)
    (fields : List (String × Option Json)) :
    valuesOf name (present ((key, v) :: fields)) = valuesOf name (present fields) := by
  cases v with
  | none => rfl
  | some v => exact valuesOf_cons_of_ne h _

/-- A field is the only one of its name if no later one has it. -/
lemma valuesOf_present_self {name : String} {fields : List (String × Option Json)}
    (h : name ∉ fields.map Prod.fst) (v : Option Json) :
    valuesOf name (present ((name, v) :: fields)) = v.toList := by
  have hnone : valuesOf name (present fields) = [] :=
    valuesOf_eq_nil fun hmem => h ((present_sublist fields).subset hmem)
  cases v with
  | none => exact hnone
  | some v => exact (valuesOf_cons_self name v _).trans (congrArg (v :: ·) hnone)

/-- What a field is read as that stands at most once. -/
def field (read : Json → Decoded α) : Option Json → Decoded (Option α)
  | none => .ok none
  | some v => unlessNull read v

@[simp]
lemma nullable_cons_of_ne {read : Json → Decoded α} {key name : String} (h : key ≠ name)
    (v : Option Json) (fields : List (String × Option Json)) :
    nullable read (present ((key, v) :: fields)) name = nullable read (present fields) name :=
  nullable_congr (valuesOf_present_of_ne h v fields)

@[simp]
lemma nullable_cons_self {read : Json → Decoded α} {name : String}
    {fields : List (String × Option Json)} (h : name ∉ fields.map Prod.fst) (v : Option Json) :
    nullable read (present ((name, v) :: fields)) name = field read v := by
  rw [nullable, valuesOf_present_self h]
  cases v with
  | none => rfl
  | some v =>
      rw [field, Option.toList_some, List.mapM_cons]
      cases unlessNull read v <;> rfl

@[simp]
lemma constant_cons_of_ne {key name : String} (h : key ≠ name) (v : Option Json)
    (fields : List (String × Option Json)) (expected : String) :
    constant (present ((key, v) :: fields)) name expected =
      constant (present fields) name expected :=
  constant_congr (valuesOf_present_of_ne h v fields) expected

@[simp]
lemma constant_cons_self {name : String} {fields : List (String × Option Json)}
    (h : name ∉ fields.map Prod.fst) (expected : String) :
    constant (present ((name, some (.str expected)) :: fields)) name expected = .ok () := by
  rw [constant, valuesOf_present_self h]
  exact (bind_pure _).trans (if_pos rfl)

/-- A field whose value is not null is read as this value. -/
lemma field_eq_ok {read : Json → Decoded α} {v : Json} {a : α} (hread : read v = .ok a)
    (hnull : Tree.isNull v = false) : field read (some v) = .ok (some a) := by
  rw [field, unlessNull, hnull, hread]
  rfl

lemma field_some {read : Json → Decoded α} {write : α → Json} {x : α}
    (h : Recovers read write x) : field read (some (write x)) = .ok (some x) :=
  field_eq_ok h.read_write h.notNull

lemma field_map {read : Json → Decoded α} {write : α → Json} {a : Option α}
    (h : ∀ x ∈ a, Recovers read write x) : field read (a.map write) = .ok a := by
  cases a with
  | none => rfl
  | some x => exact field_some (h x rfl)

/-- What has been read of a field stands there. -/
lemma exists_of_field {read : Json → Decoded α} {v : Option Json} {a : α}
    (h : field read v = .ok (some a)) : ∃ w, v = some w ∧ read w = .ok a := by
  cases v with
  | none => cases h
  | some w =>
      rw [field, unlessNull] at h
      split_ifs at h with hnull
      · cases h
      · cases hread : read w with
        | error e => rw [hread] at h; cases h
        | ok b =>
            rw [hread] at h
            obtain rfl : b = a := Option.some.inj (Except.ok.inj h)
            exact ⟨w, rfl, hread⟩

/-- If nothing has been read of a field, it is left out or null. -/
lemma absent_of_field {read : Json → Decoded α} {v : Option Json}
    (h : field read v = .ok none) : v = none ∨ v = some .null := by
  cases v with
  | none => exact .inl rfl
  | some w =>
      rw [field, unlessNull] at h
      split_ifs at h with hnull
      · cases w with
        | null => exact .inr rfl
        | _ => cases hnull
      · cases hread : read w <;> rw [hread] at h <;> cases h

@[simp]
lemma field_text_map (a : Option String) : field text (a.map .str) = .ok a :=
  field_map fun s _ => recovers_text s

@[simp]
lemma field_text_some (s : String) : field text (some (.str s)) = .ok (some s) := rfl

@[simp]
lemma field_truth_map (a : Option Bool) : field truth (a.map .bool) = .ok a :=
  field_map fun b _ => recovers_truth b

/-- A list of texts that may be left out is read back. -/
@[simp]
lemma field_texts_map (a : Option (List String)) :
    field (list text) (a.map Encode.texts) = .ok a :=
  field_map fun xs _ => recovers_texts xs

/-- A member is looked up behind the fields that have other names. -/
@[simp]
lemma member?_present_of_ne {key name : String} (h : key ≠ name) (v : Option Json)
    (fields : List (String × Option Json)) :
    member? name (present ((key, v) :: fields)) = member? name (present fields) := by
  cases v with
  | none => rfl
  | some v => exact if_neg h

/-- A field is the member of its name if no later one has it. -/
@[simp]
lemma member?_present_self {name : String} {fields : List (String × Option Json)}
    (h : name ∉ fields.map Prod.fst) (v : Option Json) :
    member? name (present ((name, v) :: fields)) = v := by
  cases v with
  | none => exact member?_eq_none fun hmem => h ((present_sublist fields).subset hmem)
  | some v => exact if_pos rfl

/-! ### Setting a field -/

/-- Setting a field leaves the values of the other ones. -/
lemma valuesOf_setMember_of_ne {name other : String} (h : other ≠ name) (v : Json)
    (ms : List (String × Json)) : valuesOf other (setMember name v ms) = valuesOf other ms := by
  induction ms with
  | nil => exact valuesOf_cons_of_ne h.symm []
  | cons m rest ih =>
      rw [setMember]
      split_ifs with hm
      · rw [valuesOf_cons_of_ne h.symm, valuesOf_cons_of_ne (hm ▸ h.symm)]
      · by_cases hother : m.1 = other
        · obtain ⟨key, w⟩ := m
          obtain rfl : key = other := hother
          rw [valuesOf_cons_self, valuesOf_cons_self, ih]
        · rw [valuesOf_cons_of_ne hother, valuesOf_cons_of_ne hother, ih]

lemma nullable_setMember {read : Json → Decoded α} {name other : String} (h : other ≠ name)
    (v : Json) (ms : List (String × Json)) :
    nullable read (setMember name v ms) other = nullable read ms other :=
  nullable_congr (valuesOf_setMember_of_ne h v ms)

lemma constant_setMember {name other : String} (h : other ≠ name) (expected : String)
    (v : Json) (ms : List (String × Json)) :
    constant (setMember name v ms) other expected = constant ms other expected :=
  constant_congr (valuesOf_setMember_of_ne h v ms) expected

/-- If no field stands twice, a field is read from the member of its name. -/
lemma nullable_eq_field {read : Json → Decoded α} {name : String} {ms : List (String × Json)}
    (h : (ms.map Prod.fst).Nodup) : nullable read ms name = field read (member? name ms) := by
  rw [nullable, valuesOf_eq_toList h]
  cases member? name ms with
  | none => rfl
  | some v =>
      rw [field, Option.toList_some, List.mapM_cons]
      cases unlessNull read v <;> rfl

/-- A field that is set is read, if no field stands twice. -/
lemma nullable_setMember_self {read : Json → Decoded α} {name : String} (v : Json)
    {ms : List (String × Json)} (h : (ms.map Prod.fst).Nodup) :
    nullable read (setMember name v ms) name = field read (some v) := by
  rw [nullable_eq_field (nodup_setMember h name v), member?_setMember_self]

end SidecarPolicy.Decode
