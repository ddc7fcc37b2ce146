/-
Finite maps as functions of their keys.

* `KeyMap.ext_get?`: **maps with the same look-ups are equal**;
* `KeyMap.nodup_keys`: the keys are distinct;
* `KeyMap.mem_values`, `KeyMap.isEmpty_iff`: the values are what look-ups find;
* `KeyMap.get?_insertAll_of_mem`, `KeyMap.get?_insertAll_of_not_mem`: what setting
  many keys does to a look-up;
* `KeyMap.get?_ofList`: **the last pair of a key wins**;
* `KeyMap.ofList_congr`: the order of pairs with distinct keys makes no difference;
* `KeyMap.get?_ofList_eq_some`: a map that is built of pairs that agree with each other;
* `KeyMap.mapValues`, `KeyMap.get?_mapValues`: every value replaced.
-/
import Mathlib.Tactic
import SidecarPolicy.KeyMap

namespace SidecarPolicy.KeyMap

universe u v

variable {κ : Type u} {β : Type v} [LT κ] [KeyOrder κ]

lemma nodup_keys (m : KeyMap κ β) : (m.entries.map Prod.fst).Nodup := by
  refine List.pairwise_map.mpr (m.ascending.imp ?_)
  intro e e' h heq
  exact KeyOrder.irrefl _ (heq ▸ h)

variable [DecidableLT κ]

/-- A key without a value is not among the keys of a map. -/
lemma not_mem_keys {m : KeyMap κ β} {k : κ} (h : m.get? k = none) :
    k ∉ m.entries.map Prod.fst := by
  intro hk
  obtain ⟨⟨k', v⟩, he, rfl⟩ := List.mem_map.mp hk
  rw [mem_entries_iff.mp he] at h
  cases h

/-- **Maps with the same look-ups are equal**: their entries are the same, and
ascending keys leave only one order. -/
theorem ext_get? {m m' : KeyMap κ β} (h : ∀ k, m.get? k = m'.get? k) : m = m' := by
  have hnodup : ∀ m : KeyMap κ β, m.entries.Nodup := fun m => m.nodup_keys.of_map _
  have hperm : m.entries.Perm m'.entries := by
    refine (List.perm_ext_iff_of_nodup (hnodup m) (hnodup m')).mpr ?_
    rintro ⟨k, v⟩
    rw [mem_entries_iff, mem_entries_iff, h k]
  refine ext_entries (hperm.eq_of_pairwise ?_ m.ascending m'.ascending)
  intro e e' _ _ hlt hgt
  exact absurd hgt (KeyOrder.asymm hlt)

/-- The values of a map are what look-ups find. -/
lemma mem_values {m : KeyMap κ β} {v : β} : v ∈ m.values ↔ ∃ k, m.get? k = some v := by
  constructor
  · intro hv
    obtain ⟨⟨k, v'⟩, he, rfl⟩ := List.mem_map.mp hv
    exact ⟨k, mem_entries_iff.mp he⟩
  · rintro ⟨k, hk⟩
    exact List.mem_map.mpr ⟨(k, v), mem_entries_iff.mpr hk, rfl⟩

/-- A map is empty if no key has a value. -/
lemma isEmpty_iff {m : KeyMap κ β} : m.isEmpty = true ↔ ∀ k, m.get? k = none := by
  rw [isEmpty, List.isEmpty_iff]
  constructor
  · intro hempty k
    rw [get?, hempty]
    rfl
  · intro hnone
    refine List.eq_nil_iff_forall_not_mem.mpr fun e he => ?_
    cases (hnone e.1).symm.trans (mem_entries_iff.mp he)

/-! ### Setting many keys -/

/-- A key that is not set keeps its value. -/
lemma get?_insertAll_of_not_mem {k : κ} {pairs : List (κ × β)}
    (h : k ∉ pairs.map Prod.fst) (m : KeyMap κ β) : (m.insertAll pairs).get? k = m.get? k := by
  induction pairs generalizing m with
  | nil => rfl
  | cons e pairs ih =>
      have hne : k ≠ e.1 := fun heq => h (heq ▸ List.mem_cons_self)
      rw [insertAll, List.foldl_cons]
      exact (ih (mt (List.mem_cons_of_mem _) h) _).trans (get?_insert_of_ne hne _ _)

/-- A key that is set once has the new value. -/
lemma get?_insertAll_of_mem {k : κ} {v : β} {pairs : List (κ × β)}
    (hdistinct : (pairs.map Prod.fst).Nodup) (h : (k, v) ∈ pairs) (m : KeyMap κ β) :
    (m.insertAll pairs).get? k = some v := by
  induction pairs generalizing m with
  | nil => cases h
  | cons e pairs ih =>
      obtain ⟨hfirst, hdistinct⟩ := List.nodup_cons.mp hdistinct
      rw [insertAll, List.foldl_cons]
      obtain rfl | h := List.mem_cons.mp h
      · exact (get?_insertAll_of_not_mem hfirst _).trans (get?_insert_self m k v)
      · exact ih hdistinct h _

section Last

variable [BEq κ] [LawfulBEq κ]

/-- The last pair of a key decides; without one the key keeps its value. -/
lemma get?_insertAll (m : KeyMap κ β) (pairs : List (κ × β)) (k : κ) :
    (m.insertAll pairs).get? k = (pairs.reverse.lookup k).or (m.get? k) := by
  induction pairs generalizing m with
  | nil => rfl
  | cons e pairs ih =>
      have hinsert : (m.insert e.1 e.2).get? k = ([e].lookup k).or (m.get? k) := by
        rw [List.lookup_cons]
        by_cases hk : k = e.1
        · subst hk
          rw [get?_insert_self, beq_self_eq_true]
          rfl
        · rw [get?_insert_of_ne hk, beq_false_of_ne hk]
          rfl
      rw [insertAll, List.foldl_cons, List.reverse_cons, List.lookup_append, Option.or_assoc,
        ← hinsert]
      exact ih (m.insert e.1 e.2)

/-- **The last pair of a key wins.** -/
theorem get?_ofList (pairs : List (κ × β)) (k : κ) :
    (ofList pairs).get? k = pairs.reverse.lookup k :=
  (get?_insertAll empty pairs k).trans (Option.or_none ..)

end Last

/-- The order of pairs with distinct keys makes no difference. -/
lemma ofList_congr {pairs pairs' : List (κ × β)} (hdistinct : (pairs.map Prod.fst).Nodup)
    (h : pairs'.Perm pairs) : ofList pairs' = ofList pairs := by
  have hkeys := h.map Prod.fst
  refine ext_get? fun k => ?_
  by_cases hk : k ∈ pairs.map Prod.fst
  · obtain ⟨⟨k, v⟩, he, rfl⟩ := List.mem_map.mp hk
    rw [ofList, ofList, get?_insertAll_of_mem hdistinct he,
      get?_insertAll_of_mem (hkeys.nodup_iff.mpr hdistinct) (h.mem_iff.mpr he)]
  · rw [ofList, ofList, get?_insertAll_of_not_mem hk,
      get?_insertAll_of_not_mem (mt hkeys.mem_iff.mp hk)]

section Function

variable {f : κ → Option β} {k : κ} {v : β}

/-- Pairs that agree with each other and with the map are added to it. -/
lemma get?_insertAll_eq_some {pairs : List (κ × β)} (hpairs : ∀ e ∈ pairs, f e.1 = some e.2)
    {m : KeyMap κ β} (hm : ∀ k v, m.get? k = some v → f k = some v) :
    (m.insertAll pairs).get? k = some v ↔ (k, v) ∈ pairs ∨ m.get? k = some v := by
  -- all agree with the function `f`, so that nothing is overwritten by another value
  induction pairs generalizing m with
  | nil => exact (or_iff_right List.not_mem_nil).symm
  | cons e pairs ih =>
      obtain ⟨he, hpairs⟩ := List.forall_mem_cons.mp hpairs
      have hinsert : ∀ k v, (m.insert e.1 e.2).get? k = some v ↔
          (k, v) = e ∨ m.get? k = some v := by
        intro k v
        by_cases hk : k = e.1
        · subst hk
          rw [get?_insert_self]
          constructor
          · rintro ⟨⟩
            exact .inl rfl
          · rintro (heq | hv)
            · exact congrArg (fun e => some e.2) heq.symm
            · exact he.symm.trans (hm e.1 v hv)
        · rw [get?_insert_of_ne hk, or_iff_right fun heq => hk (congrArg Prod.fst heq)]
      have hagrees : ∀ k v, (m.insert e.1 e.2).get? k = some v → f k = some v := by
        intro k v hv
        obtain rfl | hv := (hinsert k v).mp hv
        · exact he
        · exact hm k v hv
      rw [insertAll, List.foldl_cons]
      refine (ih hpairs hagrees).trans ?_
      rw [hinsert, List.mem_cons, or_left_comm, or_assoc]

/-- A map that is built of pairs that agree with each other has just these. -/
lemma get?_ofList_eq_some {pairs : List (κ × β)} (hpairs : ∀ e ∈ pairs, f e.1 = some e.2) :
    (ofList pairs).get? k = some v ↔ (k, v) ∈ pairs := by
  have hempty : ∀ k v, (empty : KeyMap κ β).get? k = some v → f k = some v :=
    fun _ _ h => nomatch h
  refine (get?_insertAll_eq_some hpairs hempty).trans (or_iff_left ?_)
  exact fun h => nomatch h

end Function

/-! ### Replacing all values -/

/-- The map with every value replaced. -/
def mapValues (m : KeyMap κ β) (f : β → β) : KeyMap κ β where
  entries := m.entries.map fun e => (e.1, f e.2)
  ascending := List.pairwise_map.mpr m.ascending

omit [KeyOrder κ] [DecidableLT κ] in
lemma values_mapValues (m : KeyMap κ β) (f : β → β) : (m.mapValues f).values = m.values.map f := by
  rw [values, values, mapValues, List.map_map, List.map_map]
  rfl

/-- Every key keeps its place. -/
lemma get?_mapValues (m : KeyMap κ β) (f : β → β) (k : κ) :
    (m.mapValues f).get? k = (m.get? k).map f := by
  cases hk : m.get? k with
  | none =>
      refine Option.eq_none_iff_forall_ne_some.mpr fun v hv => ?_
      obtain ⟨e, he, heq⟩ := List.mem_map.mp (mem_entries_iff.mpr hv)
      have hkey : e.1 = k := congrArg Prod.fst heq
      exact not_mem_keys hk (hkey ▸ List.mem_map_of_mem he)
  | some v =>
      refine mem_entries_iff.mp (List.mem_map.mpr ⟨(k, v), mem_entries_iff.mpr hk, rfl⟩)

omit [KeyOrder κ] [DecidableLT κ] in
/-- Values may be replaced at once as well as one time after another. -/
lemma mapValues_mapValues (m : KeyMap κ β) (f g : β → β) :
    (m.mapValues f).mapValues g = m.mapValues (g ∘ f) := by
  refine ext_entries ?_
  show (m.entries.map fun e => (e.1, f e.2)).map (fun e => (e.1, g e.2)) = _
  rw [List.map_map]
  rfl

end SidecarPolicy.KeyMap
