/-
Labels and annotations as the members of an object.

* `Labels.get?_overwrite`, `Labels.get?_without`: the values of a map that is
  overwritten, and of one from which keys are removed;
* `Labels.Mirrors`: a map, and an object with the same entries;
* `Labels.mirrors_entries`: the members under which a map is written;
* `Labels.setAll`, `Labels.removeAll`: members set and removed one by one;
* `Labels.Mirrors.setAll`, `Labels.Mirrors.removeAll`: that does to the map what
  is meant by it;
* `Labels.Mirrors.labels_eq_ok`: **the map is read back from the object**;
* `Labels.mirrors_of_labels_eq_ok`: the object from which a map is read mirrors it.
-/
import SidecarPolicy.Proofs.Decode
import SidecarPolicy.Proofs.Json.Slot
import SidecarPolicy.Proofs.KeyMap

namespace SidecarPolicy.Labels

open Json

/-- A map that is overwritten has the desired values, and elsewhere its own. -/
lemma get?_overwrite (current desired : Labels) (k : String) :
    (overwrite current desired).get? k = (desired.get? k).or (current.get? k) := by
  cases hk : desired.get? k with
  | none => exact KeyMap.get?_insertAll_of_not_mem (KeyMap.not_mem_keys hk) current
  | some v =>
      have hv : (k, v) ∈ desired.entries := KeyMap.mem_entries_iff.mpr hk
      exact KeyMap.get?_insertAll_of_mem desired.nodup_keys hv current

/-- A map without some keys has none of them, and elsewhere its own values. -/
lemma get?_without (current : Labels) (keys : List String) (k : String) :
    (without current keys).get? k = if k ∈ keys then none else current.get? k := by
  induction keys generalizing current with
  | nil => rfl
  | cons k' keys ih =>
      rw [without, List.foldl_cons]
      refine (ih (current.erase k')).trans ?_
      by_cases hk : k = k'
      · rw [hk, KeyMap.get?_erase_self, ite_self, if_pos List.mem_cons_self]
      · rw [KeyMap.get?_erase_of_ne hk]
        simp only [List.mem_cons, hk, false_or]

/-! ### Maps and members -/

/-- The members of an object are the entries of a map: no name stands twice, and
every key has the same value in both. -/
structure Mirrors (m : Labels) (ms : List (String × Json)) : Prop where
  nodup : (ms.map Prod.fst).Nodup
  member? : ∀ k, Json.member? k ms = (m.get? k).map .str

/-- The members under which a map is written mirror it. -/
lemma mirrors_entries (m : Labels) :
    Mirrors m (m.entries.map fun e => (e.1, .str e.2)) := by
  have hnames : (m.entries.map fun e => (e.1, Json.str e.2)).map Prod.fst =
      m.entries.map Prod.fst := by rw [List.map_map]; rfl
  refine ⟨hnames ▸ KeyMap.nodup_keys m, fun k => ?_⟩
  cases hk : m.get? k with
  | none => exact member?_eq_none (hnames ▸ KeyMap.not_mem_keys hk)
  | some v =>
      have he : (k, v) ∈ m.entries := KeyMap.mem_entries_iff.mpr hk
      exact member?_eq_some (hnames ▸ KeyMap.nodup_keys m) (List.mem_map_of_mem he)

/-- An annotation is set in the map as in the object. -/
lemma Mirrors.insert {m : Labels} {ms : List (String × Json)} (h : Mirrors m ms)
    (k v : String) : Mirrors (m.insert k v) (setMember k (.str v) ms) where
  nodup := nodup_setMember h.nodup k _
  member? k' := by
    by_cases hk : k' = k
    · subst hk
      rw [member?_setMember_self, KeyMap.get?_insert_self]
      rfl
    · rw [member?_setMember_of_ne hk, KeyMap.get?_insert_of_ne hk, h.member?]

/-- An annotation is removed from the map as from the object. -/
lemma Mirrors.erase {m : Labels} {ms : List (String × Json)} (h : Mirrors m ms)
    (k : String) : Mirrors (m.erase k) (removeMember k ms) where
  nodup := by
    have hsub : ∀ l : List (String × Json), (removeMember k l).Sublist l := by
      intro l
      induction l with
      | nil => exact .slnil
      | cons m' l ih =>
          rw [removeMember]
          split_ifs
          · exact List.sublist_cons_self _ _
          · exact ih.cons_cons _
    exact h.nodup.sublist ((hsub ms).map Prod.fst)
  member? k' := by
    by_cases hk : k' = k
    · subst hk
      rw [member?_removeMember_self h.nodup, KeyMap.get?_erase_self]
      rfl
    · rw [member?_removeMember_of_ne hk, KeyMap.get?_erase_of_ne hk, h.member?]

/-! ### Many members -/

/-- Members with each of some annotations set in turn. -/
def setAll (pairs : List (String × String)) (ms : List (String × Json)) :
    List (String × Json) :=
  pairs.foldl (fun ms e => setMember e.1 (.str e.2) ms) ms

/-- Members without any of some names. -/
def removeAll (keys : List String) (ms : List (String × Json)) : List (String × Json) :=
  keys.foldl (fun ms k => removeMember k ms) ms

lemma Mirrors.setAll {m : Labels} {ms : List (String × Json)} (h : Mirrors m ms)
    (pairs : List (String × String)) : Mirrors (m.insertAll pairs) (setAll pairs ms) := by
  induction pairs generalizing m ms with
  | nil => exact h
  | cons e pairs ih => exact ih (h.insert e.1 e.2)

lemma Mirrors.removeAll {m : Labels} {ms : List (String × Json)} (h : Mirrors m ms)
    (keys : List String) : Mirrors (m.without keys) (removeAll keys ms) := by
  induction keys generalizing m ms with
  | nil => exact h
  | cons k keys ih => exact ih (h.erase k)

lemma member?_setAll {k : String} {pairs : List (String × String)}
    (h : k ∉ pairs.map Prod.fst) (ms : List (String × Json)) :
    Json.member? k (setAll pairs ms) = Json.member? k ms := by
  induction pairs generalizing ms with
  | nil => rfl
  | cons e pairs ih =>
      have hne : k ≠ e.1 := fun heq => h (heq ▸ List.mem_cons_self)
      rw [setAll, List.foldl_cons]
      exact (ih (mt (List.mem_cons_of_mem _) h) _).trans (member?_setMember_of_ne hne _ ms)

lemma member?_removeAll {k : String} {keys : List String} (h : k ∉ keys)
    (ms : List (String × Json)) :
    Json.member? k (removeAll keys ms) = Json.member? k ms := by
  induction keys generalizing ms with
  | nil => rfl
  | cons k' keys ih =>
      have hne : k ≠ k' := fun heq => h (heq ▸ List.mem_cons_self)
      rw [removeAll, List.foldl_cons]
      exact (ih (mt (List.mem_cons_of_mem _) h) _).trans (member?_removeMember_of_ne hne ms)

/-! ### Reading a map -/

/-- Members that are set under new names are added at the end. -/
lemma setAll_eq_append {pairs : List (String × String)} {ms : List (String × Json)}
    (hdistinct : (pairs.map Prod.fst).Nodup)
    (hnew : ∀ e ∈ pairs, e.1 ∉ ms.map Prod.fst) :
    setAll pairs ms = ms ++ pairs.map fun e => (e.1, .str e.2) := by
  induction pairs generalizing ms with
  | nil => exact (List.append_nil ms).symm
  | cons e pairs ih =>
      obtain ⟨hfirst, hdistinct⟩ := List.nodup_cons.mp hdistinct
      have hrest : ∀ e' ∈ pairs, e'.1 ∉ (ms ++ [(e.1, Json.str e.2)]).map Prod.fst := by
        intro e' he' hmem
        rw [List.map_append, List.mem_append] at hmem
        rcases hmem with hmem | hmem
        · exact hnew e' (List.mem_cons_of_mem e he') hmem
        · have heq : e'.1 = e.1 := List.mem_singleton.mp hmem
          exact hfirst (heq ▸ List.mem_map_of_mem he')
      rw [setAll, List.foldl_cons, setMember_of_not_mem (hnew e List.mem_cons_self)]
      refine (ih hdistinct hrest).trans ?_
      rw [List.map_cons, List.append_assoc, List.singleton_append]

/-- The map of some pairs is mirrored by the members with these pairs, if no key
stands twice. -/
lemma mirrors_ofList {pairs : List (String × String)} (h : (pairs.map Prod.fst).Nodup) :
    Mirrors (KeyMap.ofList pairs) (pairs.map fun e => (e.1, .str e.2)) := by
  have hset : setAll pairs [] = pairs.map fun e => (e.1, .str e.2) :=
    setAll_eq_append h fun _ _ => List.not_mem_nil
  exact hset ▸ (mirrors_entries .empty).setAll pairs

lemma Mirrors.unique {m m' : Labels} {ms : List (String × Json)} (h : Mirrors m ms)
    (h' : Mirrors m' ms) : m = m' := by
  refine KeyMap.ext_get? fun k => ?_
  have heq := (h.member? k).symm.trans (h'.member? k)
  exact Option.map_injective (fun _ _ => Json.str.inj) heq

/-- The members of an object that mirrors a map are texts. -/
lemma Mirrors.exists_pairs {m : Labels} {ms : List (String × Json)} (h : Mirrors m ms) :
    ∃ pairs : List (String × String), ms = pairs.map fun e => (e.1, .str e.2) := by
  have htext : ms ∈ Set.range (List.map fun e : String × String => (e.1, Json.str e.2)) := by
    rw [Set.range_list_map]
    rintro ⟨k, v⟩ he
    have hk := (h.member? k).symm.trans (member?_eq_some h.nodup he)
    obtain ⟨t, -, rfl⟩ := Option.map_eq_some_iff.mp hk
    exact ⟨(k, t), rfl⟩
  obtain ⟨pairs, hpairs⟩ := htext
  exact ⟨pairs, hpairs.symm⟩

/-- **The map is read back from the object** that mirrors it. -/
theorem Mirrors.labels_eq_ok {m : Labels} {ms : List (String × Json)} (h : Mirrors m ms) :
    Decode.labels (Json.obj ms) = .ok m := by
  obtain ⟨pairs, rfl⟩ := h.exists_pairs
  have hnames : (pairs.map Prod.fst).Nodup := by
    have hnodup := h.nodup
    rwa [List.map_map] at hnodup
  have hread : (pairs.map fun e => (e.1, Json.str e.2)).mapM
      (fun e => do return (e.1, ← Decode.text e.2)) = (.ok pairs : Decoded _) :=
    Decode.mapM_map_eq_ok fun _ _ => rfl
  rw [h.unique (mirrors_ofList hnames)]
  exact congrArg (Functor.map KeyMap.ofList) hread

/-- A map is read from an object, which mirrors it if no name stands twice. -/
lemma mirrors_of_labels_eq_ok {m : Labels} {v : Json} (h : Decode.labels v = .ok m) :
    ∃ ms, v = .obj ms ∧ ((ms.map Prod.fst).Nodup → Mirrors m ms) := by
  obtain ⟨ms, hms, h⟩ := Decode.bind_eq_ok.mp h
  obtain ⟨pairs, hpairs, h⟩ := Decode.bind_eq_ok.mp h
  obtain rfl := Except.ok.inj h
  refine ⟨ms, Decode.members_eq_ok hms, fun hnames => ?_⟩
  have htexts : ms = pairs.map fun e => (e.1, .str e.2) := by
    refine Decode.eq_map_of_mapM (fun e pair hpair => ?_) hpairs
    obtain ⟨t, ht, hpair⟩ := Decode.bind_eq_ok.mp hpair
    obtain rfl := Except.ok.inj hpair
    rw [← Decode.text_eq_ok ht]
  have hdistinct : (pairs.map Prod.fst).Nodup := by
    rw [htexts, List.map_map] at hnames
    exact hnames
  exact htexts.symm ▸ mirrors_ofList hdistinct

end SidecarPolicy.Labels
