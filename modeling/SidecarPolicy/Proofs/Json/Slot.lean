/-
Places in a document, and documents that differ at one place only.

A slot is a place that is reached through objects alone, so it may be empty:
the last object on the way need not have a member of the name.

* `Json.get?`: what stands at a pointer, through objects and lists;
* `Json.Slot`, `Json.fill`: what stands in a slot, and the document with a value
  put there;
* `Json.Slot.fill`, `Json.Slot.fill_fill`, `Json.Slot.fill_self`: filling a slot;
* `Json.Slot.get?_fill_append`, `Json.Slot.get?_fill_of_apart`: what stands
  below a filled slot, and that whatever stands elsewhere stays.
-/
import Mathlib.Tactic
import SidecarPolicy.Json.Pointer

namespace SidecarPolicy.Json

/-! ### Members -/

/-- Setting a member to what it is changes nothing. -/
lemma setMember_of_member? {name : String} {v : Json} {ms : List (String × Json)}
    (h : member? name ms = some v) : setMember name v ms = ms := by
  induction ms with
  | nil => simp [member?] at h
  | cons m rest ih =>
      rw [member?] at h
      rw [setMember]
      split_ifs at h ⊢ with hm
      · obtain rfl := Option.some.inj h
        rw [← hm]
      · rw [ih h]

/-- Of two settings of a member the second one counts. -/
lemma setMember_setMember (name : String) (v w : Json) (ms : List (String × Json)) :
    setMember name w (setMember name v ms) = setMember name w ms := by
  induction ms with
  | nil => simp [setMember]
  | cons m rest ih =>
      rw [setMember, setMember]
      split_ifs with hm
      · rw [setMember, if_pos rfl]
      · rw [setMember, if_neg hm, ih]

/-- Without a member of the name there is nothing to remove. -/
lemma removeMember_of_member?_eq_none {name : String} {ms : List (String × Json)}
    (h : member? name ms = none) : removeMember name ms = ms := by
  induction ms with
  | nil => rfl
  | cons m rest ih =>
      rw [member?] at h
      rw [removeMember]
      split_ifs at h ⊢ with hm
      rw [ih h]

/-- A name that does not stand among the members has no value. -/
lemma member?_eq_none {k : String} {ms : List (String × Json)} (h : k ∉ ms.map Prod.fst) :
    member? k ms = none := by
  induction ms with
  | nil => rfl
  | cons m rest ih =>
      obtain ⟨hm, hrest⟩ := not_or.mp (mt List.mem_cons.mpr h)
      rw [member?, if_neg (Ne.symm hm), ih hrest]

/-- Among members of distinct names every one counts. -/
lemma member?_eq_some {k : String} {v : Json} {ms : List (String × Json)}
    (hdistinct : (ms.map Prod.fst).Nodup) (h : (k, v) ∈ ms) : member? k ms = some v := by
  induction ms with
  | nil => cases h
  | cons m rest ih =>
      obtain ⟨hfirst, hrest⟩ := List.nodup_cons.mp hdistinct
      obtain rfl | h := List.mem_cons.mp h
      · rw [member?, if_pos rfl]
      · have hne : m.1 ≠ k := fun heq =>
          hfirst (List.mem_map.mpr ⟨(k, v), h, heq.symm⟩)
        rw [member?, if_neg hne, ih hrest h]

/-- Setting a member adds at most its own name. -/
lemma names_setMember (k : String) (v : Json) (ms : List (String × Json)) :
    (setMember k v ms).map Prod.fst =
      if k ∈ ms.map Prod.fst then ms.map Prod.fst else ms.map Prod.fst ++ [k] := by
  induction ms with
  | nil => rfl
  | cons m rest ih =>
      rw [setMember]
      split_ifs with hm hmem hmem
      · rw [List.map_cons, List.map_cons, hm]
      · exact absurd (List.mem_map.mpr ⟨m, List.mem_cons_self, hm⟩) hmem
      · have hrest : k ∈ rest.map Prod.fst :=
          (List.mem_cons.mp hmem).resolve_left (Ne.symm hm)
        rw [List.map_cons, ih, if_pos hrest, List.map_cons]
      · have hrest : k ∉ rest.map Prod.fst := mt (List.mem_cons_of_mem _) hmem
        rw [List.map_cons, ih, if_neg hrest, List.map_cons, List.cons_append]

lemma nodup_setMember {ms : List (String × Json)} (h : (ms.map Prod.fst).Nodup) (k : String)
    (v : Json) : ((setMember k v ms).map Prod.fst).Nodup := by
  rw [names_setMember]
  split_ifs with hk
  · exact h
  · exact List.nodup_append'.mpr
      ⟨h, List.nodup_singleton k, List.disjoint_singleton.mpr hk⟩

/-- A member of a new name is added at the end. -/
lemma setMember_of_not_mem {k : String} {ms : List (String × Json)}
    (h : k ∉ ms.map Prod.fst) (v : Json) : setMember k v ms = ms ++ [(k, v)] := by
  induction ms with
  | nil => rfl
  | cons m rest ih =>
      obtain ⟨hm, hrest⟩ := not_or.mp (mt List.mem_cons.mpr h)
      rw [setMember, if_neg (Ne.symm hm), ih hrest, List.cons_append]

/-- A name that stands once is gone with its member. -/
lemma member?_removeMember_self {k : String} {ms : List (String × Json)}
    (h : (ms.map Prod.fst).Nodup) : member? k (removeMember k ms) = none := by
  induction ms with
  | nil => rfl
  | cons m rest ih =>
      obtain ⟨hfirst, hrest⟩ := List.nodup_cons.mp h
      rw [removeMember]
      split_ifs with hm
      · exact member?_eq_none (hm ▸ hfirst)
      · rw [member?, if_neg hm, ih hrest]

/-! ### Slots -/

def get? : Pointer → Json → Option Json
  | [], doc => some doc
  | token :: rest, .obj ms => (member? token ms).bind (get? rest)
  | token :: rest, .arr items => do
      let i ← Pointer.index? token
      let child ← items[i]?
      get? rest child
  | _ :: _, _ => none

/-- The way leads through objects to a slot, in which a value stands, or
nothing. -/
inductive Slot : Pointer → Json → Option Json → Prop
  | own (name : String) (ms : List (String × Json)) : Slot [name] (.obj ms) (member? name ms)
  | inner {name : String} {ms : List (String × Json)} {child : Json} {path : Pointer}
      {v : Option Json} (hchild : member? name ms = some child) (h : Slot path child v) :
      Slot (name :: path) (.obj ms) v

/-- A document with a value put into a slot. -/
def fill : Pointer → Json → Json → Json
  | [name], .obj ms, v => .obj (setMember name v ms)
  | name :: token :: rest, .obj ms, v =>
      match member? name ms with
      | some child => .obj (setMember name (fill (token :: rest) child v) ms)
      | none => .obj ms
  | _, doc, _ => doc

/-- A document with a slot filled, if there is something to put there. -/
def fill? (path : Pointer) (doc : Json) : Option Json → Json
  | some w => doc.fill path w
  | none => doc

lemma Slot.ne_nil {path : Pointer} {doc : Json} {v : Option Json} (h : Slot path doc v) :
    path ≠ [] := by
  cases h <;> exact List.cons_ne_nil _ _

/-- A slot that lies deeper is filled in the member that the way leads through. -/
lemma Slot.fill_cons {path : Pointer} {child : Json} {v : Option Json}
    (h : Slot path child v) {name : String} {ms : List (String × Json)}
    (hchild : member? name ms = some child) (w : Json) :
    Json.fill (name :: path) (.obj ms) w = .obj (setMember name (child.fill path w) ms) := by
  cases path with
  | nil => exact absurd rfl h.ne_nil
  | cons token rest => rw [fill, hchild]

/-- What stands in a slot is what stands at its pointer. -/
lemma Slot.get?_eq {path : Pointer} {doc : Json} {v : Option Json} (h : Slot path doc v) :
    get? path doc = v := by
  induction h with
  | own name ms => cases hm : member? name ms <;> simp [get?, hm]
  | inner hchild _ ih =>
      rw [get?, hchild]
      exact ih

/-- A filled slot holds the value. -/
lemma Slot.fill {path : Pointer} {doc : Json} {v : Option Json} (h : Slot path doc v)
    (w : Json) : Slot path (doc.fill path w) (some w) := by
  induction h with
  | own name ms =>
      have hself := member?_setMember_self name w ms
      rw [Json.fill, ← hself]
      exact .own name _
  | inner hchild h ih =>
      rw [h.fill_cons hchild]
      exact .inner (member?_setMember_self _ _ _) ih

/-- Of two fillings of a slot the second one counts. -/
lemma Slot.fill_fill {path : Pointer} {doc : Json} {v : Option Json} (h : Slot path doc v)
    (w w' : Json) : (doc.fill path w).fill path w' = doc.fill path w' := by
  induction h with
  | own name ms => rw [Json.fill, Json.fill, Json.fill, setMember_setMember]
  | inner hchild h ih =>
      rw [h.fill_cons hchild, h.fill_cons hchild,
        (h.fill w).fill_cons (member?_setMember_self _ _ _), setMember_setMember, ih]

lemma Slot.fill_self {path : Pointer} {doc v : Json} (h : Slot path doc (some v)) :
    doc.fill path v = doc := by
  generalize hw : some v = w at h
  induction h with
  | own name ms => rw [Json.fill, setMember_of_member? hw.symm]
  | inner hchild h ih => rw [h.fill_cons hchild, ih hw, setMember_of_member? hchild]

lemma Slot.fill?_self {path : Pointer} {doc : Json} {v : Option Json} (h : Slot path doc v) :
    doc.fill? path v = doc := by
  cases v with
  | none => rfl
  | some w => exact h.fill_self

/-! ### What stands elsewhere -/

/-- What stands at a pointer that goes on is found on the way. -/
lemma get?_append (p q : Pointer) (doc : Json) :
    get? (p ++ q) doc = (get? p doc).bind (get? q) := by
  induction p generalizing doc with
  | nil => rfl
  | cons token p ih =>
      cases doc with
      | obj ms =>
          rw [List.cons_append, get?, get?]
          cases member? token ms with
          | none => rfl
          | some child => exact ih child
      | arr items =>
          simp only [List.cons_append, get?, Option.bind_eq_bind]
          cases Pointer.index? token with
          | none => rfl
          | some i =>
              cases hi : items[i]? with
              | none => simp [hi]
              | some child => simpa [hi] using ih child
      | null | bool | int | decimal | str => rfl

lemma Slot.get?_fill_append {path : Pointer} {doc : Json} {v : Option Json}
    (h : Slot path doc v) (w : Json) (q : Pointer) :
    (doc.fill path w).get? (path ++ q) = w.get? q := by
  rw [get?_append, (h.fill w).get?_eq]
  rfl

/-- Two pointers lie apart if neither leads through the place of the other. -/
def Apart (p q : Pointer) : Prop := ¬ p <+: q ∧ ¬ q <+: p

/-- Whatever stands apart from a slot stays when the slot is filled. -/
lemma Slot.get?_fill_of_apart {path q : Pointer} {doc : Json} {v : Option Json}
    (h : Slot path doc v) (hq : Apart path q) (w : Json) :
    (doc.fill path w).get? q = doc.get? q := by
  -- the two pointers part at the first name, or behind it
  induction h generalizing q with
  | own name ms =>
      cases q with
      | nil => exact absurd List.nil_prefix hq.2
      | cons token q =>
          have hne : token ≠ name := by
            rintro rfl
            exact hq.1 (List.prefix_append [token] q)
          rw [Json.fill, get?, get?, member?_setMember_of_ne hne]
  | @inner name ms child path v hchild h ih =>
      rw [h.fill_cons hchild]
      cases q with
      | nil => exact absurd List.nil_prefix hq.2
      | cons token q =>
          by_cases hne : token = name
          · subst hne
            have hrest : Apart path q :=
              ⟨fun hp => hq.1 (List.cons_prefix_cons.mpr ⟨rfl, hp⟩),
                fun hp => hq.2 (List.cons_prefix_cons.mpr ⟨rfl, hp⟩)⟩
            rw [get?, get?, member?_setMember_self, hchild]
            exact ih hrest
          · rw [get?, get?, member?_setMember_of_ne hne]

end SidecarPolicy.Json
