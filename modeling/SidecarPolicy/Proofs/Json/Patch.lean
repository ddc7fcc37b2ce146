/-
Patches, as they are written and as they are applied.

* `Patch.decode_encode`: **a written patch is read back**, whatever the keys in
  its pointers;
* `Patch.Leads`: a patch leads from one document to another one, wherever its
  operations stand in a longer patch;
* `Patch.leads_add`, `Patch.leads_add_item`, `Patch.leads_add_member`,
  `Patch.leads_replace_member`, `Patch.leads_remove_member`: what single
  operations do in a slot, and to the list or the object that stands there.
-/
import SidecarPolicy.Json.Patch
import SidecarPolicy.Proofs.Decode
import SidecarPolicy.Proofs.Json.Pointer
import SidecarPolicy.Proofs.Json.Slot

namespace SidecarPolicy

/-! ### Written patches -/

lemma PatchOperation.decode_encode (op : PatchOperation) : decode op.encode = .ok op := by
  cases op <;>
    simp [decode, encode, Decode.members, Decode.answer, Tree.members?, Decode.required,
      Decode.sole, Decode.text, Tree.text?, Pointer.ofText?_text, bind, Except.bind, pure,
      Except.pure]

/-- **A written patch is read back**, whatever the keys in its pointers. -/
theorem Patch.decode_encode (p : Patch) : Patch.decode (Patch.encode p) = .ok p :=
  Decode.list_encode fun op _ => op.decode_encode

/-! ### Changing what stands in a slot -/

/-- A change at the end of a way that is made in two parts. -/
lemma PatchOperation.modifyAt_append (change : Json → Option Json) (p q : Pointer)
    (doc : Json) : modifyAt change (p ++ q) doc = modifyAt (modifyAt change q) p doc := by
  induction p generalizing doc with
  | nil => rfl
  | cons token p ih =>
      rw [List.cons_append]
      cases doc <;> simp only [modifyAt, ih]

namespace Json

open PatchOperation

/-- Changing the value at the pointer of a slot fills the slot. -/
lemma Slot.modifyAt {path : Pointer} {doc v w : Json} {change : Json → Option Json}
    (h : Slot path doc (some v)) (hchange : change v = some w) :
    modifyAt change path doc = some (doc.fill path w) := by
  generalize hu : some v = u at h
  induction h with
  | own name ms => simp [PatchOperation.modifyAt, Json.fill, ← hu, hchange]
  | inner hchild h ih =>
      rw [h.fill_cons hchild]
      simp [PatchOperation.modifyAt, hchild, ih hu]

/-- Adding a value at the pointer of a slot fills the slot, which may have been
empty. -/
lemma Slot.apply_add {path : Pointer} {doc : Json} {v : Option Json} (h : Slot path doc v)
    (w : Json) : PatchOperation.apply doc (.add path w) = some (doc.fill path w) := by
  induction h with
  | own name ms => rfl
  | inner hchild h ih =>
      rw [h.fill_cons hchild]
      rw [PatchOperation.apply] at ih ⊢
      rw [List.getLast?_cons_of_ne_nil h.ne_nil, List.dropLast_cons_of_ne_nil h.ne_nil]
      cases hlast : List.getLast? _ with
      | none => exact absurd (List.getLast?_eq_none_iff.mp hlast) h.ne_nil
      | some token =>
          rw [hlast] at ih
          simp only at ih
          simp [PatchOperation.modifyAt, hchild, ih]

end Json

namespace Patch

open Json

/-! ### From one document to another -/

/-- The patch leads from one document to another one, also as a part of a longer
patch. -/
def Leads (doc : Json) (p : Patch) (doc' : Json) : Prop :=
  ∀ position rest, applyFrom position doc (p ++ rest) = applyFrom (position + p.length) doc' rest

lemma Leads.apply {doc doc' : Json} {p : Patch} (h : Leads doc p doc') :
    p.apply doc = .ok doc' := by
  have h := h 0 []
  rwa [List.append_nil, applyFrom] at h

lemma leads_nil (doc : Json) : Leads doc [] doc := fun _ _ => rfl

lemma Leads.append {doc doc' doc'' : Json} {p q : Patch} (hp : Leads doc p doc')
    (hq : Leads doc' q doc'') : Leads doc (p ++ q) doc'' := by
  intro position rest
  rw [List.append_assoc, hp, hq, List.length_append, Nat.add_assoc]

lemma leads_of_apply {doc doc' : Json} {op : PatchOperation} (h : op.apply doc = some doc') :
    Leads doc [op] doc' := by
  intro position rest
  rw [List.singleton_append, applyFrom, h]
  rfl

section Slots

variable {path : Pointer} {doc : Json}

lemma leads_add {v : Option Json} (h : Slot path doc v) (w : Json) :
    Leads doc [.add path w] (doc.fill path w) :=
  leads_of_apply (h.apply_add w)

lemma leads_add_item {items : List Json} (h : Slot path doc (some (.arr items)))
    (w : Json) : Leads doc [.add (path ++ ["-"]) w] (doc.fill path (.arr (items ++ [w]))) := by
  refine leads_of_apply ?_
  rw [PatchOperation.apply, List.getLast?_concat, List.dropLast_concat]
  exact h.modifyAt rfl

lemma leads_add_member {ms : List (String × Json)} (h : Slot path doc (some (.obj ms)))
    (name : String) (w : Json) :
    Leads doc [.add (path ++ [name]) w] (doc.fill path (.obj (setMember name w ms))) := by
  refine leads_of_apply ?_
  rw [PatchOperation.apply, List.getLast?_concat, List.dropLast_concat]
  exact h.modifyAt rfl

lemma leads_replace_member {ms : List (String × Json)} {name : String} {v : Json}
    (h : Slot path doc (some (.obj ms))) (hv : member? name ms = some v) (w : Json) :
    Leads doc [.replace (path ++ [name]) w] (doc.fill path (.obj (setMember name w ms))) := by
  refine leads_of_apply ?_
  rw [PatchOperation.apply, PatchOperation.modifyAt_append]
  exact h.modifyAt (by simp [PatchOperation.modifyAt, hv])

lemma leads_remove_member {ms : List (String × Json)} {name : String} {v : Json}
    (h : Slot path doc (some (.obj ms))) (hv : member? name ms = some v) :
    Leads doc [.remove (path ++ [name])] (doc.fill path (.obj (removeMember name ms))) := by
  refine leads_of_apply ?_
  rw [PatchOperation.apply, List.getLast?_concat, List.dropLast_concat]
  exact h.modifyAt (by simp [PatchOperation.removeIn, hv])

end Slots

end Patch

end SidecarPolicy
