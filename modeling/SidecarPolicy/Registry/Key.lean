/-
The keys of cluster objects.

* `ObjectKey`: a namespace and a name, ordered by the namespace first;
* `ObjectKey.text`: the written form;
* `ObjectMeta.key`, `Policy.key`: the key of an object.
-/
import SidecarPolicy.Object.Meta
import SidecarPolicy.Policy.Spec

namespace SidecarPolicy

/-- A namespace, which may be empty, and a name. -/
structure ObjectKey where
  «namespace» : String
  name : String
  deriving DecidableEq, Inhabited, Repr

namespace ObjectKey

/-- Keys are ordered by the namespace, then by the name. -/
instance : LT ObjectKey :=
  ⟨fun a b => a.namespace < b.namespace ∨ (a.namespace = b.namespace ∧ a.name < b.name)⟩

theorem lt_iff {a b : ObjectKey} :
    a < b ↔ a.namespace < b.namespace ∨ (a.namespace = b.namespace ∧ a.name < b.name) :=
  Iff.rfl

instance : DecidableLT ObjectKey := fun a b => decidable_of_iff _ (lt_iff (a := a) (b := b)).symm

instance : KeyOrder ObjectKey where
  irrefl a h := by
    rcases h with h | ⟨-, h⟩
    · exact KeyOrder.irrefl _ h
    · exact KeyOrder.irrefl _ h
  trans {a b c} h h' := by
    rcases h with h | ⟨e, h⟩ <;> rcases h' with h' | ⟨e', h'⟩
    · exact .inl (KeyOrder.trans h h')
    · exact .inl (e' ▸ h)
    · exact .inl (e ▸ h')
    · exact .inr ⟨e.trans e', KeyOrder.trans h h'⟩
  connected {a b} h h' := by
    have hns : a.namespace = b.namespace :=
      KeyOrder.connected (fun hlt => h (.inl hlt)) (fun hlt => h' (.inl hlt))
    have hname : a.name = b.name :=
      KeyOrder.connected (fun hlt => h (.inr ⟨hns, hlt⟩))
        (fun hlt => h' (.inr ⟨hns.symm, hlt⟩))
    cases a; cases b
    simp_all

/-- The written form of a key. -/
def text (k : ObjectKey) : String := k.namespace ++ "/" ++ k.name

end ObjectKey

/-- The key of an object with the given metadata. -/
def ObjectMeta.key (m : ObjectMeta) : ObjectKey := ⟨m.anyNamespace, m.anyName⟩

/-- The key of a policy. -/
def Policy.key (p : Policy) : ObjectKey :=
  ⟨p.namespace.getD "", (p.name.or p.generateName).getD ""⟩

end SidecarPolicy
