/-
The states of policies after an event, and after a policy has been given up.

* `PolicyState.policy`: the definition that a state holds;
* `Registry.get?_observe_self`, `Registry.get?_observe_of_ne`: an event changes the
  state of its key alone;
* `Registry.get?_apply_self`, `Registry.get?_delete_self`: the state of a policy that is
  applied, and of one that is deleted;
* `Registry.get?_forgetDeleted_self`, `Registry.get?_forgetDeleted_of_ne`,
  `Registry.get?_forgetDeleted_live`, `Registry.forgetDeleted_queue`: to give up a policy
  removes it if it is deleted, and does nothing else;
* `Registry.Keyed`, `Registry.Keyed.observe`: every policy is kept at its own key.
-/
import Mathlib.Tactic
import SidecarPolicy.Registry.Basic

namespace SidecarPolicy

/-- The definition of a policy that is live, or was last. -/
def PolicyState.policy : PolicyState → Policy
  | .live p | .deleted p => p

lemma PolicyEvent.policy_state (e : PolicyEvent) : e.state.policy = e.policy := by
  cases e <;> rfl

namespace Registry

variable {r : Registry} {k k' : ObjectKey}

/-! ### Events -/

lemma get?_observe_self (r : Registry) (e : PolicyEvent) :
    (r.observe e).get? e.policy.key = some e.state :=
  KeyMap.get?_insert_self ..

lemma get?_observe_of_ne {e : PolicyEvent} (hne : k ≠ e.policy.key) :
    (r.observe e).get? k = r.get? k :=
  KeyMap.get?_insert_of_ne hne ..

/-- A policy that is applied is live, unless another one of the same version is taken for
it. -/
lemma get?_apply_self {p : Policy}
    (hversion : ∀ old, r.get? p.key = some (.live old) → isReplay old p = true → old = p) :
    (r.apply p).get? p.key = some (.live p) := by
  rw [apply]
  rcases hget : r.get? p.key with _ | old | _
  · exact get?_observe_self r (.created p)
  · by_cases hreplay : isReplay old p = true
    · obtain rfl := hversion old hget hreplay
      simp only [hreplay, if_true]
      exact hget
    · simp only [hreplay]
      exact get?_observe_self r (.updated old p)
  · exact get?_observe_self r (.created p)

lemma get?_delete_self {p : Policy} (hlive : r.get? p.key = some (.live p)) :
    (r.delete p.key).get? p.key = some (.deleted p) := by
  rw [delete, hlive]
  exact get?_observe_self r (.deleted p)

/-! ### Policies that are given up -/

/-- A deleted policy that is given up is no longer there, and a live one stays. -/
lemma get?_forgetDeleted_self :
    (r.forgetDeleted k).get? k = (r.get? k).filter (· matches .live _) := by
  rw [forgetDeleted]
  rcases h : r.get? k with _ | p | p
  · exact h
  · exact h
  · exact KeyMap.get?_erase_self ..

/-- To give up a policy leaves the live ones. -/
lemma get?_forgetDeleted_live {p : Policy} (hlive : r.get? k' = some (.live p)) :
    (r.forgetDeleted k).get? k' = some (.live p) := by
  rw [forgetDeleted]
  rcases hget : r.get? k with _ | q | q
  · exact hlive
  · exact hlive
  · refine (KeyMap.get?_erase_of_ne (fun hk => ?_) ..).trans hlive
    cases (hk ▸ hlive).symm.trans hget

lemma forgetDeleted_queue (r : Registry) (k : ObjectKey) :
    (r.forgetDeleted k).queue = r.queue := by
  rw [forgetDeleted]
  rcases r.get? k with _ | _ | _ <;> rfl

/-- To give up a policy leaves the others alone. -/
lemma get?_forgetDeleted_of_ne (hne : k' ≠ k) : (r.forgetDeleted k).get? k' = r.get? k' := by
  rw [forgetDeleted]
  rcases r.get? k with _ | p | p
  · rfl
  · rfl
  · exact KeyMap.get?_erase_of_ne hne ..

lemma get?_of_forgetDeleted {st : PolicyState} (h : (r.forgetDeleted k).get? k' = some st) :
    r.get? k' = some st := by
  by_cases hk : k' = k
  · subst hk
    rw [get?_forgetDeleted_self] at h
    exact (Option.filter_eq_some_iff.mp h).1
  · exact (get?_forgetDeleted_of_ne hk).symm.trans h

/-! ### Keys -/

/-- Every policy is kept at its own key. -/
def Keyed (r : Registry) : Prop := ∀ ⦃k st⦄, r.get? k = some st → st.policy.key = k

/-- An event is recorded at the key of its policy. -/
lemma Keyed.observe (hr : r.Keyed) (e : PolicyEvent) : (r.observe e).Keyed := by
  intro k st hst
  by_cases hk : k = e.policy.key
  · subst hk
    obtain rfl := Option.some.inj ((get?_observe_self r e).symm.trans hst)
    rw [e.policy_state]
  · exact hr ((get?_observe_of_ne hk).symm.trans hst)

end Registry

end SidecarPolicy
