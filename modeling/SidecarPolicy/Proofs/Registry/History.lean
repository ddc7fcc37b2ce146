/-
What a registry remembers of all that has happened to it.

Policies are applied, deleted and given up, again and again, while others work on the queue.
What is recorded of a key is the policy that was applied last, replays apart; and an event is
recorded whether or not the queue takes its key.

* `Registry.Occurrence`, `Registry.after`: what happens to a registry, and the registry after
  all of it;
* `Registry.Known`, `Registry.known_iff`: the policies that are taken for replays;
* `Registry.Records`, `Registry.Effect`: an event is recorded, and its key offered to the
  queue once; and what an occurrence does;
* `Registry.Keyed.effect`: **every occurrence has its effect, and no other one**;
* `Registry.lastRecorded`, `Registry.lastRecorded_eq`: **a key's entry holds the policy that
  was recorded last**;
* `Registry.Keyed.foldl_apply_live`: **a resync changes nothing**;
* `Registry.after_remembers`: all of this, after any history.
-/
import SidecarPolicy.Proofs.Registry

namespace SidecarPolicy.Registry

variable {r : Registry} {k k' : ObjectKey} {p : Policy}

/-! ### Histories -/

/-- What happens to a registry: a policy is applied, deleted, or given up, or others work on
the queue, whatever they make of it. -/
inductive Occurrence where
  | apply (p : Policy)
  | delete (k : ObjectKey)
  | forget (k : ObjectKey)
  | serve (q : Queue ObjectKey)

/-- The key that an occurrence is about. -/
def Occurrence.key? : Occurrence → Option ObjectKey
  | .apply p => some p.key
  | .delete k | .forget k => some k
  | .serve _ => none

def next (r : Registry) : Occurrence → Registry
  | .apply p => r.apply p
  | .delete k => r.delete k
  | .forget k => r.forgetDeleted k
  | .serve q => { r with queue := q }

/-- The registry after all that has happened, the latest first, from one without policies. -/
def after (q : Queue ObjectKey) : List Occurrence → Registry
  | [] => { queue := q }
  | o :: earlier => (after q earlier).next o

/-! ### Policies that are applied -/

/-- A policy is known if it is live under the version that it carries. -/
def Known (r : Registry) (p : Policy) : Prop :=
  ∃ old v, r.get? p.key = some (.live old) ∧ old.version = some v ∧ p.version = some v

/-- A policy is a replay of another one if both carry the same version. -/
lemma isReplay_iff {old new : Policy} :
    isReplay old new = true ↔ ∃ v, old.version = some v ∧ new.version = some v := by
  rw [isReplay, Bool.and_eq_true, beq_iff_eq, Option.isSome_iff_exists]
  constructor
  · rintro ⟨⟨v, hv⟩, heq⟩
    exact ⟨v, hv, heq ▸ hv⟩
  · rintro ⟨v, hold, hnew⟩
    exact ⟨⟨v, hold⟩, hold.trans hnew.symm⟩

/-- A policy is known if it is a replay of the live one. -/
lemma known_iff : r.Known p ↔ ∃ old, r.get? p.key = some (.live old) ∧ isReplay old p = true := by
  simp only [Known, isReplay_iff, exists_and_left]

instance (r : Registry) (p : Policy) : Decidable (r.Known p) :=
  match h : r.get? p.key with
  | some (.live old) => decidable_of_iff (isReplay old p = true) (by simp [known_iff, h])
  | some (.deleted _) | none => .isFalse (by simp [known_iff, h])

/-! ### Effects -/

/-- An event is recorded at a key, which is offered to the queue once; the record does not
depend on whether the queue takes the key. -/
structure Records (r : Registry) (k : ObjectKey) (st : PolicyState) (r' : Registry) : Prop where
  entry : r'.policies = r.policies.insert k st
  accepted : ∀ q, r.queue.add k = .ok q → r'.queue = q
  refused : ∀ e, r.queue.add k = .error e → r'.queue = r.queue

/-- What an occurrence does: a policy that is not known, and the deletion of a live one, are
recorded; a deleted policy is given up, which the queue does not notice; and nothing else has
an effect. -/
inductive Effect (r : Registry) : Occurrence → Registry → Prop
  | recorded {p : Policy} {r' : Registry} (hnew : ¬ r.Known p)
      (h : Records r p.key (.live p) r') : Effect r (.apply p) r'
  | known {p : Policy} (hknown : r.Known p) : Effect r (.apply p) r
  | ended {p : Policy} {r' : Registry} (hlive : r.get? p.key = some (.live p))
      (h : Records r p.key (.deleted p) r') : Effect r (.delete p.key) r'
  | ignored {k : ObjectKey} (hnone : ∀ p, r.get? k ≠ some (.live p)) : Effect r (.delete k) r
  | forgotten {k : ObjectKey} {p : Policy} (hdeleted : r.get? k = some (.deleted p)) :
      Effect r (.forget k) { r with policies := r.policies.erase k }
  | kept {k : ObjectKey} (hnone : ∀ p, r.get? k ≠ some (.deleted p)) : Effect r (.forget k) r
  | served (q : Queue ObjectKey) : Effect r (.serve q) { r with queue := q }

/-- The observation of an event is recorded at the key of its policy. -/
lemma records_observe (r : Registry) (e : PolicyEvent) :
    Records r e.policy.key e.state (r.observe e) where
  entry := rfl
  accepted q hq := by rw [observe, Queue.offer, hq]
  refused e he := by rw [observe, Queue.offer, he]

lemma apply_known (h : r.Known p) : r.apply p = r := by
  obtain ⟨old, hlive, hreplay⟩ := known_iff.mp h
  rw [apply, hlive]
  exact if_pos hreplay

lemma apply_new (h : ¬ r.Known p) : Records r p.key (.live p) (r.apply p) := by
  rw [apply]
  rcases hget : r.get? p.key with _ | old | old
  · exact records_observe r (.created p)
  · dsimp only
    rw [if_neg fun hreplay => h (known_iff.mpr ⟨old, hget, hreplay⟩)]
    exact records_observe r (.updated old p)
  · exact records_observe r (.created p)

/-- **Every occurrence has its effect**, if policies are kept at their own keys. -/
theorem Keyed.effect (hr : r.Keyed) (o : Occurrence) : Effect r o (r.next o) := by
  cases o with
  | apply p =>
      by_cases hknown : r.Known p
      · rw [next, apply_known hknown]
        exact .known hknown
      · exact .recorded hknown (apply_new hknown)
  | delete k =>
      rw [next, delete]
      rcases hget : r.get? k with _ | p | p
      · exact .ignored fun p hp => by cases hget.symm.trans hp
      · obtain rfl : p.key = k := hr hget
        exact .ended hget (records_observe r (.deleted p))
      · exact .ignored fun p hp => by cases hget.symm.trans hp
  | forget k =>
      rw [next, forgetDeleted]
      rcases hget : r.get? k with _ | p | p
      · exact .kept fun p hp => by cases hget.symm.trans hp
      · exact .kept fun p hp => by cases hget.symm.trans hp
      · exact .forgotten hget
  | serve q => exact .served q

section Effect

variable {r' : Registry} {o : Occurrence} {st : PolicyState}

lemma Records.get?_self (h : Records r k st r') : r'.get? k = some st := by
  rw [get?, h.entry]
  exact KeyMap.get?_insert_self ..

lemma Records.get?_of_ne (h : Records r k st r') (hne : k' ≠ k) : r'.get? k' = r.get? k' := by
  rw [get?, h.entry]
  exact KeyMap.get?_insert_of_ne hne ..

/-- An occurrence leaves the entries of other keys alone. -/
lemma Effect.get?_of_ne (h : Effect r o r') (hne : o.key? ≠ some k) : r'.get? k = r.get? k := by
  have hk {k' : ObjectKey} (ho : o.key? = some k') : k ≠ k' := fun heq => hne (heq ▸ ho)
  cases h with
  | recorded hnew h => exact h.get?_of_ne (hk rfl)
  | ended hlive h => exact h.get?_of_ne (hk rfl)
  | forgotten hdeleted => exact KeyMap.get?_erase_of_ne (hk rfl) ..
  | known | ignored | kept | served => rfl

/-- An occurrence keeps every policy at its own key. -/
lemma Effect.keyed (h : Effect r o r') (hr : r.Keyed) : r'.Keyed := by
  intro k st hst
  by_cases hk : o.key? = some k
  · cases h with
    | recorded hnew h =>
        obtain rfl := Option.some.inj hk
        obtain rfl := Option.some.inj (h.get?_self.symm.trans hst)
        rfl
    | ended hlive h =>
        obtain rfl := Option.some.inj hk
        obtain rfl := Option.some.inj (h.get?_self.symm.trans hst)
        rfl
    | forgotten hdeleted =>
        obtain rfl := Option.some.inj hk
        cases (KeyMap.get?_erase_self r.policies _).symm.trans hst
    | known | ignored | kept | served => exact hr hst
  · exact hr ((h.get?_of_ne hk).symm.trans hst)

end Effect

/-! ### What is remembered -/

lemma keyed_after (q : Queue ObjectKey) (history : List Occurrence) : (after q history).Keyed := by
  induction history with
  | nil => exact fun k st hst => by cases hst
  | cons o earlier ih => exact (ih.effect o).keyed ih

/-- The policy of a key that was recorded last, replays apart. -/
def lastRecorded (q : Queue ObjectKey) (k : ObjectKey) : List Occurrence → Option Policy
  | [] => none
  | .apply p :: earlier =>
      if p.key = k ∧ ¬ (after q earlier).Known p then some p
      else lastRecorded q k earlier
  | _ :: earlier => lastRecorded q k earlier

/-- **An entry holds the policy that was recorded last.** -/
theorem lastRecorded_eq {q : Queue ObjectKey} {history : List Occurrence} {st : PolicyState}
    (h : (after q history).get? k = some st) : lastRecorded q k history = some st.policy := by
  induction history generalizing st with
  | nil => cases h
  | cons o earlier ih =>
      have heffect := (keyed_after q earlier).effect o
      rw [after] at h
      generalize (after q earlier).next o = r' at h heffect
      cases heffect with
      | @recorded p _ hnew hrecords =>
          rw [lastRecorded]
          by_cases hk : p.key = k
          · subst hk
            obtain rfl := Option.some.inj (hrecords.get?_self.symm.trans h)
            exact if_pos ⟨rfl, hnew⟩
          · rw [if_neg fun hboth => hk hboth.1]
            exact ih ((hrecords.get?_of_ne (Ne.symm hk)).symm.trans h)
      | @known p hknown =>
          rw [lastRecorded, if_neg fun hboth => hboth.2 hknown]
          exact ih h
      | @ended p _ hlive hrecords =>
          by_cases hk : k = p.key
          · -- a tombstone holds the policy that was live until then
            subst hk
            obtain rfl := Option.some.inj (hrecords.get?_self.symm.trans h)
            have hlast := ih hlive
            exact hlast
          · exact ih ((hrecords.get?_of_ne hk).symm.trans h)
      | @forgotten k' p hdeleted =>
          by_cases hk : k = k'
          · subst hk
            cases (KeyMap.get?_erase_self _ k).symm.trans h
          · exact ih ((KeyMap.get?_erase_of_ne hk _).symm.trans h)
      | ignored | kept | served => exact ih h

/-- **A resync changes nothing**: policies that are live under some version may be applied
again, in any order and any number of times. -/
theorem Keyed.foldl_apply_live (hr : r.Keyed) {policies : List Policy}
    (h : ∀ p ∈ policies, p.version ≠ none ∧ ∃ k, r.get? k = some (.live p)) :
    policies.foldl apply r = r := by
  induction policies with
  | nil => rfl
  | cons p rest ih =>
      obtain ⟨hversion, k, hlive⟩ := h p List.mem_cons_self
      obtain rfl : p.key = k := hr hlive
      obtain ⟨v, hv⟩ := Option.ne_none_iff_exists'.mp hversion
      rw [List.foldl_cons, apply_known ⟨p, v, hlive, hv, hv⟩]
      exact ih fun p' hp' => h p' (List.mem_cons_of_mem p hp')

/-- **What a registry remembers, whatever has happened to it.**  The entry of a key holds the
policy that was recorded last, also when the key is deleted; to give up a policy leaves the
live ones, and the queue; an occurrence leaves the entries of other keys alone; every
occurrence has its effect, and no other one; and a resync changes nothing. -/
theorem after_remembers (q : Queue ObjectKey) (history : List Occurrence) :
    (∀ k st, (after q history).get? k = some st →
        lastRecorded q k history = some st.policy) ∧
      (∀ k, ((after q history).forgetDeleted k).queue = (after q history).queue ∧
        ∀ k' p, (after q history).get? k' = some (.live p) →
          ((after q history).forgetDeleted k).get? k' = some (.live p)) ∧
      (∀ o k, Occurrence.key? o ≠ some k →
        ((after q history).next o).get? k = (after q history).get? k) ∧
      (∀ o, Effect (after q history) o ((after q history).next o)) ∧
      ∀ policies : List Policy,
        (∀ p ∈ policies, p.version ≠ none ∧ ∃ k, (after q history).get? k = some (.live p)) →
          policies.foldl apply (after q history) = after q history := by
  have hkeyed := keyed_after q history
  exact ⟨fun _ _ => lastRecorded_eq,
    fun k => ⟨forgetDeleted_queue _ k, fun _ _ => get?_forgetDeleted_live⟩,
    fun o _ => (hkeyed.effect o).get?_of_ne, hkeyed.effect, fun _ => hkeyed.foldl_apply_live⟩

/-! ### A policy that comes and goes -/

/-- A policy. -/
def guest : Policy where
  name := some "guest"
  version := some "1"

/-- The policy is applied, deleted, applied with a new version while the queue takes nothing,
and deleted. -/
def guestHistory : List Occurrence := [
  .delete guest.key,
  .apply { guest with version := some "2" },
  .serve { closed := true },
  .delete guest.key,
  .apply guest]

/-- The tombstone is that of the second version, and a resync of another live policy changes
nothing. -/
theorem after_remembers_guest :
    (after {} guestHistory).get? guest.key = some (.deleted { guest with version := some "2" }) ∧
      lastRecorded {} guest.key guestHistory = some { guest with version := some "2" } ∧
      [guest, guest].foldl apply (after {} [.apply guest]) = after {} [.apply guest] := by
  have htombstone : (after {} guestHistory).get? guest.key =
      some (.deleted { guest with version := some "2" }) := by decide
  obtain ⟨hlast, -⟩ := after_remembers {} guestHistory
  obtain ⟨-, -, -, -, hresync⟩ := after_remembers {} [.apply guest]
  refine ⟨htombstone, hlast _ _ htombstone, hresync _ fun p hp => ?_⟩
  obtain rfl : p = guest := by simpa using hp
  exact ⟨by decide, guest.key, by decide⟩

end SidecarPolicy.Registry
