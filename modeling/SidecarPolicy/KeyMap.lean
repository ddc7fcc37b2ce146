/-
Finite maps in key order.

A map is the list of its entries with strictly ascending keys, so each map has
one representation, and folding over the entries visits the keys in order.

* `KeyOrder`: strict linear orders of keys;
* `KeyMap`: the entries, with the proof that their keys ascend;
* `KeyMap.get?`, `KeyMap.insert`, `KeyMap.erase`, `KeyMap.ofList`: looking a
  key up, setting it, removing it, and setting many keys in turn;
* `KeyMap.get?_insert_self`, `KeyMap.get?_insert_of_ne`,
  `KeyMap.get?_erase_self`, `KeyMap.get?_erase_of_ne`: what an update does to
  a look-up;
* `KeyMap.mem_entries_iff`: the entries are what look-ups find.
-/

namespace SidecarPolicy

universe u v

/-- A strict linear order of keys. -/
class KeyOrder (κ : Type u) [LT κ] : Prop where
  irrefl : ∀ a : κ, ¬ a < a
  trans : ∀ {a b c : κ}, a < b → b < c → a < c
  connected : ∀ {a b : κ}, ¬ a < b → ¬ b < a → a = b

theorem KeyOrder.asymm {κ : Type u} [LT κ] [KeyOrder κ] {a b : κ} (h : a < b) :
    ¬ b < a :=
  fun h' => KeyOrder.irrefl a (KeyOrder.trans h h')

/-- Strings are ordered by their code points. -/
instance : KeyOrder String where
  irrefl := String.lt_irrefl
  trans := String.lt_trans
  connected h h' := String.le_antisymm (String.not_lt.1 h') (String.not_lt.1 h)

/-- A finite map: entries whose keys strictly ascend. -/
structure KeyMap (κ : Type u) (β : Type v) [LT κ] where
  entries : List (κ × β)
  ascending : entries.Pairwise (fun e e' => e.1 < e'.1)

namespace KeyMap

variable {κ : Type u} {β : Type v} [LT κ]

theorem ext_entries {m m' : KeyMap κ β} (h : m.entries = m'.entries) : m = m' := by
  cases m; cases m'; cases h; rfl

instance [DecidableEq κ] [DecidableEq β] : DecidableEq (KeyMap κ β) := fun m m' =>
  decidable_of_iff (m.entries = m'.entries) ⟨ext_entries, fun h => h ▸ rfl⟩

instance [Repr κ] [Repr β] : Repr (KeyMap κ β) :=
  ⟨fun m prec => reprPrec m.entries prec⟩

def empty : KeyMap κ β := ⟨[], .nil⟩

instance : Inhabited (KeyMap κ β) := ⟨empty⟩

/-- Whether a map has no entries. -/
def isEmpty (m : KeyMap κ β) : Bool := m.entries.isEmpty

def keys (m : KeyMap κ β) : List κ := m.entries.map (·.1)

/-- The values, in the order of their keys. -/
def values (m : KeyMap κ β) : List β := m.entries.map (·.2)

variable [DecidableLT κ]

/-! ### Looking a key up -/

/-- The value of a key among entries whose keys ascend. -/
def find? (k : κ) : List (κ × β) → Option β
  | [] => none
  | e :: rest => if k < e.1 then none else if e.1 < k then find? k rest else some e.2

def get? (m : KeyMap κ β) (k : κ) : Option β := find? k m.entries

/-- Whether a key has a value. -/
def contains (m : KeyMap κ β) (k : κ) : Bool := (m.get? k).isSome

/-! ### Changing entries -/

/-- Entries with a key set to a value. -/
def insertEntry (k : κ) (v : β) : List (κ × β) → List (κ × β)
  | [] => [(k, v)]
  | e :: rest =>
      if k < e.1 then (k, v) :: e :: rest
      else if e.1 < k then e :: insertEntry k v rest
      else (k, v) :: rest

/-- Entries without a key. -/
def eraseEntry (k : κ) : List (κ × β) → List (κ × β)
  | [] => []
  | e :: rest =>
      if k < e.1 then e :: rest
      else if e.1 < k then e :: eraseEntry k rest
      else rest

theorem mem_insertEntry {k : κ} {v : β} {l : List (κ × β)} {e : κ × β}
    (h : e ∈ insertEntry k v l) : e = (k, v) ∨ e ∈ l := by
  induction l with
  | nil => simpa [insertEntry] using h
  | cons e' rest ih =>
    unfold insertEntry at h
    split at h
    · simpa using h
    · split at h
      · rcases List.mem_cons.1 h with h | h
        · exact Or.inr (h ▸ List.mem_cons_self)
        · exact (ih h).imp id (List.mem_cons_of_mem _)
      · rcases List.mem_cons.1 h with h | h
        · exact Or.inl h
        · exact Or.inr (List.mem_cons_of_mem _ h)

theorem mem_of_mem_eraseEntry {k : κ} {l : List (κ × β)} {e : κ × β}
    (h : e ∈ eraseEntry k l) : e ∈ l := by
  induction l with
  | nil => simp [eraseEntry] at h
  | cons e' rest ih =>
    unfold eraseEntry at h
    split at h
    · exact h
    · split at h
      · rcases List.mem_cons.1 h with h | h
        · exact h ▸ List.mem_cons_self
        · exact List.mem_cons_of_mem _ (ih h)
      · exact List.mem_cons_of_mem _ h

theorem ascending_insertEntry [KeyOrder κ] {k : κ} {v : β} {l : List (κ × β)}
    (h : l.Pairwise (fun e e' => e.1 < e'.1)) :
    (insertEntry k v l).Pairwise (fun e e' => e.1 < e'.1) := by
  induction l with
  | nil => simp [insertEntry]
  | cons e rest ih =>
    obtain ⟨hall, hrest⟩ := List.pairwise_cons.1 h
    unfold insertEntry
    split
    · rename_i hk
      refine List.pairwise_cons.2 ⟨fun e' he' => ?_, h⟩
      rcases List.mem_cons.1 he' with rfl | he'
      · exact hk
      · exact KeyOrder.trans hk (hall e' he')
    · split
      · rename_i hk
        refine List.pairwise_cons.2 ⟨fun e' he' => ?_, ih hrest⟩
        rcases mem_insertEntry he' with rfl | he'
        · exact hk
        · exact hall e' he'
      · rename_i hk hk'
        have : k = e.1 := KeyOrder.connected hk hk'
        exact List.pairwise_cons.2 ⟨fun e' he' => this ▸ hall e' he', hrest⟩

theorem ascending_eraseEntry {k : κ} {l : List (κ × β)}
    (h : l.Pairwise (fun e e' => e.1 < e'.1)) :
    (eraseEntry k l).Pairwise (fun e e' => e.1 < e'.1) := by
  induction l with
  | nil => simp [eraseEntry]
  | cons e rest ih =>
    obtain ⟨hall, hrest⟩ := List.pairwise_cons.1 h
    unfold eraseEntry
    split
    · exact h
    · split
      · exact List.pairwise_cons.2
          ⟨fun e' he' => hall e' (mem_of_mem_eraseEntry he'), ih hrest⟩
      · exact hrest

/-- A map with a key set to a value. -/
def insert [KeyOrder κ] (m : KeyMap κ β) (k : κ) (v : β) : KeyMap κ β :=
  ⟨insertEntry k v m.entries, ascending_insertEntry m.ascending⟩

/-- A map without a key. -/
def erase (m : KeyMap κ β) (k : κ) : KeyMap κ β :=
  ⟨eraseEntry k m.entries, ascending_eraseEntry m.ascending⟩

/-- A map with the pairs of a list set in turn, so that the last pair of a
key wins. -/
def insertAll [KeyOrder κ] (m : KeyMap κ β) (pairs : List (κ × β)) : KeyMap κ β :=
  pairs.foldl (fun m p => m.insert p.1 p.2) m

/-- The map of a list of pairs, the last pair of a key winning. -/
def ofList [KeyOrder κ] (pairs : List (κ × β)) : KeyMap κ β :=
  empty.insertAll pairs

/-- The entries that satisfy a test. -/
def filter (m : KeyMap κ β) (p : κ × β → Bool) : KeyMap κ β :=
  ⟨m.entries.filter p, m.ascending.filter p⟩

/-! ### Look-ups after an update -/

@[simp] theorem get?_empty (k : κ) : (empty : KeyMap κ β).get? k = none := rfl

theorem find?_eq_none_of_lt {k : κ} {l : List (κ × β)} (h : ∀ e ∈ l, k < e.1) :
    find? k l = none := by
  cases l with
  | nil => rfl
  | cons e rest => simp [find?, h e List.mem_cons_self]

section Lookup

variable [KeyOrder κ]

theorem find?_insertEntry_self (k : κ) (v : β) (l : List (κ × β)) :
    find? k (insertEntry k v l) = some v := by
  induction l with
  | nil => simp [insertEntry, find?, KeyOrder.irrefl]
  | cons e rest ih =>
    unfold insertEntry
    split
    · simp [find?, KeyOrder.irrefl]
    · split
      · rename_i h h'
        simp [find?, h, h', ih]
      · simp [find?, KeyOrder.irrefl]

theorem find?_insertEntry_of_ne {k k' : κ} (hne : k' ≠ k) (v : β) (l : List (κ × β)) :
    find? k' (insertEntry k v l) = find? k' l := by
  -- each of the two keys may come before the first entry, be its key, or come after it
  induction l with
  | nil =>
    by_cases h : k' < k
    · simp [insertEntry, find?, h]
    · by_cases h' : k < k'
      · simp [insertEntry, find?, h, h']
      · exact absurd (KeyOrder.connected h h') hne
  | cons e rest ih =>
    unfold insertEntry
    split
    · rename_i hk
      by_cases h : k' < k
      · simp [find?, h, KeyOrder.trans h hk]
      · by_cases h' : k < k'
        · simp [find?, h, h']
        · exact absurd (KeyOrder.connected h h') hne
    · split
      · simp [find?, ih]
      · rename_i hk hk'
        have hke : k = e.1 := KeyOrder.connected hk hk'
        by_cases h : k' < k
        · simp [find?, h, hke ▸ h]
        · by_cases h' : k < k'
          · simp [find?, h, h', hke ▸ h, hke ▸ h']
          · exact absurd (KeyOrder.connected h h') hne

@[simp] theorem get?_insert_self (m : KeyMap κ β) (k : κ) (v : β) :
    (m.insert k v).get? k = some v :=
  find?_insertEntry_self k v m.entries

theorem get?_insert_of_ne {k k' : κ} (h : k' ≠ k) (m : KeyMap κ β) (v : β) :
    (m.insert k v).get? k' = m.get? k' :=
  find?_insertEntry_of_ne h v m.entries

theorem find?_eraseEntry_self {k : κ} {l : List (κ × β)}
    (hl : l.Pairwise (fun e e' => e.1 < e'.1)) : find? k (eraseEntry k l) = none := by
  induction l with
  | nil => rfl
  | cons e rest ih =>
    obtain ⟨hall, hrest⟩ := List.pairwise_cons.1 hl
    unfold eraseEntry
    split
    · rename_i h
      simp [find?, h]
    · split
      · rename_i h h'
        simp [find?, h, h', ih hrest]
      · rename_i h h'
        have : k = e.1 := KeyOrder.connected h h'
        exact find?_eq_none_of_lt fun e' he' => this ▸ hall e' he'

theorem find?_eraseEntry_of_ne {k k' : κ} (hne : k' ≠ k) {l : List (κ × β)}
    (hl : l.Pairwise (fun e e' => e.1 < e'.1)) :
    find? k' (eraseEntry k l) = find? k' l := by
  induction l with
  | nil => rfl
  | cons e rest ih =>
    obtain ⟨hall, hrest⟩ := List.pairwise_cons.1 hl
    unfold eraseEntry
    split
    · rfl
    · split
      · simp [find?, ih hrest]
      · rename_i hk hk'
        have hke : k = e.1 := KeyOrder.connected hk hk'
        by_cases h : k' < k
        · rw [find?_eq_none_of_lt fun e' he' =>
            KeyOrder.trans h (hke ▸ hall e' he')]
          simp [find?, hke ▸ h]
        · by_cases h' : k < k'
          · simp [find?, hke ▸ h, hke ▸ h']
          · exact absurd (KeyOrder.connected h h') hne

@[simp] theorem get?_erase_self (m : KeyMap κ β) (k : κ) : (m.erase k).get? k = none :=
  find?_eraseEntry_self m.ascending

theorem get?_erase_of_ne {k k' : κ} (h : k' ≠ k) (m : KeyMap κ β) :
    (m.erase k).get? k' = m.get? k' :=
  find?_eraseEntry_of_ne h m.ascending

/-- The entries are the pairs that look-ups find. -/
theorem mem_entries_iff {m : KeyMap κ β} {k : κ} {v : β} :
    (k, v) ∈ m.entries ↔ m.get? k = some v := by
  obtain ⟨l, hl⟩ := m
  simp only [get?]
  induction l with
  | nil => simp [find?]
  | cons e rest ih =>
    obtain ⟨hall, hrest⟩ := List.pairwise_cons.1 hl
    have ih := ih hrest
    unfold find?
    split
    · rename_i h
      simp only [List.mem_cons, reduceCtorEq, iff_false, not_or]
      refine ⟨fun he => ?_, fun hm => ?_⟩
      · subst he; exact KeyOrder.irrefl _ h
      · exact KeyOrder.irrefl _ (KeyOrder.trans h (hall _ hm))
    · split
      · rename_i h h'
        rw [← ih, List.mem_cons, or_iff_right]
        rintro rfl
        exact KeyOrder.irrefl _ h'
      · rename_i h h'
        have hke : k = e.1 := KeyOrder.connected h h'
        rw [List.mem_cons, or_iff_left]
        · obtain ⟨k₀, v₀⟩ := e
          cases hke
          simp [eq_comm]
        · intro hm
          exact KeyOrder.irrefl _ (hke ▸ hall _ hm)

end Lookup

end KeyMap

end SidecarPolicy
