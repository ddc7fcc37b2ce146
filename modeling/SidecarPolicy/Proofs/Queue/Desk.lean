/-
A desk at which keys are handed to those who stand in line.

Keys come in at any time, and whoever wants one joins the line.  The key that has been there
longest goes to the one who has stood there longest.  Nobody else leaves the line, except
that a caller may give up, and that all go away when there will be no more keys.

* `Desk`, `Desk.Event`, `Desk.Step`: the desk, and what may happen at it;
* `Desk.Trace`: one thing after another;
* `Desk.Trace.keys_eq`: **the keys are handed out in the order in which they came in**;
* `Desk.Trace.key_first`, `Desk.Trace.worker_first`: no key is overtaken by another one, and
  nobody in the line by anybody else.
-/
import Mathlib.Tactic
import SidecarPolicy.Queue.Dispatch

namespace SidecarPolicy

/-- The keys that are there, in the order in which they came in; the line, in the order in
which they joined it; and how many tasks have ever come. -/
structure Desk (κ : Type) where
  keys : List κ
  line : List Worker
  tasks : Nat

namespace Desk

variable {κ : Type}

/-- What may happen: a key comes in; a worker joins the line; a key is handed to a worker; a
worker gives up; all who stand in line go away without a key. -/
inductive Event (κ : Type) where
  | entered (k : κ)
  | came (w : Worker)
  | handed (w : Worker) (k : κ)
  | left (w : Worker)
  | dismissed
  deriving DecidableEq, Repr

/-- The key that comes in. -/
def Event.entered? : Event κ → Option κ
  | .entered k => some k
  | _ => none

/-- The key that is handed out. -/
def Event.handed? : Event κ → Option κ
  | .handed _ k => some k
  | _ => none

/-- The steps.  Tasks are numbered as they come, and only a caller gives up. -/
inductive Step : Desk κ → Event κ → Desk κ → Prop
  | entered (d : Desk κ) (k : κ) : Step d (.entered k) { d with keys := d.keys ++ [k] }
  | task (d : Desk κ) : Step d (.came (.task d.tasks))
      { d with line := d.line ++ [.task d.tasks], tasks := d.tasks + 1 }
  | caller (d : Desk κ) : Step d (.came .caller) { d with line := d.line ++ [.caller] }
  | handed {d : Desk κ} {k : κ} {keys : List κ} {w : Worker} {line : List Worker}
      (hkeys : d.keys = k :: keys) (hline : d.line = w :: line) :
      Step d (.handed w k) { d with keys, line }
  | left (d : Desk κ) : Step d (.left .caller) { d with line := d.line.filter (· ≠ .caller) }
  | dismissed (d : Desk κ) : Step d .dismissed { d with line := [] }

lemma Step.eq_of_came {d d' : Desk κ} {w : Worker} (hst : Step d (.came w) d') :
    w = .task d.tasks ∨ w = .caller := by
  cases hst with
  | task => exact .inl rfl
  | caller => exact .inr rfl

/-- One thing after another. -/
inductive Trace : Desk κ → List (Event κ) → Desk κ → Prop
  | nil (d : Desk κ) : Trace d [] d
  | cons {d d₁ d' : Desk κ} {e : Event κ} {L : List (Event κ)} (hst : Step d e d₁)
      (h : Trace d₁ L d') : Trace d (e :: L) d'

namespace Trace

variable {d d' d'' : Desk κ} {L L₁ L₂ : List (Event κ)}

lemma single {e : Event κ} (hst : Step d e d') : Trace d [e] d' := .cons hst (.nil d')

lemma append (h : Trace d L₁ d') (h' : Trace d' L₂ d'') : Trace d (L₁ ++ L₂) d'' := by
  induction h with
  | nil => exact h'
  | cons hst _ ih => exact .cons hst (ih h')

lemma exists_of_append (h : Trace d (L₁ ++ L₂) d'') :
    ∃ d', Trace d L₁ d' ∧ Trace d' L₂ d'' := by
  induction L₁ generalizing d with
  | nil => exact ⟨d, .nil d, h⟩
  | cons e L₁ ih =>
      cases h with
      | cons hst h =>
          obtain ⟨d', h₁, h₂⟩ := ih h
          exact ⟨d', .cons hst h₁, h₂⟩

/-! ### Keys -/

/-- **The keys are handed out in the order in which they came in.** -/
theorem keys_eq (h : Trace d L d') :
    d.keys ++ L.filterMap Event.entered? = L.filterMap Event.handed? ++ d'.keys := by
  induction h with
  | nil d => exact List.append_nil _
  | @cons d d₁ d' e L hst _ ih =>
      cases hst with
      | entered k => exact (List.append_cons d.keys k _).trans ih
      | @handed k keys w line hkeys hline =>
          rw [hkeys]
          exact congrArg (k :: ·) ih
      | task | caller | left | dismissed => exact ih

/-- What is handed out of a row of keys before a later one comes out. -/
lemma mem_of_prefix {P xs R : List κ} {a b : κ} (h : P ++ [b] <+: xs ++ a :: R)
    (hb : b ∉ xs) (hne : b ≠ a) : a ∈ P := by
  have hrow : xs ++ [a] <+: xs ++ a :: R := ⟨R, by simp⟩
  obtain hshort | hlong := List.prefix_or_prefix_of_prefix h hrow
  · have hmem : b ∈ xs ++ [a] := hshort.subset (by simp)
    rcases List.mem_append.mp hmem with hmem | hmem
    · exact absurd hmem hb
    · exact absurd (List.mem_singleton.mp hmem) hne
  · have hmem : a ∈ P ++ [b] := hlong.subset (by simp)
    exact (List.mem_append.mp hmem).resolve_right fun heq => hne (List.mem_singleton.mp heq).symm

/-- **No key is overtaken**: one that is not ahead of another one is handed out after it. -/
theorem key_first {w : Worker} {b : κ} (h : Trace d (L₁ ++ .handed w b :: L₂) d')
    {xs ys : List κ} {a : κ} (hkeys : d.keys = xs ++ a :: ys) (hb : b ∉ xs) (hne : b ≠ a) :
    ∃ v, Event.handed v a ∈ L₁ := by
  rw [List.append_cons] at h
  obtain ⟨d₁, h₁, -⟩ := exists_of_append h
  have hrow := h₁.keys_eq
  rw [hkeys, List.append_assoc, List.cons_append,
    List.filterMap_append (f := Event.handed?)] at hrow
  have hmem : a ∈ L₁.filterMap Event.handed? := mem_of_prefix ⟨d₁.keys, hrow.symm⟩ hb hne
  obtain ⟨e, he, hhanded⟩ := List.mem_filterMap.mp hmem
  cases e with
  | handed v k =>
      obtain rfl := Option.some.inj hhanded
      exact ⟨v, he⟩
  | entered | came | left | dismissed => cases hhanded

/-- Of two keys that are handed out one after the other, the first has come in before. -/
lemma entered_sublist {v w : Worker} {a b : κ} (h : Trace d (L₁ ++ .handed w b :: L₂) d')
    (hkeys : d.keys = []) (ha : .handed v a ∈ L₁) :
    [a, b].Sublist ((L₁ ++ .handed w b :: L₂).filterMap Event.entered?) := by
  have hrow := h.keys_eq
  rw [hkeys, List.nil_append] at hrow
  rw [hrow, List.filterMap_append (f := Event.handed?)]
  have hfirst : [a].Sublist (L₁.filterMap Event.handed?) :=
    List.singleton_sublist.mpr (List.mem_filterMap.mpr ⟨_, ha, rfl⟩)
  have hsecond : [b].Sublist ((Event.handed w b :: L₂).filterMap Event.handed?) :=
    List.singleton_sublist.mpr List.mem_cons_self
  exact (hfirst.append hsecond).trans (List.sublist_append_left _ _)

/-! ### The line -/

/-- Whoever stands in line has been there before, or has come. -/
lemma mem_line (h : Trace d L d') {w : Worker} (hw : w ∈ d'.line) : w ∈ d.line ∨ .came w ∈ L := by
  induction h with
  | nil => exact .inl hw
  | cons hst _ ih =>
      obtain hw | hcame := ih hw
      · cases hst with
        | entered => exact .inl hw
        | task | caller =>
            obtain hw | heq := List.mem_append.mp hw
            · exact .inl hw
            · exact .inr (List.mem_singleton.mp heq ▸ List.mem_cons_self)
        | handed _ hline => exact .inl (hline ▸ .tail _ hw)
        | left => exact .inl (List.mem_of_mem_filter hw)
        | dismissed => cases hw
      · exact .inr (.tail _ hcame)

lemma tasks_le (h : Trace d L d') : d.tasks ≤ d'.tasks := by
  induction h with
  | nil => exact le_rfl
  | cons hst _ ih =>
      refine le_trans ?_ ih
      cases hst with
      | task => exact Nat.le_succ _
      | entered | caller | handed | left | dismissed => exact le_rfl

lemma le_of_came (h : Trace d L d') {n : Nat} (hmem : .came (.task n) ∈ L) : d.tasks ≤ n := by
  obtain ⟨L₁, L₂, rfl⟩ := List.append_of_mem hmem
  obtain ⟨d₁, h₁, h₂⟩ := exists_of_append h
  cases h₂ with
  | cons hst _ =>
      cases hst with
      | task => exact h₁.tasks_le

/-- Only those are handed keys who have stood in line, or have come. -/
lemma came_of_handed (h : Trace d L d') {w : Worker} {k : κ} (hmem : .handed w k ∈ L) :
    w ∈ d.line ∨ .came w ∈ L := by
  obtain ⟨L₁, L₂, rfl⟩ := List.append_of_mem hmem
  obtain ⟨d₁, h₁, h₂⟩ := exists_of_append h
  cases h₂ with
  | cons hst _ =>
      cases hst with
      | handed _ hline =>
          have hthere : w ∈ d₁.line := hline ▸ List.mem_cons_self
          exact (h₁.mem_line hthere).imp_right (List.mem_append_left _)

/-- A task that has left the line is handed no key any more. -/
lemma handed_not_mem (h : Trace d L d') {n : Nat} (hn : n < d.tasks) (hline : .task n ∉ d.line)
    (k : κ) : Event.handed (.task n) k ∉ L := by
  -- only new tasks join the line, and they have other numbers
  induction h with
  | nil => exact List.not_mem_nil
  | @cons d d₁ d' e L hst _ ih =>
      cases hst with
      | entered k' => exact List.not_mem_cons_of_ne_of_not_mem nofun (ih hn hline)
      | task =>
          refine List.not_mem_cons_of_ne_of_not_mem nofun
            (ih (hn.trans (Nat.lt_succ_self _)) ?_)
          simpa [hline] using hn.ne
      | caller =>
          refine List.not_mem_cons_of_ne_of_not_mem nofun (ih hn ?_)
          simpa using hline
      | @handed k' keys w line hkeys hline' =>
          rw [hline', List.mem_cons, not_or] at hline
          refine List.not_mem_cons_of_ne_of_not_mem (fun heq => ?_) (ih hn hline.2)
          exact hline.1 (Event.handed.inj heq).1
      | left =>
          refine List.not_mem_cons_of_ne_of_not_mem nofun (ih hn ?_)
          exact fun hmem => hline (List.mem_of_mem_filter hmem)
      | dismissed =>
          exact List.not_mem_cons_of_ne_of_not_mem nofun (ih hn List.not_mem_nil)

/-- **Nobody in the line is overtaken**: before somebody who is not ahead of a task is handed
a key, the task is handed one, or all are dismissed; and after that no task that was in the
line is handed one. -/
theorem worker_first {w : Worker} {b : κ} (h : Trace d L d') (hL : L = L₁ ++ .handed w b :: L₂)
    {xs ys : List Worker} {n : Nat} (hline : d.line = xs ++ .task n :: ys) (hw : w ∉ xs)
    (hne : w ≠ .task n) :
    (∃ a, Event.handed (.task n) a ∈ L₁) ∨
      .dismissed ∈ L₁ ∧ ∀ m < d.tasks, .task m ∈ d.line → w ≠ .task m := by
  induction h generalizing L₁ xs ys with
  | nil => exact absurd hL (by simp)
  | @cons d d₁ d' e L hst h ih =>
      cases L₁ with
      | nil =>
          -- the first in the line is ahead of the task
          obtain ⟨rfl, rfl⟩ := List.cons.inj hL
          cases hst with
          | handed hkeys hline' =>
              rw [hline'] at hline
              cases xs with
              | nil => exact absurd (List.cons.inj hline).1 hne
              | cons x xs => exact absurd ((List.cons.inj hline).1 ▸ List.mem_cons_self) hw
      | cons e₁ L₁ =>
          obtain ⟨rfl, htail⟩ := List.cons.inj hL
          have hlater (hknown : ∀ m < d.tasks, .task m ∈ d.line → w ≠ .task m ∨
                m < d₁.tasks ∧ .task m ∈ d₁.line)
              (hrest : (∃ a, Event.handed (.task n) a ∈ L₁) ∨
                .dismissed ∈ L₁ ∧ ∀ m < d₁.tasks, .task m ∈ d₁.line → w ≠ .task m) :
              (∃ a, Event.handed (.task n) a ∈ e :: L₁) ∨
                .dismissed ∈ e :: L₁ ∧ ∀ m < d.tasks, .task m ∈ d.line → w ≠ .task m :=
            hrest.imp (Exists.imp fun _ => .tail _) fun ⟨hmem, hnew⟩ =>
              ⟨.tail _ hmem, fun m hm hmem => (hknown m hm hmem).elim id fun h => hnew m h.1 h.2⟩
          have hjoined (v : Worker) : d.line ++ [v] = xs ++ .task n :: (ys ++ [v]) := by
            rw [hline, List.append_assoc, List.cons_append]
          cases hst with
          | entered k => exact hlater (fun m hm hmem => .inr ⟨hm, hmem⟩) (ih htail hline hw)
          | task =>
              refine hlater (fun m hm hmem => .inr ⟨hm.trans (Nat.lt_succ_self _), ?_⟩)
                (ih htail (hjoined _) hw)
              exact List.mem_append_left _ hmem
          | caller =>
              exact hlater (fun m hm hmem => .inr ⟨hm, List.mem_append_left _ hmem⟩)
                (ih htail (hjoined _) hw)
          | @handed k keys u line hkeys hline' =>
              rw [hline'] at hline
              cases xs with
              | nil =>
                  obtain ⟨rfl, -⟩ := List.cons.inj hline
                  exact .inl ⟨k, List.mem_cons_self⟩
              | cons x xs =>
                  obtain ⟨rfl, hrest⟩ := List.cons.inj hline
                  obtain ⟨hwu, hw⟩ : w ≠ u ∧ w ∉ xs := not_or.mp (List.mem_cons.not.mp hw)
                  refine hlater (fun m hm hmem => ?_) (ih htail hrest hw)
                  rw [hline'] at hmem
                  obtain heq | hmem := List.mem_cons.mp hmem
                  · exact .inl fun hwm => hwu (hwm.trans heq)
                  · exact .inr ⟨hm, hmem⟩
          | left =>
              have hstays (m : Nat) (hmem : .task m ∈ d.line) :
                  .task m ∈ d.line.filter (· ≠ .caller) :=
                List.mem_filter.mpr ⟨hmem, by simp⟩
              have hleft : d.line.filter (· ≠ .caller) =
                  xs.filter (· ≠ .caller) ++ .task n :: ys.filter (· ≠ .caller) := by
                simp [hline]
              exact hlater (fun m hm hmem => .inr ⟨hm, hstays m hmem⟩)
                (ih htail hleft fun hmem => hw (List.mem_of_mem_filter hmem))
          | dismissed =>
              refine .inr ⟨List.mem_cons_self, fun m hm _ heq => ?_⟩
              refine h.handed_not_mem hm List.not_mem_nil b ?_
              rw [htail, heq]
              exact List.mem_append_right _ List.mem_cons_self

end Trace

end Desk

end SidecarPolicy
