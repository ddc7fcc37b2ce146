/-
What is to happen later.

* `Timers`: instants with what is to happen then, the earliest first;
* `Timers.insert`: one more, which comes after those that are due no later;
* `Timers.total`: the sum of a measure over timers, and what it becomes by one
  more.
-/

namespace SidecarPolicy

/-- Instants with what is to happen then, the earliest first, and of several at
one instant the one first that was set first. -/
abbrev Timers (α : Type) := List (Nat × α)

namespace Timers

variable {α : Type}

/-- Timers with one more, which comes after those that are due no later. -/
def insert (t : Nat × α) : Timers α → Timers α
  | [] => [t]
  | u :: rest => if u.1 ≤ t.1 then u :: insert t rest else t :: u :: rest

/-- The sum of a measure over timers. -/
def total (weight : Nat × α → Nat) : Timers α → Nat
  | [] => 0
  | t :: rest => weight t + total weight rest

theorem total_insert (weight : Nat × α → Nat) (t : Nat × α) (ts : Timers α) :
    total weight (insert t ts) = weight t + total weight ts := by
  induction ts with
  | nil => rfl
  | cons u rest ih =>
    unfold insert
    split
    · simp only [total, ih]
      omega
    · rfl

end Timers

end SidecarPolicy
