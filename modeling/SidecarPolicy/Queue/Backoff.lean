/-
The delay before a failed key is tried again.

* `Backoff`: a base and a limit, in milliseconds;
* `Backoff.delay`: the base doubled with every requeue, up to the limit.
-/

namespace SidecarPolicy

/-- A base and a limit of delays, in milliseconds. -/
structure Backoff where
  base : Nat := 5
  max : Nat := 60000
  deriving DecidableEq, Inhabited, Repr

namespace Backoff

/-- The factor after a number of requeues: a power of two, as far as it is a
number of 32 bits, else the largest such number. -/
def factor (requeues : Nat) : Nat :=
  if requeues < 32 then Nat.pow 2 requeues else UInt32.size - 1

/-- The delay after a number of requeues. -/
def delay (b : Backoff) (requeues : Nat) : Nat :=
  min (b.base * factor requeues) b.max

end Backoff

end SidecarPolicy
