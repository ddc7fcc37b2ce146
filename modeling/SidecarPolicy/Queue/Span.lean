/-
Spans of time in machine words.

A span is a number of seconds in a word of 64 bits, and nanoseconds below one second in a word
of 32.  Products that could be too long are checked, and become the largest word or the longest
span; what is computed without a check has to fit, and is a fault if it does not.

* `Word.mul?`, `Word.add?`: checked arithmetic of words;
* `Word.power`: a power, by squaring, or the largest word;
* `Span`, `Span.ofMillis`, `Span.total`: spans, and their nanoseconds;
* `Span.scale?`: a span so many times, or the longest one;
* `Span.delay?`: the delay before a failed key is tried again, in words.
-/

namespace SidecarPolicy

/-! ### Words -/

namespace Word

variable {w : Nat}

/-- The product of two words, if it is a word. -/
def mul? (a b : BitVec w) : Option (BitVec w) :=
  if a.umulOverflow b then none else some (a * b)

/-- The sum of two words, if it is a word. -/
def add? (a b : BitVec w) : Option (BitVec w) :=
  if a.uaddOverflow b then none else some (a + b)

/-- The product of a word and a power of another one, if it is a word.  The base is squared while
the exponent is halved, and only as long as it is needed. -/
def mulPower? (acc a : BitVec w) (n : Nat) : Option (BitVec w) :=
  if n = 0 then some acc
  else if n = 1 then mul? acc a
  else
    (if n % 2 = 1 then mul? acc a else some acc).bind fun acc =>
      (mul? a a).bind fun square => mulPower? acc square (n / 2)
termination_by n

/-- A power, or the largest word if the power is none. -/
def power (a : BitVec w) (n : Nat) : BitVec w := (mulPower? 1#w a n).getD (BitVec.allOnes w)

end Word

/-! ### Spans -/

/-- A span of time: seconds, and nanoseconds below one second. -/
structure Span where
  secs : BitVec 64
  nanos : BitVec 32
  nanos_lt : nanos.toNat < 1000000000
  deriving DecidableEq

namespace Span

def longest : Span := ⟨BitVec.allOnes 64, 999999999#32, by decide⟩

/-- So many seconds and nanoseconds.  Whole seconds among the nanoseconds are carried, which is
a fault if the seconds do not fit. -/
def make? (secs : BitVec 64) (nanos : BitVec 32) : Option Span :=
  if h : nanos.toNat < 1000000000 then some ⟨secs, nanos, h⟩
  else
    (Word.add? secs ((nanos / 1000000000#32).setWidth 64)).map fun secs =>
      ⟨secs, nanos % 1000000000#32, Nat.mod_lt _ (by decide)⟩

/-- The nanoseconds of the milliseconds below one second. -/
def fraction (ms : BitVec 64) : BitVec 32 := (ms % 1000#64).setWidth 32 * 1000000#32

theorem toNat_fraction (ms : BitVec 64) :
    (fraction ms).toNat = ms.toNat % 1000 * 1000000 := by
  have hlt : ms.toNat % 1000 < 1000 := Nat.mod_lt _ (by decide)
  rw [fraction, BitVec.toNat_mul, BitVec.toNat_setWidth, BitVec.toNat_umod]
  simp only [BitVec.toNat_ofNat, Nat.reducePow, Nat.reduceMod]
  omega

/-- The span of so many milliseconds. -/
def ofMillis (ms : BitVec 64) : Span where
  secs := ms / 1000#64
  nanos := fraction ms
  nanos_lt := by
    rw [toNat_fraction]
    omega

def total (s : Span) : Nat := s.secs.toNat * 1000000000 + s.nanos.toNat

/-- The whole milliseconds of a span. -/
def millis (s : Span) : Nat := s.secs.toNat * 1000 + s.nanos.toNat / 1000000

/-- Spans are compared by their seconds first. -/
instance : LE Span :=
  ⟨fun s t => s.secs < t.secs ∨ s.secs = t.secs ∧ s.nanos ≤ t.nanos⟩

instance (s t : Span) : Decidable (s ≤ t) :=
  inferInstanceAs (Decidable (s.secs < t.secs ∨ s.secs = t.secs ∧ s.nanos ≤ t.nanos))

/-- The shorter one of two spans. -/
instance : Min Span := minOfLe

/-- The seconds of a span so many times, and those that are carried from its nanoseconds, if
they fit. -/
def seconds? (s : Span) (n : BitVec 32) (carried : BitVec 64) : Option (BitVec 64) :=
  (Word.mul? s.secs (n.setWidth 64)).bind (Word.add? · carried)

/-- A span so many times, or the longest span if that is too long.  The product of the
nanoseconds is not expected to be too large, and would be a fault. -/
def scale? (s : Span) (n : BitVec 32) : Option Span :=
  (Word.mul? (s.nanos.setWidth 64) (n.setWidth 64)).bind fun product =>
    match s.seconds? n (product / 1000000000#64) with
    | none => some longest
    | some secs => make? secs ((product % 1000000000#64).setWidth 32)

/-- The delay after a number of requeues: the base times a power of two, up to the limit. -/
def delay? (base limit : Span) (requeues : BitVec 32) : Option Span :=
  (base.scale? (Word.power 2#32 requeues.toNat)).map (min · limit)

end Span

end SidecarPolicy
