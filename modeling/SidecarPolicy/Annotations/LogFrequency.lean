/-
The seconds between two log entries of the sidecar.

* `LogFrequency`: a positive number of seconds below 2^32;
* `LogFrequency.ofSeconds`: zero stands for the default of ten seconds;
* `LogFrequency.text`, `LogFrequency.ofText`: the written form.
-/
import SidecarPolicy.Text.Blank
import SidecarPolicy.Text.Decimal

namespace SidecarPolicy

/-- Seconds between two log entries. -/
structure LogFrequency where
  seconds : Nat
  positive : 0 < seconds
  bounded : seconds < UInt32.size
  deriving DecidableEq

namespace LogFrequency

/-- Ten seconds. -/
def standard : LogFrequency := ⟨10, by decide, by decide⟩

instance : Inhabited LogFrequency := ⟨standard⟩

/-- A frequency of the given seconds, of ten for zero and for what is no
unsigned number of 32 bits. -/
def ofSeconds (n : Nat) : LogFrequency :=
  if h : 0 < n ∧ n < UInt32.size then ⟨n, h.1, h.2⟩ else standard

/-- The decimal digits of the seconds. -/
def text (f : LogFrequency) : String := toString f.seconds

/-- The frequency that a text holds: a number of 32 bits between blanks. -/
def ofText (s : String) : Except Text.NumberFault LogFrequency :=
  (Text.readNumber (UInt32.size - 1) (Text.trimmed s.toList)).map ofSeconds

end LogFrequency

end SidecarPolicy
