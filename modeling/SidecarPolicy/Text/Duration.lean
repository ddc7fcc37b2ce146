/-
The written form of a time span.

* `durationText`: milliseconds below one second, else seconds with as many
  decimals as are needed.
-/

namespace SidecarPolicy.Text

/-- The three decimals of a fraction of a second without the zeros at the end,
after a point; nothing for zero. -/
def fractionText (ms : Nat) : String :=
  if ms = 0 then ""
  else if ms % 100 = 0 then "." ++ toString (ms / 100)
  else if ms % 10 = 0 then "." ++ toString (ms / 100) ++ toString (ms / 10 % 10)
  else "." ++ toString (ms / 100) ++ toString (ms / 10 % 10) ++ toString (ms % 10)

/-- The written form of so many milliseconds. -/
def durationText (ms : Nat) : String :=
  if ms = 0 then "0ns"
  else if ms < 1000 then toString ms ++ "ms"
  else toString (ms / 1000) ++ fractionText (ms % 1000) ++ "s"

end SidecarPolicy.Text
