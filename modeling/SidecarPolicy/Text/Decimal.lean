/-
Reading a bounded natural number from decimal digits.

* `NumberFault`: why a text is no such number;
* `readDigits`: digits read from the left, the first fault deciding;
* `readNumber`: an optional `+` before at least one digit.
-/

namespace SidecarPolicy.Text

/-- Why a text is not a number within its bound. -/
inductive NumberFault where
  | empty
  | invalidDigit
  | tooLarge
  deriving DecidableEq, Repr

/-- The wording of a number fault. -/
def NumberFault.message : NumberFault → String
  | .empty => "cannot parse integer from empty string"
  | .invalidDigit => "invalid digit found in string"
  | .tooLarge => "number too large to fit in target type"

/-- Digits read from the left onto the value `acc`, which must never exceed
`bound`.  A character that is no digit is a fault of its own, even where the
next digit would already be too large. -/
def readDigits (bound : Nat) : Nat → List Char → Except NumberFault Nat
  | acc, [] => .ok acc
  | acc, c :: rest =>
      if c.isDigit then
        let next := acc * 10 + (c.toNat - 48)
        if next ≤ bound then readDigits bound next rest else .error .tooLarge
      else .error .invalidDigit

/-- A number of at most `bound`: one `+` may stand before the digits, a
lone `+` and any `-` being invalid digits. -/
def readNumber (bound : Nat) : List Char → Except NumberFault Nat
  | [] => .error .empty
  | '+' :: [] => .error .invalidDigit
  | '+' :: c :: rest => readDigits bound 0 (c :: rest)
  | c :: rest => readDigits bound 0 (c :: rest)

end SidecarPolicy.Text
