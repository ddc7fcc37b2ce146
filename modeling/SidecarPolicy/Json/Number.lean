/-
The numbers of JSON texts.

A number is an integer only if it is written as one and lies between -2^63 and
2^64 - 1; a negative zero is none.  Any other number is read with 53 binary
digits: those of its digits that fit into 64 bits, rounded, times a power of
ten, rounded as well.  A number that is too large for an exponent of eleven
bits has no value.

* `Numeral`: a number in the parts in which it is written;
* `Numeral.ofChars?`: the number that characters spell;
* `Numeral.isTooLarge`: whether it has no value;
* `number?`: the value of a number.
-/
import SidecarPolicy.Json.Draft

namespace SidecarPolicy.Json

/-- A number as it is written: digits before and after the point, and an
exponent. -/
structure Numeral where
  negative : Bool
  whole : List Char
  fraction : Option (List Char) := none
  exponent : Option Int := none
  deriving DecidableEq, Inhabited, Repr

/-- The value of a decimal digit. -/
def digitValue (d : Char) : Nat := d.toNat - 48

/-- The value of decimal digits. -/
def digitsValue (ds : List Char) : Nat :=
  ds.foldl (fun n d => n * 10 + digitValue d) 0

namespace Numeral

/-! ### Spelling -/

/-- Digits, of which there is at least one. -/
def digits? (cs : List Char) : Option (List Char) :=
  if !cs.isEmpty && cs.all Char.isDigit then some cs else none

/-- The exponent that characters spell after the sign of one. -/
def exponent? : List Char → Option Int
  | '+' :: ds => (digits? ds).map fun ds => (digitsValue ds : Int)
  | '-' :: ds => (digits? ds).map fun ds => -(digitsValue ds : Int)
  | ds => (digits? ds).map fun ds => (digitsValue ds : Int)

/-- A number with the exponent that the rest of its characters spells, which may
be none. -/
def withExponent (n : Numeral) : List Char → Option Numeral
  | [] => some n
  | 'e' :: rest | 'E' :: rest => (exponent? rest).map fun e => { n with exponent := some e }
  | _ => none

/-- A number with the fraction and the exponent that the rest of its characters
spells. -/
def withFraction (n : Numeral) : List Char → Option Numeral
  | '.' :: rest => do
      let ds ← digits? (rest.takeWhile Char.isDigit)
      withExponent { n with fraction := some ds } (rest.dropWhile Char.isDigit)
  | rest => withExponent n rest

/-- A number without a sign; there is no superfluous zero at its front. -/
def ofUnsigned? (negative : Bool) (cs : List Char) : Option Numeral := do
  let whole ← digits? (cs.takeWhile Char.isDigit)
  if whole.head? = some '0' ∧ 1 < whole.length then none
  else withFraction { negative, whole } (cs.dropWhile Char.isDigit)

/-- The number that characters spell. -/
def ofChars? : List Char → Option Numeral
  | '-' :: cs => ofUnsigned? true cs
  | cs => ofUnsigned? false cs

/-! ### Size -/

/-- Digits appended to a number as long as it stays below 2^64, and how many of
them were. -/
def append : Nat → List Char → Nat × Nat
  | n, [] => (n, 0)
  | n, d :: rest =>
      let next := n * 10 + digitValue d
      if next < UInt64.size then
        let (m, taken) := append next rest
        (m, taken + 1)
      else (n, 0)

/-- The digits that count, and the power of ten by which they are scaled. -/
def scaled (n : Numeral) : Nat × Int :=
  let (front, taken) := append 0 n.whole
  let (digits, more) := append front (n.fraction.getD [])
  (digits, n.exponent.getD 0 + (n.whole.length - taken : Nat) - more)

/-- A number rounded to 53 binary digits, a half going to the even neighbour. -/
def rounded (n : Nat) : Nat :=
  let unit := Nat.pow 2 (n.log2 - 52)
  let q := n / unit
  let r := n % unit
  if unit < 2 * r ∨ (2 * r = unit ∧ q % 2 = 1) then (q + 1) * unit else q * unit

/-- The largest power of ten below the bound. -/
def maxExponent : Nat := 308

/-- The least number that rounds to 2^1024. -/
def bound : Nat := Nat.pow 2 1024 - Nat.pow 2 970

/-- Whether a number is too large to have a value. -/
def isTooLarge (n : Numeral) : Bool :=
  let (digits, exponent) := n.scaled
  digits != 0 && (maxExponent < exponent
    || (0 ≤ exponent && bound ≤ rounded digits * rounded (Nat.pow 10 exponent.toNat)))

/-- The integer that a number is. -/
def integer? (n : Numeral) : Option Int :=
  if n.fraction.isSome || n.exponent.isSome then none
  else
    let m := digitsValue n.whole
    if n.negative then
      if 0 < m ∧ m ≤ UInt64.size / 2 then some (-(m : Int)) else none
    else if m < UInt64.size then some m else none

end Numeral

/-- The value of the number that characters spell, if they spell one. -/
def number? (written : List Char) : Option Draft := do
  let n ← Numeral.ofChars? written
  match n.integer? with
  | some i => return .int i
  | none =>
      return if n.isTooLarge then .unreadable else .decimal (String.ofList written)

end SidecarPolicy.Json
