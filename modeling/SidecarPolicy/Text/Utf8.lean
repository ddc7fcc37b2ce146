/-
UTF-8: the bytes of a character, and a machine that reads bytes one at a time.

* `Expect`: what the machine still needs, with the bounds of the next byte;
* `begin`: the first byte of a character;
* `scan`: the characters of a byte sequence, a fault standing for each
  longest sequence of bytes that begins a character without completing it;
* `decodeLossy`: the text with U+FFFD for each fault;
* `decode?`: the text, if there is no fault.
-/

namespace SidecarPolicy.Text.Utf8

/-- The state between two bytes: at the start of a character, or inside one,
with its value so far, the bounds of the next byte and the number of bytes
that follow that one. -/
inductive Expect where
  | start
  | inside (value low high : Nat) (more : Nat)
  deriving DecidableEq, Repr

/-- What the first byte of a character leads to: a whole character, a fault,
or a state inside a character.  The bounds of the second byte exclude overlong
forms, surrogates and values above U+10FFFF. -/
def first (b : Nat) : Option (Option Char) × Expect :=
  if b < 0x80 then (some (some (Char.ofNat b)), .start)
  else if 0xC2 ≤ b ∧ b ≤ 0xDF then (none, .inside (b - 0xC0) 0x80 0xBF 0)
  else if b = 0xE0 then (none, .inside 0 0xA0 0xBF 1)
  else if b = 0xED then (none, .inside 0xD 0x80 0x9F 1)
  else if 0xE1 ≤ b ∧ b ≤ 0xEF then (none, .inside (b - 0xE0) 0x80 0xBF 1)
  else if b = 0xF0 then (none, .inside 0 0x90 0xBF 2)
  else if 0xF1 ≤ b ∧ b ≤ 0xF3 then (none, .inside (b - 0xF0) 0x80 0xBF 2)
  else if b = 0xF4 then (none, .inside 4 0x80 0x8F 2)
  else (some none, .start)

/-- The output of a step put in front of what follows. -/
def emit (out : Option (Option Char)) (rest : List (Option Char)) :
    List (Option Char) :=
  match out with
  | none => rest
  | some c => c :: rest

/-- The characters of a byte sequence, with `none` for each fault. -/
def scan : Expect → List UInt8 → List (Option Char)
  | .start, [] => []
  | .inside .., [] => [none]
  | .start, b :: rest => emit (first b.toNat).1 (scan (first b.toNat).2 rest)
  | .inside value low high more, b :: rest =>
      if low ≤ b.toNat ∧ b.toNat ≤ high then
        let value' := value * 64 + (b.toNat - 0x80)
        match more with
        | 0 => some (Char.ofNat value') :: scan .start rest
        | more' + 1 => scan (.inside value' 0x80 0xBF more') rest
      else none :: emit (first b.toNat).1 (scan (first b.toNat).2 rest)

/-- The replacement character, U+FFFD. -/
def replacement : Char := '\uFFFD'

/-- The text of a byte sequence, U+FFFD standing for each fault. -/
def decodeLossy (bytes : List UInt8) : List Char :=
  (scan .start bytes).map (·.getD replacement)

/-- The text of a byte sequence without faults. -/
def decode? (bytes : List UInt8) : Option (List Char) :=
  (scan .start bytes).mapM id

def encode (cs : List Char) : List UInt8 :=
  cs.flatMap String.utf8EncodeChar

end SidecarPolicy.Text.Utf8
