/-
The tokens of a JSON text, read by a machine that takes one character at a
time.

The text may come from bytes that are not UTF-8 throughout; a fault among them
may stand in a string only, which then is no text.  Nor is a string with half of
a surrogate pair.

* `Token`: brackets, separators, and the scalars that one token makes up;
* `Lexing`: where the machine stands between two characters;
* `Lexing.step`: what one character adds;
* `tokens?`: the tokens of a whole text, if it consists of tokens.
-/
import SidecarPolicy.Json.Number

namespace SidecarPolicy.Json

/-- The tokens of a JSON text; the text of a string is missing if it is none. -/
inductive Token where
  | openList
  | closeList
  | openObject
  | closeObject
  | colon
  | comma
  | text (s : Option String)
  | scalar (v : Draft)
  deriving Repr

/-! ### Scalars -/

/-- The literal that a run of letters spells, if it spells one. -/
def literal? (letters : List Char) : Option Draft :=
  if letters = "null".toList then some .null
  else if letters = "true".toList then some (.bool true)
  else if letters = "false".toList then some (.bool false)
  else none

/-- The value of a hexadecimal digit. -/
def hexDigit? (c : Char) : Option Nat :=
  if '0' ≤ c ∧ c ≤ '9' then some (c.toNat - 48)
  else if 'a' ≤ c ∧ c ≤ 'f' then some (c.toNat - 87)
  else if 'A' ≤ c ∧ c ≤ 'F' then some (c.toNat - 55)
  else none

/-- The character that a backslash and a letter stand for. -/
def simpleEscape? (c : Char) : Option Char :=
  match c with
  | '"' => some '"'
  | '\\' => some '\\'
  | '/' => some '/'
  | 'b' => some '\x08'
  | 'f' => some '\x0c'
  | 'n' => some '\n'
  | 'r' => some '\r'
  | 't' => some '\t'
  | _ => none

/-- Whether a code is the first half of a surrogate pair. -/
def isLead (u : Nat) : Bool := 0xD800 ≤ u && u ≤ 0xDBFF

/-- Whether a code is the second half of a surrogate pair. -/
def isTrail (u : Nat) : Bool := 0xDC00 ≤ u && u ≤ 0xDFFF

/-- The characters of the codes in a string, `none` being a fault: the halves
of surrogate pairs must stand together. -/
def charsOf? : List (Option Nat) → Option (List Char)
  | [] => some []
  | none :: _ => none
  | some u :: rest =>
      if isLead u then
        match rest with
        | some v :: rest =>
            if isTrail v then
              (charsOf? rest).map
                (Char.ofNat (0x10000 + (u - 0xD800) * 0x400 + (v - 0xDC00)) :: ·)
            else none
        | _ => none
      else if isTrail u then none
      else (charsOf? rest).map (Char.ofNat u :: ·)

/-! ### The machine -/

/-- Where the machine stands between two characters; what was read of an
unfinished token is held in reverse.  A code is a `\u` escape with its value so
far and the number of digits that are missing. -/
inductive Lexing where
  | between
  | word (letters : List Char)
  | number (written : List Char)
  | text (codes : List (Option Nat))
  | escape (codes : List (Option Nat))
  | code (codes : List (Option Nat)) (value : Nat) (missing : Nat)
  deriving Repr

/-- Whether a character may stand in a number. -/
def isNumberChar (c : Char) : Bool :=
  c.isDigit || c == '-' || c == '+' || c == '.' || c == 'e' || c == 'E'

namespace Lexing

/-- A character outside any token. -/
def start (c : Char) : Option (List Token × Lexing) :=
  if c = ' ' ∨ c = '\t' ∨ c = '\n' ∨ c = '\r' then some ([], .between)
  else if c = '[' then some ([.openList], .between)
  else if c = ']' then some ([.closeList], .between)
  else if c = '\x7b' then some ([.openObject], .between)
  else if c = '\x7d' then some ([.closeObject], .between)
  else if c = ':' then some ([.colon], .between)
  else if c = ',' then some ([.comma], .between)
  else if c = '"' then some ([], .text [])
  else if c.isDigit ∨ c = '-' then some ([], .number [c])
  else if c.isLower then some ([], .word [c])
  else none

/-- What a character adds outside a string. -/
def stepOutside : Lexing → Char → Option (List Token × Lexing)
  | .word letters, c =>
      if c.isLower then some ([], .word (c :: letters))
      else do
        let v ← literal? letters.reverse
        let (out, next) ← start c
        return (.scalar v :: out, next)
  | .number written, c =>
      if isNumberChar c then some ([], .number (c :: written))
      else do
        let v ← number? written.reverse
        let (out, next) ← start c
        return (.scalar v :: out, next)
  | _, c => start c

/-- What one character adds, or a fault: the tokens it completes, and the next
state. -/
def step : Lexing → Option Char → Option (List Token × Lexing)
  | .text codes, none => some ([], .text (none :: codes))
  | .text codes, some c =>
      if c = '"' then
        some ([.text ((charsOf? codes.reverse).map String.ofList)], .between)
      else if c = '\\' then some ([], .escape codes)
      else if c.toNat < 0x20 then none
      else some ([], .text (some c.toNat :: codes))
  | .escape codes, some c =>
      if c = 'u' then some ([], .code codes 0 4)
      else (simpleEscape? c).map fun e => ([], .text (some e.toNat :: codes))
  | .code codes value missing, some c => do
      let d ← hexDigit? c
      let value' := value * 16 + d
      if missing ≤ 1 then return ([], .text (some value' :: codes))
      else return ([], .code codes value' (missing - 1))
  | state, some c => stepOutside state c
  | _, none => none

/-- The tokens that the end of the text completes. -/
def finish : Lexing → Option (List Token)
  | .between => some []
  | .word letters => (literal? letters.reverse).map ([.scalar ·])
  | .number written => (number? written.reverse).map ([.scalar ·])
  | _ => none

/-- The tokens of the rest of a text, those read before it in reverse. -/
def run (read : List Token) : Lexing → List (Option Char) → Option (List Token)
  | state, [] => (finish state).map (read.reverse ++ ·)
  | state, c :: rest =>
      match step state c with
      | none => none
      | some (out, next) => run (out.reverse ++ read) next rest

end Lexing

/-- The tokens of a text, whose faults are `none`. -/
def tokens? (cs : List (Option Char)) : Option (List Token) :=
  Lexing.run [] .between cs

end SidecarPolicy.Json
