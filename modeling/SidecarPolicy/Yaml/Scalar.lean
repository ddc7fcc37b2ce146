/-
The scalars of YAML texts: plain, single-quoted and double-quoted ones.

Between two words of a scalar, blanks stand for themselves; a line break stands
for a space, and of several line breaks the first one for nothing, while the
blanks around them do not count.

* `Gap`, `Gap.text`: what stands between two words, and what it stands for;
* `Yaml.plain`: the rest of a plain scalar;
* `Yaml.singleQuoted`, `Yaml.doubleQuoted`: the rest of a quoted one.
-/
import SidecarPolicy.Yaml.Place

namespace SidecarPolicy.Yaml

/-! ### Gaps -/

/-- What stands between two words, in reverse: blanks on one line, or line
breaks, the first of them apart; `none` if it was escaped. -/
inductive Gap where
  | blanks (cs : List Char)
  | lines (first : Option Char) (more : List Char)
  deriving DecidableEq, Repr

namespace Gap

def empty : Gap := .blanks []

def isEmpty : Gap → Bool
  | .blanks [] => true
  | _ => false

/-- Whether there is a line break. -/
def isLines : Gap → Bool
  | .blanks _ => false
  | .lines .. => true

/-- A gap with one more blank or line break. -/
def add (g : Gap) (c : Char) : Gap :=
  match g with
  | .blanks cs => if isBreak c then .lines (some c) [] else .blanks (c :: cs)
  | .lines first more => if isBreak c then .lines first (c :: more) else .lines first more

/-- What a gap stands for, in reverse. -/
def text : Gap → List Char
  | .blanks cs => cs
  | .lines none more => more
  | .lines (some '\n') [] => [' ']
  | .lines (some '\n') more => more
  | .lines (some c) more => more ++ [c]

end Gap

/-- A scalar, whether it or the gap after it goes over a line's end, and what
follows. -/
structure Scanned where
  text : String
  crossed : Bool := false
  rest : List Placed

/-- A scalar from its characters in reverse. -/
def scanned (acc : List Char) (crossed : Bool) (rest : List Placed) : Except Fault Scanned :=
  .ok ⟨String.ofList acc.reverse, crossed, rest⟩

/-! ### Plain scalars -/

/-- The signs that end a plain scalar inside brackets. -/
def flowSigns : List Char := [',', '[', ']', '\x7b', '\x7d']

/-- Whether a plain scalar ends before a character, with what follows it. -/
def endsPlain (flow : Bool) (gap : Gap) (indent : Int) (x : Placed) (rest : List Placed) :
    Bool :=
  (gap.isLines && !flow && x.column < indent)
    || (!gap.isEmpty && (x.char = '#' || isMarker (x :: rest)))
    || (x.char = ':' && isEnd rest)
    || (flow && flowSigns.contains x.char)

/-- Whether a colon inside brackets is followed by a sign that may not follow
it. -/
def straysColon (flow : Bool) (x : Placed) (rest : List Placed) : Bool :=
  flow && x.char = ':' && ('?' :: flowSigns).any fun c => nextIs c rest

/-- The rest of a plain scalar.  Its lines are indented by `indent` at least,
unless it stands inside brackets; tabs do not indent. -/
def plain (flow : Bool) (indent : Int) (acc : List Char) (gap : Gap) :
    List Placed → Except Fault Scanned
  | [] => scanned acc gap.isLines []
  | x :: rest =>
      if isBlank x.char || isBreak x.char then
        if gap.isLines && x.char = '\t' && x.column < indent then .error .tab
        else plain flow indent acc (gap.add x.char) rest
      else if endsPlain flow gap indent x rest then scanned acc gap.isLines (x :: rest)
      else if straysColon flow x rest then .error (.unexpected ':')
      else plain flow indent (x.char :: (gap.text ++ acc)) .empty rest

/-! ### Quoted scalars -/

/-- The rest of a single-quoted scalar, in which a quote is written twice. -/
def singleQuoted (acc : List Char) (gap : Gap) : List Placed → Except Fault Scanned
  | [] => .error .unclosed
  | x :: rest =>
      if isMarker (x :: rest) then .error .unclosed
      else if isBlank x.char || isBreak x.char then singleQuoted acc (gap.add x.char) rest
      else if x.char = '\'' then
        match rest with
        | y :: rest' =>
            if y.char = '\'' then singleQuoted ('\'' :: (gap.text ++ acc)) .empty rest'
            else scanned (gap.text ++ acc) false (y :: rest')
        | [] => scanned (gap.text ++ acc) false []
      else singleQuoted (x.char :: (gap.text ++ acc)) .empty rest

/-- The character of a letter after a backslash. -/
def escapeOf? (c : Char) : Option Char :=
  [('0', '\x00'), ('a', '\x07'), ('b', '\x08'), ('t', '\t'), ('\t', '\t'), ('n', '\n'),
    ('v', '\x0b'), ('f', '\x0c'), ('r', '\r'), ('e', '\x1b'), (' ', ' '), ('"', '"'),
    ('/', '/'), ('\\', '\\'), ('N', '\u0085'), ('_', '\u00a0'), ('L', '\u2028'),
    ('P', '\u2029')].lookup c

/-- The number of hexadecimal digits that follow a letter after a backslash. -/
def hexCount? (c : Char) : Option Nat :=
  [('x', 2), ('u', 4), ('U', 8)].lookup c

/-- The value of a hexadecimal digit. -/
def hexDigit? (c : Char) : Option Nat :=
  if '0' ≤ c ∧ c ≤ '9' then some (c.toNat - 48)
  else if 'a' ≤ c ∧ c ≤ 'f' then some (c.toNat - 87)
  else if 'A' ≤ c ∧ c ≤ 'F' then some (c.toNat - 55)
  else none

/-- The character of a number, if there is one. -/
def charOf? (n : Nat) : Option Char :=
  if n.isValidChar then some (Char.ofNat n) else none

/-- Where a double-quoted scalar stands: among its characters, after a
backslash, or so many digits before the end of an escape. -/
inductive QuoteState where
  | among
  | escape
  | digits (left value : Nat)
  deriving DecidableEq, Repr

/-- The rest of a double-quoted scalar. -/
def doubleQuoted (state : QuoteState) (acc : List Char) (gap : Gap) :
    List Placed → Except Fault Scanned
  | [] => .error .unclosed
  | x :: rest =>
      match state with
      | .digits left value =>
          match hexDigit? x.char with
          | none => .error .escape
          | some d =>
              if 1 < left then doubleQuoted (.digits (left - 1) (value * 16 + d)) acc gap rest
              else
                match charOf? (value * 16 + d) with
                | none => .error .escape
                | some c => doubleQuoted .among (c :: acc) .empty rest
      | .escape =>
          if isBreak x.char then doubleQuoted .among acc (.lines none []) rest
          else
            match escapeOf? x.char, hexCount? x.char with
            | some c, _ => doubleQuoted .among (c :: acc) .empty rest
            | none, some n => doubleQuoted (.digits n 0) acc .empty rest
            | none, none => .error .escape
      | .among =>
          if isMarker (x :: rest) then .error .unclosed
          else if isBlank x.char || isBreak x.char then
            doubleQuoted .among acc (gap.add x.char) rest
          else if x.char = '"' then scanned (gap.text ++ acc) false rest
          else if x.char = '\\' then doubleQuoted .escape (gap.text ++ acc) .empty rest
          else doubleQuoted .among (x.char :: (gap.text ++ acc)) .empty rest

end SidecarPolicy.Yaml
