/-
The tokens of YAML texts.

A mapping written in lines begins where its first key does, which is known only
once the colon after the key has been read.  So the machine remembers where a
key may have begun, and puts the tokens that say so there afterwards.

* `Token`: the tokens;
* `Scanner`: what has been read, the columns of the open lists and mappings, and
  the places where a key may have begun, one for each pair of brackets;
* `Scanner.step`: the next token;
* `Yaml.tokens`: the tokens of a text.
-/
import SidecarPolicy.Yaml.Scalar

namespace SidecarPolicy.Yaml

/-- The tokens of a text.  Lists and mappings that are written in lines begin and
end with tokens of their own. -/
inductive Token where
  | scalar (text : String) (quoted : Bool)
  | openList
  | closeList
  | openMap
  | closeMap
  | comma
  | item
  | key
  | value
  | beginList
  | beginMap
  | endLines
  | documentStart
  | documentEnd
  deriving DecidableEq, Inhabited, Repr

/-- Where a key may have begun: so many tokens stand before it.  It must turn out
to be one if a mapping is open in its column. -/
structure KeyStart where
  number : Nat
  line : Nat
  column : Nat
  offset : Nat
  required : Bool
  deriving DecidableEq, Repr

/-- A key ends on its line, and takes no more bytes than this. -/
def maxKey : Nat := 1024

/-- What has been read, the tokens in reverse.  `indent` is the column of the
innermost list or mapping in lines, -1 outside; `keys` has the place for a key
of each open bracket, the innermost first, and one for the lines around them. -/
structure Scanner where
  rest : List Placed
  tokens : List Token := []
  indent : Int := -1
  outer : List Int := []
  keys : List (Option KeyStart) := [none]
  keyAllowed : Bool := true

namespace Scanner

/-- Whether brackets are open. -/
def inFlow (s : Scanner) : Bool := 1 < s.keys.length

def emit (s : Scanner) (t : Token) : Scanner := { s with tokens := t :: s.tokens }

/-- Tokens put in front of those that follow the first `number` ones. -/
def emitAt (s : Scanner) (number : Nat) (t : Token) : Scanner :=
  let later := s.tokens.length - number
  { s with tokens := s.tokens.take later ++ t :: s.tokens.drop later }

/-! ### Places of keys -/

/-- No key began at the innermost place. -/
def dropKey (s : Scanner) : Except Fault Scanner :=
  match s.keys with
  | some k :: rest =>
      if k.required then .error .key else .ok { s with keys := none :: rest }
  | _ => .ok s

/-- A key may begin here. -/
def noteKey (s : Scanner) (x : Placed) : Except Fault Scanner :=
  if s.keyAllowed then do
    let s ← s.dropKey
    let start : KeyStart :=
      ⟨s.tokens.length, x.line, x.column, x.offset, !s.inFlow && s.indent == x.column⟩
    return { s with keys := some start :: s.keys.drop 1 }
  else .ok s

/-- A place where a key may have begun, unless it is too far away. -/
def freshKey (x : Placed) : Option KeyStart → Except Fault (Option KeyStart)
  | none => .ok none
  | some k =>
      if k.line < x.line || k.offset + maxKey < x.offset then
        if k.required then .error .key else .ok none
      else .ok (some k)

/-! ### Lists and mappings in lines -/

/-- A list or a mapping begins in a column, unless one is open there; its token
comes after the first `number` ones. -/
def indentTo (s : Scanner) (column : Nat) (number : Nat) (t : Token) : Scanner :=
  if !s.inFlow && s.indent < column then
    { s with indent := column, outer := s.indent :: s.outer }.emitAt number t
  else s

/-- The columns of the open lists and mappings up to a column, and how many were
closed. -/
def closing (column : Int) : Int → List Int → Nat × Int × List Int
  | indent, [] => (0, indent, [])
  | indent, next :: outer =>
      if column < indent then
        let (n, result) := closing column next outer
        (n + 1, result)
      else (0, indent, next :: outer)

/-- The lists and mappings end that begin to the right of a column. -/
def dedentTo (s : Scanner) (column : Int) : Scanner :=
  if s.inFlow then s
  else
    let (n, indent, outer) := closing column s.indent s.outer
    { s with indent, outer, tokens := List.replicate n .endLines ++ s.tokens }

/-! ### Blanks and comments -/

/-- What follows blanks, comments and line breaks, and whether a key may begin
there.  A tab may not stand where a key may, and a byte order mark only in front
of the text. -/
def skip (flow : Bool) (keyAllowed : Bool) (inComment : Bool) :
    List Placed → Bool × List Placed
  | [] => (keyAllowed, [])
  | x :: rest =>
      if isBreak x.char then skip flow (keyAllowed || !flow) false rest
      else if inComment then skip flow keyAllowed true rest
      else if x.char = ' ' || (x.char = '\t' && (flow || !keyAllowed))
          || (x.offset = 0 && x.char = '\uFEFF') then
        skip flow keyAllowed false rest
      else if x.char = '#' then skip flow keyAllowed true rest
      else (keyAllowed, x :: rest)

/-! ### Tokens -/

/-- A bracket that opens. -/
def openFlow (s : Scanner) (x : Placed) (t : Token) : Except Fault Scanner := do
  let s ← s.noteKey x
  return { s with keys := none :: s.keys, keyAllowed := true }.emit t

/-- A bracket that closes. -/
def closeFlow (s : Scanner) (t : Token) : Except Fault Scanner := do
  let s ← s.dropKey
  let keys := if s.inFlow then s.keys.drop 1 else s.keys
  return { s with keys, keyAllowed := false }.emit t

def comma (s : Scanner) : Except Fault Scanner := do
  let s ← s.dropKey
  return { s with keyAllowed := true }.emit .comma

/-- The dash of an item. -/
def item (s : Scanner) (x : Placed) : Except Fault Scanner := do
  if !s.inFlow && !s.keyAllowed then throw .item
  let s ← (s.indentTo x.column s.tokens.length .beginList).dropKey
  return { s with keyAllowed := true }.emit .item

/-- The question mark of a key. -/
def explicitKey (s : Scanner) (x : Placed) : Except Fault Scanner := do
  if !s.inFlow && !s.keyAllowed then throw .key
  let s ← (s.indentTo x.column s.tokens.length .beginMap).dropKey
  return { s with keyAllowed := !s.inFlow }.emit .key

/-- The colon before a value: a key began where one may have begun, or it is
empty. -/
def value (s : Scanner) (x : Placed) : Except Fault Scanner :=
  match s.keys with
  | some k :: rest =>
      let s := ({ s with keys := none :: rest, keyAllowed := false }.emitAt k.number .key)
      .ok ((s.indentTo k.column k.number .beginMap).emit .value)
  | _ =>
      if !s.inFlow && !s.keyAllowed then .error .value
      else
        .ok ({ s.indentTo x.column s.tokens.length .beginMap with
          keyAllowed := !s.inFlow }.emit .value)

/-- A line that begins or ends a document. -/
def marker (s : Scanner) (t : Token) : Except Fault Scanner := do
  let s ← (s.dedentTo (-1)).dropKey
  return { s with keyAllowed := false }.emit t

/-- A scalar that has been read. -/
def scalar (s : Scanner) (quoted : Bool) (r : Scanned) : Scanner :=
  { s with rest := r.rest, keyAllowed := r.crossed }.emit (.scalar r.text quoted)

/-- The signs that begin no plain scalar. -/
def signs : List Char :=
  ['-', '?', ':', ',', '[', ']', '\x7b', '\x7d', '#', '&', '*', '!', '|', '>', '\'', '"',
    '%', '@', '\x60']

/-- Whether a plain scalar begins with a character, with what follows it. -/
def beginsPlain (flow : Bool) (x : Placed) (rest : List Placed) : Bool :=
  (!isBlank x.char && !signs.contains x.char)
    || (x.char = '-' && !isEnd rest)
    || (!flow && (x.char = '?' || x.char = ':') && !isEnd rest)

/-- The token that begins with a character. -/
def token (s : Scanner) (x : Placed) (rest : List Placed) : Except Fault Scanner :=
  let after : Scanner := { s with rest }
  if isMarker (x :: rest) then
    { s with rest := rest.drop 2 }.marker
      (if x.char = '-' then .documentStart else .documentEnd)
  else if x.char = '[' then after.openFlow x .openList
  else if x.char = '\x7b' then after.openFlow x .openMap
  else if x.char = ']' then after.closeFlow .closeList
  else if x.char = '\x7d' then after.closeFlow .closeMap
  else if x.char = ',' then after.comma
  else if x.char = '-' && isEnd rest then after.item x
  else if x.char = '?' && (s.inFlow || isEnd rest) then after.explicitKey x
  else if x.char = ':' && (s.inFlow || isEnd rest) then after.value x
  else if x.char = '\'' then do
    let s ← after.noteKey x
    return s.scalar true (← singleQuoted [] .empty rest)
  else if x.char = '"' then do
    let s ← after.noteKey x
    return s.scalar true (← doubleQuoted .among [] .empty rest)
  else if beginsPlain s.inFlow x rest then do
    let s ← after.noteKey x
    return s.scalar false (← plain s.inFlow (s.indent + 1) [] .empty (x :: rest))
  else .error (.unexpected x.char)

/-- The next token, or the end of the text. -/
def step (s : Scanner) : Except Fault Scanner := do
  let (keyAllowed, rest) := skip s.inFlow s.keyAllowed false s.rest
  let s := { s with keyAllowed, rest }
  match rest with
  | [] => (s.dedentTo (-1)).dropKey
  | x :: rest =>
      let keys ← s.keys.mapM (freshKey x)
      ({ s with keys }.dedentTo x.column).token x rest

/-- The tokens that follow, at most so many, and those at the end. -/
def run : Nat → Scanner → Except Fault Scanner
  | 0, s => .ok s
  | n + 1, s =>
      if s.rest.isEmpty then s.step else do
        let s ← s.step
        run n s

end Scanner

/-- The tokens of a text. -/
def tokens (cs : List Char) : Except Fault (List Token) := do
  let rest ← place? cs
  let s ← Scanner.run (rest.length + 1) { rest }
  return s.tokens.reverse

end SidecarPolicy.Yaml
