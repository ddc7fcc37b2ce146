/-
The characters of a YAML text with the places where they stand.

* `Placed`: a character with its line, its column and the bytes before it;
* `Yaml.isBreak`, `Yaml.isBlank`, `Yaml.isEnd`: the classes of characters
  between words;
* `Yaml.place?`: the characters of a text, if all of them may stand in one;
* `Yaml.isMarker`: the line that begins or ends a document.
-/

namespace SidecarPolicy.Yaml

/-- A character of a text with its place; `offset` is the number of bytes before
it. -/
structure Placed where
  char : Char
  line : Nat
  column : Nat
  offset : Nat
  deriving DecidableEq, Inhabited, Repr

/-- Why a text is no YAML document of the kinds that are read. -/
inductive Fault where
  | encoding
  | control
  | unexpected (c : Char)
  | tab
  | unclosed
  | escape
  | key
  | value
  | item
  | node
  | documents
  deriving DecidableEq, Repr

/-! ### Characters -/

/-- Whether a character ends a line; the other spellings of a line break have
become line feeds. -/
def isBreak (c : Char) : Bool := c = '\n' || c = '\u2028' || c = '\u2029'

/-- Whether a character is blank. -/
def isBlank (c : Char) : Bool := c = ' ' || c = '\t'

/-- Whether a character may stand in a text. -/
def isAllowed (c : Char) : Bool :=
  let n := c.toNat
  n == 0x09 || n == 0x0A || n == 0x0D || (0x20 ≤ n && n ≤ 0x7E) || n == 0x85
    || (0xA0 ≤ n && n ≤ 0xFFFD) || 0x10000 ≤ n

/-- The characters of a text, every carriage return, line feed or next line, and
every carriage return with a line feed, as one line feed. -/
def withLineFeeds : List Char → List Char
  | [] => []
  | '\r' :: '\n' :: rest => '\n' :: withLineFeeds rest
  | c :: rest => (if c = '\r' || c = '\u0085' then '\n' else c) :: withLineFeeds rest

/-- The characters with their places, the first one standing at a given one. -/
def placeFrom (line column offset : Nat) : List Char → List Placed
  | [] => []
  | c :: rest =>
      ⟨c, line, column, offset⟩ ::
        if isBreak c then placeFrom (line + 1) 0 (offset + c.utf8Size) rest
        else placeFrom line (column + 1) (offset + c.utf8Size) rest

/-- The placed characters of a text, if all of its characters may stand in
one. -/
def place? (cs : List Char) : Except Fault (List Placed) :=
  if cs.all isAllowed then .ok (placeFrom 0 0 0 (withLineFeeds cs)) else .error .control

/-! ### What comes next -/

/-- Whether a word ends here: at a blank, at a line's end or at the end of the
text. -/
def isEnd : List Placed → Bool
  | [] => true
  | x :: _ => isBlank x.char || isBreak x.char

/-- Whether the next character is the given one. -/
def nextIs (c : Char) : List Placed → Bool
  | [] => false
  | x :: _ => x.char = c

/-- Whether a text begins with a character three times, and a word ends there. -/
def isTriple (c : Char) : List Placed → Bool
  | x :: y :: z :: rest => x.char = c && y.char = c && z.char = c && isEnd rest
  | _ => false

/-- Whether a line begins here that begins or ends a document. -/
def isMarker : List Placed → Bool
  | [] => false
  | x :: rest => x.column = 0 && (isTriple '-' (x :: rest) || isTriple '.' (x :: rest))

end SidecarPolicy.Yaml
