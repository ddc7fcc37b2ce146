/-
The documents of YAML texts.

* `Node`: scalars, lists and mappings;
* `Node` as a `Tree`: what a node stands for where a value of some type is
  wanted;
* `Node.read`: the node that begins a sequence of tokens;
* `Node.parse`: the document of a text.
-/
import SidecarPolicy.Text.Utf8
import SidecarPolicy.Tree
import SidecarPolicy.Yaml.Token

namespace SidecarPolicy.Yaml

/-- A node of a document.  A plain scalar has no type but that which the reader
wants. -/
inductive Node where
  | plain (text : String)
  | quoted (text : String)
  | list (items : List Node)
  | map (entries : List (Node × Node))
  deriving Inhabited, Repr

namespace Node

/-! ### What nodes stand for -/

/-- The node that stands where nothing is written. -/
def empty : Node := .plain ""

/-- The text of a scalar. -/
def text? : Node → Option String
  | .plain s | .quoted s => some s
  | _ => none

/-- The spellings of null. -/
def nullTexts : List String := ["", "~", "null", "Null", "NULL"]

/-- The truth value that a plain scalar stands for. -/
def truthOf? (s : String) : Option Bool :=
  if ["true", "True", "TRUE"].contains s then some true
  else if ["false", "False", "FALSE"].contains s then some false
  else none

/-- The value of a digit. -/
def digitValue? (base : Nat) (c : Char) : Option Nat :=
  (hexDigit? c).filter (· < base)

/-- The value of at least one digit of a base. -/
def digits? (base : Nat) (cs : List Char) : Option Nat :=
  if cs.isEmpty then none
  else cs.foldl (fun n c => do return (← n) * base + (← digitValue? base c)) (some 0)

/-- The value of digits without a sign, in a base that their beginning names;
decimal digits have no superfluous zero in front. -/
def magnitude? : List Char → Option Nat
  | '0' :: 'x' :: cs => digits? 16 cs
  | '0' :: 'o' :: cs => digits? 8 cs
  | '0' :: 'b' :: cs => digits? 2 cs
  | '0' :: _ :: _ => none
  | cs => digits? 10 cs

/-- The integer that a plain scalar stands for. -/
def integerOf? (s : String) : Option Int :=
  match s.toList with
  | '-' :: cs => (magnitude? cs).map fun n => -(n : Int)
  | '+' :: cs => (magnitude? cs).map fun n => (n : Int)
  | cs => (magnitude? cs).map fun n => (n : Int)

/-- The names and values of a mapping whose keys are scalars. -/
def membersOf? (entries : List (Node × Node)) : Option (List (String × Node)) :=
  entries.mapM fun e => e.1.text?.map (·, e.2)

instance : Tree Node where
  isNull
    | .plain s => nullTexts.contains s
    | _ => false
  text? := text?
  truth?
    | .plain s => truthOf? s
    | _ => none
  integer?
    | .plain s => integerOf? s
    | _ => none
  items?
    | .list items => some items
    | .plain "" => some []
    | _ => none
  members?
    | .map entries => membersOf? entries
    | .plain "" => some []
    | _ => none

/-! ### Reading nodes -/

/-- A node, and the tokens that follow it. -/
abbrev Read := Except Fault (Node × List Token)

/-- Whether nothing stands where a value may stand before a token. -/
def isAbsent (ends : List Token) : List Token → Bool
  | [] => true
  | t :: _ => ends.contains t

mutual
/-- The node that begins a sequence of tokens.  Nodes in lines may stand outside
of brackets only; `bare` says that the items of a list may stand there without
the tokens that begin and end it. -/
def read : Nat → (flow bare : Bool) → List Token → Read
  | 0, _, _, _ => .error .node
  | n + 1, flow, bare, ts =>
      match ts with
      | .scalar s false :: rest => .ok (.plain s, rest)
      | .scalar s true :: rest => .ok (.quoted s, rest)
      | .openList :: rest => flowItems n true [] rest
      | .openMap :: rest => flowEntries n true [] rest
      | .beginList :: rest => if flow then .error .node else items n [] rest
      | .beginMap :: rest => if flow then .error .node else entries n [] rest
      | .item :: rest => if bare then bareItems n [] (.item :: rest) else .error .node
      | _ => .error .node

/-- The node before one of some tokens, or the empty one. -/
def readOr : Nat → (flow bare : Bool) → (ends : List Token) → List Token → Read
  | 0, _, _, _, _ => .error .node
  | n + 1, flow, bare, ends, ts =>
      if isAbsent ends ts then .ok (empty, ts) else read n flow bare ts

/-- The value after a key: empty, unless a colon follows. -/
def readValue : Nat → (flow : Bool) → (ends : List Token) → List Token → Read
  | 0, _, _, _ => .error .node
  | n + 1, flow, ends, ts =>
      match ts with
      | .value :: rest => readOr n flow (!flow) ends rest
      | _ => .ok (empty, ts)

/-- The items of a list in lines, up to its end. -/
def items : Nat → List Node → List Token → Read
  | 0, _, _ => .error .node
  | n + 1, acc, ts =>
      match ts with
      | .item :: rest => do
          let (v, rest) ← readOr n false false [.item, .endLines] rest
          items n (v :: acc) rest
      | .endLines :: rest => .ok (.list acc.reverse, rest)
      | _ => .error .item

/-- The items of a list in lines that ends where no further item follows. -/
def bareItems : Nat → List Node → List Token → Read
  | 0, _, _ => .error .node
  | n + 1, acc, ts =>
      match ts with
      | .item :: rest => do
          let (v, rest) ← readOr n false false [.item, .key, .value, .endLines] rest
          bareItems n (v :: acc) rest
      | _ => .ok (.list acc.reverse, ts)

/-- The entries of a mapping in lines, up to its end. -/
def entries : Nat → List (Node × Node) → List Token → Read
  | 0, _, _ => .error .node
  | n + 1, acc, ts =>
      match ts with
      | .key :: rest => do
          let (k, rest) ← readOr n false true [.key, .value, .endLines] rest
          let (v, rest) ← readValue n false [.key, .value, .endLines] rest
          entries n ((k, v) :: acc) rest
      | .endLines :: rest => .ok (.map acc.reverse, rest)
      | _ => .error .key

/-- The key after a question mark in a list in brackets.  If it is left out, the
colon, comma or bracket is taken up in its place. -/
def readItemKey : Nat → List Token → Read
  | 0, _ => .error .node
  | n + 1, ts =>
      if isAbsent [.value, .comma, .closeList] ts then .ok (empty, ts.drop 1)
      else read n true false ts

/-- The items of a list in brackets; a key makes up a mapping of its own. -/
def flowItems : Nat → (first : Bool) → List Node → List Token → Read
  | 0, _, _, _ => .error .node
  | n + 1, first, acc, ts => do
      let ts ← afterComma .closeList first ts
      match ts with
      | .closeList :: rest => .ok (.list acc.reverse, rest)
      | .key :: rest => do
          let (k, rest) ← readItemKey n rest
          let (v, rest) ← readValue n true [.comma, .closeList] rest
          flowItems n false (.map [(k, v)] :: acc) rest
      | ts => do
          let (v, rest) ← read n true false ts
          flowItems n false (v :: acc) rest

/-- The entries of a mapping in brackets; a node that is no key has an empty
value. -/
def flowEntries : Nat → (first : Bool) → List (Node × Node) → List Token → Read
  | 0, _, _, _ => .error .node
  | n + 1, first, acc, ts => do
      let ts ← afterComma .closeMap first ts
      match ts with
      | .closeMap :: rest => .ok (.map acc.reverse, rest)
      | .key :: rest => do
          let (k, rest) ← readOr n true false [.value, .comma, .closeMap] rest
          let (v, rest) ← readValue n true [.comma, .closeMap] rest
          flowEntries n false ((k, v) :: acc) rest
      | ts => do
          let (k, rest) ← read n true false ts
          flowEntries n false ((k, empty) :: acc) rest

/-- The tokens after the comma that must stand before the next part, unless the
closing bracket does or the part is the first one. -/
def afterComma (close : Token) (first : Bool) : List Token → Except Fault (List Token)
  | .comma :: rest => if first then .ok (.comma :: rest) else .ok rest
  | t :: rest => if first || t = close then .ok (t :: rest) else .error .node
  | [] => .error .unclosed
end

/-! ### Documents -/

/-- Whether nothing but the ends of documents follows. -/
def isOver (ts : List Token) : Bool := ts.all (· = .documentEnd)

/-- The only document of a sequence of tokens; without one it is empty. -/
def ofTokens (ts : List Token) : Except Fault Node := do
  let fuel := 3 * ts.length + 3
  let (node, rest) ← match ts with
    | [] => .ok (empty, [])
    | .documentStart :: rest => readOr fuel false false [.documentStart, .documentEnd] rest
    | ts => read fuel false false ts
  if isOver rest then return node else throw .documents

/-- The document of a text. -/
def parse (bytes : List UInt8) : Except Fault Node :=
  match Text.Utf8.decode? bytes with
  | none => .error .encoding
  | some cs => (tokens cs).bind ofTokens

end Node

end SidecarPolicy.Yaml
