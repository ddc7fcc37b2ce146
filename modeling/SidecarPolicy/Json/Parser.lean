/-
Reading a JSON document from its text, by a machine that takes one token at a
time.

* `Frame`: a list or an object that is not closed yet;
* `Reading`: where the machine stands between two tokens;
* `Reading.step`: what one token does;
* `Draft.parse?`, `Draft.ofBytes?`: the document of a text, parts of which may
  have no value;
* `Json.parse?`, `Json.ofBytes?`: the value of a text;
* `maxDepth`: lists and objects may stand in one another so many deep.
-/
import SidecarPolicy.Json.Lexer
import SidecarPolicy.Text.Utf8

namespace SidecarPolicy

namespace Json

/-- A list or an object around the place where the machine reads, with what
was read of it in reverse; an object waits for the value of a name. -/
inductive Frame where
  | list (items : List Draft)
  | member (members : List (Option String × Draft)) (key : Option String)
  deriving Repr

/-- A list or an object that stands in others deeper than this has no value. -/
def maxDepth : Nat := 127

/-- Where the machine stands between two tokens, with the frames around the
place, the innermost first. -/
inductive Reading where
  | value (outer : List Frame)
  | itemOrEnd (outer : List Frame)
  | afterItem (items : List Draft) (outer : List Frame)
  | nameOrEnd (outer : List Frame)
  | nextName (members : List (Option String × Draft)) (outer : List Frame)
  | colon (members : List (Option String × Draft)) (key : Option String)
      (outer : List Frame)
  | afterMember (members : List (Option String × Draft)) (outer : List Frame)
  | finished (d : Draft)
  deriving Repr

namespace Reading

/-- A complete part handed to the innermost frame. -/
def deliver (d : Draft) : List Frame → Reading
  | [] => .finished d
  | .list items :: outer => .afterItem (d :: items) outer
  | .member members key :: outer => .afterMember ((key, d) :: members) outer

/-- A list or an object that is complete. -/
def close (d : Draft) (outer : List Frame) : Reading :=
  deliver (if outer.length < maxDepth then d else .unreadable) outer

/-- A token at a place where a value begins. -/
def begin (outer : List Frame) : Token → Option Reading
  | .scalar d => some (deliver d outer)
  | .text s => some (deliver (s.elim .unreadable .str) outer)
  | .openList => some (.itemOrEnd outer)
  | .openObject => some (.nameOrEnd outer)
  | _ => none

/-- What one token does. -/
def step : Reading → Token → Option Reading
  | .value outer, t => begin outer t
  | .itemOrEnd outer, .closeList => some (close (.arr []) outer)
  | .itemOrEnd outer, t => begin (.list [] :: outer) t
  | .afterItem items outer, .comma => some (.value (.list items :: outer))
  | .afterItem items outer, .closeList => some (close (.arr items.reverse) outer)
  | .nameOrEnd outer, .closeObject => some (close (.obj []) outer)
  | .nameOrEnd outer, .text s => some (.colon [] s outer)
  | .nextName members outer, .text s => some (.colon members s outer)
  | .colon members s outer, .colon => some (.value (.member members s :: outer))
  | .afterMember members outer, .comma => some (.nextName members outer)
  | .afterMember members outer, .closeObject =>
      some (close (Draft.ofMembers members.reverse) outer)
  | _, _ => none

/-- The state after all tokens of a text. -/
def run : Reading → List Token → Option Reading
  | state, [] => some state
  | state, t :: rest =>
      match step state t with
      | none => none
      | some next => run next rest

end Reading

end Json

namespace Draft

/-- The document of a token sequence that makes up exactly one. -/
def ofTokens? (ts : List Json.Token) : Option Draft :=
  match Json.Reading.run (.value []) ts with
  | some (.finished d) => some d
  | _ => none

/-- The document of a JSON text. -/
def parse? (cs : List Char) : Option Draft :=
  (Json.tokens? (cs.map some)).bind ofTokens?

/-- The document of a JSON text in UTF-8; outside of strings there may be no
fault in it. -/
def ofBytes? (bytes : List UInt8) : Option Draft :=
  (Json.tokens? (Text.Utf8.scan .start bytes)).bind ofTokens?

end Draft

namespace Json

/-- The value of a JSON text. -/
def parse? (cs : List Char) : Option Json := (Draft.parse? cs).bind Draft.toJson?

/-- The value of a JSON text in UTF-8. -/
def ofBytes? (bytes : List UInt8) : Option Json :=
  (Draft.ofBytes? bytes).bind Draft.toJson?

end Json

end SidecarPolicy
