/-
JSON documents as they are written.

A text may follow the grammar and still have parts that stand for no value: a
string that is no text, a number that is too large, a list that stands too deep
in others.  Such a part harms only a reader who asks for it.

* `Draft`: the documents, with a mark for each part without a value;
* `Draft.toJson?`: the value of a document in which every part has one;
* `Draft` as a `Tree`: what has no value answers no question.
-/
import SidecarPolicy.Tree

namespace SidecarPolicy

/-- JSON documents as they are written; `unreadable` is a part without a
value. -/
inductive Draft where
  | null
  | bool (b : Bool)
  | int (i : Int)
  | decimal (written : String)
  | str (s : String)
  | arr (items : List Draft)
  | obj (members : List (String × Draft))
  | unreadable
  deriving Inhabited, Repr

namespace Draft

mutual
/-- The value of a document, if all of it has one. -/
def toJson? : Draft → Option Json
  | .null => some .null
  | .bool b => some (.bool b)
  | .int i => some (.int i)
  | .decimal written => some (.decimal written)
  | .str s => some (.str s)
  | .arr items => (itemsToJson? items).map .arr
  | .obj members => (membersToJson? members).map .obj
  | .unreadable => none

/-- The values of the items of a list. -/
def itemsToJson? : List Draft → Option (List Json)
  | [] => some []
  | d :: rest => do
      let v ← toJson? d
      let vs ← itemsToJson? rest
      return v :: vs

/-- The values of the members of an object. -/
def membersToJson? : List (String × Draft) → Option (List (String × Json))
  | [] => some []
  | (name, d) :: rest => do
      let v ← toJson? d
      let vs ← membersToJson? rest
      return (name, v) :: vs
end

/-- An object, unless a name in it is no text. -/
def ofMembers (members : List (Option String × Draft)) : Draft :=
  match members.mapM fun m => m.1.map (·, m.2) with
  | some members => .obj members
  | none => .unreadable

instance : Tree Draft where
  isNull
    | .null => true
    | _ => false
  text?
    | .str s => some s
    | _ => none
  truth?
    | .bool b => some b
    | _ => none
  integer?
    | .int i => some i
    | _ => none
  items?
    | .arr items => some items
    | _ => none
  members?
    | .obj members => some members
    | _ => none

end Draft

end SidecarPolicy
