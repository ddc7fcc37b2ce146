/-
Decoders of scalars, lists, maps and fields, and the encoders beside them.

Two kinds of fields exist.  A field of a cluster object may be null, which is
the same as leaving it out, and of several fields of one name the last counts.
A field of a policy or of a configuration must stand alone among its spellings,
and null is a value of no type but an optional one.

* `Decode.text`, `Decode.truth`, `Decode.integer`, `Decode.list`,
  `Decode.labels`: values;
* `Decode.nullable`: a field of a cluster object;
* `Decode.sole`, `Decode.defaulted`, `Decode.required`, `Decode.optional`:
  fields that stand alone;
* `Decode.record`, `Decode.choice`: the fields of a record, which may be written
  as a list, and one of some names;
* `Decode.readable`: a document as it is;
* `Encode.object`: an object of the fields that are present.
-/
import SidecarPolicy.Json.Draft
import SidecarPolicy.Labels

namespace SidecarPolicy

namespace Decode

variable {τ : Type} [Tree τ] {α : Type}

/-- The answer to a question about a node, or what was expected. -/
def answer (what : String) : Option α → Decoded α
  | some a => .ok a
  | none => .error (.expected what)

def text (t : τ) : Decoded String := answer "a text" (Tree.text? t)

def truth (t : τ) : Decoded Bool := answer "a truth value" (Tree.truth? t)

/-- An integer between two bounds. -/
def integer (low high : Int) (t : τ) : Decoded Int := do
  let i ← answer "an integer" (Tree.integer? t)
  if low ≤ i ∧ i ≤ high then return i else throw (.expected "an integer in range")

/-- A signed integer of 32 bits. -/
def int32 (t : τ) : Decoded Int := integer (-2147483648) 2147483647 t

/-- A signed integer of 64 bits. -/
def int64 (t : τ) : Decoded Int :=
  integer (-9223372036854775808) 9223372036854775807 t

/-- A natural number below a bound. -/
def naturalBelow (bound : Nat) (t : τ) : Decoded Nat := do
  let i ← integer 0 (bound - 1) t
  return i.toNat

/-- The items of a list, each decoded. -/
def list (item : τ → Decoded α) (t : τ) : Decoded (List α) := do
  let items ← answer "a list" (Tree.items? t)
  items.mapM item

def members (t : τ) : Decoded (List (String × τ)) :=
  answer "an object" (Tree.members? t)

/-- A map of texts; the last pair of a key counts. -/
def labels (t : τ) : Decoded Labels := do
  let pairs ← (← members t).mapM fun m => do return (m.1, ← text m.2)
  return KeyMap.ofList pairs

/-! ### Fields of cluster objects -/

/-- The values of all fields of a name. -/
def valuesOf (name : String) (fields : List (String × τ)) : List τ :=
  (fields.filter (·.1 == name)).map (·.2)

/-- A value, unless the node is null. -/
def unlessNull (value : τ → Decoded α) (t : τ) : Decoded (Option α) :=
  if Tree.isNull t then .ok none else some <$> value t

/-- A field that may be null or left out, which is the same; the last field of
the name counts, but each must have the type. -/
def nullable (value : τ → Decoded α) (fields : List (String × τ)) (name : String) :
    Decoded (Option α) := do
  let found ← (valuesOf name fields).mapM (unlessNull value)
  return found.getLast?.join

/-- A field that holds nothing but one text wherever it occurs. -/
def constant (fields : List (String × τ)) (name expected : String) : Decoded Unit :=
  (valuesOf name fields).forM fun t => do
    let found ← text t
    if found = expected then return () else throw (.unexpected name found)

/-! ### Fields that stand alone -/

/-- The only field with one of the names, if there is any. -/
def sole (fields : List (String × τ)) (names : List String) : Decoded (Option τ) :=
  match fields.filter (names.contains ·.1) with
  | [] => .ok none
  | [m] => .ok (some m.2)
  | m :: _ => .error (.repeated m.1)

/-- A field with a value for the case that it is left out. -/
def defaulted (value : τ → Decoded α) (absent : α) (fields : List (String × τ))
    (names : List String) : Decoded α := do
  match ← sole fields names with
  | none => return absent
  | some t => value t

/-- A field that must be present. -/
def required (value : τ → Decoded α) (fields : List (String × τ)) (name : String) :
    Decoded α := do
  match ← sole fields [name] with
  | none => throw (.missing name)
  | some t => value t

/-- A field that may be left out, or null. -/
def optional (value : τ → Decoded α) (fields : List (String × τ))
    (names : List String) : Decoded (Option α) := do
  match ← sole fields names with
  | none => return none
  | some t => unlessNull value t

/-! ### Records and names -/

/-- The fields of a record: the members of an object, or the items of a list, which
are the values of all the first fields, and perhaps of some of the last ones, in
their order. -/
def record (first last : List String) (t : τ) : Decoded (List (String × τ)) :=
  match Tree.items? t with
  | none => members t
  | some items =>
      if first.length ≤ items.length ∧ items.length ≤ (first ++ last).length then
        .ok ((first ++ last).zip items)
      else .error (.expected "a list of the fields")

/-- The only name in an object, whose value is null. -/
def soleName (t : τ) : Decoded String := do
  match ← members t with
  | [(name, v)] => if Tree.isNull v then return name else throw (.expected "a name alone")
  | _ => throw (.expected "one name")

/-- One of some names: a text, or the name of an object's only member, which is
null. -/
def choice (names : List String) (t : τ) : Decoded String := do
  let name ← match Tree.text? t with
    | some name => pure name
    | none => soleName t
  if names.contains name then return name else throw (.unexpected "name" name)

/-! ### Documents as they are -/

/-- The value of a document all of which has one. -/
def readable (t : Draft) : Decoded Json := answer "a value" t.toJson?

/-- Checks that all fields but those of some names have values. -/
def checkOthers (own : List String) (fields : List (String × Draft)) : Decoded Unit :=
  (fields.filter fun m => !(own.contains m.1)).forM fun m => discard (readable m.2)

end Decode

namespace Encode

/-- An object of the fields that are present. -/
def object (fields : List (String × Option Json)) : Json :=
  .obj (fields.filterMap fun f => f.2.map (f.1, ·))

/-- A text that is left out if it is empty. -/
def unlessEmpty (s : String) : Option Json := if s = "" then none else some (.str s)

/-- A number that is left out if it is zero. -/
def unlessZero (n : Nat) : Option Json := if n = 0 then none else some (.int n)

def list {α : Type} (item : α → Json) (items : List α) : Json :=
  .arr (items.map item)

def texts (items : List String) : Json := list .str items

def labels (m : Labels) : Json :=
  .obj (m.entries.map fun e => (e.1, .str e.2))

end Encode

end SidecarPolicy
