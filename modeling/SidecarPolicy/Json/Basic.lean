/-
JSON values.

An object is the list of its members in the order in which they were written;
a text may name a member twice, and it is for the reader of a value to say
which of them counts.

* `Json`: the values;
* `Json.member?`: the first member of a name;
* `Json.setMember`, `Json.removeMember`: an object's members with one of them
  set or removed;
* `Json.distinct`: a value in which no name stands twice, the last one counting.
-/

namespace SidecarPolicy

/-- JSON values.  A number that is no integer is kept as it was written. -/
inductive Json where
  | null
  | bool (b : Bool)
  | int (i : Int)
  | decimal (written : String)
  | str (s : String)
  | arr (items : List Json)
  | obj (members : List (String × Json))
  deriving Inhabited, Repr

namespace Json

/-- The first member of a name. -/
def member? (name : String) : List (String × Json) → Option Json
  | [] => none
  | m :: rest => if m.1 = name then some m.2 else member? name rest

/-- Members with one of them set: in its place if there is one of that name,
else at the end. -/
def setMember (name : String) (value : Json) :
    List (String × Json) → List (String × Json)
  | [] => [(name, value)]
  | m :: rest =>
      if m.1 = name then (name, value) :: rest else m :: setMember name value rest

/-- Members without the first one of a name. -/
def removeMember (name : String) : List (String × Json) → List (String × Json)
  | [] => []
  | m :: rest => if m.1 = name then rest else m :: removeMember name rest

mutual
/-- A value in whose objects no name stands twice: the last member of a name
counts. -/
def distinct : Json → Json
  | .arr items => .arr (distinctItems items)
  | .obj members => .obj (distinctMembers members)
  | v => v

/-- The items of a list with distinct names in each. -/
def distinctItems : List Json → List Json
  | [] => []
  | v :: rest => distinct v :: distinctItems rest

/-- The members of an object without those that are named again later. -/
def distinctMembers : List (String × Json) → List (String × Json)
  | [] => []
  | (name, v) :: rest =>
      if rest.any (·.1 == name) then distinctMembers rest
      else (name, distinct v) :: distinctMembers rest
end

@[simp] theorem member?_setMember_self (name : String) (value : Json)
    (members : List (String × Json)) :
    member? name (setMember name value members) = some value := by
  induction members with
  | nil => simp [setMember, member?]
  | cons m rest ih =>
    unfold setMember
    split
    · simp [member?]
    · rename_i h
      simp [member?, h, ih]

theorem member?_setMember_of_ne {name name' : String} (h : name' ≠ name)
    (value : Json) (members : List (String × Json)) :
    member? name' (setMember name value members) = member? name' members := by
  induction members with
  | nil => simp [setMember, member?, Ne.symm h]
  | cons m rest ih =>
    unfold setMember
    split
    · rename_i hm
      simp [member?, hm, Ne.symm h]
    · simp [member?, ih]

theorem member?_removeMember_of_ne {name name' : String} (h : name' ≠ name)
    (members : List (String × Json)) :
    member? name' (removeMember name members) = member? name' members := by
  induction members with
  | nil => rfl
  | cons m rest ih =>
    unfold removeMember
    split
    · rename_i hm
      simp [member?, hm, Ne.symm h]
    · simp [member?, ih]

end Json

end SidecarPolicy
