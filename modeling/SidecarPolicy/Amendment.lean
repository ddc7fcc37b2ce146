/-
Patches that add to an object without touching any field that they do not
name.  Steps are patches of their own, and follow one another by `++`.

* `Amendment.append`: items appended to a list;
* `Amendment.setAnnotations`: annotations set to desired values;
* `Amendment.removeAnnotations`: annotations removed.
-/
import SidecarPolicy.Json.Patch

namespace SidecarPolicy.Amendment

/-- The place of an object's annotations. -/
def annotationsPath : Pointer := ["metadata", "annotations"]

/-- Appends items to the list at a place, which holds so many items now.  An
empty or missing list is set whole, since nothing can be appended to a list
that does not exist; without items nothing is done. -/
def append (path : Pointer) (length : Nat) (added : List Json) : Patch :=
  if added.isEmpty then []
  else if length = 0 then [.add path (.arr added)]
  else added.map (.add (path ++ ["-"]) ·)

/-- Sets one annotation of an object that has annotations. -/
def setPair (current : Option Labels) (e : String × String) : Patch :=
  let path := annotationsPath ++ [e.1]
  match current.bind (·.get? e.1) with
  | none => [.add path (.str e.2)]
  | some v => if v = e.2 then [] else [.replace path (.str e.2)]

/-- Sets each of the desired annotations, in key order; those that hold their
value already are left alone.  Missing annotations are created with the first
of them. -/
def setAnnotations (current : Option Labels) (desired : Labels) : Patch :=
  match current, desired.entries with
  | none, [] => []
  | none, e :: rest =>
      .add annotationsPath (.obj [(e.1, .str e.2)]) :: rest.flatMap (setPair none)
  | some _, entries => entries.flatMap (setPair current)

/-- Removes each of the given annotations that is there. -/
def removeAnnotations (current : Option Labels) (keys : List String) : Patch :=
  match current with
  | none => []
  | some m =>
      (keys.filter m.contains).map fun k => .remove (annotationsPath ++ [k])

end SidecarPolicy.Amendment
