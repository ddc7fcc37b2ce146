/-
JSON patches.

* `PatchOperation`, `Patch`: adding, replacing and removing at a pointer;
* `PatchOperation.apply`, `Patch.apply`: what a patch does to a document, or
  the first operation that fails;
* `Patch.encode`, `Patch.decode`: the document of a patch.
-/
import SidecarPolicy.Decode
import SidecarPolicy.Json.Pointer

namespace SidecarPolicy

/-- One change of a document. -/
inductive PatchOperation where
  | add (path : Pointer) (value : Json)
  | replace (path : Pointer) (value : Json)
  | remove (path : Pointer)
  deriving Repr

/-- Changes made one after another. -/
abbrev Patch := List PatchOperation

namespace PatchOperation

/-- The place where an operation changes a document. -/
def path : PatchOperation → Pointer
  | .add p _ => p
  | .replace p _ => p
  | .remove p => p

/-! ### Changing a document -/

/-- A document in which the value at a pointer has been changed, if there is one
and the change is possible. -/
def modifyAt (change : Json → Option Json) : Pointer → Json → Option Json
  | [], doc => change doc
  | token :: rest, .obj members => do
      let child ← Json.member? token members
      let child' ← modifyAt change rest child
      return .obj (Json.setMember token child' members)
  | token :: rest, .arr items => do
      let i ← Pointer.index? token
      let child ← items[i]?
      let child' ← modifyAt change rest child
      return .arr (items.set i child')
  | _ :: _, _ => none

/-- A container with a value added under a token: an object's member is set, a
list takes the value at a position up to its length, or at its end for `-`. -/
def addIn (token : String) (value : Json) : Json → Option Json
  | .obj members => some (.obj (Json.setMember token value members))
  | .arr items =>
      if token = "-" then some (.arr (items ++ [value]))
      else do
        let i ← Pointer.index? token
        if i ≤ items.length then return .arr (items.take i ++ value :: items.drop i)
        else none
  | _ => none

/-- A container without what is under a token. -/
def removeIn (token : String) : Json → Option Json
  | .obj members => do
      let _ ← Json.member? token members
      return .obj (Json.removeMember token members)
  | .arr items => do
      let i ← Pointer.index? token
      if i < items.length then return .arr (items.eraseIdx i) else none
  | _ => none

/-- What an operation does to a document, if it is possible. -/
def apply (doc : Json) : PatchOperation → Option Json
  | .add path value =>
      match path.getLast? with
      | none => some value
      | some token => modifyAt (addIn token value) path.dropLast doc
  | .replace path value => modifyAt (fun _ => some value) path doc
  | .remove path =>
      match path.getLast? with
      | none => none
      | some token => modifyAt (removeIn token) path.dropLast doc

/-! ### The document of an operation -/

def encode : PatchOperation → Json
  | .add path value =>
      .obj [("op", .str "add"), ("path", .str (Pointer.text path)), ("value", value)]
  | .replace path value =>
      .obj [("op", .str "replace"), ("path", .str (Pointer.text path)), ("value", value)]
  | .remove path => .obj [("op", .str "remove"), ("path", .str (Pointer.text path))]

/-- The operation that a document holds. -/
def decode (doc : Json) : Decoded PatchOperation := do
  let fields ← Decode.members doc
  let op ← Decode.required Decode.text fields "op"
  let written ← Decode.required Decode.text fields "path"
  let path ← Decode.answer "a pointer" (Pointer.ofText? written)
  match op with
  | "add" => return .add path (← Decode.required pure fields "value")
  | "replace" => return .replace path (← Decode.required pure fields "value")
  | "remove" => return .remove path
  | _ => throw (.unexpected "op" op)

end PatchOperation

/-- Where a patch fails: the position and the place of the operation. -/
structure PatchError where
  position : Nat
  path : Pointer
  deriving DecidableEq, Repr

/-- The wording of a failed patch. -/
def PatchError.message (e : PatchError) : String :=
  "operation '/" ++ toString e.position ++ "' failed at path '" ++ Pointer.text e.path
    ++ "': path is invalid"

namespace Patch

/-- What the operations of a patch do to a document, the first of them standing
at the given position. -/
def applyFrom (position : Nat) (doc : Json) : Patch → Except PatchError Json
  | [] => .ok doc
  | op :: rest =>
      match op.apply doc with
      | none => .error ⟨position, op.path⟩
      | some doc' => applyFrom (position + 1) doc' rest

/-- What a patch does to a document. -/
def apply (doc : Json) (p : Patch) : Except PatchError Json := applyFrom 0 doc p

def encode (p : Patch) : Json := Encode.list PatchOperation.encode p

/-- The patch that a document holds. -/
def decode (doc : Json) : Decoded Patch := Decode.list PatchOperation.decode doc

end Patch

end SidecarPolicy
