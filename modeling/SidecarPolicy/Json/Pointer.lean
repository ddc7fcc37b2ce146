/-
JSON pointers.

* `Pointer`: the tokens on the way from the whole document to a place in it;
* `Pointer.text`: the written form, `~` and `/` in tokens escaped;
* `Pointer.ofText?`: the pointer of a text;
* `Pointer.index?`: the position that a token names in a list.
-/
import SidecarPolicy.Json.Basic
import SidecarPolicy.Text.Pieces

namespace SidecarPolicy

/-- The tokens on the way from a document to a place in it. -/
abbrev Pointer := List String

namespace Pointer

/-- A token's characters with `~` and `/` escaped. -/
def escape : List Char → List Char
  | [] => []
  | '~' :: rest => '~' :: '0' :: escape rest
  | '/' :: rest => '~' :: '1' :: escape rest
  | c :: rest => c :: escape rest

/-- The characters that escaped ones stand for; a `~` that begins no escape
makes the text no token. -/
def unescape? : List Char → Option (List Char)
  | [] => some []
  | '~' :: '0' :: rest => (unescape? rest).map ('~' :: ·)
  | '~' :: '1' :: rest => (unescape? rest).map ('/' :: ·)
  | '~' :: _ => none
  | c :: rest => (unescape? rest).map (c :: ·)

/-- The written form of a pointer: each token after a slash. -/
def text (p : Pointer) : String :=
  String.ofList (p.flatMap fun token => '/' :: escape token.toList)

/-- The pointer of a text, which is empty or begins with a slash. -/
def ofText? (s : String) : Option Pointer :=
  match s.toList with
  | [] => some []
  | '/' :: rest =>
      (Text.splitOn '/' rest).mapM fun token => (unescape? token).map String.ofList
  | _ => none

/-- The position that a token names: decimal digits without a superfluous
zero in front. -/
def index? (token : String) : Option Nat :=
  let ds := token.toList
  if ds.isEmpty || !ds.all Char.isDigit || (ds.head? == some '0' && ds.length != 1) then none
  else some (ds.foldl (fun n d => n * 10 + (d.toNat - 48)) 0)

end Pointer

end SidecarPolicy
