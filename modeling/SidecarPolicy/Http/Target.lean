/-
The targets of requests: what remains of an address at its server.

* `Http.Target`: a path and a query;
* `Http.Target.ofPath?`: the target that a path with a query spells;
* `Http.Target.ofText?`: the target of an address, which may be absolute;
* `Http.Target.text`: how a target is written.
-/
import SidecarPolicy.Text.Pieces

namespace SidecarPolicy.Http

/-- The path and the query of a request. -/
structure Target where
  path : String
  query : Option String := none
  deriving DecidableEq, Inhabited, Repr

namespace Target

/-- The longest address, in bytes. -/
def maxLength : Nat := 65534

/-! ### Paths -/

/-- Whether a character may stand in a path or a query: not if it is a blank, a
control or an angle bracket. -/
def isPlain (c : Char) : Bool :=
  0x20 < c.toNat && c.toNat != 0x7F && c != '<' && c != '>'

/-- The target that a path with a query spells; what follows a `#` is dropped. -/
def ofPath? (cs : List Char) : Option Target :=
  let parts := Text.cut '?' (Text.cut '#' cs).1
  let query := parts.2.getD []
  if parts.1.all (fun c => isPlain c && c != '\x60')
      && query.all (fun c => isPlain c && c != '"') then
    some { path := String.ofList parts.1, query := parts.2.map String.ofList }
  else none

def text (t : Target) : String :=
  match t.query with
  | none => t.path
  | some q => t.path ++ "?" ++ q

/-! ### Authorities -/

/-- Whether a character may stand in an authority; a `%` only before an `@` or
in brackets. -/
def isAuthorityChar (c : Char) : Bool :=
  c.isAlphanum
    || ['!', '$', '%', '&', '\'', '(', ')', '*', '+', ',', '-', '.', ':', ';', '=', '@',
      '[', ']', '_', '~'].contains c

/-- What was read of an authority: the colons and whether there was a percent
sign, both since the last `@` or closing bracket, and the brackets. -/
structure Authority where
  colons : Nat := 0
  hasPercent : Bool := false
  isOpened : Bool := false
  isClosed : Bool := false
  deriving DecidableEq, Inhabited, Repr

/-- An authority with one more character, if it may stand there. -/
def Authority.step? (a : Authority) (c : Char) : Option Authority :=
  if !isAuthorityChar c then none
  else if c = ':' then if a.colons < 8 then some { a with colons := a.colons + 1 } else none
  else if c = '[' then
    if a.hasPercent || a.isOpened then none else some { a with isOpened := true }
  else if c = ']' then
    if a.isOpened && !a.isClosed then
      some { a with isClosed := true, colons := 0, hasPercent := false }
    else none
  else if c = '@' then some { a with colons := 0, hasPercent := false }
  else if c = '%' then some { a with hasPercent := true }
  else some a

/-- Whether characters are an authority: a host with at most one port. -/
def isAuthority (cs : List Char) : Bool :=
  match cs.foldlM Authority.step? {} with
  | none => false
  | some a =>
      a.isOpened == a.isClosed && a.colons ≤ 1 && !a.hasPercent && cs.getLast? != some '@'

/-! ### Addresses -/

/-- The longest name of a scheme. -/
def maxScheme : Nat := 64

/-- Whether a character may stand in the name of a scheme. -/
def isSchemeChar (c : Char) : Bool := c.isAlphanum || c == '+' || c == '-' || c == '.'

/-- What follows the scheme of an address, if it has one. -/
def afterScheme? (cs : List Char) : Option (List Char) :=
  match cs.dropWhile isSchemeChar with
  | ':' :: '/' :: '/' :: rest => some rest
  | _ => none

/-- The target of an address with a scheme, given what follows that: an
authority, then perhaps a path. -/
def ofAbsolute? (cs : List Char) : Option Target :=
  let inAuthority (c : Char) : Bool := c != '/' && c != '?' && c != '#'
  let authority := cs.takeWhile inAuthority
  if authority.isEmpty || !isAuthority authority then none
  else
    (ofPath? (cs.dropWhile inAuthority)).map fun t =>
      { t with path := if t.path = "" then "/" else t.path }

/-- The target of an address: a path, a star, an absolute address, or an
authority alone, which has no path. -/
def ofChars? : List Char → Option Target
  | [] => none
  | ['*'] => some { path := "*" }
  | '/' :: rest => ofPath? ('/' :: rest)
  | cs =>
      match afterScheme? cs with
      | some rest =>
          if (cs.takeWhile isSchemeChar).length ≤ maxScheme then ofAbsolute? rest else none
      | none => if isAuthority cs then some { path := "" } else none

/-- The target of an address that is not too long. -/
def ofText? (s : String) : Option Target :=
  if maxLength < s.utf8ByteSize then none else ofChars? s.toList

end Target

end SidecarPolicy.Http
