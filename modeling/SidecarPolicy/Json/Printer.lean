/-
The compact text of a JSON value.

* `escaped`: a character as it stands in a string;
* `render`: the text of a value, without blanks.
-/
import SidecarPolicy.Json.Basic

namespace SidecarPolicy.Json

/-- The hexadecimal digit of a value below sixteen, in lower case. -/
def hexChar (n : Nat) : Char :=
  if n < 10 then Char.ofNat (48 + n) else Char.ofNat (87 + n)

/-- A character as it stands in a string: quotes, backslashes and control
characters are escaped, all others stand for themselves. -/
def escaped (c : Char) : List Char :=
  if c = '"' then ['\\', '"']
  else if c = '\\' then ['\\', '\\']
  else if c = '\x08' then ['\\', 'b']
  else if c = '\x0c' then ['\\', 'f']
  else if c = '\n' then ['\\', 'n']
  else if c = '\r' then ['\\', 'r']
  else if c = '\t' then ['\\', 't']
  else if c.toNat < 0x20 then
    ['\\', 'u', '0', '0', hexChar (c.toNat / 16), hexChar (c.toNat % 16)]
  else [c]

/-- A string in quotes. -/
def quoted (s : String) : List Char :=
  '"' :: (s.toList.flatMap escaped ++ ['"'])

mutual
/-- The characters of a value's compact text. -/
def chars : Json → List Char
  | .null => "null".toList
  | .bool true => "true".toList
  | .bool false => "false".toList
  | .int i => (toString i).toList
  | .decimal written => written.toList
  | .str s => quoted s
  | .arr items => '[' :: (itemChars items ++ [']'])
  | .obj members => '\x7b' :: (memberChars members ++ ['\x7d'])

/-- The characters of the items of a list. -/
def itemChars : List Json → List Char
  | [] => []
  | [v] => chars v
  | v :: rest => chars v ++ ',' :: itemChars rest

/-- The characters of the members of an object. -/
def memberChars : List (String × Json) → List Char
  | [] => []
  | [(name, v)] => quoted name ++ ':' :: chars v
  | (name, v) :: rest => quoted name ++ ':' :: (chars v ++ ',' :: memberChars rest)
end

/-- The compact text of a value. -/
def render (v : Json) : String :=
  String.ofList (chars v)

end SidecarPolicy.Json
