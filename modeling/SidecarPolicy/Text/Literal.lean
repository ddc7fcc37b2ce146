/-
A text as a quoted literal, in which every character can be seen.

* `literalChar`: a character as it stands in a literal;
* `literal`: a text between double quotes.
-/
import SidecarPolicy.Text.Visible

namespace SidecarPolicy.Text

/-- A character as it stands in a literal. -/
def literalChar (c : Char) : List Char :=
  if c = '"' then ['\\', '"']
  else if c = '\\' then ['\\', '\\']
  else if c = '\n' then ['\\', 'n']
  else if c = '\r' then ['\\', 'r']
  else if c = '\t' then ['\\', 't']
  else if c.toNat = 0 then ['\\', '0']
  else if isVisible c then [c]
  else ['\\', 'u', '\x7b'] ++ Nat.toDigits 16 c.toNat ++ ['\x7d']

/-- A text between double quotes, in which every character can be seen. -/
def literal (s : String) : String :=
  String.ofList ('"' :: (s.toList.flatMap literalChar ++ ['"']))

end SidecarPolicy.Text
