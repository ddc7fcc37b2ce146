/-
The format `application/x-www-form-urlencoded` of the URL standard.

* `unescape`: percent escapes and `+` resolved;
* `parse`: the name/value pairs of a byte sequence;
* `escape`: a text as it is written, only `*-._`, digits and ASCII letters
  standing for themselves;
* `render`: pairs as they are written;
* `first?`: the first value of a name.
-/
import SidecarPolicy.Text.Pieces
import SidecarPolicy.Text.Utf8

namespace SidecarPolicy.Text.Form

/-- The value of a hexadecimal digit. -/
def hexValue? (b : UInt8) : Option UInt8 :=
  if 0x30 ≤ b ∧ b ≤ 0x39 then some (b - 0x30)
  else if 0x41 ≤ b ∧ b ≤ 0x46 then some (b - 0x37)
  else if 0x61 ≤ b ∧ b ≤ 0x66 then some (b - 0x57)
  else none

/-- Bytes with each `+` read as a space and each complete percent escape
read as its byte; any other `%` stands for itself. -/
def unescape : List UInt8 → List UInt8
  | [] => []
  | 0x2B :: rest => 0x20 :: unescape rest
  | 0x25 :: hi :: lo :: rest =>
      match hexValue? hi, hexValue? lo with
      | some h, some l => (h * 16 + l) :: unescape rest
      | _, _ => 0x25 :: unescape (hi :: lo :: rest)
  | b :: rest => b :: unescape rest

/-- A written name or value, as text. -/
def readPart (bytes : List UInt8) : String :=
  String.ofList (Utf8.decodeLossy (unescape bytes))

/-- A pair is cut at its first `=`; without one the value is empty. -/
def readPair (bytes : List UInt8) : String × String :=
  let parts := cut 0x3D bytes
  (readPart parts.1, readPart (parts.2.getD []))

/-- The pairs between `&` signs, empty ones left out. -/
def parse (bytes : List UInt8) : List (String × String) :=
  ((splitOn 0x26 bytes).filter (! ·.isEmpty)).map readPair

/-- The bytes that stand for themselves: `*-._`, digits and ASCII letters. -/
def isPlain (b : UInt8) : Bool :=
  b == 0x2A || b == 0x2D || b == 0x2E || b == 0x5F || (0x30 ≤ b && b ≤ 0x39)
    || (0x41 ≤ b && b ≤ 0x5A) || (0x61 ≤ b && b ≤ 0x7A)

/-- The capital hexadecimal digit of a value below sixteen. -/
def hexDigit (n : UInt8) : UInt8 :=
  if n < 10 then 0x30 + n else 0x37 + n

/-- One byte as it is written: a space as `+`, any byte that is not plain as
a percent escape. -/
def escapeByte (b : UInt8) : List UInt8 :=
  if isPlain b then [b]
  else if b = 0x20 then [0x2B]
  else [0x25, hexDigit (b / 16), hexDigit (b % 16)]

/-- A text as it is written. -/
def escape (s : String) : List UInt8 :=
  (Utf8.encode s.toList).flatMap escapeByte

def render (pairs : List (String × String)) : List UInt8 :=
  [0x26].intercalate (pairs.map fun pair => escape pair.1 ++ [0x3D] ++ escape pair.2)

/-- The first value of a name. -/
def first? (name : String) (pairs : List (String × String)) : Option String :=
  (pairs.find? (·.1 == name)).map (·.2)

end SidecarPolicy.Text.Form
