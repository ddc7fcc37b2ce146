/-
Requests to the two endpoints of the program, and their responses.

* `Http.Request`, `Http.Body`: a request, whose body may break off;
* `Http.Request.isWellFormed`: whether a request can be made;
* `Http.Request.hasContentType`: whether a request declares a media type;
* `Http.Response`: a response with a text;
* `Http.ServiceFault`: why there is no response.
-/
import SidecarPolicy.Http.Target
import SidecarPolicy.Json.Printer
import SidecarPolicy.Text.Ascii
import SidecarPolicy.Text.Blank

namespace SidecarPolicy.Http

/-! ### Requests -/

/-- The bytes of a body, after which reading may fail. -/
structure Body where
  bytes : List UInt8 := []
  fault : Option String := none
  deriving DecidableEq, Inhabited, Repr

/-- A request; the content types are in the order of their headers. -/
structure Request where
  method : String := "POST"
  target : Target
  contentTypes : List String := []
  body : Body := {}
  deriving DecidableEq, Inhabited, Repr

namespace Request

/-- Whether a character may stand in the name of a method. -/
def isMethodChar (c : Char) : Bool :=
  c.isAlphanum
    || ['!', '#', '$', '%', '&', '\'', '*', '+', '-', '.', '^', '_', '\x60', '|',
      '~'].contains c

/-- Whether a character may stand in the value of a header: no control but the
tab. -/
def isHeaderChar (c : Char) : Bool :=
  c == '\t' || (0x20 ≤ c.toNat && c.toNat != 0x7F)

/-- Whether a request can be made: its method has a name, and no header holds
controls. -/
def isWellFormed (r : Request) : Bool :=
  !r.method.isEmpty && r.method.toList.all isMethodChar
    && r.contentTypes.all fun value => value.toList.all isHeaderChar

/-- Whether a header's value is text: visible ASCII characters, spaces and
tabs. -/
def isHeaderText (value : String) : Bool :=
  value.toList.all fun c => c = '\t' || (0x20 ≤ c.toNat && c.toNat < 0x7F)

/-- Whether the first content type is the given media type, whatever its
parameters are and however its letters are written. -/
def hasContentType (r : Request) (essence : String) : Bool :=
  match r.contentTypes with
  | [] => false
  | value :: _ =>
      isHeaderText value
        && Text.sameLetters
            (String.ofList (Text.trimmed (Text.cut ';' value.toList).1)) essence

/-- Whether a request is posted to a path. -/
def isPostTo (r : Request) (path : String) : Bool :=
  r.method == "POST" && r.target.path == path

end Request

/-! ### Responses -/

/-- A response: its status, the media type of its body, and the body. -/
structure Response where
  status : Nat
  contentType : String
  body : String
  deriving DecidableEq, Inhabited, Repr

/-- A response in plain text. -/
def Response.plain (status : Nat) (text : String) : Response :=
  ⟨status, "text/plain", text⟩

/-- A response that holds a document. -/
def Response.json (status : Nat) (doc : Json) : Response :=
  ⟨status, "application/json", doc.render⟩

/-- The response to what is not served. -/
def Response.notFound : Response := .plain 404 "not found"

/-- Why there is no response. -/
inductive ServiceFault where
  | unreadableBody (reason : String)
  deriving DecidableEq, Repr

def ServiceFault.message : ServiceFault → String
  | .unreadableBody reason => "failed to read request body: " ++ reason

/-- The bytes of a body, unless reading it fails. -/
def Body.read (b : Body) : Except ServiceFault (List UInt8) :=
  match b.fault with
  | none => .ok b.bytes
  | some reason => .error (.unreadableBody reason)

end SidecarPolicy.Http
