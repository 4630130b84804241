import RequestDispatch.Http.Header
import RequestDispatch.Json.Printer
import RequestDispatch.Text.Utf8

/-!
# Replies and responses

A handler gives a `Reply`, and sets a status and headers in a `Sink`. The `Response` is the reply
with what the sink holds applied on top; in both a header has one value, whatever the letter case
of its name.
-/

set_option autoImplicit false

namespace RequestDispatch

/-- What a handler answers with. -/
inductive Reply where
  /-- Text of a page. -/
  | html (body : String)
  /-- Structured data. -/
  | json (value : Json)
  deriving Repr

namespace Reply

def htmlType : String := "text/html; charset=UTF-8"

def jsonType : String := "application/json"

/-- Objects and arrays are data; any other value is shown as text. -/
def ofValue : Json → Reply
  | .object ms => .json (.object ms)
  | .array items => .json (.array items)
  | .text s => .html s
  | .null => .html ""
  | v => .html v.compact

def contentType : Reply → String
  | .html _ => htmlType
  | .json _ => jsonType

/-- The body that a reply is sent as. -/
def body : Reply → List UInt8
  | .html s => Text.encodeUtf8 s
  | .json v => Text.encodeUtf8 v.compact

end Reply

/-- A status and headers, as far as they were set. -/
structure Sink where
  status : Option UInt16 := none
  headers : List (String × String) := []
  deriving DecidableEq, Repr, Inhabited

namespace Sink

def setStatus (s : Sink) (status : UInt16) : Sink := { s with status := some status }

/-- Sets a header, keeping the place and the spelling of one of the same name. -/
def setHeader (s : Sink) (name value : String) : Sink :=
  { s with headers := Http.Header.set name value s.headers }

def header? (s : Sink) (name : String) : Option String := Http.Header.find? name s.headers

end Sink

/-- A finished response. -/
structure Response where
  status : UInt16
  headers : List (String × String)
  body : List UInt8
  deriving DecidableEq, Repr, Inhabited

namespace Response

def make (status : UInt16) (contentType : String) (body : List UInt8) : Response :=
  ⟨status, [("Content-Type", contentType)], body⟩

/-- A response of structured data. -/
def json (status : UInt16) (value : Json) : Response :=
  make status Reply.jsonType (Text.encodeUtf8 value.compact)

/-- A response that tells an error. -/
def error (status : UInt16) (message : String) : Response :=
  json status (.ofMembers [("error", .text message)])

/-- The response where no route answers. -/
def notFound : Response := make 404 Reply.htmlType (Text.encodeUtf8 "<h1>404 Not Found</h1>")

def header? (r : Response) (name : String) : Option String := Http.Header.find? name r.headers

def contentType? (r : Response) : Option String := r.header? "content-type"

/-- Sets a header, keeping the place and the spelling of one of the same name. -/
def setHeader (r : Response) (name value : String) : Response :=
  { r with headers := Http.Header.set name value r.headers }

/-- Takes over the status and the headers that a sink holds. -/
def applySink (r : Response) (s : Sink) : Response :=
  s.headers.foldl (fun r h => r.setHeader h.1 h.2) { r with status := s.status.getD r.status }

/-- The response of a reply with what a sink holds. -/
def ofReply (reply : Reply) (s : Sink) : Response :=
  (make 200 reply.contentType reply.body).applySink s

end Response

end RequestDispatch
