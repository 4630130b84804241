import RequestDispatch.Http.Cookie
import RequestDispatch.Http.Header
import RequestDispatch.Http.Method
import RequestDispatch.Json.Data
import RequestDispatch.Json.Typed
import RequestDispatch.RequestId
import RequestDispatch.Text.Base64

/-!
# Requests

A request as the dispatcher sees it, with its views: headers by name, form fields, and the
metadata that gateways pass on. `Request.toJson` and `Request.reader` carry it to a worker and
back; the body travels in base 64.
-/

set_option autoImplicit false

namespace RequestDispatch

/-- A decoded request. -/
structure Request where
  id : RequestId
  method : String
  /-- The target without its query. -/
  path : String
  /-- The target as received. -/
  uri : String
  protocol : String
  remoteAddr : Option String
  headers : List (String × String)
  query : TextMap
  cookies : TextMap
  body : List UInt8
  deriving DecidableEq, Repr, Inhabited

namespace Request

/-- What stands before the first `?` of a target, and what stands after it. -/
def splitTarget (target : String) : String × Option String :=
  let (path, query) := Http.Form.cut '?' target.toList
  (String.ofList path, query.map String.ofList)

/-- The decoded query of a target. -/
def queryOf (target : String) : TextMap :=
  match (splitTarget target).2 with
  | none => .empty
  | some q => .ofPairs (Http.Form.pairs (Text.encodeUtf8 q))

/-- A request from a method and a target. -/
def make (id : RequestId) (method target : String) : Request where
  id := id
  method := Http.Method.upper method
  path := (splitTarget target).1
  uri := target
  protocol := "HTTP/1.1"
  remoteAddr := none
  headers := []
  query := queryOf target
  cookies := .empty
  body := []

/-- Adds a header; its name is kept in lower case. -/
def withHeader (r : Request) (name value : String) : Request :=
  { r with headers := r.headers ++ [(Http.Header.lower name, value)] }

def withCookie (r : Request) (name value : String) : Request :=
  { r with cookies := r.cookies.put name value }

def withBody (r : Request) (body : List UInt8) : Request := { r with body := body }

/-- A request from the parts that a server received. `fresh` is its id if no header brings a
valid one. -/
def ofParts (fresh : RequestId) (method target : String) (minorVersion : Nat)
    (headers : List (String × String)) (body : List UInt8) : Request :=
  let headers := headers.map fun h => (Http.Header.lower h.1, h.2)
  let path := (splitTarget target).1
  { id := (RequestId.ofHeader? (headers.lookup "x-request-id")).getD fresh
    method := Http.Method.upper method
    path := if path = "" then "/" else path
    uri := target
    protocol := "HTTP/1." ++ toString minorVersion
    remoteAddr := none
    headers := headers
    query := queryOf target
    cookies := Http.Cookie.parse (headers.lookup "cookie")
    body := body }

/-! ## Views -/

/-- The method, if it is a token. -/
def method? (r : Request) : Option Http.Method := Http.Method.ofToken? r.method

/-- The value of the first header of a name; letter case does not count. -/
def header? (r : Request) (name : String) : Option String :=
  Http.Header.find? name r.headers

/-- The query of the target, undecoded. -/
def queryString (r : Request) : String := (splitTarget r.uri).2.getD ""

/-- The form fields: of an encoded form its pairs, of a structured body its members. -/
def form (r : Request) : List (String × Json) :=
  let contentType := (r.header? "content-type").getD ""
  if contentType.startsWith "application/x-www-form-urlencoded" then
    Dictionary.ofPairs ((Http.Form.pairs r.body).map fun p => (p.1, .text p.2))
  else if contentType.startsWith "application/json" then
    match (Json.Document.ofBytes r.body).decode Json.Reader.value with
    | .ok (.object members) => members
    | _ => []
  else []

/-- The metadata name of a header. -/
def serverName (header : String) : String :=
  let key := header.toList.map Char.toUpper
  "HTTP_" ++ String.ofList (key.map fun c => if c == '-' then '_' else c)

/-- The metadata of a request: its line, the client's address, and an entry for each header. -/
def serverVars (r : Request) : List (String × Json) :=
  let line := [("REQUEST_METHOD", r.method), ("REQUEST_URI", r.uri), ("PATH_INFO", r.path),
    ("QUERY_STRING", r.queryString), ("SERVER_PROTOCOL", r.protocol)]
  let address := (r.remoteAddr.map fun a => ("REMOTE_ADDR", a)).toList
  let headers := r.headers.map fun h => (serverName h.1, h.2)
  Dictionary.ofPairs ((line ++ address ++ headers).map fun p => (p.1, .text p.2))

/-! ## As structured values -/

/-- A request as a structured value, its members in the order of declaration. -/
def members (r : Request) : List (String × Json) :=
  [("request_id", .text r.id.text), ("method", .text r.method), ("path", .text r.path),
   ("uri", .text r.uri), ("protocol", .text r.protocol),
   ("remote_addr", (r.remoteAddr.map Json.text).getD .null),
   ("headers", .ofTextPairs r.headers), ("query", .ofTexts r.query),
   ("cookies", .ofTexts r.cookies), ("body", .text (Text.Base64.encode r.body))]

/-- A request as it is written for a worker. -/
def toJson (r : Request) : Json := .object r.members

/-- A request as a value of the store. -/
def toValue (r : Request) : Json := .ofMembers r.members

/-- A request as typed data. -/
def data (r : Request) : Json.Data :=
  .record [("request_id", .text r.id.text), ("method", .text r.method), ("path", .text r.path),
    ("uri", .text r.uri), ("protocol", .text r.protocol), ("remote_addr", .ofOption r.remoteAddr),
    ("headers", .ofTextPairs r.headers), ("query", .ofTexts r.query),
    ("cookies", .ofTexts r.cookies), ("body", .text (Text.Base64.encode r.body))]

/-- The data of a request have a value. -/
theorem toJson_data (r : Request) : r.data.toJson = .ok r.toValue := by
  simp only [data, Json.Data.toJson, Json.Data.fieldsToJson, Json.Data.toJson_ofOption,
    Json.Data.toJson_ofTextPairs, Json.Data.toJson_ofTexts]
  rfl

/-- Reads an id. -/
def idReader : Json.Reader RequestId
  | d =>
    match Json.Reader.text d with
    | .error e => .error e
    | .ok s =>
      match RequestId.parse s with
      | .ok id => .ok id
      | .error _ => .error (.refused "invalid request id")

/-- Reads a body. -/
def bodyReader : Json.Reader (List UInt8)
  | d =>
    match Json.Reader.text d with
    | .error e => .error e
    | .ok s =>
      match Text.Base64.decodeBytes (Text.encodeUtf8 s) with
      | .ok bytes => .ok bytes
      | .error e => .error (.refused e.message)

/-- Reads headers, or parameters: an array of pairs. -/
def pairsReader : Json.Reader (List (String × String)) :=
  Json.Reader.list (Json.Reader.pair Json.Reader.text Json.Reader.text)

/-- The fields of a request, in the order of declaration. -/
def fields : List Json.Field :=
  [.of "request_id" idReader, .of "method" Json.Reader.text, .of "path" Json.Reader.text,
   .of "uri" Json.Reader.text, .of "protocol" Json.Reader.text,
   .of "remote_addr" (Json.Reader.optional Json.Reader.text) true, .of "headers" pairsReader true,
   .of "query" Json.Reader.textMap true, .of "cookies" Json.Reader.textMap true,
   .of "body" bodyReader true]

/-- Reads a request. -/
def reader : Json.Reader Request := fun d => do
  let r ← Json.Record.read "RequestContext" fields d
  let id ← r.required 0 "request_id" idReader
  let method ← r.required 1 "method" Json.Reader.text
  let path ← r.required 2 "path" Json.Reader.text
  let uri ← r.required 3 "uri" Json.Reader.text
  let protocol ← r.required 4 "protocol" Json.Reader.text
  let remoteAddr ← r.defaulted "remote_addr" none (Json.Reader.optional Json.Reader.text)
  let headers ← r.defaulted "headers" [] pairsReader
  let query ← r.defaulted "query" .empty Json.Reader.textMap
  let cookies ← r.defaulted "cookies" .empty Json.Reader.textMap
  let body ← r.defaulted "body" [] bodyReader
  pure ⟨id, method, path, uri, protocol, remoteAddr, headers, query, cookies, body⟩

end Request

end RequestDispatch
