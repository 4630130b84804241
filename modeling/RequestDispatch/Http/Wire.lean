import RequestDispatch.Dispatcher

/-!
# Requests and responses of a connection

What a server hands over becomes a request, and a response becomes the lines that the server is
told to send. The server writes the status line, its own name, the date and the length of the body,
then the lines of the response; so the response's own lines for those are left out, and so is any
header whose value has a line break in it. The names are taken as they are.
-/

set_option autoImplicit false

namespace RequestDispatch.Http

/-- A request as a server hands it over. -/
structure Received where
  method : String
  target : String
  /-- The `n` of `HTTP/1.n`. -/
  minorVersion : Nat
  headers : List (String × List UInt8)
  body : List UInt8
  deriving Repr

/-- The request; `fresh` is its id if no header brings a valid one. -/
def Received.request (r : Received) (fresh : RequestId) : Request :=
  .ofParts fresh r.method r.target r.minorVersion
    (r.headers.map fun h => (h.1, Text.decodeUtf8Lossy h.2)) r.body

/-- The reasons that belong to status codes. -/
def reasons : List (Nat × String) :=
  [(100, "Continue"), (101, "Switching Protocols"), (102, "Processing"), (103, "Early Hints"),
   (200, "OK"), (201, "Created"), (202, "Accepted"), (203, "Non Authoritative Information"),
   (204, "No Content"), (205, "Reset Content"), (206, "Partial Content"), (207, "Multi-Status"),
   (208, "Already Reported"), (226, "IM Used"),
   (300, "Multiple Choices"), (301, "Moved Permanently"), (302, "Found"), (303, "See Other"),
   (304, "Not Modified"), (305, "Use Proxy"), (307, "Temporary Redirect"),
   (308, "Permanent Redirect"),
   (400, "Bad Request"), (401, "Unauthorized"), (402, "Payment Required"), (403, "Forbidden"),
   (404, "Not Found"), (405, "Method Not Allowed"), (406, "Not Acceptable"),
   (407, "Proxy Authentication Required"), (408, "Request Timeout"), (409, "Conflict"),
   (410, "Gone"), (411, "Length Required"), (412, "Precondition Failed"),
   (413, "Payload Too Large"), (414, "URI Too Long"), (415, "Unsupported Media Type"),
   (416, "Range Not Satisfiable"), (417, "Expectation Failed"), (418, "I'm a teapot"),
   (421, "Misdirected Request"), (422, "Unprocessable Entity"), (423, "Locked"),
   (424, "Failed Dependency"), (425, "Too Early"), (426, "Upgrade Required"),
   (428, "Precondition Required"), (429, "Too Many Requests"),
   (431, "Request Header Fields Too Large"), (451, "Unavailable For Legal Reasons"),
   (500, "Internal Server Error"), (501, "Not Implemented"), (502, "Bad Gateway"),
   (503, "Service Unavailable"), (504, "Gateway Timeout"), (505, "HTTP Version Not Supported"),
   (506, "Variant Also Negotiates"), (507, "Insufficient Storage"), (508, "Loop Detected"),
   (510, "Not Extended"), (511, "Network Authentication Required")]

/-- The reason of a status. -/
def reason (status : UInt16) : String := (reasons.lookup status.toNat).getD "Unknown"

/-! ## Header lines

A server takes its header lines for the life of the process. Each distinct line is kept once, and
once there are too many of them new ones are left out. -/

/-- The header lines that a process keeps. -/
structure LineTable where
  lines : List String := []
  deriving Repr

/-- The number of lines after which no new one is kept. -/
def maxKeptLines : Nat := 4096

/-- A line that is kept already or from now on, if there is room for it. -/
def LineTable.keep (t : LineTable) (line : String) : Option String × LineTable :=
  if line ∈ t.lines then (some line, t)
  else if maxKeptLines ≤ t.lines.length then (none, t)
  else (some line, ⟨line :: t.lines⟩)

/-- The line that a server is given for a header, unless it writes that header itself. -/
def headerLine? (t : LineTable) (name value : String) : Option String × LineTable :=
  let key := Header.lower name
  if key = "content-type" ∧ value = Reply.htmlType then
    (some "Content-Type: text/html; charset=UTF-8", t)
  else if key = "content-type" ∧ value = Reply.jsonType then
    (some "Content-Type: application/json", t)
  else if key ∈ ["content-length", "date", "server"] then (none, t)
  else t.keep (name ++ ": " ++ value)

/-- Whether a line would end inside a text. -/
def hasLineBreak (s : String) : Bool := s.toList.any fun c => c == '\r' || c == '\n'

/-- The lines of headers, in order, and the lines that are kept then. -/
def headerLines (t : LineTable) : List (String × String) → List String × LineTable
  | [] => ([], t)
  | (name, value) :: rest =>
    if hasLineBreak value then headerLines t rest
    else
      let (line, t) := headerLine? t name value
      let (lines, t) := headerLines t rest
      (line.toList ++ lines, t)

/-- Lines as they are sent. -/
def joinLines (lines : List String) : String := String.join (lines.map fun l => l ++ "\r\n")

/-- The first line of a response. -/
def statusLine (status : UInt16) : String :=
  if status = 200 then "HTTP/1.1 200 Ok"
  else "HTTP/1.1 " ++ toString status.toNat ++ " " ++ reason status

/-- A response as it is sent, and the lines that are kept then. -/
def encode (t : LineTable) (r : Response) (date : String) : List UInt8 × LineTable :=
  let (lines, t) := headerLines t r.headers
  let head := [statusLine r.status, "Server: M", "Date: " ++ date,
    "Content-Length: " ++ toString r.body.length] ++ lines
  (Text.encodeUtf8 (joinLines head ++ "\r\n") ++ r.body, t)

/-- Answers what a server hands over. -/
def serve (d : Dispatcher) (us : Context.Units) (r : Received) (fresh : RequestId) (now : Moment) :
    Response × Context.Units :=
  let (answered, us) := d.dispatch us (r.request fresh) now
  (answered.response, us)

end RequestDispatch.Http
