import RequestDispatch.Json.Printer
import RequestDispatch.Json.Typed
import RequestDispatch.Request
import RequestDispatch.Worker.Frame

/-!
# Calls and answers of a worker

A `Call` goes to a worker in one frame. What comes back is a body frame, or the empty frame that
says that there is none, and then an envelope frame, which reports on the run. `Answer.decode`
accepts exactly that; what is left over or does not agree is a fault.
-/

set_option autoImplicit false

namespace RequestDispatch.Worker

open Json (Reader Field Record Problem)

/-- Statuses on the wire. -/
def statusReader : Reader UInt16 :=
  fun d => (Reader.natural UInt16.size "u16" d).map Nat.toUInt16

/-! ## Calls -/

/-- A task by its name, with the request it is for and the captures of the route. -/
structure Call where
  task : String
  request : Request
  params : List (String × String)
  deriving DecidableEq, Repr

namespace Call

def toJson (c : Call) : Json :=
  .object [("task", .text c.task), ("request", c.request.toJson), ("params", .ofTextPairs c.params)]

def fields : List Field :=
  [.of "task" Reader.text, .of "request" Request.reader, .of "params" Request.pairsReader true]

def reader : Reader Call := fun d => do
  let r ← Record.read "WorkerRequest" fields d
  let task ← r.required 0 "task" Reader.text
  let request ← r.required 1 "request" Request.reader
  let params ← r.defaulted "params" [] Request.pairsReader
  pure ⟨task, request, params⟩

/-- The frame of a call. -/
def frame (c : Call) : Frame := ⟨requestTag, Text.encodeUtf8 c.toJson.compact⟩

/-- The bytes of a call, unless it is too long for a frame. -/
def encode (c : Call) : Except Error (List UInt8) :=
  let f := c.frame
  if Frame.maxPayload < f.payload.length then .error (.io "frame payload too large")
  else .ok f.encode

end Call

/-! ## Envelopes -/

/-- What a worker reports about a run. -/
structure Envelope where
  status : UInt16
  headers : List (String × String) := []
  /-- The task failed. -/
  faulted : Bool
  /-- The task stopped on purpose, which is no fault. -/
  earlyExit : Bool := false
  bodyLength : Nat
  error : Option String := none
  deriving DecidableEq, Repr

namespace Envelope

/-- The envelope of a run that wrote none itself. -/
def synthesizedFault (status : UInt16) (message : String) : Envelope :=
  { status, faulted := true, bodyLength := 0, error := some message }

/-- An envelope as it is written. -/
def toJson (e : Envelope) : Json :=
  .object ([("statusCode", .ofNat e.status.toNat), ("headers", .ofTextPairs e.headers),
    ("faulted", .bool e.faulted), ("earlyExit", .bool e.earlyExit),
    ("bodyLength", .ofNat e.bodyLength)] ++
    (e.error.map fun m => ("error", Json.text m)).toList)

def lengthReader : Reader Nat := Reader.natural UInt64.size "u64"

def fields : List Field :=
  [.of "statusCode" statusReader, .of "headers" Request.pairsReader true,
   .of "faulted" Reader.bool, .of "earlyExit" Reader.bool true,
   .of "bodyLength" lengthReader, .of "error" (Reader.optional Reader.text) true]

def reader : Reader Envelope := fun d => do
  let r ← Record.read "Envelope" fields d
  let status ← r.required 0 "statusCode" statusReader
  let headers ← r.defaulted "headers" [] Request.pairsReader
  let faulted ← r.required 2 "faulted" Reader.bool
  let earlyExit ← r.defaulted "earlyExit" false Reader.bool
  let bodyLength ← r.required 4 "bodyLength" lengthReader
  let error ← r.defaulted "error" none (Reader.optional Reader.text)
  pure ⟨status, headers, faulted, earlyExit, bodyLength, error⟩

/-- The frame of an envelope. -/
def frame (e : Envelope) : Frame := ⟨envelopeTag, Text.encodeUtf8 e.toJson.compact⟩

end Envelope

/-! ## Answers -/

/-- What a task left as its output. -/
inductive Body where
  /-- Output, which may be empty. -/
  | bytes (bs : List UInt8)
  /-- The run broke off without any. -/
  | notProduced
  deriving DecidableEq, Repr

namespace Body

def toBytes : Body → List UInt8
  | .bytes bs => bs
  | .notProduced => []

def isProduced : Body → Bool
  | .bytes _ => true
  | .notProduced => false

/-- The frame of a body. -/
def frame : Body → Frame
  | .bytes bs => ⟨bodyTag, bs⟩
  | .notProduced => ⟨noBodyTag, []⟩

end Body

/-- The answer of a worker. -/
structure Answer where
  body : Body
  envelope : Envelope
  deriving DecidableEq, Repr

namespace Answer

/-- The body in the first frame of an answer. -/
def bodyOf (f : Frame) : Except Fault Body :=
  if f.tag = bodyTag then .ok (.bytes f.payload)
  else if f.tag = noBodyTag then
    if f.payload.isEmpty then .ok .notProduced else .error .payloadWithoutBody
  else .error (.unexpectedTag "body" f.tag)

/-- The envelope in the second frame of an answer. -/
def envelopeOf (f : Frame) : Except Fault Envelope :=
  if f.tag = envelopeTag then
    match (Json.Document.ofBytes f.payload).decode Envelope.reader with
    | .ok e => .ok e
    | .error p => .error (.malformedEnvelope p)
  else .error (.unexpectedTag "envelope" f.tag)

/-- The answer that bytes are: one body, one envelope that declares its length, nothing else. -/
def decode (bs : List UInt8) : Except Fault Answer :=
  if bs.isEmpty then .error .silence
  else do
    let (first, rest) ← Frame.split bs
    let body ← bodyOf first
    let (second, rest) ← Frame.split rest
    let envelope ← envelopeOf second
    if !rest.isEmpty then .error (.trailing rest.length)
    else if envelope.bodyLength ≠ body.toBytes.length then
      .error (.lengthMismatch envelope.bodyLength body.toBytes.length)
    else .ok ⟨body, envelope⟩

/-- Writes an answer; a fault ends the writing where it stands. -/
def write (a : Answer) (o : ByteStream.Outlet) :
    ByteStream.Outlet × Except ByteStream.WriteFault Unit :=
  match a.body.frame.write o with
  | (o, .error e) => (o, .error e)
  | (o, .ok _) => a.envelope.frame.write o

end Answer

end RequestDispatch.Worker
