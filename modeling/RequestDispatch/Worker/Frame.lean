import RequestDispatch.ByteStream
import RequestDispatch.Worker.Error

/-!
# Frames

A frame is a tag, the length of its payload in four bytes with the greatest first, and the
payload. `Frame.split` cuts the first frame off bytes that are all there, and `Frame.read` reads
it from a stream; a stream that ends before a frame begins has no frame.
-/

set_option autoImplicit false

namespace RequestDispatch.Worker

open ByteStream (Source Outlet WriteFault)

/-- A tagged payload. -/
structure Frame where
  tag : UInt8
  payload : List UInt8
  deriving DecidableEq, Repr

/-- The tag of a request. -/
def requestTag : UInt8 := 82

/-- The tag of a body, which may be empty. -/
def bodyTag : UInt8 := 66

/-- The tag that says that there is no body. -/
def noBodyTag : UInt8 := 78

/-- The tag of an envelope. -/
def envelopeTag : UInt8 := 69

namespace Frame

/-- How many bytes stand before a payload. -/
def headerSize : Nat := 5

/-- The length of the longest payload that is written or read. -/
def maxPayload : Nat := 64 * 1024 * 1024

/-- A number below `2 ^ 32` in four bytes, the greatest first. -/
def lengthBytes (n : Nat) : List UInt8 :=
  [(n >>> 24).toUInt8, (n >>> 16).toUInt8, (n >>> 8).toUInt8, n.toUInt8]

/-- The number that bytes stand for, the greatest first. -/
def ofLengthBytes (bs : List UInt8) : Nat := bs.foldl (fun n b => n * 256 + b.toNat) 0

/-- The bytes before a payload. -/
def header (f : Frame) : List UInt8 := f.tag :: lengthBytes f.payload.length

/-- A frame as it is written. -/
def encode (f : Frame) : List UInt8 := f.header ++ f.payload

/-- The length that a header declares, unless it is too great. -/
def declared (header : List UInt8) : Except Fault Nat :=
  let n := ofLengthBytes (header.drop 1)
  if n ≤ maxPayload then .ok n else .error (.oversized n)

/-- The frame at the beginning of some bytes, and the bytes behind it. -/
def split (bs : List UInt8) : Except Fault (Frame × List UInt8) :=
  let header := bs.take headerSize
  if header.length < headerSize then .error .truncatedHeader
  else
    match declared header with
    | .error e => .error e
    | .ok n =>
      let rest := bs.drop headerSize
      let payload := rest.take n
      if payload.length < n then .error .truncatedPayload
      else .ok (⟨header.headD 0, payload⟩, rest.drop n)

/-- What a stream that ended too early means. -/
def endedEarly (s : Source) (fault : Fault) : Error :=
  match s.ending with
  | .closed => .protocol fault
  | .failed reason => .io reason

/-- Reads one frame; `none` where the stream was closed before it began. -/
def read (s : Source) : Source × Except Error (Option Frame) :=
  let header := s.take headerSize
  let s := { s with deliveries := header.rest }
  if header.missing = headerSize && s.ending == .closed then (s, .ok none)
  else if 0 < header.missing then (s, .error (endedEarly s .truncatedHeader))
  else
    match declared header.bytes with
    | .error e => (s, .error (.protocol e))
    | .ok n =>
      let payload := s.take n
      let s := { s with deliveries := payload.rest }
      if 0 < payload.missing then (s, .error (endedEarly s .truncatedPayload))
      else (s, .ok (some ⟨header.bytes.headD 0, payload.bytes⟩))

/-- Writes a frame: its header, then its payload. A payload that is too long is refused before
anything is written. -/
def write (f : Frame) (o : Outlet) : Outlet × Except WriteFault Unit :=
  if maxPayload < f.payload.length then (o, .error .payloadTooLarge)
  else
    match o.write f.header with
    | (o, .error e) => (o, .error e)
    | (o, .ok _) => if f.payload.isEmpty then (o, .ok ()) else o.write f.payload

end Frame

end RequestDispatch.Worker
