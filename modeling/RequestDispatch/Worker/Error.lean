import RequestDispatch.Json.Problem
import RequestDispatch.Number.Double

/-!
# What can go wrong with a worker

`Fault` says how bytes break the frame format, `Worker.Error` what a caller of a worker is told.
-/

set_option autoImplicit false

namespace RequestDispatch.Worker

/-- How the bytes that a process wrote break the format. -/
inductive Fault where
  | truncatedHeader
  | truncatedPayload
  | oversized (length : Nat)
  /-- Nothing was written. -/
  | silence
  | payloadWithoutBody
  | unexpectedTag (expected : String) (tag : UInt8)
  | malformedEnvelope (problem : Json.Problem)
  | trailing (count : Nat)
  | lengthMismatch (declared actual : Nat)
  deriving DecidableEq, Repr

/-- A tag of another kind than expected, in words. -/
def unexpected (expected : String) (tag : UInt8) : String :=
  "expected " ++ expected ++ " frame, got tag " ++ Text.quotedSingle (Char.ofNat tag.toNat)

def Fault.message : Fault → String
  | .truncatedHeader => "truncated frame header"
  | .truncatedPayload => "truncated frame payload"
  | .oversized n => "frame of " ++ toString n ++ " bytes exceeds limit"
  | .silence => "worker closed its output without a response"
  | .payloadWithoutBody => "no-body frame carries a payload"
  | .unexpectedTag expected tag => unexpected expected tag
  | .malformedEnvelope p => "malformed envelope: " ++ p.message
  | .trailing n => toString n ++ " trailing bytes after envelope"
  | .lengthMismatch declared actual =>
    "envelope declares " ++ toString declared ++ " body bytes, frame carried " ++ toString actual

/-- Why a worker gave no answer. -/
inductive Error where
  /-- The program could not be started, for a reason of the system. -/
  | spawn (program reason : String)
  /-- Bytes could not be exchanged with it. -/
  | io (reason : String)
  | protocol (fault : Fault)
  /-- It took longer than the given number of milliseconds. -/
  | timedOut (limit : Nat)
  deriving DecidableEq, Repr

/-- A span of milliseconds: in seconds from one second on, without trailing zeros. -/
def describeSpan (ms : Nat) : String :=
  if ms = 0 then "0ns"
  else if ms < 1000 then toString ms ++ "ms"
  else
    let digits := (toString (1000 + ms % 1000)).toList.drop 1
    let fraction := (digits.reverse.dropWhile (· == '0')).reverse
    toString (ms / 1000) ++ (if fraction.isEmpty then "" else "." ++ String.ofList fraction) ++ "s"

def Error.message : Error → String
  | .spawn program _ => "failed to spawn isolated worker `" ++ program ++ "`"
  | .io reason => "isolated worker I/O failed: " ++ reason
  | .protocol fault => "isolated worker protocol violation: " ++ fault.message
  | .timedOut limit => "isolated worker timed out after " ++ describeSpan limit

/-- What the error comes from, if it has a cause of its own. -/
def Error.cause? : Error → Option String
  | .spawn _ reason => some reason
  | .io reason => some reason
  | _ => none

/-- The error and its cause. -/
def Error.chain (e : Error) : List String := e.message :: e.cause?.toList

end RequestDispatch.Worker
