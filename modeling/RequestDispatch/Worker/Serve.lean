import RequestDispatch.Worker.Task

/-!
# Serving one call

A worker reads one call from its input, runs the task and writes one answer. `Registry.serve` is
that whole run; whatever the input and the task do, it writes an answer as long as its parts fit.
-/

set_option autoImplicit false

namespace RequestDispatch.Worker

open ByteStream (Source Outlet)

/-- Why a worker refuses its input. -/
inductive Refusal where
  | unreadable (error : Error)
  /-- The input was closed without a call. -/
  | noCall
  | unexpectedTag (tag : UInt8)
  | malformed (problem : Json.Problem)
  | unknownTask (name : String)
  deriving DecidableEq, Repr

def Refusal.message : Refusal → String
  | .unreadable e => e.message
  | .noCall => "no request frame received"
  | .unexpectedTag tag => unexpected "request" tag
  | .malformed p => "malformed request frame: " ++ p.message
  | .unknownTask name => "unknown isolated task `" ++ name ++ "`"

/-- Reads the call at the beginning of a stream. -/
def Call.read (s : Source) : Except Refusal Call :=
  match (Frame.read s).2 with
  | .error e => .error (.unreadable e)
  | .ok none => .error .noCall
  | .ok (some f) =>
    if f.tag ≠ requestTag then .error (.unexpectedTag f.tag)
    else
      match (Json.Document.ofBytes f.payload).decode Call.reader with
      | .ok c => .ok c
      | .error p => .error (.malformed p)

/-- What a run left. -/
structure Ran where
  output : Output
  completion : Completion

namespace Ran

/-- A call that was refused leaves nothing but the reason. -/
def refused (r : Refusal) : Ran := ⟨{}, .fault r.message⟩

/-- The answer that reports on a run. A run that breaks off without output has no body; one that
returns has one, even if it is empty. -/
def answer (r : Ran) : Answer :=
  let bytes := r.output.bytes
  let size := bytes.length
  let produced (breaksOff : Bool) : Body :=
    if breaksOff && bytes.isEmpty then .notProduced else .bytes bytes
  let status (default : UInt16) := r.output.status.getD default
  let headers := r.output.headers
  match r.completion with
  | .normal => ⟨produced false, ⟨status 200, headers, false, false, size, none⟩⟩
  | .earlyExit => ⟨produced true, ⟨status 200, headers, false, true, size, none⟩⟩
  | .fault message => ⟨produced true, ⟨status 500, headers, true, false, size, some message⟩⟩

/-- The exit code of a run whose answer was written. -/
def exitCode (r : Ran) : Nat :=
  match r.completion with
  | .fault _ => 1
  | _ => 0

end Ran

namespace Registry

/-- Runs the task of the call in a stream. -/
def run (r : Registry) (process : Nat) (capturing : Bool) (input : Source) : Ran :=
  match Call.read input with
  | .error e => .refused e
  | .ok call =>
    match r.find? call.task with
    | none => .refused (.unknownTask call.task)
    | some task =>
      let (output, stop) := task.run { request := call.request, params := call.params,
                                       process, capturing }
      ⟨output, .ofStop stop⟩

/-- Serves one call: writes the answer and gives the exit code, which is 1 for a fault and for an
answer that could not be written. -/
def serve (r : Registry) (input : Source) (out : Outlet) : Nat × Outlet :=
  let ran := r.run 0 false input
  match ran.answer.write out with
  | (out, .ok _) => (ran.exitCode, out)
  | (out, .error _) => (1, out)

end Registry

end RequestDispatch.Worker
