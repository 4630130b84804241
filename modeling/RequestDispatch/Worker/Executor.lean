import RequestDispatch.Response
import RequestDispatch.Trace
import RequestDispatch.Worker.Serve

/-!
# Running tasks in workers

An executor starts a program for every call, gives it the call, and waits for its end or for the
deadline. A complete answer counts even if the program had to be killed; where there is none, a
kill is reported as a fault of its own with status 504, and anything else is an error. The sink is
touched only once there is an answer.

A process that was started is always waited for and its output collected. That a pipe to it breaks,
that waiting fails, or that one of the threads which write to it, read from it and watch the deadline
cannot be started or vanishes is left out: such a failure is an error too, after which there is no
answer either.
-/

set_option autoImplicit false

namespace RequestDispatch.Worker

open Trace (Event)

/-- What is left of a process that has ended and whose output was collected whole. -/
structure Exit where
  output : List UInt8
  /-- Its code, unless a signal ended it. -/
  code : Option Nat
  /-- It was killed at the deadline. -/
  killed : Bool := false
  deriving DecidableEq, Repr

/-- A program that serves calls. -/
structure Program where
  path : String
  /-- What becomes of a process that is given these bytes and killed after that many milliseconds;
  the reason where the program cannot be started. -/
  behaviour : Except String (List UInt8 → Nat → Exit)

/-- A program that is not there. -/
def Program.missing (path : String) : Program :=
  ⟨path, .error "No such file or directory (os error 2)"⟩

/-- A program that serves calls from a registry. What its tasks print is part of their output. -/
def Registry.program (r : Registry) (path : String) (process : Nat) : Program where
  path := path
  behaviour := .ok fun input deadline =>
    let ran := r.run process true (.ofBytes input)
    if deadline ≤ ran.output.slept then ⟨[], none, true⟩
    else
      match ran.answer.write {} with
      | (out, .ok _) => ⟨out.written, some ran.exitCode, false⟩
      | (out, .error _) => ⟨out.written, some 1, false⟩

/-- How an answered call went. -/
structure Outcome where
  answer : Answer
  exitCode : Option Nat
  /-- The answer was made up because the deadline passed. -/
  timedOut : Bool
  deriving DecidableEq, Repr

/-- The error in the envelope of a call that ran out of time. -/
def timeoutMessage : String := "isolated worker timed out"

/-- The answer of a process from what it wrote, and whether it was made up. -/
def settle (output : List UInt8) (killed : Bool) : Except Fault (Answer × Bool) :=
  match Answer.decode output with
  | .ok a => .ok (a, false)
  | .error e =>
    if killed then .ok (⟨.notProduced, .synthesizedFault 504 timeoutMessage⟩, true)
    else .error e

/-- Starts workers of a program, each with the same time to answer. -/
structure Executor where
  program : Program
  /-- In milliseconds. -/
  timeout : Nat

namespace Executor

/-- A number that may be missing, as diagnostics show it. -/
def describeCode : Option Nat → String
  | none => "None"
  | some n => "Some(" ++ toString n ++ ")"

/-- The events and the outcome of a process that has ended. -/
def outcome (task : String) (exit : Exit) : List Event × Except Error Outcome :=
  let code := ("exit_code", Json.text (describeCode exit.code))
  let drained := Event.debug "Worker output drained" []
  match settle exit.output exit.killed with
  | .error e =>
    let error := Error.protocol e
    ([drained, .error "Isolated worker response rejected"
      [("task", .text task), code, ("error", .text error.message)]], .error error)
  | .ok (a, synthesized) =>
    let late := if exit.killed && !synthesized then
      [Event.debug "Isolated worker answered in full before it was killed" []] else []
    let e := a.envelope
    let complete := Event.info "Isolated run complete"
      [("task", .text task), ("status", .ofNat e.status.toNat), ("faulted", .bool e.faulted),
       ("early_exit", .bool e.earlyExit), ("body_length", .ofNat e.bodyLength), code,
       ("timed_out", .bool synthesized)]
    (drained :: late ++ [complete], .ok ⟨a, exit.code, synthesized⟩)

/-- Starts a worker. -/
def start (x : Executor) (task : String) :
    Except Error (Event × (List UInt8 → Nat → Exit)) :=
  match x.program.behaviour with
  | .error reason => .error (.spawn x.program.path reason)
  | .ok behaviour => .ok (.info "Isolated worker spawned" [("task", .text task)], behaviour)

/-- Makes a call and waits for the outcome. The bytes of the call are delivered and the output is
collected without a failure of the pipes or the threads in between. -/
def call (x : Executor) (c : Call) : List Event × Except Error Outcome :=
  match c.encode with
  | .error e => ([], .error e)
  | .ok bytes =>
    match x.start c.task with
    | .error e => ([], .error e)
    | .ok (started, behaviour) =>
      let (events, result) := outcome c.task (behaviour bytes x.timeout)
      (started :: events, result)

/-- Takes over what an envelope sets. -/
def forward (e : Envelope) (sink : Sink) : Sink :=
  e.headers.foldl (fun s h => s.setHeader h.1 h.2) (sink.setStatus e.status)

/-- Makes a call; the outcome's status and headers go into a sink that is kept in place. -/
def runInto (x : Executor) (c : Call) : StateM Sink (List Event × Except Error Outcome) := do
  let (events, result) := x.call c
  if let .ok o := result then
    modify (forward o.answer.envelope)
  return (events, result)

/-- Makes a call; gives the sink with the outcome. -/
def run (x : Executor) (c : Call) (sink : Sink) : List Event × Except Error (Outcome × Sink) :=
  match (x.runInto c).run sink with
  | ((events, .ok o), sink) => (events, .ok (o, sink))
  | ((events, .error e), _) => (events, .error e)

theorem runInto_eq (x : Executor) (c : Call) (sink : Sink) :
    (x.runInto c).run sink = (x.call c, match (x.call c).2 with
      | .ok o => forward o.answer.envelope sink
      | .error _ => sink) := by
  unfold runInto
  obtain ⟨events, result⟩ := x.call c
  cases result <;> rfl

theorem run_eq (x : Executor) (c : Call) (sink : Sink) :
    x.run c sink = match x.call c with
      | (events, .ok o) => (events, .ok (o, forward o.answer.envelope sink))
      | (events, .error e) => (events, .error e) := by
  rw [run, runInto_eq]
  obtain ⟨events, result⟩ := x.call c
  cases result <;> rfl

/-- Starts a call without waiting for it; its answer goes nowhere. -/
def runDetached (x : Executor) (c : Call) : List Event × Except Error Unit :=
  match c.encode with
  | .error e => ([], .error e)
  | .ok _ =>
    match x.start c.task with
    | .error e => ([], .error e)
    | .ok (started, _) => ([started], .ok ())

/-- Makes a call for its body alone; an answer that was made up is an error. -/
def coprocess (x : Executor) (task : String) (request : Request) :
    List Event × Except Error (List UInt8) :=
  match x.call ⟨task, request, []⟩ with
  | (events, .error e) => (events, .error e)
  | (events, .ok o) =>
    (events, if o.timedOut then .error (.timedOut x.timeout) else .ok o.answer.body.toBytes)

end Executor

end RequestDispatch.Worker
