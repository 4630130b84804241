import RequestDispatch.Text.Digits
import RequestDispatch.Worker.Task

/-!
# Tasks of the demo application

One task for each way in which a run can end.
-/

set_option autoImplicit false

namespace RequestDispatch.Demo

open Worker (Task TaskM Registry)
open Worker.Task

/-- A number of milliseconds: digits, with a `+` allowed before them, below `2 ^ 64`. -/
def milliseconds? (s : String) : Option Nat :=
  (Text.signedNumber? 10 s.toList).filter (· < UInt64.size)

def created : Task := do
  setStatus 201
  echo "ok"

def crashSilent : Task := throw (.panic (some "worker crashed before writing"))

def crashPartial : Task := do
  echo "partial"
  fail ["worker failed halfway"]

def earlyExit : Task := do
  echo "stopping early"
  exit

def printStdout : Task := do
  print "printed by the task\n"
  echo "then echoed"

def printThenFail : Task := do
  print "half a line"
  fail ["gave up after printing"]

def echoEof : Task := echo "EOF"

/-- Sleeps for as long as the capture `ms` says. -/
def sleepTask : Task := do
  match (← param? "ms").bind milliseconds? with
  | none => fail ["\x60ms\x60 must be a number"]
  | some ms =>
    sleep ms
    echo "awake"

/-- Reports what it was called with, and the process it ran in. -/
def report : Task := do
  let called ← read
  setHeader "Content-Type" "application/json"
  setHeader "X-Worker-Pid" (toString called.process)
  let report := Json.ofMembers [("task", .text "report"), ("method", .text called.request.method),
    ("params", .ofTexts (.ofPairs called.params)), ("query", .ofTexts called.request.query)]
  echo report.compact

/-- Greets whom the query names. -/
def greet : Task := do
  echo ("Hello, " ++ ((← read).request.query.find? "name").getD "world")

/-- The tasks by name. -/
def tasks : Registry :=
  [("created", created), ("crash_silent", crashSilent), ("crash_partial", crashPartial),
   ("early_exit", earlyExit), ("print_stdout", printStdout), ("print_then_fail", printThenFail),
   ("echo_eof", echoEof), ("sleep", sleepTask), ("report", report),
   ("greet", greet)].foldl (fun r t => r.register t.1 t.2) {}

end RequestDispatch.Demo
