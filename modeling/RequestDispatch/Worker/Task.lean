import RequestDispatch.Http.Header
import RequestDispatch.Text.Quoted
import RequestDispatch.Worker.Envelope

/-!
# Tasks

A task is a program over what it was called with: it writes output, sets a status and headers, and
then returns or stops. `Task.run` gives its output and how it ended (`Completion`); what was
written before a stop stays. A `Registry` holds tasks by name.
-/

set_option autoImplicit false

namespace RequestDispatch

/-- An error with the contexts it was wrapped in, the outermost first. -/
abbrev ErrorChain := List String

/-- An error in words, from the outermost context to the cause. -/
def ErrorChain.message (chain : ErrorChain) : String := ": ".intercalate chain

namespace Worker

/-- Why a task stopped before its end. -/
inductive Stop where
  /-- On purpose. -/
  | exit
  | failure (chain : ErrorChain)
  /-- A panic, with its text if it has one. -/
  | panic (text : Option String)
  deriving DecidableEq, Repr

/-- What a task is called with. -/
structure Invocation where
  request : Request
  params : List (String × String)
  /-- The number of the process the task runs in. -/
  process : Nat := 0
  /-- What the task prints is collected together with what it writes. -/
  capturing : Bool := false

/-- What a task has put out so far. -/
structure Output where
  bytes : List UInt8 := []
  status : Option UInt16 := none
  headers : List (String × String) := []
  /-- For how many milliseconds it has slept. -/
  slept : Nat := 0
  deriving DecidableEq, Repr

/-- Programs of tasks. -/
abbrev TaskM := ReaderT Invocation (ExceptT Stop (StateM Output))

/-- What a worker runs. -/
abbrev Task := TaskM Unit

namespace Task

/-- Adds bytes to the output. -/
def write (bs : List UInt8) : Task := modify fun o => { o with bytes := o.bytes ++ bs }

/-- Adds text to the output. -/
def echo (s : String) : Task := write (Text.encodeUtf8 s)

/-- Prints text; it is part of the output only where it is collected. -/
def print (s : String) : Task := do
  if (← read).capturing then echo s

/-- The output that the task can see, which is none while it is collected elsewhere. -/
def output : TaskM (List UInt8) := do
  if (← read).capturing then pure [] else return (← get).bytes

def setStatus (status : UInt16) : Task := modify fun o => { o with status := some status }

/-- Sets a header, keeping the place of one of the same name. -/
def setHeader (name value : String) : Task :=
  modify fun o => { o with headers := Http.Header.set name value o.headers }

/-- The value of a capture; the last one counts. -/
def param? (name : String) : TaskM (Option String) := do
  return (← read).params.reverse.lookup name

def sleep (ms : Nat) : Task := modify fun o => { o with slept := o.slept + ms }

/-- Stops here; what was written stays. -/
def exit {α : Type} : TaskM α := throw .exit

def fail {α : Type} (chain : ErrorChain) : TaskM α := throw (.failure chain)

/-- The output of a task, and why it stopped, if it did not return. -/
def run (t : Task) (i : Invocation) : Output × Option Stop :=
  match ReaderT.run t i |>.run |>.run {} with
  | (.ok _, o) => (o, none)
  | (.error stop, o) => (o, some stop)

end Task

/-! ## Completions -/

/-- How a run ended, as it is reported. -/
inductive Completion where
  | normal
  | earlyExit
  | fault (message : String)
  deriving DecidableEq, Repr

def Completion.ofStop : Option Stop → Completion
  | none => .normal
  | some .exit => .earlyExit
  | some (.failure chain) => .fault chain.message
  | some (.panic text) => .fault (text.getD "task panicked")

/-! ## Registries -/

/-- Tasks by name, in the order of their names. -/
structure Registry where
  tasks : List (String × Task) := []

namespace Registry

/-- Adds a task, in place of one of the same name. -/
def register (r : Registry) (name : String) (t : Task) : Registry :=
  ⟨Dictionary.put name t r.tasks⟩

def find? (r : Registry) (name : String) : Option Task := Dictionary.find? name r.tasks

def names (r : Registry) : List String := r.tasks.map Prod.fst

def size (r : Registry) : Nat := r.tasks.length

/-- A registry in words. -/
def describe (r : Registry) : String :=
  "TaskRegistry \x7b tasks: " ++ Text.bracketed (r.names.map Text.quoted) ++ " \x7d"

end Registry

end Worker

end RequestDispatch
