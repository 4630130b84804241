import RequestDispatch.Binding
import RequestDispatch.Context.WellKnown
import RequestDispatch.Response
import RequestDispatch.Worker.Executor

/-!
# Handlers

A handler is given its declared parameters and is then a `Program`: steps that each ask something
of their surroundings, and at the end a reply, an error or a panic. A program has handles to
units, but no way to keep one after its end; `Program.run`, in the module after this one, gives
the steps their meaning.
-/

set_option autoImplicit false

namespace RequestDispatch

namespace Handler

/-- An object that a handler can ask for by name. -/
inductive Object where
  | app
  | request (request : Request)
  | response
  | context
  deriving Repr

/-- The object of a keyword while a request is answered. -/
def Object.ofKeyword (r : Request) : Binding.Reserved → Object
  | .app => .app
  | .request => .request r
  | .response => .response
  | .context => .context

abbrev Args := Binding.Args Object

/-- The request, if it was asked for. -/
def request? (args : Args) : Option Request :=
  (args.object? .request).bind fun o =>
    match o with
    | .request r => some r
    | _ => none

/-- A handle of a handler to an execution unit, by its place among the handles of its run. -/
structure Handle where
  index : Nat
  deriving DecidableEq, Repr

/-- The handle to the request's own unit. -/
def Handle.unit : Handle := ⟨0⟩

/-- The handle to the root of all units. -/
def Handle.root : Handle := ⟨1⟩

/-- How a handler can fail. -/
inductive Failure where
  | error (chain : ErrorChain)
  /-- A panic, with its text if it has one. -/
  | panic (text : Option String)
  deriving DecidableEq, Repr

/-- One step of a handler. -/
inductive Op where
  | setStatus (status : UInt16)
  | setHeader (name value : String)
  | set (unit : Handle) (key : String) (value : Json)
  | get (unit : Handle) (key : String)
  /-- Counts the live units. -/
  | liveUnits
  /-- Opens a unit below another one. -/
  | child (unit : Handle)
  | drop (unit : Handle)
  /-- Starts a sub-task with a unit of its own below another one. -/
  | spawn (unit : Handle)
  /-- Waits for the sub-task with a unit, which gives that unit up. -/
  | join (unit : Handle)
  /-- Runs a task in a worker for its body alone. -/
  | coprocess (task : String) (request : Request)
  deriving Repr

/-- What a step answers. -/
def Op.Answer : Op → Type
  | .get _ _ => Except Context.Fault Json
  | .liveUnits => Nat
  | .child _ => Handle
  | .spawn _ => Handle
  | .coprocess _ _ => Except Worker.Error (List UInt8)
  | _ => Unit

/-- What a handler does, up to a value. -/
inductive Program (α : Type) where
  | pure (value : α)
  | stop (failure : Failure)
  | perform (op : Op) (next : op.Answer → Program α)

namespace Program

variable {α β : Type}

/-- One program after another. -/
def bind : Program α → (α → Program β) → Program β
  | .pure a, f => f a
  | .stop e, _ => .stop e
  | .perform op next, f => .perform op fun a => bind (next a) f

instance : Monad Program where
  pure := .pure
  bind := bind

/-- A program of one step. -/
def step (op : Op) : Program op.Answer := .perform op .pure

/-- Fails with an error. -/
def fail (chain : ErrorChain) : Program α := .stop (.error chain)

def setStatus (status : UInt16) : Program Unit := step (.setStatus status)

def setHeader (name value : String) : Program Unit := step (.setHeader name value)

def set (unit : Handle) (key : String) (value : Json) : Program Unit := step (.set unit key value)

def get (unit : Handle) (key : String) : Program (Except Context.Fault Json) := step (.get unit key)

/-- A view of the request. -/
def view (unit : Handle) (v : Context.View α) : Program (Except Context.Fault α) := do
  return v.read (← get unit v.key)

def liveUnits : Program Nat := step .liveUnits

def child (unit : Handle) : Program Handle := step (.child unit)

def drop (unit : Handle) : Program Unit := step (.drop unit)

def coprocess (task : String) (request : Request) : Program (Except Worker.Error (List UInt8)) :=
  step (.coprocess task request)

/-- The value, or the failure as a value. -/
def attempt : Program α → Program (Except Failure α)
  | .pure a => .pure (.ok a)
  | .stop e => .pure (.error e)
  | .perform op next => .perform op fun a => attempt (next a)

/-- Runs a sub-task with a unit of its own and waits for it. -/
def spawn (unit : Handle) (task : Handle → Program α) : Program (Except Failure α) := do
  let own : Handle ← step (.spawn unit)
  let result ← (task own).attempt
  let _ : Unit ← step (.join own)
  return result

/-- Goes on with what the store answered; a fault is an error. -/
def ofContext : Except Context.Fault α → Program α
  | .ok a => .pure a
  | .error e => fail e.chain

/-- Goes on with what a worker answered; its error is an error. -/
def ofWorker : Except Worker.Error α → Program α
  | .ok a => .pure a
  | .error e => fail e.chain

/-- Goes on with what there is, or fails. -/
def ofOption (message : String) : Option α → Program α
  | some a => .pure a
  | none => fail [message]

end Program

end Handler

/-- What answers a request. -/
abbrev Handler := Handler.Args → Handler.Program Reply

end RequestDispatch
