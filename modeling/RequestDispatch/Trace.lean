import RequestDispatch.Json.Value

/-!
# Structured log events

What happens while routes are registered and requests are answered is told in events: a level, a
message and named values.
-/

set_option autoImplicit false

namespace RequestDispatch.Trace

/-- How much an event matters, from the most to the least. -/
inductive Level where
  | error
  | warn
  | info
  | debug
  | trace
  deriving DecidableEq, Repr

def Level.name : Level → String
  | .error => "ERROR"
  | .warn => "WARN"
  | .info => "INFO"
  | .debug => "DEBUG"
  | .trace => "TRACE"

/-- The place of a level in that order. -/
def Level.rank : Level → Nat
  | .error => 1
  | .warn => 2
  | .info => 3
  | .debug => 4
  | .trace => 5

/-- The log that an event belongs to. -/
inductive Target where
  | diagnostics
  /-- One line for each answered request. -/
  | access
  deriving DecidableEq, Repr

/-- A named period that events happen in. -/
structure Span where
  name : String
  fields : List (String × Json)
  deriving Repr

/-- A log event. -/
structure Event where
  level : Level
  message : String
  fields : List (String × Json) := []
  target : Target := .diagnostics
  span : Option Span := none
  deriving Repr

namespace Event

def error (message : String) (fields : List (String × Json)) : Event :=
  { level := .error, message, fields }

def warn (message : String) (fields : List (String × Json)) : Event :=
  { level := .warn, message, fields }

def info (message : String) (fields : List (String × Json)) : Event :=
  { level := .info, message, fields }

def debug (message : String) (fields : List (String × Json)) : Event :=
  { level := .debug, message, fields }

end Event

end RequestDispatch.Trace
