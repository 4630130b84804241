import RequestDispatch.Config
import RequestDispatch.Log.Filter

/-!
# Log settings

Where events go, how they look and which of them are kept. `install` sets the process's logger
once; what it refuses and what it warns about are its results.
-/

set_option autoImplicit false

namespace RequestDispatch.Log

open Trace (Level Span)

/-- How an event is written. -/
inductive Format where
  | json
  | pretty
  deriving DecidableEq, Repr

/-- The format with a name, whatever its case; any other name is that of `json`. -/
def Format.ofName (s : String) : Format := if s.toLower == "pretty" then .pretty else .json

/-- Where events are written. -/
inductive Destination where
  | stdout
  | stderr
  deriving DecidableEq, Repr

/-- What can be set about logging. -/
structure Settings where
  level : String
  format : Format
  /-- Whether another thread does the writing. -/
  buffered : Bool
  /-- More directives, separated by commas. -/
  targetFilter : Option String := none
  /-- Whether to tell the place in the program that an event comes from. -/
  location : Bool
  destination : Destination := .stdout
  deriving DecidableEq, Repr

namespace Settings

/-- A truth value as a variable spells it. -/
def truth? (s : String) : Option Bool :=
  if s == "true" then some true else if s == "false" then some false else none

/-- The settings that the environment asks for. -/
def ofEnvironment (env : Environment) : Settings where
  level := (env.lookup "ZEAL_LOG_LEVEL").getD "info"
  format := .ofName ((env.lookup "ZEAL_LOG_FORMAT").getD "json")
  buffered := ((env.lookup "ZEAL_LOG_ASYNC").bind truth?).getD true
  targetFilter := env.lookup "ZEAL_LOG_TARGET_FILTER"
  location := ((env.lookup "ZEAL_LOG_INCLUDE_LOCATION").bind truth?).getD false

/-- The settings of a worker, whose standard output is its answer and which ends right after it. -/
def forWorker (env : Environment) : Settings :=
  { ofEnvironment env with buffered := false, destination := .stderr }

def development : Settings where
  level := "debug"
  format := .pretty
  buffered := false
  location := true

def production : Settings where
  level := "info"
  format := .json
  buffered := true
  location := false

/-- The level that a setting names, `info` if it names none. -/
def threshold (s : Settings) : Level :=
  match s.level.toLower with
  | "trace" => .trace
  | "debug" => .debug
  | "warn" => .warn
  | "error" => .error
  | _ => .info

/-- The directives of the target filter, and the parts of it that are none. -/
def extra (s : Settings) : List (String × Option Directive) :=
  (((s.targetFilter.getD "").splitOn ",").map Text.trim).filterMap fun part =>
    if part.isEmpty then none else some (part, Directive.ofText? part)

/-- The filter: that of the variable `RUST_LOG` if it is well-formed, else the level, then what
the server library may say, then the target filter. -/
def filter (s : Settings) (env : Environment) : Filter :=
  let base := ((env.lookup "RUST_LOG").bind Filter.ofText?).getD
    ⟨[{ threshold := some s.threshold }]⟩
  let quiet : Directive := { threshold := some .warn, target := some "may_minihttp" }
  (s.extra.filterMap (·.2)).foldl Filter.add (base.add quiet)

/-- A line for each part of the target filter that is no directive. -/
def warnings (s : Settings) : List String :=
  s.extra.filterMap fun (part, d) =>
    if d.isNone then some ("Warning: Invalid log filter directive: " ++ part) else none

end Settings

/-- What writes events. -/
structure Logger where
  settings : Settings
  filter : Filter
  deriving Repr

namespace Logger

/-- The names in a record of an event, sorted; a span is one that was recorded. -/
def recordKeys (l : Logger) (inSpan : Bool) : List String :=
  ["fields"] ++ (if l.settings.location then ["filename"] else []) ++ ["level"] ++
    (if l.settings.location then ["line_number"] else []) ++
    (if inSpan then ["span", "spans"] else []) ++ ["target", "threadId", "timestamp"]

/-- A span in a record: its fields and its name. -/
def spanRecord (s : Span) : Json := .ofMembers (s.fields ++ [("name", .text s.name)])

end Logger

/-- Why a logger was not installed. -/
inductive InstallError where
  | alreadyInstalled
  deriving DecidableEq, Repr

def InstallError.message : InstallError → String
  | .alreadyInstalled => "Failed to initialize logging"

/-- Makes the logger of a process that has one or none, with the warnings that are written to the
standard error output whether or not it is installed. -/
def install (current : Option Logger) (s : Settings) (env : Environment) :
    List String × Except InstallError Logger :=
  (s.warnings,
    match current with
    | some _ => .error .alreadyInstalled
    | none => .ok ⟨s, s.filter env⟩)

end RequestDispatch.Log
