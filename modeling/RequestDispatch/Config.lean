import RequestDispatch.Text.Blank
import RequestDispatch.Yaml.Typed

/-!
# Configuration

What can be configured, with its defaults, read from a document of four sections. The stack size
of sub-tasks may come from the document, else from the environment, else it is the default.
-/

set_option autoImplicit false

namespace RequestDispatch

/-- Environment variables. -/
abbrev Environment := List (String × String)

namespace Config

/-- A size in bytes: digits, or `0x` and hexadecimal digits. A `+` may stand before the digits and
blanks around it all; the size must be below `2 ^ 64`. -/
def parseSize (s : String) : Option Nat :=
  let size :=
    match (Text.trim s).toList with
    | '0' :: 'x' :: rest => Text.signedNumber? 16 rest
    | '0' :: 'X' :: rest => Text.signedNumber? 16 rest
    | cs => Text.signedNumber? 10 cs
  size.filter (· < UInt64.size)

/-- Where to listen. -/
structure Server where
  host : String := "127.0.0.1"
  port : UInt16 := 8080
  deriving DecidableEq, Repr

/-- How to run sub-tasks. -/
structure Runtime where
  stackSize : Option Nat := none
  deriving DecidableEq, Repr

/-- How to run isolated tasks. -/
structure Isolated where
  /-- Milliseconds until a worker is killed. -/
  timeout : Nat := 30000
  /-- The program of the workers, the running one if there is none. -/
  program : Option String := none
  arguments : List String := []
  deriving DecidableEq, Repr

end Config

/-- The configuration of an application. -/
structure Config where
  server : Config.Server := {}
  runtime : Config.Runtime := {}
  isolated : Config.Isolated := {}
  /-- Values that the root unit begins with. -/
  context : List (String × Json) := []
  deriving Repr

namespace Config

open Yaml (Field Reader Path Node)
open Json (Found)

/-- The address to listen on. -/
def Server.address (s : Server) : String := s.host ++ ":" ++ toString s.port.toNat

/-- The variable that holds a stack size. -/
def stackSizeVariable : String := "ZEAL_STACK_SIZE"

def defaultStackSize : Nat := 0x10000

/-- The stack size that the environment asks for, or the default. -/
def stackSizeOf (env : Environment) : Nat :=
  ((env.lookup stackSizeVariable).bind parseSize).getD defaultStackSize

/-- The stack size of sub-tasks. -/
def stackSize (c : Config) (env : Environment) : Nat :=
  c.runtime.stackSize.getD (stackSizeOf env)

/-! ## Reading -/

/-- Reads a size that is written as a number or as text. A size of another kind and a text that is
none are faults of the section around it. -/
def sizeReader : Reader (Option Nat) := fun path n =>
  let section_ : Path := path.tail
  let none_ : Except Yaml.Failure (Option Nat) :=
    .error (.data section_ (.refused "data did not match any variant of untagged enum Raw"))
  match Reader.isOmitted n with
  | .ok true => .ok none
  | .error s => .error (.data section_ (.invalidValue (.text s) "null"))
  | .ok false =>
    if !Reader.whole n then .error .broken
    else
      match n with
      | .scalar s style tag =>
        if tag.any fun t => t.startsWith "!" then
          .error (.data path
            (.refused "untagged and internally tagged enums do not support enum input"))
        else
          match Yaml.meaning s style tag with
          | .error p => .error (.data path p)
          | .ok (.integer k) => if 0 ≤ k then .ok (some k.toNat) else none_
          | .ok (.text s) =>
            match parseSize s with
            | some k => .ok (some k)
            | none => .error (.data section_ (.refused ("invalid stack size `" ++ s ++ "`")))
          | .ok (.other name) => .error (.data path (.invalidType (.other name) "any value"))
          | .ok _ => none_
      | _ => none_

def serverReader : Reader Server := Reader.struct "ServerConfig" {}
  [.of "host" Reader.text fun host s => { s with host },
   .of "port" (Reader.natural UInt16.size "u16") fun port s => { s with port := port.toUInt16 }]

def runtimeReader : Reader Runtime := Reader.struct "RuntimeSection" {}
  [.of "stack_size" sizeReader fun stackSize s => { s with stackSize }]

def isolatedReader : Reader Isolated := Reader.struct "IsolatedConfig" {}
  [.of "timeout_ms" (Reader.natural UInt64.size "u64") fun timeout s => { s with timeout },
   .of "worker_program" (Reader.optional (Reader.textAs "path string"))
     fun program s => { s with program },
   .of "worker_args" (Reader.list Reader.text) fun arguments s => { s with arguments }]

/-- Reads a configuration over the defaults. -/
def reader : Reader Config := Reader.struct "AppConfig" {}
  [.of "server" serverReader fun server c => { c with server },
   .of "runtime" runtimeReader fun runtime c => { c with runtime },
   .of "isolated" isolatedReader fun isolated c => { c with isolated },
   .of "context" (Reader.object (Reader.maxDepth - 2)) fun context c => { c with context }]

/-- The configuration in a document; an empty text is that of the defaults. -/
def ofText (text : String) : Except Yaml.Failure Config :=
  if Text.trim text = "" then .ok {} else Yaml.decode text reader

/-! ## Files -/

/-- What came of reading a file. -/
inductive File where
  | text (content : String)
  /-- The file could not be read, for a reason of the system. -/
  | unreadable (reason : String)
  deriving Repr

/-- Why there is no configuration. -/
inductive LoadError where
  | reading (path reason : String)
  | parsing (path : String) (failure : Yaml.Failure)
  deriving Repr

def LoadError.message : LoadError → String
  | .reading path _ => "reading config file " ++ path
  | .parsing path _ => "parsing config file " ++ path

/-- What the error comes from. -/
def LoadError.cause : LoadError → String
  | .reading _ reason => reason
  | .parsing _ failure => failure.message

/-- The configuration in a file. -/
def ofFile (path : String) : File → Except LoadError Config
  | .unreadable reason => .error (.reading path reason)
  | .text content =>
    match ofText content with
    | .ok c => .ok c
    | .error e => .error (.parsing path e)

/-! ## Writing -/

/-- A configuration as a structured value. -/
def toJson (c : Config) : Json :=
  .ofMembers
    [("server", .ofMembers [("host", .text c.server.host), ("port", .ofNat c.server.port.toNat)]),
     ("runtime", .ofMembers [("stack_size", (c.runtime.stackSize.map Json.ofNat).getD .null)]),
     ("isolated", .ofMembers [("timeout_ms", .ofNat c.isolated.timeout),
       ("worker_program", (c.isolated.program.map Json.text).getD .null),
       ("worker_args", .array (c.isolated.arguments.map Json.text))]),
     ("context", .object c.context)]

end Config

end RequestDispatch
