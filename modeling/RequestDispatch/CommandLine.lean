import RequestDispatch.Demo.App

/-!
# The command line

Two commands: `serve` with an address and a configuration file, and `routes` with a configuration
file. Either option may come from the environment instead. `Command.parse` reads a command line,
`Command.prepare` does what a command does before anything is served.
-/

set_option autoImplicit false

namespace RequestDispatch

/-- Why a command line is not carried out. -/
inductive Rejection where
  | displayHelp
  | displayHelpOnMissingArgumentOrSubcommand
  | invalidSubcommand
  | unknownArgument
  | invalidValue
  | tooManyValues
  | argumentConflict
  deriving DecidableEq, Repr

/-- A command with its options. -/
inductive Command where
  | serve (address config : Option String)
  | routes (config : Option String)
  deriving DecidableEq, Repr

namespace Command

/-- The options of commands. -/
inductive Setting where
  | address
  | config
  deriving DecidableEq, Repr

/-- The variable that stands in for an option. -/
def Setting.variable : Setting → String
  | .address => "ZEAL_ADDR"
  | .config => "ZEAL_CONFIG"

/-- Only an address may be empty. -/
def Setting.accepts : Setting → String → Bool
  | .address, _ => true
  | .config, value => value ≠ ""

/-- Options as far as they were read. -/
structure Reading where
  settings : List (Setting × String) := []
  /-- An option that was named, with its value if that has come. -/
  pending : Option (Setting × Option String) := none
  deriving Repr

namespace Reading

/-- Gives an option its value, which it may have only once. -/
def assign (r : Reading) (s : Setting) (value : String) : Except Rejection Reading :=
  if (r.settings.lookup s).isSome then .error .argumentConflict
  else if s.accepts value then .ok { settings := r.settings ++ [(s, value)] }
  else .error .invalidValue

/-- Completes the option that was named last. -/
def settle (r : Reading) : Except Rejection Reading :=
  match r.pending with
  | none => .ok r
  | some (_, none) => .error .invalidValue
  | some (s, some value) => r.assign s value

/-- Reads the name of an option, with its value if that is attached. -/
def name (r : Reading) (s : Setting) (attached : Option String) : Except Rejection Reading := do
  let r ← r.settle
  match attached with
  | some value => r.assign s value
  | none => pure { r with pending := some (s, none) }

/-- A request for help, once what stands before it is complete. -/
def help (r : Reading) : Except Rejection Reading := do
  let _ ← r.settle
  throw .displayHelp

/-- A long flag, with the value behind its `=`. -/
def long (allowed : List Setting) (r : Reading) (flag : List Char) : Except Rejection Reading :=
  let (word, rest) := flag.span (· != '=')
  let attached := match rest with
    | _ :: value => some (String.ofList value)
    | [] => none
  match String.ofList word, attached with
  | "help", none => r.help
  | "help", some _ => .error .tooManyValues
  | "addr", value => if .address ∈ allowed then r.name .address value else .error .unknownArgument
  | "config", value => r.name .config value
  | _, _ => .error .unknownArgument

/-- A short flag, with what is attached to it. -/
def short (r : Reading) : List Char → Except Rejection Reading
  | 'h' :: _ => r.help
  | ['c'] => r.name .config none
  | 'c' :: '=' :: value => r.name .config (some (String.ofList value))
  | 'c' :: value => r.name .config (some (String.ofList value))
  | _ => .error .unknownArgument

/-- An argument that is no flag: the value that an option waits for. -/
def plain (r : Reading) (value : String) : Except Rejection Reading :=
  match r.pending with
  | some (s, none) => .ok { r with pending := some (s, some value) }
  | _ => .error .unknownArgument

/-- Reads the arguments of a command. Behind `--` there may be nothing. -/
def run (allowed : List Setting) (r : Reading) : List String → Except Rejection Reading
  | [] => r.settle
  | arg :: rest =>
    match arg.toList with
    | ['-', '-'] => if rest.isEmpty then r.settle else .error .unknownArgument
    | '-' :: '-' :: flag => do run allowed (← r.long allowed flag) rest
    | '-' :: c :: flags => do run allowed (← r.short (c :: flags)) rest
    | _ => do run allowed (← r.plain arg) rest

/-- Takes what was not given from the environment. -/
def complete (r : Reading) (env : Environment) : List Setting → Except Rejection Reading
  | [] => .ok r
  | s :: rest =>
    match r.settings.lookup s, env.lookup s.variable with
    | none, some value => do complete (← r.assign s value) env rest
    | _, _ => complete r env rest

def value? (r : Reading) (s : Setting) : Option String := r.settings.lookup s

end Reading

/-- Reads the options of a command. -/
def options (env : Environment) (allowed : List Setting) (args : List String) :
    Except Rejection Reading := do
  (← Reading.run allowed {} args).complete env allowed

def commandNames : List String := ["serve", "routes", "help"]

/-- Reads a command line, without the name of the program. -/
def parse (env : Environment) : List String → Except Rejection Command
  | [] => .error .displayHelpOnMissingArgumentOrSubcommand
  | "serve" :: args => do
    let r ← options env [.address, .config] args
    pure (.serve (r.value? .address) (r.value? .config))
  | "routes" :: args => do
    let r ← options env [.config] args
    pure (.routes (r.value? .config))
  | "help" :: args =>
    match args with
    | [] => .error .displayHelp
    | [topic] => .error (if topic ∈ commandNames then .displayHelp else .invalidSubcommand)
    | _ => .error .invalidSubcommand
  | "--" :: args =>
    match args with
    | [] => .error .displayHelpOnMissingArgumentOrSubcommand
    | word :: _ => .error (if word ∈ commandNames then .unknownArgument else .invalidSubcommand)
  | arg :: _ =>
    match arg.toList with
    | '-' :: '-' :: flag =>
      if flag = "help".toList then .error .displayHelp
      else if "help=".toList.isPrefixOf flag then .error .tooManyValues
      else .error .unknownArgument
    | '-' :: 'h' :: _ => .error .displayHelp
    | '-' :: _ :: _ => .error .unknownArgument
    | _ => .error .invalidSubcommand

/-! ## Carrying commands out -/

/-- Why an address cannot be listened on. -/
inductive AddressFault where
  | noPort
  | badPort
  deriving DecidableEq, Repr

def AddressFault.message : AddressFault → String
  | .noPort => "invalid socket address"
  | .badPort => "invalid port value"

/-- A host and a port, which stands behind the last colon. -/
def readAddress (address : String) : Except AddressFault (String × UInt16) :=
  let (behind, before) := address.toList.reverse.span (· != ':')
  match before with
  | [] => .error .noPort
  | _ :: host =>
    match (Text.signedNumber? 10 behind.reverse).filter (· < UInt16.size) with
    | some port => .ok (String.ofList host.reverse, port.toUInt16)
    | none => .error .badPort

/-- Why a command failed. -/
inductive Failed where
  | config (error : Config.LoadError)
  | registering (error : Route.RegistrationError)
  | starting (fault : AddressFault)
  deriving Repr

namespace Failed

def message : Failed → String
  | .config e => e.message
  | .registering _ => "registering demo routes"
  | .starting _ => "starting the HTTP server"

/-- What the failure comes from. -/
def cause : Failed → String
  | .config e => e.cause
  | .registering e => e.message
  | .starting e => e.message

end Failed

/-- The demo application with the configuration in a file, or with the default one. -/
def load (files : String → Config.File) (config : Option String) :
    Except Failed (App × List Trace.Event) :=
  let loaded : Except Config.LoadError Config := match config with
    | none => .ok {}
    | some path => Config.ofFile path (files path)
  match loaded with
  | .error e => .error (.config e)
  | .ok config =>
    match Demo.app config with
    | .error e => .error (.registering e)
    | .ok made => .ok made

/-- What is left to do when all that can be checked has been. -/
inductive Ready where
  /-- Serve an application at an address. -/
  | serve (app : App) (host : String) (port : UInt16)
  | print (text : String)

/-- Does what a command does before anything is served. -/
def prepare (files : String → Config.File) : Command → Except Failed Ready
  | .serve address config => do
    let (app, _) ← load files config
    match readAddress (address.getD app.config.server.address) with
    | .error e => .error (.starting e)
    | .ok (host, port) => .ok (.serve app host port)
  | .routes config => do
    let (app, _) ← load files config
    pure (.print app.table.dump)

end Command

end RequestDispatch
