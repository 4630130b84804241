import RequestDispatch.CommandLine
import RequestDispatch.Log.Settings

/-!
# The program

Started as a worker it serves one call; else it carries out its command line. It has no sockets: a
server whose address is in order is refused like one that the system does not allow.
-/

set_option autoImplicit false

namespace RequestDispatch.Shell

/-- The variables that have a meaning. -/
def variableNames : List String :=
  ["ZEAL_ADDR", "ZEAL_CONFIG", "ZEAL_STACK_SIZE", "ZEAL_LOG_LEVEL", "ZEAL_LOG_FORMAT",
   "ZEAL_LOG_ASYNC", "ZEAL_LOG_TARGET_FILTER", "ZEAL_LOG_INCLUDE_LOCATION", "RUST_LOG"]

def environment : IO Environment :=
  variableNames.filterMapM fun name => do
    return (← IO.getEnv name).map fun value => (name, value)

/-- Reads a stream to its end. -/
partial def readAll (input : IO.FS.Stream) (acc : List UInt8) : IO (List UInt8) := do
  let chunk ← input.read 65536
  if chunk.isEmpty then return acc else readAll input (acc ++ chunk.toList)

def readConfig (path : String) : IO Config.File := do
  try return .text (← IO.FS.readFile path)
  catch e => return .unreadable (toString e)

/-- Serves one call from the standard input. -/
def runWorker : IO UInt32 := do
  let input ← readAll (← IO.getStdin) []
  let ran := Demo.tasks.run 0 true (.ofBytes input)
  IO.sleep ran.output.slept.toUInt32
  let (out, written) := ran.answer.write {}
  (← IO.getStdout).write ⟨out.written.toArray⟩
  (← IO.getStdout).flush
  return if written.isOk then ran.exitCode.toUInt32 else 1

def usage : String :=
  "demo server\n\nUsage: COMMAND [OPTIONS]\n\nCommands:\n  serve   Serve the demo routes\n" ++
    "  routes  Print the route table in match-priority order\n" ++
    "  help    Print this message or the help of the given subcommand(s)\n"

/-- Tells why a command line is not carried out. -/
def reject (r : Rejection) : IO UInt32 := do
  if r = .displayHelp then
    IO.print usage
    return 0
  IO.eprint ("error: the arguments cannot be carried out\n\n" ++ usage)
  return 2

def fail (message cause : String) : IO UInt32 := do
  IO.eprintln ("Error: " ++ message ++ "\n\nCaused by:\n    " ++ cause)
  return 1

def runCommand (env : Environment) (c : Command) : IO UInt32 := do
  let path? := match c with
    | .serve _ config => config
    | .routes config => config
  let file ← match path? with
    | some path => readConfig path
    | none => pure (.text "")
  if let .serve _ _ := c then
    for warning in (Log.install none (.ofEnvironment env) env).1 do
      IO.eprintln warning
  match c.prepare fun _ => file with
  | .error e => fail e.message e.cause
  | .ok (.print text) =>
    IO.print text
    return 0
  | .ok (.serve _ _ _) => fail "starting the HTTP server" "Operation not supported (os error 95)"

end RequestDispatch.Shell

open RequestDispatch Shell in
/-- Serves a call or carries out a command. -/
def main (args : List String) : IO UInt32 := do
  if (← IO.getEnv "ZEAL_ISOLATED_WORKER") == some "1" then runWorker
  else
    let env ← environment
    match Command.parse env args with
    | .error r => reject r
    | .ok c => runCommand env c
