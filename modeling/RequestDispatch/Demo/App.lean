import RequestDispatch.App
import RequestDispatch.Demo.Tasks

/-!
# The demo application

One route for each thing that an application can do.
-/

set_option autoImplicit false

namespace RequestDispatch.Demo

open Handler (Args Failure Handle Program request?)

/-- The text of a parameter, empty if it has none. -/
def textOf (args : Args) (name : String) : String := (args.text? name).getD ""

/-- Parameters by name, without defaults. -/
def named (names : List String) : Route.Options := { params := names.map fun n => ⟨n, none⟩ }

/-- A page that shows the parameters. -/
def page (show_ : (String → String) → String) : Handler := fun args =>
  .pure (.html (show_ (textOf args)))

/-- Goes on if an object was asked for. -/
def requiring (args : Args) (keyword : Binding.Reserved) (message : String) : Program Unit :=
  (Program.ofOption message (args.object? keyword)).bind fun _ => .pure ()

/-- Welcomes to the site that the root names. -/
def hello : Handler := fun args => do
  requiring args .app "framework handle not bound"
  let site := match ← Program.get .root "site_name" with
    | .ok (.text s) => s
    | _ => "zealrouter"
  return .html ("<h1>Hello, " ++ textOf args "name" ++ "! Welcome to " ++ site ++ "</h1>")

/-- Shows what the unit has under a key. -/
def global : Handler := fun args => do
  requiring args .context "context not bound"
  match ← Program.get .unit (textOf args "name") with
  | .ok v => return .html v.pretty
  | .error _ => return .html "Unknown superglobal"

/-- Shows a query parameter. -/
def watch : Handler := fun args =>
  .pure (.html (((request? args).bind fun r => r.query.find? (textOf args "key")).getD ""))

/-- Reports how a path was taken apart. -/
def api : Handler := fun args => do
  if (args.object? .response).isSome then
    Program.setHeader "X-Api-Module" (textOf args "module")
  let shown (name : String) : Json := ((args.text? name).map Json.text).getD .null
  return .ofValue (.ofMembers [("module", shown "module"), ("rest", shown "rest")])

/-- Has a sub-task read a value of the unit. -/
def spawn : Handler := fun args => do
  requiring args .context "context not bound"
  Program.set .unit "visitor" (((args.text? "name").map Json.text).getD .null)
  let seen ← Program.spawn .unit fun own => do
    let value ← Program.get own "visitor"
    Program.ofContext (Context.decodeAs "visitor" Json.Reader.text value)
  match seen with
  | .ok name => return .html ("sub-task saw " ++ name)
  | .error (.error chain) => Program.fail chain
  | .error (.panic _) => Program.fail ["sub-task panicked"]

/-- Shows the body of a task. -/
def coprocess : Handler := fun args => do
  requiring args .app "framework handle not bound"
  let request ← Program.ofOption "request not bound" (request? args)
  let body ← Program.ofWorker (← Program.coprocess "greet" request)
  return .html ("<pre>" ++ Text.decodeUtf8Lossy body ++ "</pre>")

/-- The routes, the first ones first. -/
def routes : List Registration :=
  let readable : Route.Options := { methods := ["GET", "POST"] }
  [.route "/" {} (page fun _ => "<h1>Hello, Zeal!</h1>"),
   .route "/home" {} (page fun _ => "<h1>This is home override</h1>"),
   .route "/quiz/\x7bpage\x7d" (named ["page"])
     (page fun v => "<h1>This is quiz: " ++ v "page" ++ "</h1>"),
   .route "/quiz/\x7bpage\x7d/\x7btab\x7d" (named ["page", "tab"])
     (page fun v => "<h1>This is quiz: " ++ v "page" ++ " tab=" ++ v "tab" ++ "</h1>"),
   .route "/quiz/\x7bpage\x7d/\x7btab\x7d/\x7bid\x7d" (named ["page", "tab", "id"])
     (page fun v => "<h1>This is quiz: " ++ v "page" ++ " tab=" ++ v "tab" ++ " id=" ++ v "id" ++
       "</h1>"),
   .route "/hello/\x7bname\x7d" (named ["name", "self"]) hello,
   .route "/global/\x7bname\x7d" { readable with params := (named ["name", "context"]).params }
     global,
   .route "/user/\x7bid\x7d/post/\x7bpostId\x7d"
     { readable with params := (named ["id", "postId"]).params }
     (page fun v => "<h1>User " ++ v "id" ++ ", Post " ++ v "postId" ++ "</h1>"),
   .nsRoute "watch" "/get/\x7bkey\x7d" (named ["key", "request"]) watch,
   .nsPathRoute "api" "\x7bmodule\x7d/\x7brest\x7d" (named ["module", "rest", "response"]) api,
   .patternRoute "/raw/(?P<rest>.*)" (named ["rest"]) (page fun v => "You requested: " ++ v "rest"),
   .route "/greet/\x7bname\x7d" { params := [⟨"name", none⟩, ⟨"greeting", some (.text "Hello")⟩] }
     (page fun v => v "greeting" ++ ", " ++ v "name"),
   .route "/spawn/\x7bname\x7d" (named ["name", "context"]) spawn,
   .route "/coprocess" (named ["self", "request"]) coprocess,
   .route "/fail/error" {} (fun _ => Program.fail ["handler refused"]),
   .route "/fail/panic" {} (fun _ => .stop (.panic (some "handler blew up"))),
   .nsIsolatedRoute "isolated" "/created" {} "created",
   .nsIsolatedRoute "isolated" "/crash" {} "crash_silent",
   .nsIsolatedRoute "isolated" "/partial" {} "crash_partial",
   .nsIsolatedRoute "isolated" "/exit" {} "early_exit",
   .nsIsolatedRoute "isolated" "/eof" {} "echo_eof",
   .nsIsolatedRoute "isolated" "/print" {} "print_stdout",
   .nsIsolatedRoute "isolated" "/sleep/\x7bms\x7d" {} "sleep",
   .nsIsolatedRoute "isolated" "/report/\x7bname\x7d" readable "report"]

/-- The application, with what was told while its routes were registered. -/
def app (config : Config) : Except Route.RegistrationError (App × List Trace.Event) :=
  let empty : App := { config, middlewares := [.eventLog, .accessLog] }
  empty.registerAll routes

end RequestDispatch.Demo
