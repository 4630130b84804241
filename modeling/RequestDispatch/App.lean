import RequestDispatch.Dispatcher
import RequestDispatch.Route.Template

/-!
# Applications

An application is made by registering routes, the first ones first, and middlewares; `App.build`
makes it a dispatcher, whose routes never change again.
-/

set_option autoImplicit false

namespace RequestDispatch

open Context (UnitId Units)
open Route (PatternKind RegistrationError)
open Trace (Event)

/-- What the machine that an application runs on has to offer. -/
structure Host where
  /-- The program at a path, or the running one, with arguments. -/
  program : Option String → List String → Worker.Program
  environment : Environment := []

/-- A route that is to be registered. -/
structure Registration where
  kind : PatternKind := .template
  source : String
  options : Route.Options := {}
  target : Route.Target Handler

namespace Registration

/-- A handler for a template such as `/quiz/{page}`. -/
def route (template : String) (options : Route.Options) (h : Handler) : Registration where
  source := template
  options := options
  target := .inline h

/-- A handler for a template under a namespace. -/
def nsRoute (ns template : String) (options : Route.Options) (h : Handler) : Registration :=
  route (Route.joinNamespace ns template) options h

/-- The same where the last placeholder takes the rest of the path. -/
def nsPathRoute (ns template : String) (options : Route.Options) (h : Handler) : Registration :=
  { nsRoute ns template options h with kind := .catchAll }

/-- A handler for a raw expression, whose named groups are the captures. -/
def patternRoute (expression : String) (options : Route.Options) (h : Handler) : Registration :=
  { route expression options h with kind := .raw }

/-- A task for a template. -/
def isolatedRoute (template : String) (options : Route.Options) (task : String) : Registration where
  source := template
  options := options
  target := .isolated task

/-- A task for a template under a namespace. -/
def nsIsolatedRoute (ns template : String) (options : Route.Options) (task : String) :
    Registration :=
  isolatedRoute (Route.joinNamespace ns template) options task

end Registration

/-- An application that routes are registered with. -/
structure App where
  config : Config
  table : Route.Table Handler := {}
  middlewares : List Middleware := []
  /-- The executor to use in place of the configured one. -/
  executor : Option Worker.Executor := none

namespace App

/-- Adds a middleware after those that are there. -/
def middleware (a : App) (m : Middleware) : App := { a with middlewares := a.middlewares ++ [m] }

/-- Adds a route after those that are there. -/
def register (a : App) (r : Registration) : Except RegistrationError (App × Event) :=
  match Route.Pattern.ofKind r.kind r.source with
  | .error e => .error e
  | .ok pattern =>
    match a.table.register pattern r.options r.target with
    | .error e => .error e
    | .ok (table, route) =>
      .ok ({ a with table }, .info "Route registered"
        [("handler_name", .text route.name), ("pattern", .text pattern.source),
         ("kind", .text pattern.kind.name), ("priority", .ofNat a.table.size),
         ("declared_params", .text (Text.bracketed (route.plan.names.map Text.quoted)))])

/-- Adds routes in order, up to the first that is refused. -/
def registerAll (a : App) : List Registration → Except RegistrationError (App × List Event)
  | [] => .ok (a, [])
  | r :: rest =>
    match a.register r with
    | .error e => .error e
    | .ok (a, event) =>
      match a.registerAll rest with
      | .error e => .error e
      | .ok (a, events) => .ok (a, event :: events)

/-- The executor of a configuration. -/
def configured (c : Config.Isolated) (host : Host) : Worker.Executor :=
  ⟨host.program c.program c.arguments, c.timeout⟩

/-- The root unit with the values it begins with. -/
def firstUnits (c : Config) : Units :=
  c.context.foldl (fun us p => us.set .root p.1 p.2) {}

/-- Makes the dispatcher and its units. -/
def build (a : App) (host : Host) : Dispatcher × Units × Event :=
  ({ config := a.config
     table := a.table
     middlewares := a.middlewares
     surroundings := ⟨a.executor.getD (configured a.config.isolated host),
       a.config.stackSize host.environment⟩ },
   firstUnits a.config,
   .info "Application built" [("routes", .ofNat a.table.size),
     ("middlewares", .ofNat a.middlewares.length), ("root_keys", .ofNat a.config.context.length)])

/-- An application in words. -/
def describe (a : App) : String :=
  "App \x7b routes: " ++ toString a.table.size ++ ", middlewares: " ++
    toString a.middlewares.length ++ " \x7d"

end App

end RequestDispatch
