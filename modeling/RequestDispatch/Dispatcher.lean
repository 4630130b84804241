import RequestDispatch.Config
import RequestDispatch.Handler.Run
import RequestDispatch.Middleware

/-!
# Dispatching requests

`Dispatcher.dispatch` takes a request to its response: a unit of its own below the root, the
well-known keys, the first matching route, every hook before, the handler unless a hook answered,
every hook after. Nothing that goes wrong in a handler gets past it: an error, a panic and a failed
worker are responses with status 500. `Dispatcher.dispatchWith` does the same with hooks that may use
units, and may panic.
-/

set_option autoImplicit false

namespace RequestDispatch

open Context (UnitId Units)
open Handler (Failure Object Scene Surroundings)
open Route (RouteMatch)
open Trace (Event)

/-- Turns requests into responses. -/
structure Dispatcher where
  config : Config
  table : Route.Table Handler
  middlewares : List Middleware
  surroundings : Surroundings

namespace Dispatcher

/-- What was called while a request was answered. -/
inductive Call where
  /-- The hook before of the middleware at a place. -/
  | before (index : Nat)
  /-- The target of the route that matched. -/
  | target
  /-- The hook after of the middleware at a place, with the response it was given. -/
  | after (index : Nat) (response : Response)
  deriving Repr

/-- How a request was answered. -/
structure Answered where
  response : Response
  calls : List Call
  events : List Event
  deriving Repr

/-- How far a request came. -/
structure Course where
  /-- The response, unless a hook panicked. -/
  response : Except Failure Response
  calls : List Call
  events : List Event

/-! ## Routing -/

/-- The route that answers a request; a method that is no token is tried against none. -/
def route (d : Dispatcher) (r : Request) : List Event × Option (RouteMatch Handler) :=
  match r.method? with
  | none => ([], none)
  | some method =>
    let line := [("method", Json.text method.name), ("path", .text r.path)]
    let attempt := Event.debug "Route match attempt" line
    match d.table.match? method r.path with
    | some m => ([attempt, .info "Route matched"
        (line ++ [("handler_name", .text m.route.name), ("priority", .ofNat m.index)])], some m)
    | none => ([attempt, .warn "No route matched"
        (line ++ [("routes_scanned", .ofNat d.table.size)])], none)

/-! ## Hooks -/

/-- What is told of an answer that a hook before gives, if it is the first one. -/
def taken (v : Visit) (index : Nat) (early answer : Option Response) : List Event :=
  if early.isNone && answer.isSome then
    [.debug "Middleware returned early response"
      [("request_id", .text v.request.id.text), ("middleware_idx", .ofNat index)]]
  else []

/-- Calls every hook before, from the one at place `index` on. The first answer counts; the hooks
after it are called all the same. A panic ends it all. -/
def callBefore (s : Surroundings) (v : Visit) : (index : Nat) → Option Response → List Hooks →
    Units → List Event × List Call × Except Failure (Option Response) × Units
  | _, early, [], us => ([], [], .ok early, us)
  | index, early, h :: rest, us =>
    match (h.before v).runBeside s us with
    | (.error e, events, us) => (events, [.before index], .error e, us)
    | (.ok (told, answer), events, us) =>
      let (more, calls, result, us) :=
        callBefore s v (index + 1) (early <|> answer) rest us
      (events ++ told ++ taken v index early answer ++ more, .before index :: calls, result, us)

/-- Calls every hook after, each with the response that the one before it left. -/
def callAfter (s : Surroundings) (v : Visit) : (index : Nat) → Response → List Hooks → Units →
    List Event × List Call × Except Failure Response × Units
  | _, r, [], us => ([], [], .ok r, us)
  | index, r, h :: rest, us =>
    match (h.after v r).runBeside s us with
    | (.error e, events, us) => (events, [.after index r], .error e, us)
    | (.ok (told, changed), events, us) =>
      let (more, calls, result, us) := callAfter s v (index + 1) changed rest us
      (events ++ told ++ more, .after index r :: calls, result, us)

/-- What `callBefore` does with hooks that take no steps. -/
def before (v : Visit) : (index : Nat) → Option Response → List Middleware →
    List Event × List Call × Option Response
  | _, early, [] => ([], [], early)
  | index, early, m :: rest =>
    let (events, answer) := m.before v
    let (more, calls, last) := before v (index + 1) (early <|> answer) rest
    (events ++ taken v index early answer ++ more, .before index :: calls, last)

/-- What `callAfter` does with hooks that take no steps. -/
def after (v : Visit) : (index : Nat) → Response → List Middleware →
    List Event × List Call × Response
  | _, r, [] => ([], [], r)
  | index, r, m :: rest =>
    let (events, changed) := m.after v r
    let (more, calls, last) := after v (index + 1) changed rest
    (events ++ more, .after index r :: calls, last)

theorem callBefore_hooks (s : Surroundings) (v : Visit) (index : Nat) (early : Option Response)
    (ms : List Middleware) (us : Units) :
    callBefore s v index early (ms.map Middleware.hooks) us =
      ((before v index early ms).1, (before v index early ms).2.1,
        .ok (before v index early ms).2.2, us) := by
  induction ms generalizing index early with
  | nil => rfl
  | cons m ms ih =>
    have hfirst := Handler.Program.runBeside_pure s (m.before v) us
    rw [List.map_cons, callBefore, Middleware.hooks, hfirst]
    simp only [ih, List.nil_append]
    rfl

theorem callAfter_hooks (s : Surroundings) (v : Visit) (index : Nat) (r : Response)
    (ms : List Middleware) (us : Units) :
    callAfter s v index r (ms.map Middleware.hooks) us =
      ((after v index r ms).1, (after v index r ms).2.1, .ok (after v index r ms).2.2, us) := by
  induction ms generalizing index r with
  | nil => rfl
  | cons m ms ih =>
    have hfirst := Handler.Program.runBeside_pure s (m.after v r) us
    rw [List.map_cons, callAfter, Middleware.hooks, hfirst]
    simp only [ih, List.nil_append]
    rfl

/-! ## Targets -/

/-- The response of a handler that came to its end. -/
def respond (sink : Sink) : Except Failure Reply → Response
  | .ok reply => .ofReply reply sink
  | .error (.error chain) => .error 500 chain.message
  | .error (.panic text) => .error 500 ("Handler panicked: " ++ text.getD "task panicked")

/-- What is told of a handler that came to its end. -/
def handled (fields : List (String × Json)) (status : UInt16) : Except Failure Reply → Event
  | .ok _ => .info "Handler execution complete" (fields ++ [("status", .ofNat status.toNat)])
  | .error (.error chain) =>
    .error "Handler returned an error" (fields ++ [("error", .text chain.message)])
  | .error (.panic text) =>
    .error "Handler panicked - CRITICAL"
      (fields ++ [("panic_message", .text (text.getD "task panicked"))])

/-- An envelope's error in diagnostics. -/
def describeError : Option String → String
  | none => "None"
  | some e => "Some(" ++ Text.quoted e ++ ")"

/-- Runs a handler with its bound parameters. -/
def runHandler (d : Dispatcher) (m : RouteMatch Handler) (handler : Handler) (r : Request)
    (unit : UnitId) (us : Units) (fields : List (String × Json)) : Response × List Event × Units :=
  let args := m.route.plan.bind m.params (Object.ofKeyword r)
  let (result, scene) := (handler args).run d.surroundings (.start us unit)
  let scene := scene.finish
  let response := respond scene.sink result
  (response, scene.events ++ [handled fields response.status result], scene.units)

/-- Runs a task in a worker. -/
def runTask (d : Dispatcher) (m : RouteMatch Handler) (task : String) (r : Request)
    (fields : List (String × Json)) : Response × List Event :=
  match d.surroundings.executor.run ⟨task, r, m.params⟩ {} with
  | (events, .ok (outcome, sink)) =>
    let e := outcome.answer.envelope
    let faulted := if e.faulted then
        [Event.warn "Isolated task faulted" (fields ++ [("error", .text (describeError e.error)),
          ("status", .ofNat e.status.toNat)])]
      else []
    let response := (Response.make 200 Reply.htmlType outcome.answer.body.toBytes).applySink sink
    (response, events ++ faulted ++ [.info "Handler execution complete"
      (fields ++ [("status", .ofNat response.status.toNat)])])
  | (events, .error e) =>
    (.error 500 e.message, events ++ [.error "Isolated execution failed"
      (fields ++ [("task", .text task), ("error", .text e.message)])])

/-- Runs the target of a route. -/
def invoke (d : Dispatcher) (m : RouteMatch Handler) (r : Request) (unit : UnitId) (us : Units) :
    Response × List Event × Units :=
  let fields := [("request_id", Json.text r.id.text), ("handler_name", .text m.route.name)]
  let started := Event.info "Request dispatched to handler"
    (fields ++ [("method", .text r.method), ("path", .text r.path)])
  match m.route.target with
  | .inline handler =>
    let (response, events, us) := d.runHandler m handler r unit us fields
    (response, started :: events, us)
  | .isolated task =>
    let (response, events) := d.runTask m task r fields
    (response, started :: events, us)

/-- The response to what no hook has answered. -/
def target (d : Dispatcher) (m : Option (RouteMatch Handler)) (r : Request) (unit : UnitId)
    (us : Units) : Response × List Call × List Event × Units :=
  match m with
  | some m =>
    let (response, events, us) := d.invoke m r unit us
    (response, [.target], events, us)
  | none =>
    (.notFound, [], [.info "No route, responding 404" [("request_id", .text r.id.text),
      ("method", .text r.method), ("path", .text r.path)]], us)

/-- The response before the hooks after change it. -/
def settle (d : Dispatcher) (early : Option Response) (m : Option (RouteMatch Handler))
    (r : Request) (unit : UnitId) (us : Units) : Response × List Call × List Event × Units :=
  match early with
  | some response => (response, [], [], us)
  | none => d.target m r unit us

/-! ## Requests -/

/-- Takes a request whose unit has been populated to its response. -/
def answer (d : Dispatcher) (hooks : List Hooks) (r : Request) (unit : UnitId) (us : Units)
    (now : Moment) : Course × Units :=
  let (routing, m) := d.route r
  let visit : Visit := ⟨r, m, now⟩
  let counted := Event.debug "Middleware before execution" [("request_id", .text r.id.text),
    ("middleware_count", .ofNat hooks.length)]
  match callBefore d.surroundings visit 0 none hooks us with
  | (told, called, .error e, us) => (⟨.error e, called, routing ++ counted :: told⟩, us)
  | (told, called, .ok early, us) =>
    let (response, ran, did, us) := d.settle early m r unit us
    let (more, calledAfter, result, us) := callAfter d.surroundings visit 0 response hooks us
    (⟨result, called ++ ran ++ calledAfter, routing ++ counted :: told ++ did ++ more⟩, us)

/-- Answers a request with any hooks. -/
def dispatchWith (d : Dispatcher) (hooks : List Hooks) (us : Units) (r : Request) (now : Moment) :
    Course × Units :=
  let (unit, us) := us.child .root
  let (course, us) := match us.tryPopulate unit r now.start with
    | .ok us => d.answer hooks r unit us now
    | .error e => (⟨.ok (.error 500 e.message), [], [.error "Context population failed"
        [("request_id", .text r.id.text), ("error", .text e.message)]]⟩, us)
  let (us, gone) := us.drop unit
  ({ course with events :=
    Context.created unit .root :: course.events ++ gone.map Context.released }, us)

/-- Hooks that take no steps do not panic, so there is a response. -/
theorem responds (d : Dispatcher) (us : Units) (r : Request) (now : Moment) :
    (d.dispatchWith (d.middlewares.map Middleware.hooks) us r now).1.response.toOption.isSome := by
  simp only [dispatchWith, Units.tryPopulate_eq, answer, callBefore_hooks, callAfter_hooks]
  rfl

/-- Answers a request. -/
def dispatch (d : Dispatcher) (us : Units) (r : Request) (now : Moment) : Answered × Units :=
  let ran := d.dispatchWith (d.middlewares.map Middleware.hooks) us r now
  (⟨ran.1.response.toOption.get (d.responds us r now), ran.1.calls, ran.1.events⟩, ran.2)

/-! ## Diagnostics -/

/-- A dispatcher in words. -/
def describe (d : Dispatcher) : String :=
  "Dispatcher \x7b routes: " ++ toString d.table.size ++ ", middlewares: " ++
    toString d.middlewares.length ++ " \x7d"

/-- The application that a dispatcher serves, in words. -/
def describeApp (d : Dispatcher) (us : Units) : String :=
  "AppHandle \x7b server: " ++ Text.quoted d.config.server.address ++ ", units: " ++
    toString us.store.size ++ ", worker: " ++
    Text.quoted d.surroundings.executor.program.path ++ " \x7d"

end Dispatcher

end RequestDispatch
