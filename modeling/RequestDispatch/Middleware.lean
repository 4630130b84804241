import RequestDispatch.AccessLog
import RequestDispatch.Handler.Program
import RequestDispatch.Route.Table

/-!
# Middlewares

Hooks before and after every request, whether or not a route matched. A hook before may answer in
place of the handler; a hook after may change the response. Hooks in general are programs; those of
a `Middleware` take no steps.
-/

set_option autoImplicit false

namespace RequestDispatch

open Trace (Event)

/-- The time at which a request is answered. -/
structure Moment where
  start : Context.StartTime
  clock : AccessLog.Time

/-- What hooks are told of a request. -/
structure Visit where
  request : Request
  /-- The route that matched. -/
  route : Option (Route.RouteMatch Handler)
  moment : Moment

/-- The name of the route's handler, if a route matched. -/
def Visit.handlerName (v : Visit) (default : String) : String :=
  (v.route.map fun m => m.route.name).getD default

/-- A pair of hooks that may use units. -/
structure Hooks where
  before : Visit → Handler.Program (List Event × Option Response)
  after : Visit → Response → Handler.Program (List Event × Response)

/-- A pair of hooks that do without. -/
structure Middleware where
  before : Visit → List Event × Option Response := fun _ => ([], none)
  after : Visit → Response → List Event × Response := fun _ r => ([], r)

namespace Middleware

def hooks (m : Middleware) : Hooks where
  before v := .pure (m.before v)
  after v r := .pure (m.after v r)

/-- What identifies a request in events. -/
def requestFields (v : Visit) : List (String × Json) :=
  [("request_id", .text v.request.id.text), ("method", .text v.request.method),
   ("path", .text v.request.path), ("handler", .text (v.handlerName "-"))]

/-- Tells when a request comes in and when it has been answered. -/
def eventLog : Middleware where
  before v := ([.info "Request received" (requestFields v)], none)
  after v r :=
    ([{ Event.info "Request complete" [("status", .ofNat r.status.toNat),
        ("body_bytes", .ofNat r.body.length)] with span := some ⟨"request", requestFields v⟩ }], r)

/-- Writes an access line for each answered request. -/
def accessLog : Middleware where
  after v r :=
    ([{ Event.info (AccessLog.line v.request r v.moment.clock.text) [] with target := .access }], r)

end Middleware

end RequestDispatch
