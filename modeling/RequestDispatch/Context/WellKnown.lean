import RequestDispatch.Context.Handle
import RequestDispatch.Request

/-!
# Well-known keys

Every request's unit is given the request and its views under fixed keys before anything else
happens. A `View` reads one of them back as typed data.
-/

set_option autoImplicit false

namespace RequestDispatch.Context

/-- The time a request was taken up, in seconds. -/
abbrev StartTime := Number.Double

/-- The well-known keys of a request with their values. -/
def wellKnown (r : Request) (start : StartTime) : List (String × Json) :=
  [("request", r.toValue), ("get", .ofTexts r.query), ("post", .object r.form),
   ("cookie", .ofTexts r.cookies), ("server", .object r.serverVars),
   ("session", .ofMembers [("UNIQUE_REQUEST_ID", .text r.id.text), ("__start_time", .real start)])]

/-- Gives a unit the well-known keys of a request. -/
def Units.populate (us : Units) (u : UnitId) (r : Request) (start : StartTime) : Units :=
  (wellKnown r start).foldl (fun us p => us.set u p.1 p.2) us

/-- Gives a unit the well-known keys of a request as they come: the request itself is typed data,
and the rest follows once that has been set. -/
def Units.tryPopulate (us : Units) (u : UnitId) (r : Request) (start : StartTime) :
    Except Fault Units :=
  match us.setAs u "request" r.data with
  | .ok us => .ok ((wellKnown r start).tail.foldl (fun us p => us.set u p.1 p.2) us)
  | .error e => .error e

/-- A request can always be given. -/
theorem Units.tryPopulate_eq (us : Units) (u : UnitId) (r : Request) (start : StartTime) :
    us.tryPopulate u r start = .ok (us.populate u r start) := by
  simp only [tryPopulate, setAs, r.toJson_data]
  rfl

/-- Reads an object with members of any kind. -/
def objectReader : Json.Reader (List (String × Json)) :=
  fun d => (Json.Reader.map Json.Reader.value d).map Dictionary.ofPairs

/-- A well-known key with the shape of its value. -/
structure View (α : Type) where
  key : String
  reader : Json.Reader α

namespace View

def request : View Request := ⟨"request", Request.reader⟩

def query : View TextMap := ⟨"get", Json.Reader.textMap⟩

def form : View (List (String × Json)) := ⟨"post", objectReader⟩

def cookies : View TextMap := ⟨"cookie", Json.Reader.textMap⟩

def server : View (List (String × Json)) := ⟨"server", objectReader⟩

def session : View (List (String × Json)) := ⟨"session", objectReader⟩

/-- Reads what was found under the key. -/
def read {α : Type} (v : View α) (found : Except Fault Json) : Except Fault α :=
  decodeAs v.key v.reader found

end View

/-- A view of the request that a unit, or one above it, was given. -/
def Store.view {α : Type} (s : Store) (u : UnitId) (v : View α) : Except Fault α :=
  s.getAs u v.key v.reader

end RequestDispatch.Context
