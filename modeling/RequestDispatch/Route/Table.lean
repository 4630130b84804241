import RequestDispatch.Binding
import RequestDispatch.Http.Method
import RequestDispatch.Route.Pattern

/-!
# The route table

Routes are tried in the order in which they were registered, and the first one that accepts the
method and matches the path answers; nothing ranks them otherwise. A refused registration leaves
the table as it was.
-/

set_option autoImplicit false

namespace RequestDispatch.Route

open Http (Method)

/-- What runs when a route matches: a handler, or a named task in a worker of its own. -/
inductive Target (η : Type) where
  | inline (handler : η)
  | isolated (task : String)
  deriving Repr

/-- A target in diagnostics. -/
def Target.describe {η : Type} : Target η → String
  | .inline _ => "Inline(<handler>)"
  | .isolated task => "Isolated(" ++ task ++ ")"

/-- How a route is to be registered. -/
structure Options where
  methods : List String := ["GET"]
  params : List Binding.Param := []
  name : Option String := none
  deriving Repr

/-- A registered route, as it stands in a table. -/
structure Entry (η : Type) where
  methods : List Method
  pattern : Pattern
  name : String
  target : Target η
  plan : Binding.Plan
  deriving Repr

/-- Method names separated by commas. -/
def joinMethods (methods : List Method) : String :=
  ",".intercalate (methods.map Method.name)

/-- Adds a method that is not there yet. -/
def addMethod (set : List Method) (m : Method) : List Method :=
  if m ∈ set then set else set ++ [m]

/-- The set of methods that names stand for, in order of first mention, or the first name that
stands for none. -/
def methodSet : (set : List Method) → List String → Except RegistrationError (List Method)
  | set, [] => .ok set
  | set, name :: rest =>
    match Method.normalize name with
    | none => .error (.invalidMethod name)
    | some m => methodSet (addMethod set m) rest

/-- The methods of a route with a pattern from `source`. -/
def methodsOf (names : List String) (source : String) : Except RegistrationError (List Method) :=
  if names = [] then .error (.noMethods source) else methodSet [] names

namespace Entry

variable {η : Type}

/-- The route of a pattern with options and a target. -/
def make (pattern : Pattern) (options : Options) (target : Target η) :
    Except RegistrationError (Entry η) :=
  match methodsOf options.methods pattern.source with
  | .error e => .error e
  | .ok methods =>
    .ok {
      methods := methods
      pattern := pattern
      name := options.name.getD (joinMethods methods ++ " " ++ pattern.source)
      target := target
      plan := .ofParams options.params pattern.paramNames }

def accepts (r : Entry η) (m : Method) : Bool := r.methods.contains m

end Entry

/-- The routes in the order in which they are tried. -/
structure Table (η : Type) where
  routes : List (Entry η) := []
  deriving Repr

/-- A route that answers, with its place in the table and what it captured. -/
structure RouteMatch (η : Type) where
  index : Nat
  route : Entry η
  params : List (String × String)
  deriving Repr

/-- What a match captured under a name; of a repeated name the last counts. -/
def RouteMatch.param? {η : Type} (m : RouteMatch η) (name : String) : Option String :=
  Binding.lookup m.params name

namespace Table

variable {η : Type}

def size (t : Table η) : Nat := t.routes.length

/-- Appends a route to a table that is kept in place. A change made before a refusal would stay. -/
def enter (pattern : Pattern) (options : Options) (target : Target η) :
    ExceptT RegistrationError (StateM (Table η)) (Entry η) := do
  let route ← ExceptT.mk (pure (Entry.make pattern options target))
  modify fun t => ⟨t.routes ++ [route]⟩
  return route

/-- Appends a route; gives the new table with the route. -/
def register (t : Table η) (pattern : Pattern) (options : Options) (target : Target η) :
    Except RegistrationError (Table η × Entry η) :=
  match (enter pattern options target).run.run t with
  | (.ok route, t) => .ok (t, route)
  | (.error e, _) => .error e

/-- The first route, from place `index` on, that accepts a method and matches a path. -/
def matchFrom (method : Method) (path : String) : (index : Nat) → List (Entry η) →
    Option (RouteMatch η)
  | _, [] => none
  | index, r :: rest =>
    if r.accepts method then
      match r.pattern.captures? path with
      | some params => some ⟨index, r, params⟩
      | none => matchFrom method path (index + 1) rest
    else matchFrom method path (index + 1) rest

/-- The route that answers a request. -/
def match? (t : Table η) (method : Method) (path : String) : Option (RouteMatch η) :=
  matchFrom method path 0 t.routes

/-- One line for the table and one for each route. -/
def dump (t : Table η) : String :=
  let line (index : Nat) (r : Entry η) : String :=
    "[route] #" ++ toString index ++ " " ++ joinMethods r.methods ++ " " ++ r.pattern.source ++
      " (" ++ r.pattern.kind.name ++ ") -> " ++ r.name ++ " " ++ r.target.describe ++ "\n"
  "[routes] count=" ++ toString t.size ++ "\n" ++
    String.join (t.routes.mapIdx fun i r => line i r)

end Table

end RequestDispatch.Route
