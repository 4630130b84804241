import RequestDispatch.Json.Value

/-!
# Binding parameters

A handler declares parameters by name. Each is bound to what the path captured under that name,
else to the object that the name is reserved for, else to its declared default, else it is
absent. `Plan.bind` works from a plan resolved once against the names that a pattern can capture,
`bind` from the declarations alone.
-/

set_option autoImplicit false

namespace RequestDispatch.Binding

/-- The objects that a handler can ask for by name. -/
inductive Reserved where
  | app
  | request
  | response
  | context
  deriving Repr, DecidableEq

namespace Reserved

/-- The object that a name is reserved for. -/
def ofName? (name : String) : Option Reserved :=
  if name = "app" then some .app
  else if name = "self" then some .app
  else if name = "request" then some .request
  else if name = "response" then some .response
  else if name = "context" then some .context
  else none

def label : Reserved → String
  | .app => "App"
  | .request => "Request"
  | .response => "Response"
  | .context => "Context"

end Reserved

/-- A declared parameter. -/
structure Param where
  name : String
  default : Option Json := none
  deriving Repr, Inhabited

/-- A bound argument; `α` is the type of the objects on offer. -/
inductive Arg (α : Type) where
  | captured (text : String)
  | object (keyword : Reserved) (value : α)
  | default (value : Json)
  | absent
  deriving Repr

namespace Arg

variable {α : Type}

/-- The text of a captured value or of a default that is a text. -/
def text? : Arg α → Option String
  | .captured s => some s
  | .default (.text s) => some s
  | _ => none

/-- A captured value or a default as a structured value. -/
def value? : Arg α → Option Json
  | .captured s => some (.text s)
  | .default v => some v
  | _ => none

def isAbsent : Arg α → Bool
  | .absent => true
  | _ => false

/-- The object that an argument is, if it is the one of a keyword. -/
def object? (keyword : Reserved) : Arg α → Option α
  | .object k x => if k = keyword then some x else none
  | _ => none

end Arg

/-- Arguments with the names they were declared under, in order. -/
structure Args (α : Type) where
  entries : List (String × Arg α)
  deriving Repr

namespace Args

variable {α : Type}

def size (a : Args α) : Nat := a.entries.length

/-- The argument at a place. -/
def get? (a : Args α) (i : Nat) : Option (Arg α) := a.entries[i]?.map Prod.snd

/-- The first argument declared under a name. -/
def named? (a : Args α) (name : String) : Option (Arg α) := a.entries.lookup name

/-- The text of the first argument declared under a name. -/
def text? (a : Args α) (name : String) : Option String := (a.named? name).bind Arg.text?

/-- The first object of a keyword among the arguments. -/
def object? (a : Args α) (keyword : Reserved) : Option α :=
  a.entries.findSome? fun e => e.2.object? keyword

end Args

/-- What was captured under a name; of a repeated name the last counts. -/
def lookup (captures : List (String × String)) (name : String) : Option String :=
  captures.reverse.lookup name

/-- The argument of a parameter from what was captured under its name. -/
def resolve {α : Type} (objects : Reserved → α) (captured : Option String)
    (keyword : Option Reserved) (default : Option Json) : Arg α :=
  match captured, keyword, default with
  | some s, _, _ => .captured s
  | none, some k, _ => .object k (objects k)
  | none, none, some v => .default v
  | none, none, none => .absent

/-- Binds declared parameters to captured values and objects. -/
def bind {α : Type} (params : List Param) (captures : List (String × String))
    (objects : Reserved → α) : Args α :=
  ⟨params.map fun p =>
    (p.name, resolve objects (lookup captures p.name) (Reserved.ofName? p.name) p.default)⟩

/-- A parameter resolved against the names that a pattern can capture. -/
structure Slot where
  param : Param
  capturable : Bool
  reserved : Option Reserved
  deriving Repr

/-- The parameters of a route, resolved once. -/
structure Plan where
  slots : List Slot
  deriving Repr

namespace Plan

/-- Resolves parameters against names that can be captured. -/
def ofParams (params : List Param) (placeholders : List String) : Plan :=
  ⟨params.map fun p => ⟨p, placeholders.contains p.name, Reserved.ofName? p.name⟩⟩

def names (p : Plan) : List String := p.slots.map fun s => s.param.name

/-- Binds one request's captures and objects. -/
def bind {α : Type} (p : Plan) (captures : List (String × String)) (objects : Reserved → α) :
    Args α :=
  ⟨p.slots.map fun s =>
    (s.param.name, resolve objects
      (if s.capturable then lookup captures s.param.name else none) s.reserved s.param.default)⟩

end Plan

end RequestDispatch.Binding
