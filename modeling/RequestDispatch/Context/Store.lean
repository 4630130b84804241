import RequestDispatch.Json.Typed
import RequestDispatch.Trace

/-!
# The store of execution units

Units form a tree of scopes under a root. A unit has values of its own; a look-up goes to its
parent, and on up, until a unit has the key. Ids are given out in ascending order and never again.
A released unit is gone, and a look-up ends where it meets one.

Ids are numbers without a bound, while the counter of a running store has 64 bits and wraps around.
What holds of the ids here holds of such a store as long as it creates fewer than `2 ^ 64` units.
-/

set_option autoImplicit false

namespace RequestDispatch.Context

/-- The number of an execution unit, which stands for a counter below `2 ^ 64`. -/
structure UnitId where
  number : Nat
  deriving DecidableEq, Repr, Inhabited

/-- The root of all units. -/
def UnitId.root : UnitId := ⟨0⟩

def UnitId.text (u : UnitId) : String := "#" ++ toString u.number

/-- What a unit holds. -/
structure Node where
  parent : Option UnitId
  values : List (String × Json) := []
  deriving Repr

/-- Why the store has no answer. -/
inductive Fault where
  /-- Neither the unit nor any unit above it has the key. -/
  | keyNotFound (key : String)
  /-- The unit was never created, or it was released. -/
  | unknownUnit (unit : UnitId)
  /-- Data for the key cannot be written as a structured value. -/
  | encode (key reason : String)
  /-- The value of the key is not of the shape that was asked for. -/
  | decode (key : String) (problem : Json.Problem)
  deriving Repr

namespace Fault

def message : Fault → String
  | .keyNotFound key => "context key `" ++ key ++ "` not found in unit or any ancestor"
  | .unknownUnit u => "execution unit " ++ u.text ++ " does not exist"
  | .encode key _ => "context key `" ++ key ++ "` could not be encoded"
  | .decode key _ => "context key `" ++ key ++ "` holds a value of another shape"

/-- What the fault comes from, if it has a cause of its own. -/
def cause? : Fault → Option String
  | .encode _ reason => some reason
  | .decode _ problem => some problem.message
  | _ => none

/-- The fault and its cause. -/
def chain (f : Fault) : List String := f.message :: f.cause?.toList

end Fault

/-- Reads what was found under a key as typed data. -/
def decodeAs {α : Type} (key : String) (reader : Json.Reader α) :
    Except Fault Json → Except Fault α
  | .error e => .error e
  | .ok v =>
    match v.decode reader with
    | .ok x => .ok x
    | .error p => .error (.decode key p)

/-- Live units with what they hold, the newest last. -/
structure Store where
  nodes : List (UnitId × Node) := [(.root, ⟨none, []⟩)]
  /-- The number of the next unit. -/
  next : Nat := 1
  deriving Repr

namespace Store

/-- What a live unit holds. -/
def node? (s : Store) (u : UnitId) : Option Node := s.nodes.lookup u

def contains (s : Store) (u : UnitId) : Bool := (s.node? u).isSome

/-- The number of live units. -/
def size (s : Store) : Nat := s.nodes.length

/-- The unit above a live unit. -/
def parent? (s : Store) (u : UnitId) : Option UnitId := (s.node? u).bind Node.parent

/-- Creates a unit below another one, or below the root. The parent need not be live. -/
def newUnit (s : Store) (parent : Option UnitId) : UnitId × Store :=
  let u : UnitId := ⟨s.next⟩
  (u, { nodes := s.nodes ++ [(u, ⟨some (parent.getD .root), []⟩)], next := s.next + 1 })

/-- Sets a value of a unit's own. -/
def set (s : Store) (u : UnitId) (key : String) (value : Json) : Except Fault Store :=
  if s.contains u then
    .ok { s with nodes := s.nodes.map fun p =>
      if p.1 = u then (p.1, { p.2 with values := Dictionary.put key value p.2.values }) else p }
  else .error (.unknownUnit u)

/-- At most `n` live units, from a unit upward, up to the first that is not live. -/
def chainFrom (s : Store) : (n : Nat) → UnitId → List UnitId
  | 0, _ => []
  | n + 1, u =>
    match s.node? u with
    | none => []
    | some node =>
      u :: match node.parent with
        | none => []
        | some p => chainFrom s n p

/-- The live units from a unit upward, up to the first that is not live. -/
def chain (s : Store) (u : UnitId) : List UnitId := s.chainFrom s.nodes.length u

/-- A value of a unit's own. -/
def own? (s : Store) (key : String) (u : UnitId) : Option Json :=
  (s.node? u).bind fun node => Dictionary.find? key node.values

/-- The value of a key at a live unit, or at the nearest unit above it. -/
def get (s : Store) (u : UnitId) (key : String) : Except Fault Json :=
  if s.contains u then
    match (s.chain u).findSome? (s.own? key) with
    | some v => .ok v
    | none => .error (.keyNotFound key)
  else .error (.unknownUnit u)

/-- The value of a key, or a default where there is none. -/
def getD (s : Store) (u : UnitId) (key : String) (default : Json) : Json :=
  match s.get u key with
  | .ok v => v
  | .error _ => default

/-- The value of a key as typed data. -/
def getAs {α : Type} (s : Store) (u : UnitId) (key : String) (reader : Json.Reader α) :
    Except Fault α := decodeAs key reader (s.get u key)

/-- Takes a unit and its values away, and says whether it was there. The root stays. -/
def release (s : Store) (u : UnitId) : Bool × Store :=
  if u = .root then (false, s)
  else (s.contains u, { s with nodes := s.nodes.filter fun p => p.1 ≠ u })

end Store

/-! ## Events -/

def created (u parent : UnitId) : Trace.Event :=
  .debug "Execution unit created" [("unit", .text u.text), ("parent", .text parent.text)]

def released (u : UnitId) : Trace.Event :=
  .debug "Execution unit released" [("unit", .text u.text)]

def spawning (u parent : UnitId) (stackSize : Nat) : Trace.Event :=
  .debug "Spawning sub-task" [("parent", .text parent.text), ("unit", .text u.text),
    ("stack_size", .ofNat stackSize)]

end RequestDispatch.Context
