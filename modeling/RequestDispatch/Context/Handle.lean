import RequestDispatch.Context.Store
import RequestDispatch.Json.Data

/-!
# Handles to execution units

A unit that was created through a handle lives as long as some handle refers to it or to a unit
below it: a child holds its parent. `Units.drop` gives one handle up and releases what nothing
holds any more, from the unit upward. All handles to a unit are alike, so a handle is the id of
its unit, and an `Owner` counts them.
-/

set_option autoImplicit false

namespace RequestDispatch.Context

/-- A unit that handles hold, with how many do. -/
structure Owner where
  unit : UnitId
  parent : UnitId
  handles : Nat
  deriving Repr, DecidableEq

/-- A store with the handles to its units. Handles to the root are not counted. -/
structure Units where
  store : Store := {}
  owners : List Owner := []
  deriving Repr

namespace Units

/-- Creates a unit below one that is held, with one handle to it. -/
def child (us : Units) (parent : UnitId) : UnitId × Units :=
  let (u, store) := us.store.newUnit (some parent)
  (u, ⟨store, us.owners ++ [⟨u, parent, 1⟩]⟩)

/-- The unit that a handle's unit holds as its parent. -/
def parent? (us : Units) (u : UnitId) : Option UnitId :=
  (us.owners.find? fun o => o.unit = u).map Owner.parent

/-- One more handle to a unit. -/
def clone (us : Units) (u : UnitId) : Units :=
  { us with owners := us.owners.map fun o =>
      if o.unit = u then { o with handles := o.handles + 1 } else o }

/-- Nothing holds a unit: neither a handle nor a unit below it. -/
def isFree (us : Units) (o : Owner) : Bool :=
  o.handles = 0 && us.owners.all fun c => c.parent ≠ o.unit

/-- Releases a unit that nothing holds, then its parent if nothing holds that any more, and so on
for at most `n` units. The ids are those of the units that were live. -/
def settle : (n : Nat) → UnitId → Units → Units × List UnitId
  | 0, _, us => (us, [])
  | n + 1, u, us =>
    match us.owners.find? fun o => o.unit = u with
    | none => (us, [])
    | some o =>
      if us.isFree o then
        let (live, store) := us.store.release u
        let (us, above) := settle n o.parent ⟨store, us.owners.filter fun o => o.unit ≠ u⟩
        (us, if live then u :: above else above)
      else (us, [])

/-- One handle less to a unit; gives the units that were released, in order. -/
def drop (us : Units) (u : UnitId) : Units × List UnitId :=
  settle us.owners.length u { us with owners := us.owners.map fun o =>
    if o.unit = u then { o with handles := o.handles - 1 } else o }

/-- Sets a value of a unit's own. A held unit is live, so nothing is lost. -/
def set (us : Units) (u : UnitId) (key : String) (value : Json) : Units :=
  match us.store.set u key value with
  | .ok store => { us with store }
  | .error _ => us

/-- Sets a value of a unit's own to typed data, if the data can be a value. -/
def setAs (us : Units) (u : UnitId) (key : String) (data : Json.Data) : Except Fault Units :=
  match data.toJson with
  | .ok value => .ok (us.set u key value)
  | .error reason => .error (.encode key reason)

end Units

/-- A handle in diagnostics. -/
def Units.describe (us : Units) (u : UnitId) : String :=
  let id (u : UnitId) := "UnitId(" ++ toString u.number ++ ")"
  let parent := match us.parent? u with
    | some p => "Some(" ++ id p ++ ")"
    | none => "None"
  "Unit \x7b id: " ++ id u ++ ", parent: " ++ parent ++ " \x7d"

end RequestDispatch.Context
