import RequestDispatch.Handler.Program

/-!
# Running handlers

The meaning of a handler's steps, and of those of a hook. A run has a table of the handles it was
given or has opened; whatever is left in it when the run is over is given up, however the run ended.
-/

set_option autoImplicit false

namespace RequestDispatch.Handler

open Context (UnitId Units)
open Trace (Event)

/-- What a handler's steps are asked of. -/
structure Surroundings where
  executor : Worker.Executor
  /-- The stack size of sub-tasks. -/
  stackSize : Nat

/-- What a run changes. -/
structure Scene where
  units : Units
  /-- The unit of each handle, none for one that was given up. -/
  handles : List (Option UnitId)
  sink : Sink := {}
  events : List Event := []
  /-- How many sub-tasks are running; what they do is told elsewhere. -/
  away : Nat := 0

namespace Scene

/-- The scene in which a handler starts: it has a handle to the request's unit and one to the
root. -/
def start (us : Units) (unit : UnitId) : Scene :=
  { units := us.clone unit, handles := [some unit, some .root] }

/-- The unit of a handle. -/
def unit? (w : Scene) (h : Handle) : Option UnitId := (w.handles[h.index]?).join

/-- Tells events, unless a sub-task is running. -/
def tell (w : Scene) (events : List Event) : Scene :=
  if w.away = 0 then { w with events := w.events ++ events } else w

/-- Opens a unit below another one. -/
def openChild (w : Scene) (parent : UnitId) : UnitId × Handle × Scene :=
  let (u, units) := w.units.child parent
  (u, ⟨w.handles.length⟩,
    { w with units, handles := w.handles ++ [some u] }.tell [Context.created u parent])

/-- Gives a handle up. -/
def close (w : Scene) (h : Handle) : Scene :=
  match w.unit? h with
  | none => w
  | some u =>
    let (units, gone) := w.units.drop u
    { w with units, handles := w.handles.set h.index none }.tell (gone.map Context.released)

/-- Gives up the handles from the last to the first. -/
def closeAll : (count : Nat) → Scene → Scene
  | 0, w => w
  | n + 1, w => closeAll n (w.close ⟨n⟩)

/-- The scene when the run is over. -/
def finish (w : Scene) : Scene := closeAll w.handles.length { w with away := 0 }

end Scene

/-- The handle that a step answers when its unit was given up: one that refers to nothing. -/
def nowhere (w : Scene) : Handle × Scene :=
  (⟨w.handles.length⟩, { w with handles := w.handles ++ [none] })

/-- One step. -/
def Op.run (s : Surroundings) : (op : Op) → Scene → op.Answer × Scene
  | .setStatus status, w => ((), { w with sink := w.sink.setStatus status })
  | .setHeader name value, w => ((), { w with sink := w.sink.setHeader name value })
  | .set h key value, w =>
    match w.unit? h with
    | some u => ((), { w with units := w.units.set u key value })
    | none => ((), w)
  | .get h key, w =>
    match w.unit? h with
    | some u => (w.units.store.get u key, w)
    | none => (.error (.keyNotFound key), w)
  | .liveUnits, w => (w.units.store.size, w)
  | .child h, w =>
    match w.unit? h with
    | some u => (w.openChild u).2
    | none => nowhere w
  | .drop h, w => ((), w.close h)
  | .spawn h, w =>
    match w.unit? h with
    | some parent =>
      let (u, own, w) := w.openChild parent
      let w := w.tell [Context.spawning u parent s.stackSize]
      (own, { w with away := w.away + 1 })
    | none =>
      let (own, w) := nowhere w
      (own, { w with away := w.away + 1 })
  | .join h, w =>
    let w := w.close h
    ((), { w with away := w.away - 1 })
  | .coprocess task request, w =>
    let (events, result) := s.executor.coprocess task request
    (result, w.tell events)

/-- A program to its end. -/
def Program.run {α : Type} (s : Surroundings) : Program α → Scene → Except Failure α × Scene
  | .pure a, w => (.ok a, w)
  | .stop e, w => (.error e, w)
  | .perform op next, w =>
    let (a, w) := op.run s w
    run s (next a) w

/-- The scene of a hook. The unit of the request is not shown to it; its handle to the root is its
own. -/
def Scene.beside (us : Units) : Scene := { units := us, handles := [none, some .root] }

/-- Forgets handles to the root without giving them up. -/
def Scene.forgetRoot (w : Scene) : Scene :=
  { w with handles := w.handles.map fun h => if h = some UnitId.root then none else h }

/-- A hook to its end, with what it told. What it has opened is given up, however it ended; its
handle to the root it keeps. -/
def Program.runBeside {α : Type} (s : Surroundings) (p : Program α) (us : Units) :
    Except Failure α × List Event × Units :=
  let (result, w) := p.run s (.beside us)
  let w := w.forgetRoot.finish
  (result, w.events, w.units)

theorem Program.runBeside_pure {α : Type} (s : Surroundings) (a : α) (us : Units) :
    (Program.pure a).runBeside s us = (.ok a, [], us) := rfl

end RequestDispatch.Handler
