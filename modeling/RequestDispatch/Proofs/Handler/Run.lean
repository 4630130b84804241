import RequestDispatch.Handler.Run
import RequestDispatch.Proofs.Context.Owners

/-!
# Runs of handlers

* `Program.run_bind`: one program after another runs the second one from where the first ended.
* `Program.run_forM`: programs that come to their end are run one after the other.
* `Scene.finish_sink`: giving handles up at the end of a run does not touch the sink.
* `Program.reachable_run`: a run leaves the store as operations on it may leave it.
-/

set_option autoImplicit false

namespace RequestDispatch.Handler

open Context (UnitId Units)

variable {α β : Type}

theorem Program.run_bind (s : Surroundings) (p : Program α) (f : α → Program β) (w : Scene) :
    (p >>= f).run s w = match p.run s w with
      | (.ok a, w) => (f a).run s w
      | (.error e, w) => (.error e, w) := by
  induction p generalizing w with
  | pure a => rfl
  | stop e => rfl
  | perform op next ih => exact ih (op.run s w).1 (op.run s w).2

/-- Programs that come to their end are run one after the other. -/
theorem Program.run_forM {σ : Type} {s : Surroundings} {step : σ → Program Unit}
    {next : Scene → σ → Scene} (h : ∀ d w, (step d).run s w = (.ok (), next w d)) (ds : List σ)
    (w : Scene) : (ds.forM step).run s w = (.ok (), ds.foldl next w) := by
  induction ds generalizing w with
  | nil => rfl
  | cons d ds ih =>
    have hfirst : ((d :: ds).forM step).run s w = (ds.forM step).run s (next w d) := by
      rw [show (d :: ds).forM step = (step d >>= fun _ => ds.forM step) from rfl,
        Program.run_bind, h]
    rw [hfirst, ih, List.foldl_cons]

section

variable {s : Surroundings} {w : Scene} {handle : Handle} {u : UnitId}
  (hu : w.unit? handle = some u)
include hu

theorem Program.run_get (key : String) :
    (get handle key).run s w = (.ok (w.units.store.get u key), w) := by
  simp only [get, step, run, Op.run, hu]

theorem Program.run_view (v : Context.View α) :
    (view handle v).run s w = (.ok (v.read (w.units.store.get u v.key)), w) := by
  have hget := run_get (s := s) hu v.key
  rw [view, run_bind, hget]
  rfl

end

namespace Scene

theorem tell_sink (w : Scene) (events : List Trace.Event) : (w.tell events).sink = w.sink := by
  unfold tell
  split <;> rfl

theorem close_sink (w : Scene) (h : Handle) : (w.close h).sink = w.sink := by
  unfold close
  split
  · rfl
  · rw [tell_sink]

theorem closeAll_sink (count : Nat) (w : Scene) : (closeAll count w).sink = w.sink := by
  induction count generalizing w with
  | zero => rfl
  | succ n ih => rw [closeAll, ih, close_sink]

theorem finish_sink (w : Scene) : w.finish.sink = w.sink := by
  rw [finish, closeAll_sink]

/-! ## The store behind a run -/

theorem tell_units (w : Scene) (events : List Trace.Event) : (w.tell events).units = w.units := by
  unfold tell
  split <;> rfl

variable {w : Scene} (h : w.units.store.Reachable)
include h

theorem reachable_openChild (parent : UnitId) :
    (w.openChild parent).2.2.units.store.Reachable := by
  simp only [openChild, tell_units]
  exact Units.reachable_child h parent

theorem reachable_close (handle : Handle) : (w.close handle).units.store.Reachable := by
  unfold close
  split
  · exact h
  · simp only [tell_units]
    exact Units.reachable_drop h _

theorem reachable_closeAll (count : Nat) : (closeAll count w).units.store.Reachable := by
  induction count generalizing w with
  | zero => exact h
  | succ n ih => exact ih (reachable_close h ⟨n⟩)

theorem reachable_finish : w.finish.units.store.Reachable :=
  reachable_closeAll (w := { w with away := 0 }) h _

end Scene

/-- A step leaves the store as operations on it may leave it. -/
theorem Op.reachable_run (s : Surroundings) (op : Op) {w : Scene} (h : w.units.store.Reachable) :
    (op.run s w).2.units.store.Reachable := by
  cases op with
  | setStatus status => exact h
  | setHeader name value => exact h
  | liveUnits => exact h
  | get handle key =>
    simp only [Op.run]
    split <;> exact h
  | set handle key value =>
    simp only [Op.run]
    split
    · exact Units.reachable_set h _ _ _
    · exact h
  | child handle =>
    simp only [Op.run]
    split
    · exact Scene.reachable_openChild h _
    · exact h
  | drop handle => exact Scene.reachable_close h handle
  | spawn handle =>
    simp only [Op.run]
    split
    · simp only [Scene.tell_units]
      exact Scene.reachable_openChild h _
    · exact h
  | join handle => exact Scene.reachable_close h handle
  | coprocess task request =>
    simp only [Op.run, Scene.tell_units]
    exact h

theorem Program.reachable_run (s : Surroundings) (p : Program α) {w : Scene}
    (h : w.units.store.Reachable) : (p.run s w).2.units.store.Reachable := by
  induction p generalizing w with
  | pure a => exact h
  | stop e => exact h
  | perform op next ih => exact ih _ (op.reachable_run s h)

end RequestDispatch.Handler
