import RequestDispatch.Proofs.Context.Lookup
import RequestDispatch.Proofs.Context.Since
import RequestDispatch.Proofs.Handler.Run

/-!
# What handlers and hooks do to units

* `Program.steps`: the steps of a run, each with the scene in which it is taken. `putAll` gives what
  the root has after those of them that write to it.
* `Scene.Within`: a run works with units opened since an earlier moment, and with the root, and each
  of its handles is counted. A step keeps this (`Op.within_run`), so each step of a run is taken in
  such a scene (`Program.within_steps`), and it is so at the end (`Program.within_run`).
* `Scene.Within.finish`: what the run leaves then, however it ended.
-/

set_option autoImplicit false

namespace RequestDispatch.Handler

open Context (UnitId Units)
open Context.Units (Since)

variable {α : Type}

/-- The steps of a run, each with the scene in which it is taken. -/
def Program.steps (s : Surroundings) : Program α → Scene → List (Op × Scene)
  | .perform op next, w => (op, w) :: steps s (next (op.run s w).1) (op.run s w).2
  | _, _ => []

/-- What a step writes to the root. -/
def rootWrite? : Op × Scene → Option (String × Json)
  | (.set h key value, w) => if w.unit? h = some .root then some (key, value) else none
  | _ => none

/-- The root's values after steps, of which some write to the root. -/
def putAll (top : List (String × Json)) (steps : List (Op × Scene)) : List (String × Json) :=
  (steps.filterMap rootWrite?).foldl (fun d p => Dictionary.put p.1 p.2 d) top

theorem putAll_append (top : List (String × Json)) (steps more : List (Op × Scene)) :
    putAll top (steps ++ more) = putAll (putAll top steps) more := by
  rw [putAll, List.filterMap_append, List.foldl_append, putAll, putAll]

/-! ## Scenes -/

namespace Scene

/-- The units that a run has handles to. -/
def held (w : Scene) : List UnitId := w.handles.filterMap id

theorem unit?_eq_some {w : Scene} {h : Handle} {u : UnitId} :
    w.unit? h = some u ↔ w.handles[h.index]? = some (some u) := by
  rw [unit?, Option.join_eq_some_iff]

theorem mem_held {w : Scene} {h : Handle} {u : UnitId} (hu : w.unit? h = some u) : u ∈ w.held :=
  List.mem_filterMap.2 ⟨some u, List.mem_of_getElem? (unit?_eq_some.1 hu), rfl⟩

theorem tell_handles (w : Scene) (events : List Trace.Event) :
    (w.tell events).handles = w.handles := by
  unfold tell
  split <;> rfl

/-- A handle fewer in a table of handles. -/
theorem perm_filterMap_set {handles : List (Option UnitId)} {i : Nat} {u : UnitId}
    (h : handles[i]? = some (some u)) :
    (handles.filterMap id).Perm (u :: (handles.set i none).filterMap id) := by
  induction handles generalizing i with
  | nil => simp at h
  | cons first rest ih =>
    cases i with
    | zero =>
      obtain rfl : first = some u := by simpa using h
      simp
    | succ i =>
      have hrest := ih (i := i) (by simpa using h)
      cases first with
      | none => simpa using hrest
      | some v =>
        simp only [List.set_cons_succ, List.filterMap_cons, id_eq]
        exact (hrest.cons v).trans (.swap u v _)

theorem held_forgetRoot (w : Scene) : w.forgetRoot.held = w.held.filter (· ≠ .root) := by
  rw [held, forgetRoot, held]
  induction w.handles with
  | nil => rfl
  | cons first rest ih =>
    cases first with
    | none => simpa using ih
    | some u => by_cases hu : u = .root <;> simp_all

/-- A run works with the root and with units opened since `base`, of which `outside` are the handles
that are held elsewhere. -/
structure Within (base : Units) (outside : List UnitId) (top : List (String × Json)) (w : Scene) :
    Prop where
  settled : w.units.Settled (w.held ++ outside)
  since : Since base top w.units
  own : ∀ u ∈ w.held, base.Own u

variable {base : Units} {outside : List UnitId} {top : List (String × Json)} {w w' : Scene}
  {u : UnitId} {h : Handle}

namespace Within

theorem congr (hw : Within base outside top w) (hunits : w'.units = w.units)
    (hheld : w'.held = w.held) : Within base outside top w' := by
  obtain ⟨hsettled, hsince, hown⟩ := hw
  refine ⟨?_, hunits ▸ hsince, hheld ▸ hown⟩
  rw [hunits, hheld]
  exact hsettled

theorem mem_units (hw : Within base outside top w) (hu : u ∈ w.held) : u ∈ w.units.units :=
  hw.settled.handle u (List.mem_append_left _ hu)

theorem tell (hw : Within base outside top w) (events : List Trace.Event) :
    Within base outside top (w.tell events) :=
  hw.congr (tell_units w events) (by rw [held, tell_handles, held])

theorem openChild (hw : Within base outside top w) (hu : u ∈ w.held) :
    Within base outside top (w.openChild u).2.2 := by
  obtain ⟨hsince, hown⟩ := hw.since.child hw.settled (hw.own u hu)
  have hchild := hw.settled.child (hw.mem_units hu)
  let opened : Scene :=
    { w with units := (w.units.child u).2, handles := w.handles ++ [some (w.units.child u).1] }
  have hheld : opened.held = w.held ++ [(w.units.child u).1] := by simp [opened, held]
  have hopened : Within base outside top opened := by
    refine ⟨?_, hsince, fun v hv => ?_⟩
    · rw [hheld, List.append_assoc]
      exact hchild.perm List.perm_middle.symm
    · rcases List.mem_append.1 (hheld ▸ hv) with hv | hv
      · exact hw.own v hv
      · exact List.mem_singleton.1 hv ▸ hown
  exact hopened.tell _

theorem close (hw : Within base outside top w) (h : Handle) :
    Within base outside top (w.close h) := by
  unfold Scene.close
  cases hu : w.unit? h with
  | none => exact hw
  | some u =>
    have hperm := perm_filterMap_set (unit?_eq_some.1 hu)
    let closed : Scene :=
      { w with units := (w.units.drop u).1, handles := w.handles.set h.index none }
    have hclosed : Within base outside top closed := by
      refine ⟨?_, hw.since.drop u, fun v hv => ?_⟩
      · have herase := ((hperm.append_right outside).erase u)
        rw [List.cons_append, List.erase_cons_head] at herase
        exact (hw.settled.drop u).1.perm herase
      · exact hw.own v (hperm.mem_iff.2 (.tail _ hv))
    exact hclosed.tell _

theorem closeAll (hw : Within base outside top w) (count : Nat) :
    Within base outside top (closeAll count w) := by
  induction count generalizing w with
  | zero => exact hw
  | succ n ih => exact ih (hw.close ⟨n⟩)

theorem forgetRoot (hw : Within base outside top w) :
    Within base outside top w.forgetRoot := by
  have hheld := held_forgetRoot w
  refine ⟨?_, hw.since, fun v hv => hw.own v (List.mem_filter.1 (hheld ▸ hv)).1⟩
  rw [hheld]
  exact hw.settled.filter_root

theorem nowhere (hw : Within base outside top w) : Within base outside top (nowhere w).2 :=
  hw.congr rfl (by simp [Handler.nowhere, held])

theorem set (hw : Within base outside top w) (hu : u ∈ w.held) (key : String) (value : Json) :
    Within base outside (Since.put top u key value) { w with units := w.units.set u key value } :=
  ⟨hw.settled.write u key value, hw.since.set (hw.own u hu) key value, hw.own⟩

end Within

end Scene

/-! ## Steps -/

open Scene (Within held)

variable {base : Units} {outside : List UnitId} {top : List (String × Json)} {w : Scene}

theorem Op.within_run (s : Surroundings) (op : Op) (hw : Within base outside top w) :
    Within base outside (putAll top [(op, w)]) (op.run s w).2 := by
  cases op with
  | setStatus status => exact hw.congr rfl rfl
  | setHeader name value => exact hw.congr rfl rfl
  | liveUnits => exact hw
  | get handle key =>
    simp only [Op.run]
    split <;> exact hw
  | set handle key value =>
    simp only [Op.run]
    cases hu : w.unit? handle with
    | none => simpa [putAll, rootWrite?, hu] using hw
    | some u =>
      have hput : putAll top [(.set handle key value, w)] = Since.put top u key value := by
        by_cases hroot : u = .root <;> simp [putAll, rootWrite?, hu, Since.put, hroot]
      rw [hput]
      exact hw.set (Scene.mem_held hu) key value
  | child handle =>
    simp only [Op.run]
    cases hu : w.unit? handle with
    | none => exact hw.nowhere
    | some u => exact hw.openChild (Scene.mem_held hu)
  | drop handle => exact hw.close handle
  | spawn handle =>
    simp only [Op.run]
    cases hu : w.unit? handle with
    | none => exact hw.nowhere.congr rfl rfl
    | some u => exact ((hw.openChild (Scene.mem_held hu)).tell _).congr rfl rfl
  | join handle => exact (hw.close handle).congr rfl rfl
  | coprocess task request =>
    simp only [Op.run]
    exact hw.tell _

theorem Program.within_run (s : Surroundings) (p : Program α) (hw : Within base outside top w) :
    Within base outside (putAll top (p.steps s w)) (p.run s w).2 := by
  induction p generalizing top w with
  | pure a => exact hw
  | stop e => exact hw
  | perform op next ih =>
    have hsteps : (Program.perform op next).steps s w =
        [(op, w)] ++ (next (op.run s w).1).steps s (op.run s w).2 := rfl
    rw [hsteps, putAll_append]
    exact ih _ (op.within_run s hw)

theorem Program.within_steps (s : Surroundings) (p : Program α)
    (hw : Within base outside top w) :
    ∀ step ∈ p.steps s w, ∃ top', Within base outside top' step.2 := by
  induction p generalizing top w with
  | pure a => simp [steps]
  | stop e => simp [steps]
  | perform op next ih =>
    intro step hstep
    rcases List.mem_cons.1 hstep with rfl | hstep
    · exact ⟨top, hw⟩
    · exact ih _ (op.within_run s hw) step hstep

/-! ## The end of a run -/

namespace Scene

/-- A handle that refers to nothing stays as it is. -/
theorem close_handles (w : Scene) (h : Handle) :
    (w.close h).handles = w.handles.set h.index none := by
  cases hu : w.unit? h with
  | some u => simp only [close, hu, tell_handles]
  | none =>
    have hsame : w.handles.set h.index none = w.handles := by
      refine List.ext_getElem? fun i => ?_
      rw [List.getElem?_set]
      split
      · rename_i hi
        rw [unit?, hi] at hu
        cases hget : w.handles[i]? with
        | none => simp [hi, List.getElem?_eq_none_iff.1 hget]
        | some handle =>
          obtain rfl : handle = none := by simpa [hget] using hu
          simp [hi, (List.getElem?_eq_some_iff.1 hget).1]
      · rfl
    simp only [close, hu, hsame]

theorem unit?_close (w : Scene) (h h' : Handle) :
    (w.close h).unit? h' = if h.index = h'.index then none else w.unit? h' := by
  rw [unit?, close_handles, List.getElem?_set]
  split
  · split <;> rfl
  · rfl

theorem unit?_closeAll (w : Scene) (count : Nat) (h : Handle) :
    (closeAll count w).unit? h = if h.index < count then none else w.unit? h := by
  induction count generalizing w with
  | zero => rfl
  | succ n ih =>
    rw [closeAll, ih, unit?_close]
    by_cases hlt : h.index < n
    · rw [if_pos hlt, if_pos (by omega)]
    · by_cases hn : n = h.index
      · rw [if_neg hlt, if_pos hn, if_pos (by omega)]
      · rw [if_neg hlt, if_neg hn, if_neg (by omega)]

theorem held_finish (w : Scene) : w.finish.held = [] := by
  refine List.eq_nil_iff_forall_not_mem.2 fun u hu => ?_
  obtain ⟨handle, hmem, rfl⟩ := List.mem_filterMap.1 hu
  obtain ⟨i, hi⟩ := List.getElem?_of_mem hmem
  have hopen : w.finish.unit? ⟨i⟩ = some u := unit?_eq_some.2 hi
  rw [finish, unit?_closeAll] at hopen
  split at hopen
  · cases hopen
  · rename_i hlength
    rw [unit?, List.getElem?_eq_none (Nat.le_of_not_lt hlength)] at hopen
    cases hopen

/-- Only what is held elsewhere is left at the end. -/
theorem Within.finish (hw : Within base outside top w) :
    w.finish.units.Settled outside ∧ Since base top w.finish.units := by
  have hback : Within base outside top { w with away := 0 } := hw.congr rfl rfl
  have hclosed : Within base outside top w.finish := hback.closeAll _
  have hsettled := hclosed.settled
  rw [held_finish] at hsettled
  exact ⟨hsettled, hclosed.since⟩

/-- What a run reads through its handles is a value of the root, or of a unit opened since. -/
theorem Within.own_of_get (hw : Within base outside top w) {h : Handle} {u : UnitId}
    (hu : w.unit? h = some u) {key : String} {value : Json}
    (hget : w.units.store.get u key = .ok value) :
    ∃ v, w.units.store.own? key v = some value ∧ base.Own v := by
  have hwalk := hw.settled.rising.climbs_chain u
  obtain ⟨v, ⟨before, after, hchain, -⟩, hvalue⟩ := (Context.Store.get_eq_ok_iff hwalk).1 hget
  refine ⟨v, hvalue, hw.since.own_of_climbs (hw.own u (mem_held hu)) hwalk v ?_⟩
  rw [hchain]
  exact List.mem_append_right _ (.head _)

end Scene

/-! ## Whole runs -/

/-- These steps were all taken by runs that work with the root and with units opened since `base`,
and this is what they leave: the handles that are held elsewhere, and their writes to the root. -/
structure Leaves (base : Units) (outside : List UnitId) (top : List (String × Json))
    (steps : List (Op × Scene)) (us : Units) : Prop where
  settled : us.Settled outside
  since : Since base (putAll top steps) us
  within : ∀ step ∈ steps, ∃ top', Within base outside top' step.2

namespace Leaves

variable {us us' : Units} {unit : UnitId} {steps more : List (Op × Scene)}

theorem nil (hs : us.Settled outside) (hsince : Since base top us) :
    Leaves base outside top [] us := ⟨hs, hsince, by simp⟩

theorem append (h : Leaves base outside top steps us)
    (h' : Leaves base outside (putAll top steps) more us') :
    Leaves base outside top (steps ++ more) us' := by
  refine ⟨h'.settled, ?_, fun step hstep => ?_⟩
  · rw [putAll_append]
    exact h'.since
  · rcases List.mem_append.1 hstep with hstep | hstep
    · exact h.within step hstep
    · exact h'.within step hstep

section

variable (hs : us.Settled outside) (hsince : Since base top us) (s : Surroundings) (p : Program α)
include hs hsince

/-- A handler leaves nothing but its writes to the root, however it ends. -/
theorem finish (hunit : unit ∈ us.units) (hown : base.Own unit) :
    Leaves base outside top (p.steps s (.start us unit))
      (p.run s (.start us unit)).2.finish.units := by
  have hstart : Within base outside top (.start us unit) := by
    refine ⟨?_, ⟨hsince.next, hsince.root, hsince.old, hsince.parent⟩, fun v hv => ?_⟩
    · exact (hs.clone hunit).root.perm (.swap _ _ _)
    · simp only [Scene.start, held, List.filterMap_cons, id_eq, List.filterMap_nil, List.mem_cons,
        List.not_mem_nil, or_false] at hv
      rcases hv with rfl | rfl
      · exact hown
      · exact .inl rfl
  obtain ⟨hsettled, hsince⟩ := (p.within_run s hstart).finish
  exact ⟨hsettled, hsince, p.within_steps s hstart⟩

/-- Nor does a hook. -/
theorem runBeside :
    Leaves base outside top (p.steps s (.beside us)) (p.runBeside s us).2.2 := by
  have hstart : Within base outside top (.beside us) := by
    refine ⟨hs.root, hsince, fun v hv => ?_⟩
    simp only [Scene.beside, held, List.filterMap_cons, id_eq, List.filterMap_nil,
      List.mem_singleton] at hv
    exact .inl hv
  obtain ⟨hsettled, hsince⟩ := (p.within_run s hstart).forgetRoot.finish
  exact ⟨hsettled, hsince, p.within_steps s hstart⟩

end

end Leaves

end RequestDispatch.Handler
