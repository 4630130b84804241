import RequestDispatch.App
import RequestDispatch.Proofs.Handler.Steps

/-!
# What a request leaves behind

Every handler and every hook may open units and write values as it likes, and may end as it likes.

* `Dispatcher.steps`: the steps that are taken while a request is served.
* `leaves_before`, `leaves_after`, `leaves_answer`: what hooks leave, and what a request leaves as long
  as its unit is there.
* `since_dispatchWith`: what it leaves when it is over.
-/

set_option autoImplicit false

namespace RequestDispatch.Dispatcher

open Context (Store UnitId Units)
open Context.Units (Since)
open Handler (Leaves Object Op Scene Surroundings putAll)
open Route (RouteMatch)

/-- The units at the beginning, to which there are no handles yet. -/
theorem settled_firstUnits (c : Config) : (App.firstUnits c).Settled [] :=
  Context.Units.Settled.first.writeAll .root c.context

/-- The units when the unit of a request has been opened and populated. -/
def populated (us : Units) (r : Request) (now : Moment) : Units :=
  (us.child .root).2.populate (us.child .root).1 r now.start

/-! ## The steps that are taken -/

/-- The steps of hooks before. -/
def stepsBefore (s : Surroundings) (v : Visit) : List Hooks → Units → List (Op × Scene)
  | [], _ => []
  | h :: rest, us =>
    (h.before v).steps s (.beside us) ++
      match (h.before v).runBeside s us with
      | (.ok _, _, us) => stepsBefore s v rest us
      | (.error _, _, _) => []

/-- The steps of hooks after. -/
def stepsAfter (s : Surroundings) (v : Visit) : Response → List Hooks → Units → List (Op × Scene)
  | _, [], _ => []
  | r, h :: rest, us =>
    (h.after v r).steps s (.beside us) ++
      match (h.after v r).runBeside s us with
      | (.ok (_, changed), _, us) => stepsAfter s v changed rest us
      | (.error _, _, _) => []

/-- The steps of a handler, if a route matches that has one, and no hook has answered. -/
def stepsBetween (d : Dispatcher) (early : Option Response) (m : Option (RouteMatch Handler))
    (r : Request) (unit : UnitId) (us : Units) : List (Op × Scene) :=
  match early, m with
  | none, some m =>
    match m.route.target with
    | .inline handler =>
      (handler (m.route.plan.bind m.params (Object.ofKeyword r))).steps d.surroundings
        (.start us unit)
    | .isolated _ => []
  | _, _ => []

/-- The steps that are taken once the unit of a request is populated. -/
def stepsOfAnswer (d : Dispatcher) (hooks : List Hooks) (r : Request) (unit : UnitId) (us : Units)
    (now : Moment) : List (Op × Scene) :=
  let v : Visit := ⟨r, (d.route r).2, now⟩
  stepsBefore d.surroundings v hooks us ++
    match callBefore d.surroundings v 0 none hooks us with
    | (_, _, .error _, _) => []
    | (_, _, .ok early, us) =>
      let (response, _, _, us') := d.settle early (d.route r).2 r unit us
      d.stepsBetween early (d.route r).2 r unit us ++ stepsAfter d.surroundings v response hooks us'

/-- The steps that are taken while a request is served, each with the scene in which it is taken. -/
def steps (d : Dispatcher) (hooks : List Hooks) (us : Units) (r : Request) (now : Moment) :
    List (Op × Scene) :=
  let (unit, us) := us.child .root
  d.stepsOfAnswer hooks r unit (us.populate unit r now.start) now

/-! ## What they leave while the request's unit is there -/

variable {d : Dispatcher} {hooks : List Hooks} {r : Request} {unit : UnitId} {us base : Units}
  {top : List (String × Json)} {outside : List UnitId}

section

variable {s : Surroundings} {v : Visit} (hs : us.Settled outside) (hsince : Since base top us)
include hs hsince

theorem leaves_before (index : Nat) (early : Option Response) :
    Leaves base outside top (stepsBefore s v hooks us)
      (callBefore s v index early hooks us).2.2.2 := by
  induction hooks generalizing index early us top with
  | nil => exact .nil hs hsince
  | cons h rest ih =>
    have hfirst := Leaves.runBeside hs hsince s (h.before v)
    obtain ⟨result, events, us', hrun⟩ : ∃ result events us',
        (h.before v).runBeside s us = (result, events, us') := ⟨_, _, _, rfl⟩
    rw [hrun] at hfirst
    rw [stepsBefore, callBefore, hrun]
    cases result with
    | error e => exact hfirst.append (.nil hfirst.settled hfirst.since)
    | ok answer => exact hfirst.append (ih hfirst.settled hfirst.since _ _)

theorem leaves_after (index : Nat) (r : Response) :
    Leaves base outside top (stepsAfter s v r hooks us) (callAfter s v index r hooks us).2.2.2 := by
  induction hooks generalizing index r us top with
  | nil => exact .nil hs hsince
  | cons h rest ih =>
    have hfirst := Leaves.runBeside hs hsince s (h.after v r)
    obtain ⟨result, events, us', hrun⟩ : ∃ result events us',
        (h.after v r).runBeside s us = (result, events, us') := ⟨_, _, _, rfl⟩
    rw [hrun] at hfirst
    rw [stepsAfter, callAfter, hrun]
    cases result with
    | error e => exact hfirst.append (.nil hfirst.settled hfirst.since)
    | ok changed => exact hfirst.append (ih hfirst.settled hfirst.since _ _)

theorem leaves_between (hunit : unit ∈ us.units) (hown : base.Own unit) (early : Option Response)
    (m : Option (RouteMatch Handler)) :
    Leaves base outside top (d.stepsBetween early m r unit us)
      (d.settle early m r unit us).2.2.2 := by
  unfold stepsBetween settle
  cases early with
  | some response => exact .nil hs hsince
  | none =>
    cases m with
    | none => exact .nil hs hsince
    | some m =>
      simp only [target, invoke]
      cases m.route.target with
      | inline handler => exact .finish hs hsince d.surroundings _ hunit hown
      | isolated task => exact .nil hs hsince

end

theorem leaves_answer (hs : us.Settled (unit :: outside)) (hsince : Since base top us)
    (hown : base.Own unit) (now : Moment) :
    Leaves base (unit :: outside) top (d.stepsOfAnswer hooks r unit us now)
      (d.answer hooks r unit us now).2 := by
  obtain ⟨v, hv⟩ : ∃ v : Visit, ⟨r, (d.route r).2, now⟩ = v := ⟨_, rfl⟩
  have hbefore : Leaves base (unit :: outside) top (stepsBefore d.surroundings v hooks us)
      (callBefore d.surroundings v 0 none hooks us).2.2.2 := leaves_before hs hsince 0 none
  obtain ⟨told, called, result, us₁, hcalled⟩ : ∃ told called result us₁,
      callBefore d.surroundings v 0 none hooks us = (told, called, result, us₁) :=
    ⟨_, _, _, _, rfl⟩
  rw [hcalled] at hbefore
  simp only [stepsOfAnswer, answer, hv, hcalled]
  cases result with
  | error e => exact hbefore.append (.nil hbefore.settled hbefore.since)
  | ok early =>
    have hunit := hbefore.settled.handle unit (.head _)
    have hbetween := leaves_between (d := d) (r := r) hbefore.settled hbefore.since hunit hown early
      (d.route r).2
    exact hbefore.append (hbetween.append
      (leaves_after hbetween.settled hbetween.since 0 _))

/-! ## What they leave when it is over -/

/-- The unit of a request is opened below the root and populated; the rest is as it was. -/
theorem since_populated (hs : us.Settled outside)
    (hroot : us.store.node? .root = some ⟨none, top⟩) (r : Request) (now : Moment) :
    (populated us r now).Settled ((us.child .root).1 :: outside) ∧
      Since us top (populated us r now) ∧ us.Own (us.child .root).1 := by
  obtain ⟨hsince, hown⟩ := (Since.refl hs hroot).child hs (.inl rfl)
  have hne : (us.child .root).1 ≠ .root :=
    (Store.root_ne_fresh (by rw [hroot]; rfl) hs.rising.reachable.numbered).symm
  exact ⟨(hs.child (.head _)).writeAll _ (Context.wellKnown r now.start),
    hsince.setAll hown hne (Context.wellKnown r now.start), hown⟩

/-- A request leaves nothing but its writes to the root, whatever becomes of it, and works with the
root and with units that it has opened itself. -/
theorem since_dispatchWith (hs : us.Settled outside)
    (hroot : us.store.node? .root = some ⟨none, top⟩) (d : Dispatcher) (hooks : List Hooks)
    (r : Request) (now : Moment) :
    (d.dispatchWith hooks us r now).2.Settled outside ∧
      Since us (putAll top (d.steps hooks us r now)) (d.dispatchWith hooks us r now).2 ∧
      ∀ step ∈ d.steps hooks us r now,
        ∃ top', Scene.Within us ((us.child .root).1 :: outside) top' step.2 := by
  obtain ⟨hpopulated, hsince, hown⟩ := since_populated hs hroot r now
  obtain ⟨unit, hunit⟩ : ∃ unit, (us.child .root).1 = unit := ⟨_, rfl⟩
  rw [populated, hunit] at hpopulated hsince
  rw [hunit] at hown
  have hleaves : Leaves us (unit :: outside) top (d.stepsOfAnswer hooks r unit
      ((us.child .root).2.populate unit r now.start) now) _ :=
    leaves_answer hpopulated hsince hown now
  have hdropped := (hleaves.settled.drop unit).1
  rw [List.erase_cons_head] at hdropped
  simp only [steps, dispatchWith, Units.tryPopulate_eq, hunit]
  exact ⟨hdropped, hleaves.since.drop unit, hleaves.within⟩

end RequestDispatch.Dispatcher
