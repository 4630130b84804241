import RequestDispatch.Proofs.Dispatcher.Entrance

/-!
# What requests leave behind

Once requests have been served, whatever their handlers and hooks have done, no unit is left of them,
and of the other units only the root may have changed.

* `node?_serve`: what requests that follow on each other leave.
* `serve_releases`: the same as a statement about the live units and their values, with what it means
  for a request that comes later.
-/

set_option autoImplicit false

namespace RequestDispatch.Dispatcher

open Context (Store UnitId Units)
open Handler (Object Op Scene Surroundings putAll)
open Route (RouteMatch)

/-- The units after requests. -/
def serve (d : Dispatcher) (hooks : List Hooks) : List (Request × Moment) → Units → Units
  | [], us => us
  | (r, now) :: rest, us => serve d hooks rest (d.dispatchWith hooks us r now).2

/-- The steps that are taken while requests are served. -/
def stepsOfAll (d : Dispatcher) (hooks : List Hooks) : List (Request × Moment) → Units →
    List (Op × Scene)
  | [], _ => []
  | (r, now) :: rest, us =>
    d.steps hooks us r now ++ stepsOfAll d hooks rest (d.dispatchWith hooks us r now).2

variable {us : Units} {top : List (String × Json)} {outside : List UnitId}

/-- Requests that follow on each other leave the units as they were, but for their writes to the
root. -/
theorem node?_serve (hs : us.Settled outside) (hroot : us.store.node? .root = some ⟨none, top⟩)
    (d : Dispatcher) (hooks : List Hooks) (asked : List (Request × Moment)) :
    (d.serve hooks asked us).Settled outside ∧
      (d.serve hooks asked us).store.size = us.store.size ∧
      ∀ u, (d.serve hooks asked us).store.node? u =
        if u = .root then some ⟨none, putAll top (d.stepsOfAll hooks asked us)⟩
        else us.store.node? u := by
  induction asked generalizing us top with
  | nil =>
    refine ⟨hs, rfl, fun u => ?_⟩
    by_cases hu : u = .root
    · rw [if_pos hu, hu]
      exact hroot
    · rw [if_neg hu]
      rfl
  | cons first rest ih =>
    obtain ⟨r, now⟩ := first
    obtain ⟨hsettled, hsince, -⟩ := since_dispatchWith hs hroot d hooks r now
    obtain ⟨hserved, hsize, hnode⟩ := ih hsettled hsince.root
    refine ⟨hserved, hsize.trans (hsince.size_eq hsettled hs), fun u => ?_⟩
    rw [serve, hnode, stepsOfAll, Handler.putAll_append]
    by_cases hu : u = .root
    · rw [if_pos hu, if_pos hu]
    · rw [if_neg hu, if_neg hu, hsince.node?_eq hsettled hs, if_neg hu]

/-- However requests have been served, and whatever their handlers and hooks have done, the units
that are live are those that were live before; they hold what they held, and the root holds that with
what was written to it, step by step. A request that comes then finds nothing else: under its unit
there are its own well-known keys and the values of the root, and all that it reads through a handle
is a value of the root, or of a unit whose id has not been given out before. -/
theorem serve_releases (d : Dispatcher) (hooks : List Hooks) (asked : List (Request × Moment))
    {us : Units} {outside : List UnitId} (hs : us.Settled outside) :
    ∃ top after, us.store.node? .root = some ⟨none, top⟩ ∧ d.serve hooks asked us = after ∧
      (∀ u, after.store.contains u = us.store.contains u) ∧
      after.store.size = us.store.size ∧
      (∀ u, u ≠ .root → after.store.node? u = us.store.node? u) ∧
      after.store.node? .root = some ⟨none, putAll top (d.stepsOfAll hooks asked us)⟩ ∧
      after.Settled outside ∧
      ∀ (r : Request) (now : Moment),
        (∀ key, (entrance after r now).units.store.get (after.child .root).1 key =
          Store.found key ((Dictionary.find? key (Dictionary.ofPairs
            (Context.wellKnown r now.start))).or
              (Dictionary.find? key (putAll top (d.stepsOfAll hooks asked us))))) ∧
        ∀ step ∈ d.steps hooks after r now, ∀ h u, step.2.unit? h = some u →
          ∀ key value, step.2.units.store.get u key = .ok value →
            ∃ v, step.2.units.store.own? key v = some value ∧
              (v = .root ∨ after.store.next ≤ v.number) := by
  obtain ⟨top, hroot⟩ := hs.rising.reachable.root
  obtain ⟨hserved, hsize, hnode⟩ := node?_serve hs hroot d hooks asked
  have hafter := (hnode .root).trans (if_pos rfl)
  refine ⟨top, d.serve hooks asked us, hroot, rfl, fun u => ?_, hsize, fun u hu => ?_, hafter,
    hserved, fun r now => ⟨fun key => ?_, fun step hstep h u hu key value hget => ?_⟩⟩
  · rw [Store.contains, hnode, Store.contains]
    split
    · rename_i hu
      rw [hu, hroot]
      rfl
    · rfl
  · rw [hnode, if_neg hu]
  · obtain ⟨s, -, hpopulate, hshows, hsame⟩ :=
      Units.exists_populated hserved.rising.reachable r now.start
    have hstore : (entrance (d.serve hooks asked us) r now).units.store = s := by
      rw [entrance, populated, hpopulate]
      rfl
    rw [hstore, Store.get_below_root hshows.unit (hsame.trans hafter)]
  · obtain ⟨-, -, hwithin⟩ := since_dispatchWith hserved hafter d hooks r now
    obtain ⟨top', hw⟩ := hwithin step hstep
    exact hw.own_of_get hu hget

/-- Writes to its unit, to a unit below it and to the root, gives nothing up and panics. -/
def leaking : Handler := fun _ => do
  Handler.Program.set .unit "token" (.text "secret")
  let child ← Handler.Program.child .unit
  Handler.Program.set child "get" (.text "mine")
  Handler.Program.set .root "visits" (.integer 1)
  .stop (.panic none)

/-- A request after one of which the handler panicked. -/
theorem serve_releases_leaking : ∃ (d : Dispatcher) (m : RouteMatch Handler) (r : Request)
    (now : Moment) (us later : Units),
    us.Settled [] ∧ (d.route r).2 = some m ∧ m.route.target = .inline leaking ∧
    d.serve [] [(r, now)] us = later ∧ later.store.size = us.store.size ∧
    (entrance later r now).units.store.get (later.child .root).1 "token" =
      .error (.keyNotFound "token") ∧
    (entrance later r now).units.store.get (later.child .root).1 "visits" = .ok (.integer 1) ∧
    (entrance later r now).units.store.get (later.child .root).1 "get" =
      .ok (.ofTexts r.query) := by
  let surroundings : Surroundings := ⟨⟨.missing "worker", 1000⟩, 0⟩
  obtain ⟨r, pattern, m, hm, htarget⟩ : ∃ (r : Request) (pattern : Route.Pattern), ∃ m,
      ((⟨{}, ⟨[⟨[⟨"GET"⟩], pattern, "leak", .inline leaking, ⟨[]⟩⟩]⟩, [], surroundings⟩ :
        Dispatcher).route r).2 = some m ∧ m.route.target = .inline leaking :=
    ⟨.make ⟨1⟩ "GET" "/", ⟨"/", .raw, ⟨"/", .empty⟩, []⟩, _, rfl, rfl⟩
  let d : Dispatcher :=
    ⟨{}, ⟨[⟨[⟨"GET"⟩], pattern, "leak", .inline leaking, ⟨[]⟩⟩]⟩, [], surroundings⟩
  let now : Moment := ⟨.ofInt 0, ⟨2026, 1, 2, 23, 0, 0, 0⟩⟩
  have hsettled : (App.firstUnits {}).Settled [] := settled_firstUnits {}
  obtain ⟨top, later, hroot, hlater, -, hsize, -, -, -, hread⟩ :=
    serve_releases d [] [(r, now)] hsettled
  obtain rfl : top = [] := by
    cases hroot
    rfl
  have hwrites : putAll [] (d.stepsOfAll [] [(r, now)] (App.firstUnits {})) =
      [("visits", .integer 1)] := by
    have hsteps : d.stepsOfAll [] [(r, now)] (App.firstUnits {}) =
        (leaking (m.route.plan.bind m.params (Object.ofKeyword r))).steps surroundings
          (entrance (App.firstUnits {}) r now) := by
      simp only [stepsOfAll, steps, stepsOfAnswer, stepsBefore, callBefore, stepsBetween, stepsAfter,
        d, hm, htarget, List.nil_append, List.append_nil]
      rfl
    rw [hsteps]
    rfl
  rw [hwrites] at hread
  obtain ⟨hget, -⟩ := hread r now
  have hnodup := Context.nodup_wellKnown r now.start
  refine ⟨d, m, r, now, App.firstUnits {}, later, hsettled, hm, htarget, hlater, hsize, ?_, ?_, ?_⟩
  · rw [hget, Dictionary.find?_ofPairs_eq_none (by simp [Context.wellKnown])]
    rfl
  · rw [hget, Dictionary.find?_ofPairs_eq_none (by simp [Context.wellKnown])]
    rfl
  · rw [hget, Dictionary.find?_ofPairs_of_mem hnodup (.tail _ (.head _))]
    rfl

end RequestDispatch.Dispatcher
