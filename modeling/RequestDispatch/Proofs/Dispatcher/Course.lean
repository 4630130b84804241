import RequestDispatch.Dispatcher
import RequestDispatch.Proofs.Handler.Run

/-!
# In which order a request is served

A request comes past every hook before, then past the target of its route unless a hook has answered,
then past every hook after. Hooks may use units, so each call finds the units as the call before it
left them.

* `Befores`, `Afters`: hooks are called one after the other, each of them once.
* `Between`: what the request meets between the hooks before and the hooks after: the answer of a
  hook, one run of a handler, one call of a worker, or nothing.
* `dispatchWith_course`: a request whose hooks come to their end takes this course, whatever route,
  handler or worker it meets.
-/

set_option autoImplicit false

namespace RequestDispatch

open Context (UnitId Units)
open Handler (Failure Object Scene Surroundings)
open Route (RouteMatch)
open Trace (Event)

/-- Hooks that do not panic. -/
structure Hooks.Returns (s : Surroundings) (h : Hooks) : Prop where
  before : ∀ v us, ∃ answer events us', (h.before v).runBeside s us = (.ok answer, events, us')
  after : ∀ v r us, ∃ changed events us', (h.after v r).runBeside s us = (.ok changed, events, us')

namespace Dispatcher

/-! ## Hooks one after the other -/

section

variable (s : Surroundings) (v : Visit)

/-- The hooks before answer this, in their order, and take the units from the first to the last. -/
inductive Befores : List Hooks → Units → List (Option Response) → Units → Prop
  | nil {us : Units} : Befores [] us [] us
  | cons {h : Hooks} {rest : List Hooks} {us us' us'' : Units} {told events : List Event}
      {answer : Option Response} {answers : List (Option Response)} :
      (h.before v).runBeside s us = (.ok (told, answer), events, us') →
      Befores rest us' answers us'' → Befores (h :: rest) us (answer :: answers) us''

/-- The hooks after are given these responses, in their order, and the last of them leaves another
one. -/
inductive Afters : List Hooks → Response → Units → List Response → Response → Units → Prop
  | nil {r : Response} {us : Units} : Afters [] r us [] r us
  | cons {h : Hooks} {rest : List Hooks} {r changed last : Response} {us us' us'' : Units}
      {told events : List Event} {seen : List Response} :
      (h.after v r).runBeside s us = (.ok (told, changed), events, us') →
      Afters rest changed us' seen last us'' → Afters (h :: rest) r us (r :: seen) last us''

variable {s v} {hooks : List Hooks}

theorem Afters.length_eq {r last : Response} {us us' : Units} {seen : List Response}
    (h : Afters s v hooks r us seen last us') : seen.length = hooks.length := by
  induction h with
  | nil => rfl
  | cons _ _ ih => exact congrArg (· + 1) ih

theorem exists_befores (h : ∀ k ∈ hooks, k.Returns s) (index : Nat) (early : Option Response)
    (us : Units) :
    ∃ answers us' events, Befores s v hooks us answers us' ∧
      callBefore s v index early hooks us =
        (events, (List.range' index hooks.length).map .before,
          .ok (early.or (answers.findSome? id)), us') := by
  induction hooks generalizing index early us with
  | nil => exact ⟨[], us, [], .nil, by cases early <;> rfl⟩
  | cons k rest ih =>
    obtain ⟨hk, hrest⟩ := List.forall_mem_cons.1 h
    obtain ⟨⟨told, answer⟩, events, us₁, hrun⟩ := hk.before v us
    obtain ⟨answers, us', more, hbefores, hcalls⟩ := ih hrest (index + 1) (early <|> answer) us₁
    refine ⟨answer :: answers, us', events ++ told ++ taken v index early answer ++ more,
      .cons hrun hbefores, ?_⟩
    rw [callBefore, hrun]
    simp only [hcalls]
    cases early <;> cases answer <;> rfl

theorem exists_afters (h : ∀ k ∈ hooks, k.Returns s) (index : Nat) (r : Response) (us : Units) :
    ∃ seen last us' events, Afters s v hooks r us seen last us' ∧
      callAfter s v index r hooks us =
        (events, (seen.zipIdx index).map (fun p => .after p.2 p.1), .ok last, us') := by
  induction hooks generalizing index r us with
  | nil => exact ⟨[], r, us, [], .nil, rfl⟩
  | cons k rest ih =>
    obtain ⟨hk, hrest⟩ := List.forall_mem_cons.1 h
    obtain ⟨⟨told, changed⟩, events, us₁, hrun⟩ := hk.after v r us
    obtain ⟨seen, last, us', more, hafters, hcalls⟩ := ih hrest (index + 1) changed us₁
    refine ⟨r :: seen, last, us', events ++ told ++ more, .cons hrun hafters, ?_⟩
    rw [callAfter, hrun]
    simp only [hcalls]
    rfl

end

/-! ## Between the hooks -/

variable (d : Dispatcher) (r : Request) (unit : UnitId)

/-- After these answers of the hooks before, the request meets this response with these calls. -/
inductive Between (m : Option (RouteMatch Handler)) (answers : List (Option Response)) (us : Units) :
    List Call → Response → Units → Prop
  /-- The first answer is taken. -/
  | answered {early : Response} : answers.findSome? id = some early →
      Between m answers us [] early us
  /-- The handler of the route runs with its parameters, and what it has opened is given up. -/
  | handled {matched : RouteMatch Handler} {handler : Handler} {result : Except Failure Reply}
      {scene : Scene} : answers.findSome? id = none → m = some matched →
      matched.route.target = .inline handler →
      (handler (matched.route.plan.bind matched.params (Object.ofKeyword r))).run d.surroundings
        (.start us unit) = (result, scene) →
      Between m answers us [.target] (respond scene.finish.sink result) scene.finish.units
  /-- A worker runs the task of the route and answers. -/
  | worked {matched : RouteMatch Handler} {task : String} {events : List Event}
      {outcome : Worker.Outcome} {sink : Sink} : answers.findSome? id = none → m = some matched →
      matched.route.target = .isolated task →
      d.surroundings.executor.run ⟨task, r, matched.params⟩ {} = (events, .ok (outcome, sink)) →
      Between m answers us [.target]
        ((Response.make 200 Reply.htmlType outcome.answer.body.toBytes).applySink sink) us
  /-- A worker is to run the task of the route and gives no answer. -/
  | failed {matched : RouteMatch Handler} {task : String} {events : List Event}
      {error : Worker.Error} : answers.findSome? id = none → m = some matched →
      matched.route.target = .isolated task →
      d.surroundings.executor.run ⟨task, r, matched.params⟩ {} = (events, .error error) →
      Between m answers us [.target] (.error 500 error.message) us
  | unmatched : answers.findSome? id = none → m = none → Between m answers us [] .notFound us

/-- Whatever the target of a route is, it runs once. -/
theorem between_invoke {matched : RouteMatch Handler} {answers : List (Option Response)}
    (hsilent : answers.findSome? id = none) (us : Units) :
    Between d r unit (some matched) answers us [.target] (d.invoke matched r unit us).1
      (d.invoke matched r unit us).2.2 := by
  unfold invoke
  simp only
  split
  · rename_i handler htarget
    exact .handled hsilent rfl htarget rfl
  · rename_i task htarget
    simp only [runTask]
    split
    · rename_i hrun
      exact .worked hsilent rfl htarget hrun
    · rename_i hrun
      exact .failed hsilent rfl htarget hrun

theorem exists_between (m : Option (RouteMatch Handler)) (answers : List (Option Response))
    (us : Units) :
    ∃ ran response us' events, Between d r unit m answers us ran response us' ∧
      d.settle (answers.findSome? id) m r unit us = (response, ran, events, us') := by
  cases hanswers : answers.findSome? id with
  | some early => exact ⟨[], early, us, [], .answered hanswers, rfl⟩
  | none =>
    cases m with
    | none => exact ⟨[], .notFound, us, _, .unmatched hanswers rfl, rfl⟩
    | some matched => exact ⟨[.target], _, _, _, between_invoke d r unit hanswers us, rfl⟩

theorem route_eq : (d.route r).2 = r.method?.bind fun method => d.table.match? method r.path := by
  unfold route
  cases r.method? with
  | none => rfl
  | some method => cases h : d.table.match? method r.path <;> simp [h]

variable {d} {hooks : List Hooks}

/-- Every hook before is called once, in order, whether or not one of them has answered. The first
answer is the response; without one, the target of the route is invoked once, or there is none.
Every hook after is then called once, in order, with the response as the hook before it left it, and
what the last one leaves is the response. The request's unit is populated at the beginning, which
cannot fail, and given up at the end. -/
theorem dispatchWith_course (h : ∀ k ∈ hooks, k.Returns d.surroundings) (us : Units) (r : Request)
    (now : Moment) : ∃ (unit : UnitId) (m : Option (RouteMatch Handler)) (v : Visit),
    unit = (us.child .root).1 ∧
    m = (r.method?.bind fun method => d.table.match? method r.path) ∧
    v = ⟨r, m, now⟩ ∧
    ∃ us₀ answers us₁ ran response us₂ seen last us₃,
      (us.child .root).2.tryPopulate unit r now.start = .ok us₀ ∧
      Befores d.surroundings v hooks us₀ answers us₁ ∧
      Between d r unit m answers us₁ ran response us₂ ∧
      Afters d.surroundings v hooks response us₂ seen last us₃ ∧
      (d.dispatchWith hooks us r now).1.response = .ok last ∧
      (d.dispatchWith hooks us r now).1.calls =
        (List.range hooks.length).map .before ++ ran ++
          seen.zipIdx.map (fun p => .after p.2 p.1) ∧
      (d.dispatchWith hooks us r now).2 = (us₃.drop unit).1 := by
  obtain ⟨unit, hunit⟩ : ∃ unit, (us.child .root).1 = unit := ⟨_, rfl⟩
  obtain ⟨v, hv⟩ : ∃ v : Visit, ⟨r, (d.route r).2, now⟩ = v := ⟨_, rfl⟩
  have hpopulate := (us.child .root).2.tryPopulate_eq unit r now.start
  obtain ⟨us₀, hus₀⟩ : ∃ us₀, (us.child .root).2.populate unit r now.start = us₀ := ⟨_, rfl⟩
  rw [hus₀] at hpopulate
  obtain ⟨answers, us₁, told, hbefores, hbefore⟩ := exists_befores (v := v) h 0 none us₀
  obtain ⟨ran, response, us₂, did, hbetween, htarget⟩ :=
    exists_between d r unit (d.route r).2 answers us₁
  obtain ⟨seen, last, us₃, more, hafters, hafter⟩ := exists_afters (v := v) h 0 response us₂
  rw [Option.none_or] at hbefore
  refine ⟨unit, (d.route r).2, v, hunit.symm, d.route_eq r, hv.symm, us₀, answers, us₁, ran,
    response, us₂, seen, last, us₃, hpopulate, hbefores, hbetween, hafters, ?_⟩
  simp only [dispatchWith, hunit, hpopulate, answer, hv, hbefore, htarget, hafter,
    List.range_eq_range', and_self]

/-- Writes to the root before, and sets a header after. -/
def marking : Hooks where
  before _ := .perform (.set .root "seen" (.bool true)) fun _ => .pure ([], none)
  after _ r := .pure ([], r.setHeader "X-Seen" "yes")

/-- Answers every request for which there is no route. -/
def refusing (status : UInt16) : Hooks where
  before v := .pure ([], if v.route.isNone then some (.error status "refused") else none)
  after _ r := .pure ([], r)

/-- Sets a value of the request's unit and a status, and replies. -/
def noting : Handler := fun _ => do
  Handler.Program.set .unit "note" (.text "x")
  Handler.Program.setStatus 203
  return .html "noted"

/-- Two hooks answer a request for which there is no route, and the first of the two counts. Where
there is a route they do not, and its handler runs. -/
theorem dispatchWith_course_refused : ∃ (d : Dispatcher) (us : Units) (r served : Request)
    (now : Moment) (noted : Response),
    (∀ k ∈ [marking, refusing 403, refusing 500], k.Returns d.surroundings) ∧
    (d.dispatchWith [marking, refusing 403, refusing 500] us r now).1.response =
      .ok ((Response.error 403 "refused").setHeader "X-Seen" "yes") ∧
    (d.dispatchWith [marking, refusing 403, refusing 500] us r now).1.calls =
      [.before 0, .before 1, .before 2, .after 0 (.error 403 "refused"),
        .after 1 ((Response.error 403 "refused").setHeader "X-Seen" "yes"),
        .after 2 ((Response.error 403 "refused").setHeader "X-Seen" "yes")] ∧
    noted = .ofReply (.html "noted") { status := some 203 } ∧
    (d.dispatchWith [marking, refusing 403, refusing 500] us served now).1.response =
      .ok (noted.setHeader "X-Seen" "yes") ∧
    (d.dispatchWith [marking, refusing 403, refusing 500] us served now).1.calls =
      [.before 0, .before 1, .before 2, .target, .after 0 noted,
        .after 1 (noted.setHeader "X-Seen" "yes"), .after 2 (noted.setHeader "X-Seen" "yes")] := by
  let surroundings : Surroundings := ⟨⟨.missing "worker", 1000⟩, 0⟩
  let pattern : Route.Pattern := ⟨"/", .raw, ⟨"/", .empty⟩, []⟩
  let d : Dispatcher :=
    ⟨{}, ⟨[⟨[⟨"GET"⟩], pattern, "note", .inline noting, ⟨[]⟩⟩]⟩, [], surroundings⟩
  let now : Moment := ⟨.ofInt 0, ⟨2026, 1, 2, 23, 0, 0, 0⟩⟩
  have hreturns : ∀ k ∈ [marking, refusing 403, refusing 500], k.Returns d.surroundings := by
    simp only [List.forall_mem_cons]
    exact ⟨⟨fun _ _ => ⟨_, _, _, rfl⟩, fun _ _ _ => ⟨_, _, _, rfl⟩⟩,
      ⟨fun _ _ => ⟨_, _, _, rfl⟩, fun _ _ _ => ⟨_, _, _, rfl⟩⟩,
      ⟨fun _ _ => ⟨_, _, _, rfl⟩, fun _ _ _ => ⟨_, _, _, rfl⟩⟩, by simp⟩
  -- the requests stay names, so that nothing unfolds what is populated with them
  obtain ⟨r, hr⟩ : ∃ r : Request, (r.method?.bind fun method => d.table.match? method r.path) = none :=
    ⟨.make ⟨0⟩ "no token" "/", rfl⟩
  obtain ⟨served, matched, hserved, htarget⟩ : ∃ (served : Request) (matched : RouteMatch Handler),
      (served.method?.bind fun method => d.table.match? method served.path) = some matched ∧
      matched.route.target = .inline noting := ⟨.make ⟨0⟩ "GET" "/", _, rfl, rfl⟩
  refine ⟨d, {}, r, served, now, .ofReply (.html "noted") { status := some 203 }, hreturns,
    and_assoc.1 ⟨?_, rfl, ?_⟩⟩
  · obtain ⟨unit, m, v, -, hm, hv, us₀, answers, us₁, ran, response, us₂, seen, last, us₃, -,
      hbefores, hbetween, hafters, hresponse, hcalls, -⟩ := dispatchWith_course hreturns {} r now
    rw [hr] at hm
    subst hm hv
    -- each call is one that the hook's definition computes
    obtain _ | ⟨⟨⟩, _ | ⟨⟨⟩, _ | ⟨⟨⟩, ⟨⟩⟩⟩⟩ := hbefores
    have hfirst : ran = [] ∧ response = .error 403 "refused" := by
      cases hbetween with
      | answered hearly => exact ⟨rfl, (Option.some.inj hearly).symm⟩
      | handled hnone => cases hnone
      | worked hnone => cases hnone
      | failed hnone => cases hnone
      | unmatched hnone => cases hnone
    obtain ⟨rfl, rfl⟩ := hfirst
    obtain _ | ⟨⟨⟩, _ | ⟨⟨⟩, _ | ⟨⟨⟩, ⟨⟩⟩⟩⟩ := hafters
    exact ⟨hresponse, hcalls⟩
  · obtain ⟨unit, m, v, -, hm, hv, us₀, answers, us₁, ran, response, us₂, seen, last, us₃, -,
      hbefores, hbetween, hafters, hresponse, hcalls, -⟩ := dispatchWith_course hreturns {} served now
    rw [hserved] at hm
    subst hm hv
    obtain _ | ⟨⟨⟩, _ | ⟨⟨⟩, _ | ⟨⟨⟩, ⟨⟩⟩⟩⟩ := hbefores
    have hran : ran = [.target] ∧ response = .ofReply (.html "noted") { status := some 203 } := by
      cases hbetween with
      | answered hearly => cases hearly
      | @handled m handler result scene hsilent hmatched hinline hrun =>
        cases hmatched
        cases htarget.symm.trans hinline
        have hresult : result = .ok (.html "noted") := (congrArg Prod.fst hrun).symm
        have hsink : scene.sink = { status := some 203 } := (congrArg (·.2.sink) hrun).symm
        rw [hresult, Handler.Scene.finish_sink, hsink]
        exact ⟨rfl, rfl⟩
      | worked _ hmatched hisolated =>
        cases hmatched
        cases htarget.symm.trans hisolated
      | failed _ hmatched hisolated =>
        cases hmatched
        cases htarget.symm.trans hisolated
      | unmatched _ hnone => cases hnone
    obtain ⟨rfl, rfl⟩ := hran
    obtain _ | ⟨⟨⟩, _ | ⟨⟨⟩, _ | ⟨⟨⟩, ⟨⟩⟩⟩⟩ := hafters
    exact ⟨hresponse, hcalls⟩

end Dispatcher

end RequestDispatch
