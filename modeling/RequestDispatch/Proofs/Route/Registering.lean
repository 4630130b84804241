import RequestDispatch.Route.Table

/-!
# The route table after any registrations

Routes are entered one after the other, and some are refused. `Entry.Takes` says that a route
accepts a method and captures a path.

* `Attempt.run_of_ok`, `Attempt.run_of_error`: a route goes to the end of the table, a refusal
  leaves the table alone.
* `Table.matchFrom_eq_some_iff`, `Table.matchFrom_eq_none_iff`: the first route that takes a request
  answers it, with what it captures itself.
* `Table.matchFrom_append`: routes that come later answer only what was not answered before.
* `Table.answers_keep`: all of this after any registrations.
-/

set_option autoImplicit false

namespace RequestDispatch.Route

open Http (Method)

variable {η : Type}

/-- A route that is to be entered. -/
structure Attempt (η : Type) where
  pattern : Pattern
  options : Options
  target : Target η

/-- A route accepts the method and captures these values of the path. -/
def Entry.Takes (r : Entry η) (method : Method) (path : String) (params : List (String × String)) :
    Prop := r.accepts method = true ∧ r.pattern.captures? path = some params

/-! ## Entering routes -/

namespace Attempt

/-- What comes of an attempt, and the table that it leaves. -/
def run (a : Attempt η) (t : Table η) : Except RegistrationError (Entry η) × Table η :=
  (Table.enter a.pattern a.options a.target).run.run t

variable {a : Attempt η}

theorem run_of_error {e : RegistrationError}
    (h : methodsOf a.options.methods a.pattern.source = .error e) (t : Table η) :
    a.run t = (.error e, t) := by
  have hmake : Entry.make a.pattern a.options a.target = .error e := by simp only [Entry.make, h]
  simp only [run, Table.enter, hmake]
  rfl

theorem run_of_ok {methods : List Method}
    (h : methodsOf a.options.methods a.pattern.source = .ok methods) (t : Table η) :
    ∃ r : Entry η, r.methods = methods ∧ r.pattern = a.pattern ∧ r.target = a.target ∧
      a.run t = (.ok r, ⟨t.routes ++ [r]⟩) := by
  cases hmake : Entry.make a.pattern a.options a.target with
  | error e => simp [Entry.make, h] at hmake
  | ok r =>
    have hr : r.methods = methods ∧ r.pattern = a.pattern ∧ r.target = a.target := by
      simp only [Entry.make, h, Except.ok.injEq] at hmake
      subst hmake
      exact ⟨rfl, rfl, rfl⟩
    refine ⟨r, hr.1, hr.2.1, hr.2.2, ?_⟩
    simp only [run, Table.enter, hmake]
    rfl

/-- An attempt adds to the table or leaves it alone. -/
theorem exists_run (a : Attempt η) (t : Table η) :
    ∃ more, (a.run t).2.routes = t.routes ++ more := by
  cases h : methodsOf a.options.methods a.pattern.source with
  | error e => exact ⟨[], by simp [run_of_error h]⟩
  | ok methods =>
    obtain ⟨r, -, -, -, hrun⟩ := run_of_ok h t
    exact ⟨[r], by simp [hrun]⟩

end Attempt

/-! ## Looking routes up -/

namespace Table

variable {method : Method} {path : String} {params : List (String × String)} {r : Entry η}
  {routes : List (Entry η)} {index : Nat}

theorem matchFrom_of_takes (h : r.Takes method path params) :
    matchFrom method path index (r :: routes) = some ⟨index, r, params⟩ := by
  simp [matchFrom, h.1, h.2]

theorem matchFrom_of_not_takes (h : ∀ params, ¬ r.Takes method path params) :
    matchFrom method path index (r :: routes) = matchFrom method path (index + 1) routes := by
  cases haccepts : r.accepts method with
  | false => simp [matchFrom, haccepts]
  | true =>
    cases hparams : r.pattern.captures? path with
    | none => simp [matchFrom, haccepts, hparams]
    | some params => exact absurd ⟨haccepts, hparams⟩ (h params)

theorem matchFrom_eq_none_iff :
    matchFrom method path index routes = none ↔
      ∀ r ∈ routes, ∀ params, ¬ r.Takes method path params := by
  induction routes generalizing index with
  | nil => simp [matchFrom]
  | cons r routes ih =>
    by_cases hr : ∃ params, r.Takes method path params
    · obtain ⟨params, hr⟩ := hr
      rw [matchFrom_of_takes hr]
      simp only [reduceCtorEq, false_iff]
      exact fun h => h r (.head _) params hr
    · rw [not_exists] at hr
      rw [matchFrom_of_not_takes hr, ih]
      simp [hr]

/-- The route at a place answers if it takes the request and no route before it does. -/
theorem matchFrom_eq_some_iff {m : RouteMatch η} :
    matchFrom method path index routes = some m ↔
      ∃ k, m.index = index + k ∧ routes[k]? = some m.route ∧
        m.route.Takes method path m.params ∧
        ∀ j r, j < k → routes[j]? = some r → ∀ params, ¬ r.Takes method path params := by
  induction routes generalizing index with
  | nil => simp [matchFrom]
  | cons r routes ih =>
    by_cases hr : ∃ params, r.Takes method path params
    · obtain ⟨params, hr⟩ := hr
      rw [matchFrom_of_takes hr, Option.some.injEq]
      constructor
      · rintro rfl
        exact ⟨0, rfl, rfl, hr, fun j r hj => absurd hj (Nat.not_lt_zero j)⟩
      · rintro ⟨k, hindex, hroute, htakes, hnone⟩
        cases k with
        | zero =>
          obtain ⟨i, r', params'⟩ := m
          obtain rfl : r = r' := Option.some.inj hroute
          obtain rfl : params = params' := Option.some.inj (hr.2.symm.trans htakes.2)
          obtain rfl : i = index := hindex
          rfl
        | succ k => exact absurd hr (hnone 0 r (Nat.succ_pos k) rfl params)
    · rw [not_exists] at hr
      rw [matchFrom_of_not_takes hr, ih]
      constructor
      · rintro ⟨k, hindex, hroute, htakes, hnone⟩
        refine ⟨k + 1, by omega, hroute, htakes, fun j r' hj hget => ?_⟩
        cases j with
        | zero => exact Option.some.inj hget ▸ hr
        | succ j => exact hnone j r' (Nat.lt_of_succ_lt_succ hj) hget
      · rintro ⟨k, hindex, hroute, htakes, hnone⟩
        cases k with
        | zero => exact absurd (Option.some.inj hroute ▸ htakes) (hr m.params)
        | succ k =>
          exact ⟨k, by omega, hroute, htakes, fun j r' hj hget =>
            hnone (j + 1) r' (Nat.succ_lt_succ hj) hget⟩

theorem matchFrom_append (more : List (Entry η)) :
    matchFrom method path index (routes ++ more) =
      (matchFrom method path index routes).or
        (matchFrom method path (index + routes.length) more) := by
  induction routes generalizing index with
  | nil => rfl
  | cons r routes ih =>
    rw [List.cons_append]
    by_cases hr : ∃ params, r.Takes method path params
    · obtain ⟨params, hr⟩ := hr
      rw [matchFrom_of_takes hr, matchFrom_of_takes hr, Option.some_or]
    · rw [not_exists] at hr
      rw [matchFrom_of_not_takes hr, matchFrom_of_not_takes hr, ih, List.length_cons,
        Nat.add_assoc, Nat.add_comm 1]

/-! ## Any registrations -/

/-- The table after attempts that start from an empty one. -/
def afterAll (attempts : List (Attempt η)) : Table η := attempts.foldl (fun t a => (a.run t).2) {}

/-- Attempts add to the table that there is. -/
theorem exists_foldl_run (attempts : List (Attempt η)) (t : Table η) :
    ∃ more, (attempts.foldl (fun t a => (a.run t).2) t).routes = t.routes ++ more := by
  induction attempts generalizing t with
  | nil => exact ⟨[], (List.append_nil _).symm⟩
  | cons a attempts ih =>
    obtain ⟨first, hfirst⟩ := a.exists_run t
    obtain ⟨rest, hrest⟩ := ih (a.run t).2
    refine ⟨first ++ rest, ?_⟩
    rw [List.foldl_cons, hrest, hfirst, List.append_assoc]

theorem exists_afterAll_append (attempts later : List (Attempt η)) :
    ∃ more, (afterAll (attempts ++ later)).routes = (afterAll attempts).routes ++ more := by
  rw [afterAll, List.foldl_append]
  exact exists_foldl_run later _

/-- After any attempts: the next one is refused and leaves the table alone, if it names no method or
one that is none, and otherwise adds its route at the end. A request is answered by the first
route that accepts its method and captures its path, with what that route captures, and by none
only where there is no such route. Attempts that follow do not change an answer. -/
theorem answers_keep (attempts : List (Attempt η)) :
    (∀ a : Attempt η,
      (∀ e, methodsOf a.options.methods a.pattern.source = .error e →
        a.run (afterAll attempts) = (.error e, afterAll attempts)) ∧
      ∀ methods, methodsOf a.options.methods a.pattern.source = .ok methods →
        ∃ r : Entry η, r.methods = methods ∧ r.pattern = a.pattern ∧ r.target = a.target ∧
          a.run (afterAll attempts) = (.ok r, ⟨(afterAll attempts).routes ++ [r]⟩)) ∧
    ∀ method path,
      ((afterAll attempts).match? method path = none ↔
        ∀ r ∈ (afterAll attempts).routes, ∀ params, ¬ r.Takes method path params) ∧
      (∀ m, (afterAll attempts).match? method path = some m ↔
        (afterAll attempts).routes[m.index]? = some m.route ∧
          m.route.Takes method path m.params ∧
          ∀ j r, j < m.index → (afterAll attempts).routes[j]? = some r →
            ∀ params, ¬ r.Takes method path params) ∧
      ∀ later m, (afterAll attempts).match? method path = some m →
        (afterAll (attempts ++ later)).match? method path = some m := by
  refine ⟨fun a => ⟨fun e h => a.run_of_error h _, fun methods h => a.run_of_ok h _⟩,
    fun method path => ⟨matchFrom_eq_none_iff, fun m => ?_, fun later m hm => ?_⟩⟩
  · rw [match?, matchFrom_eq_some_iff]
    simp
  · obtain ⟨more, hmore⟩ := exists_afterAll_append attempts later
    rw [match?] at hm
    rw [match?, hmore, matchFrom_append, hm, Option.some_or]

/-- A page, an attempt with a method that is none, and the page once more for a worker. -/
theorem answers_keep_shadowed : ∃ page : Pattern, Pattern.template "/page" = .ok page ∧
    ∃ first bad late : Attempt Unit,
      first = ⟨page, { methods := [" get", "POST"] }, .inline ()⟩ ∧
      bad = ⟨page, { methods := ["GET", "no token"] }, .inline ()⟩ ∧
      late = ⟨page, {}, .isolated "late"⟩ ∧
      methodsOf bad.options.methods page.source = .error (.invalidMethod "no token") ∧
      bad.run (afterAll [first]) = (.error (.invalidMethod "no token"), afterAll [first]) ∧
      ∃ m, (afterAll [first]).match? ⟨"GET"⟩ "/page" = some m ∧ m.route.target = .inline () ∧
        (afterAll ([first] ++ [bad, late])).match? ⟨"GET"⟩ "/page" = some m := by
  obtain ⟨page, hpage, m, hm, htarget⟩ : ∃ page, Pattern.template "/page" = .ok page ∧
      ∃ m, (afterAll [⟨page, { methods := [" get", "POST"] }, .inline ()⟩]).match? ⟨"GET"⟩ "/page" =
          some m ∧ m.route.target = .inline () := ⟨_, rfl, _, rfl, rfl⟩
  let bad : Attempt Unit := ⟨page, { methods := ["GET", "no token"] }, .inline ()⟩
  let late : Attempt Unit := ⟨page, {}, .isolated "late"⟩
  obtain ⟨hattempt, hlook⟩ := answers_keep [⟨page, { methods := [" get", "POST"] }, .inline ()⟩]
  obtain ⟨-, -, hkeep⟩ := hlook ⟨"GET"⟩ "/page"
  have hbad : methodsOf bad.options.methods page.source = .error (.invalidMethod "no token") := rfl
  exact ⟨page, hpage, _, bad, late, rfl, rfl, rfl, hbad, (hattempt bad).1 _ hbad, m, hm, htarget,
    hkeep [bad, late] m hm⟩

end Table

end RequestDispatch.Route
