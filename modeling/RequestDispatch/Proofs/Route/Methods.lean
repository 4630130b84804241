import RequestDispatch.Proofs.Dispatcher.Course
import RequestDispatch.Proofs.Route.Arguments

/-!
# The methods that routes accept

A route is registered with names of methods, in any case and with white space around them. Both are
taken off a name (`canonical`), as the case is of the method of a request.

* `methodsOf_eq`: names that are all tokens then are a set, in the order of their first mention; the
  first one that is none refuses the registration, as no name at all does.
* `accepts_iff`: the route accepts the methods of these names.
* `method?_make`: a request has a method if the text in capitals is a token.
* `Table.register_methods`: so a request is tried against the route exactly if its method, in
  capitals, is one of the names.
-/

set_option autoImplicit false

namespace RequestDispatch.Route

open Http (Method isToken)

/-- The name that is meant by a name of any case, with white space around it. -/
def canonical (name : String) : String := Method.upper (Text.trim name)

/-- The first of some names that stands for no method. -/
def firstRefused? (names : List String) : Option String :=
  names.find? fun name => !isToken (canonical name)

/-! ## Sets of methods -/

theorem foldl_addMethod (set methods : List Method) :
    methods.foldl addMethod set = set ++ (methods.removeAll set).eraseDups := by
  induction methods generalizing set with
  | nil => simp
  | cons m methods ih =>
    rw [List.foldl_cons, ih, addMethod, List.cons_removeAll]
    by_cases hm : m ∈ set
    · rw [if_pos hm, if_neg (by simpa using hm)]
    · have hrest : methods.removeAll (set ++ [m]) = (methods.removeAll set).filter (!· == m) := by
        simp only [List.removeAll, List.filter_filter]
        refine List.filter_congr fun other _ => ?_
        rw [Bool.eq_iff_iff]
        simp [and_comm]
      rw [if_neg hm, if_pos (by simpa using hm), List.eraseDups_cons, hrest, List.append_assoc]
      rfl

theorem normalize_eq (name : String) :
    Method.normalize name = if isToken (canonical name) then some ⟨canonical name⟩ else none := by
  rw [Method.normalize, Method.ofToken?, canonical]

theorem methodSet_cons (set : List Method) (name : String) (names : List String) :
    methodSet set (name :: names) =
      if isToken (canonical name) then methodSet (addMethod set ⟨canonical name⟩) names
      else .error (.invalidMethod name) := by
  conv => lhs; unfold methodSet
  rw [normalize_eq]
  cases isToken (canonical name) <;> rfl

theorem methodSet_eq (set : List Method) (names : List String) :
    methodSet set names =
      match firstRefused? names with
      | some name => .error (.invalidMethod name)
      | none => .ok ((names.map fun name => ⟨canonical name⟩).foldl addMethod set) := by
  induction names generalizing set with
  | nil => rfl
  | cons name names ih =>
    have hfirst : firstRefused? (name :: names) =
        if isToken (canonical name) then firstRefused? names else some name := by
      rw [firstRefused?, List.find?_cons]
      cases isToken (canonical name) <;> rfl
    rw [methodSet_cons, ih, hfirst]
    cases isToken (canonical name) <;> rfl

theorem methodsOf_eq (names : List String) (source : String) :
    methodsOf names source =
      if names = [] then .error (.noMethods source)
      else
        match firstRefused? names with
        | some name => .error (.invalidMethod name)
        | none => .ok (names.map fun name => (⟨canonical name⟩ : Method)).eraseDups := by
  rw [methodsOf, methodSet_eq, foldl_addMethod, List.removeAll_nil]
  rfl

theorem firstRefused?_eq_none {names : List String} :
    firstRefused? names = none ↔ ∀ name ∈ names, isToken (canonical name) = true := by
  simp [firstRefused?]

theorem mem_methods_iff {names : List String} {m : Method} :
    m ∈ (names.map fun name => (⟨canonical name⟩ : Method)).eraseDups ↔
      m.name ∈ names.map canonical := by
  obtain ⟨text⟩ := m
  simp [List.mem_eraseDups]

/-! ## Registered routes -/

namespace Table

variable {η : Type} {t : Table η} {pattern : Pattern} {options : Options} {target : Target η}

theorem register_of_error {e : RegistrationError}
    (h : methodsOf options.methods pattern.source = .error e) :
    t.register pattern options target = .error e := by
  rw [register_eq, Entry.make, h]
  rfl

theorem register_of_ok {methods : List Method}
    (h : methodsOf options.methods pattern.source = .ok methods) :
    ∃ r : Entry η, t.register pattern options target = .ok (⟨t.routes ++ [r]⟩, r) ∧
      r.methods = methods := by
  rw [register_eq, Entry.make, h]
  exact ⟨_, rfl, rfl⟩

end Table

theorem accepts_iff {η : Type} {r : Entry η} {names : List String}
    (h : r.methods = (names.map fun name => (⟨canonical name⟩ : Method)).eraseDups) {m : Method} :
    r.accepts m = true ↔ m.name ∈ names.map canonical := by
  rw [Entry.accepts, h, List.contains_iff_mem, mem_methods_iff]

/-! ## Requests -/

theorem method?_make (id : RequestId) (method target : String) :
    (Request.make id method target).method? =
      if isToken (Method.upper method) then some ⟨Method.upper method⟩ else none := by
  rw [Request.method?, Request.make, Method.ofToken?]

/-- A route is for the requests whose methods, in capitals, are among some names: it accepts their
methods and no others, and where it stands in a table that requests are dispatched with, its pattern
decides on them and on no others, unless a route before it answers. -/
structure Serves (r : Entry Handler) (names : List String) : Prop where
  accepts : ∀ id method target,
    (∃ m, (Request.make id method target).method? = some m ∧ r.accepts m = true) ↔
      Method.upper method ∈ names
  tried : ∀ (d : Dispatcher) (place : Nat), d.table.routes[place]? = some r →
    ∀ id method target params,
      (d.route (.make id method target)).2 = some ⟨place, r, params⟩ ↔
        Method.upper method ∈ names ∧
        r.pattern.captures? (Request.make id method target).path = some params ∧
        ∀ before earlier, before < place → d.table.routes[before]? = some earlier →
          ∀ other, ¬ earlier.Takes ⟨Method.upper method⟩ (Request.make id method target).path other

theorem serves_of_methods {r : Entry Handler} {names : List String}
    (h : r.methods = (names.map fun name => (⟨canonical name⟩ : Method)).eraseDups)
    (htokens : ∀ name ∈ names, isToken (canonical name) = true) : Serves r (names.map canonical) := by
  have htoken : ∀ method, Method.upper method ∈ names.map canonical →
      isToken (Method.upper method) = true := by
    intro method hmem
    obtain ⟨name, hname, heq⟩ := List.mem_map.1 hmem
    exact heq ▸ htokens name hname
  refine ⟨fun id method target => ?_, fun d place hplace id method target params => ?_⟩
  · rw [method?_make]
    constructor
    · rintro ⟨m, hm, haccepts⟩
      split at hm
      · obtain rfl := Option.some.inj hm
        exact (accepts_iff h).1 haccepts
      · cases hm
    · intro hmem
      rw [if_pos (htoken method hmem)]
      exact ⟨_, rfl, (accepts_iff h).2 hmem⟩
  · rw [d.route_eq, method?_make]
    by_cases hmethod : isToken (Method.upper method) = true
    · rw [if_pos hmethod, Option.bind_some, Table.match?, Table.matchFrom_eq_some_iff]
      simp only [Nat.zero_add, Entry.Takes, accepts_iff h]
      constructor
      · rintro ⟨k, rfl, -, ⟨hmem, hcaptures⟩, hbefore⟩
        exact ⟨hmem, hcaptures, hbefore⟩
      · rintro ⟨hmem, hcaptures, hbefore⟩
        exact ⟨place, rfl, hplace, ⟨hmem, hcaptures⟩, hbefore⟩
    · rw [if_neg hmethod, Option.bind_none]
      simp only [reduceCtorEq, false_iff]
      exact fun hall => hmethod (htoken method hall.1)

/-- A route is registered if it has names and all of them, trimmed and in capitals, are tokens;
otherwise the registration is refused for having none, or for the first that is no token, as it was
written. The methods of the route are then the names, trimmed and in capitals, each once and in the
order of first mention. A request is tried against the route exactly if its method, in capitals, is
one of them, and a request of which the method is no token is tried against no route at all. Other
names for the same methods make a route that accepts the same. -/
theorem Table.register_methods (t : Table Handler) (pattern : Pattern) (options : Options)
    (target : Target Handler) :
    (options.methods = [] → t.register pattern options target = .error (.noMethods pattern.source)) ∧
    (∀ name, firstRefused? options.methods = some name →
      t.register pattern options target = .error (.invalidMethod name)) ∧
    (options.methods ≠ [] → (∀ name ∈ options.methods, isToken (canonical name) = true) →
      ∃ r, t.register pattern options target = .ok (⟨t.routes ++ [r]⟩, r) ∧
        r.pattern = pattern ∧
        r.methods = (options.methods.map fun name => ⟨canonical name⟩).eraseDups ∧
        Serves r (options.methods.map canonical) ∧
        ∀ more : Options, (∀ name, name ∈ more.methods.map canonical ↔
            name ∈ options.methods.map canonical) →
          ∃ r', t.register pattern more target = .ok (⟨t.routes ++ [r']⟩, r') ∧
            ∀ m, r'.accepts m = r.accepts m) ∧
    ∀ id method target, (Request.make id method target).method? = none →
      ∀ d : Dispatcher, (d.route (.make id method target)).2 = none := by
  have hregister : ∀ o : Options, o.methods ≠ [] →
      (∀ name ∈ o.methods, isToken (canonical name) = true) →
      ∃ r, t.register pattern o target = .ok (⟨t.routes ++ [r]⟩, r) ∧
        r.methods = (o.methods.map fun name => ⟨canonical name⟩).eraseDups := by
    intro o hne htokens
    refine register_of_ok ?_
    rw [methodsOf_eq, if_neg hne, firstRefused?_eq_none.2 htokens]
  refine ⟨fun hnil => register_of_error ?_, fun name hname => register_of_error ?_,
    fun hne htokens => ?_, fun id method target hnone d => ?_⟩
  · rw [methodsOf_eq, if_pos hnil]
  · have hne : options.methods ≠ [] := by
      intro hnil
      rw [hnil] at hname
      cases hname
    rw [methodsOf_eq, if_neg hne, hname]
  · obtain ⟨r, hr, hmethods⟩ := hregister options hne htokens
    refine ⟨r, hr, (register_eq_ok hr).1, hmethods, serves_of_methods hmethods htokens,
      fun more hsame => ?_⟩
    have hmore : ∀ name ∈ more.methods, isToken (canonical name) = true := by
      intro name hname
      obtain ⟨other, hother, heq⟩ := List.mem_map.1 ((hsame _).1 (List.mem_map_of_mem hname))
      exact heq ▸ htokens other hother
    have hmorene : more.methods ≠ [] := by
      obtain ⟨name, hname⟩ := List.exists_mem_of_ne_nil _ hne
      obtain ⟨other, hother, -⟩ := List.mem_map.1 ((hsame _).2 (List.mem_map_of_mem hname))
      exact List.ne_nil_of_mem hother
    obtain ⟨r', hr', hmethods'⟩ := hregister more hmorene hmore
    refine ⟨r', hr', fun m => ?_⟩
    rw [Bool.eq_iff_iff, accepts_iff hmethods', accepts_iff hmethods, hsame]
  · rw [d.route_eq, hnone, Option.bind_none]

/-- Three methods in four spellings, one of them of nobody else; and a list with two names that are no
tokens. -/
theorem Table.register_methods_spellings : ∃ pattern, Pattern.template "/page" = .ok pattern ∧
    ∃ names refused : List String, names = [" get", "POST", "Get\t", "purge"] ∧
      refused = ["get", "no token", "("] ∧
      names ≠ [] ∧ (∀ name ∈ names, isToken (canonical name) = true) ∧
      firstRefused? refused = some "no token" ∧
      ({} : Table Handler).register pattern { methods := refused } (.isolated "page") =
        .error (.invalidMethod "no token") ∧
      ∃ r, ({} : Table Handler).register pattern { methods := names } (.isolated "page") =
          .ok (⟨[r]⟩, r) ∧
        r.methods = [⟨"GET"⟩, ⟨"POST"⟩, ⟨"PURGE"⟩] ∧
        ∃ m, (Request.make ⟨0⟩ "Purge" "/page").method? = some m ∧ r.accepts m = true := by
  obtain ⟨pattern, hpattern⟩ : ∃ pattern, Pattern.template "/page" = .ok pattern := ⟨_, rfl⟩
  have htokens : ∀ name ∈ [" get", "POST", "Get\t", "purge"], isToken (canonical name) = true := by
    decide +kernel
  have hrefused : firstRefused? ["get", "no token", "("] = some "no token" := by decide +kernel
  obtain ⟨-, hfails, -, -⟩ := Table.register_methods {} pattern
    { methods := ["get", "no token", "("] } (.isolated "page")
  obtain ⟨-, -, hregister, -⟩ := Table.register_methods {} pattern
    { methods := [" get", "POST", "Get\t", "purge"] } (.isolated "page")
  obtain ⟨r, hr, -, hmethods, hserves, -⟩ := hregister (by simp) htokens
  refine ⟨pattern, hpattern, _, _, rfl, rfl, by simp, htokens, hrefused, hfails _ hrefused, r, hr, ?_,
    (hserves.accepts ⟨0⟩ "Purge" "/page").2 (by decide +kernel)⟩
  rw [hmethods]
  decide +kernel

end RequestDispatch.Route
