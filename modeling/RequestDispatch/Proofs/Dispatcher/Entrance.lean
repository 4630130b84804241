import RequestDispatch.Proofs.Context.WellKnown
import RequestDispatch.Proofs.Dispatcher.Leaving

/-!
# What a handler finds when it starts

* `entrance`: the scene in which the handler for a request starts where no hook uses units.
  `dispatch_inline`: a request that a route matches and no hook answers is answered by what the handler
  does from there. `dispatchWith_inline`: otherwise it starts with the units as the hooks left them.
* `Finds`: a scene shows a handler the request under the well-known keys, and the root's values
  under all others.
* `reachable_dispatch`: whatever handlers do, the store stays one that operations lead to, as it is
  at the beginning (`exists_firstUnits`).
* `shows_callBefore`: hooks that use units do not get at the one of the request, so a handler `Enters`
  where they have left the units.
* `entrance_finds`: in all these stores a handler finds its request.
-/

set_option autoImplicit false

namespace RequestDispatch

open Context (Store UnitId Units View)
open Handler (Handle Object Program Scene Surroundings putAll)
open Route (RouteMatch)

/-- The root begins with the configured values. -/
theorem App.exists_firstUnits (c : Config) :
    ∃ s : Store, App.firstUnits c = { store := s } ∧ s.Reachable ∧
      s.node? .root = some ⟨none, Dictionary.ofPairs c.context⟩ := by
  obtain ⟨s, hwritten⟩ := Store.exists_written (s := {}) (u := .root) rfl c.context
  have hunits : App.firstUnits c = { store := s } := Units.foldl_set hwritten.run
  exact ⟨s, hunits, hwritten.reachable .first, hwritten.node?_self rfl⟩

namespace Dispatcher

/-- The scene in which the handler for a request starts. -/
def entrance (us : Units) (r : Request) (now : Moment) : Scene :=
  .start (populated us r now) (us.child .root).1

variable {d : Dispatcher} {us : Units} {r : Request} {now : Moment}

/-- The handler starts with the units as the hooks before it have left them. -/
theorem dispatchWith_inline {hooks : List Hooks} {told : List Trace.Event} {called : List Call}
    {us₁ : Units} {m : RouteMatch Handler} {handler : Handler}
    (hbefore : callBefore d.surroundings ⟨r, (d.route r).2, now⟩ 0 none hooks (populated us r now) =
      (told, called, .ok none, us₁))
    (hroute : (d.route r).2 = some m) (htarget : m.route.target = .inline handler)
    {ran : Except Handler.Failure Reply × Scene}
    (hrun : (handler (m.route.plan.bind m.params (Object.ofKeyword r))).run d.surroundings
      (.start us₁ (us.child .root).1) = ran) :
    let afterwards := callAfter d.surroundings ⟨r, some m, now⟩ 0 (respond ran.2.finish.sink ran.1)
      hooks ran.2.finish.units
    (d.dispatchWith hooks us r now).1.response = afterwards.2.2.1 ∧
      (d.dispatchWith hooks us r now).2 = (afterwards.2.2.2.drop (us.child .root).1).1 := by
  subst ran
  rw [hroute, populated] at hbefore
  simp only [dispatchWith, Units.tryPopulate_eq, answer, hroute, hbefore, settle, target, invoke,
    htarget, runHandler, and_self]

theorem dispatch_inline {m : RouteMatch Handler} {handler : Handler}
    (hroute : (d.route r).2 = some m) (htarget : m.route.target = .inline handler)
    (hsilent : (before ⟨r, some m, now⟩ 0 none d.middlewares).2.2 = none)
    {ran : Except Handler.Failure Reply × Scene}
    (hrun : (handler (m.route.plan.bind m.params (Object.ofKeyword r))).run d.surroundings
      (entrance us r now) = ran) :
    (d.dispatch us r now).1.response =
        (after ⟨r, some m, now⟩ 0 (respond ran.2.finish.sink ran.1) d.middlewares).2.2 ∧
      (d.dispatch us r now).2 = (ran.2.finish.units.drop (us.child .root).1).1 := by
  have hbefore := callBefore_hooks d.surroundings ⟨r, (d.route r).2, now⟩ 0 none d.middlewares
    (populated us r now)
  rw [hroute, hsilent, ← hroute] at hbefore
  obtain ⟨hresponse, hunits⟩ := dispatchWith_inline hbefore hroute htarget hrun
  rw [callAfter_hooks] at hresponse hunits
  simp only [dispatch, hresponse]
  exact ⟨rfl, hunits⟩

/-! ## The stores that requests come to -/

theorem reachable_populated (hus : us.store.Reachable) (r : Request) (now : Moment) :
    (populated us r now).store.Reachable := by
  obtain ⟨s, hwritten, hpopulate, -, -⟩ := Units.exists_populated hus r now.start
  rw [populated, hpopulate]
  exact hwritten.reachable (Units.reachable_child hus .root)

theorem reachable_target (hus : us.store.Reachable) (d : Dispatcher)
    (m : Option (RouteMatch Handler)) (r : Request) (unit : UnitId) :
    (d.target m r unit us).2.2.2.store.Reachable := by
  cases m with
  | none => exact hus
  | some m =>
    simp only [target, invoke]
    split
    · exact Scene.reachable_finish (Program.reachable_run d.surroundings _ hus)
    · exact hus

/-- A request leaves the store as operations on it may leave it, whatever its handler does. -/
theorem reachable_dispatch (hus : us.store.Reachable) (d : Dispatcher) (r : Request)
    (now : Moment) : (d.dispatch us r now).2.store.Reachable := by
  have hpopulated := reachable_populated hus r now
  simp only [dispatch, dispatchWith, Units.tryPopulate_eq, answer, callBefore_hooks,
    callAfter_hooks, settle]
  refine Units.reachable_drop ?_ _
  split
  · exact hpopulated
  · exact reachable_target hpopulated d _ r _

/-! ## What a handler finds -/

/-- A scene shows a handler the request under the well-known keys, and under any other key what
there is above its unit. -/
structure Finds (s : Surroundings) (w : Scene) (r : Request) (above : String → Option Json) :
    Prop where
  request : (Program.view .unit View.request).run s w = (.ok (.ok r), w)
  query : (Program.view .unit View.query).run s w = (.ok (.ok r.query), w)
  cookies : (Program.view .unit View.cookies).run s w = (.ok (.ok r.cookies), w)
  form : (Program.view .unit View.form).run s w = (.ok (.ok r.form), w)
  server : (Program.view .unit View.server).run s w = (.ok (.ok r.serverVars), w)
  session : ∃ members, (Program.view .unit View.session).run s w = (.ok (.ok members), w) ∧
    Dictionary.find? "UNIQUE_REQUEST_ID" members = some (.text r.id.text)
  other : ∀ key, key ∉ ["request", "get", "post", "cookie", "server", "session"] →
    (Program.get .unit key).run s w = (.ok (Store.found key (above key)), w)

theorem finds_of_shows {s : Surroundings} {w : Scene} {u : UnitId} {start : Context.StartTime}
    (hu : w.unit? .unit = some u) (hw : w.units.store.Shows u r start) :
    Finds s w r fun key => w.units.store.own? key .root := by
  obtain ⟨members, hmembers, hid⟩ := Context.decode_session r.id start
  refine ⟨?_, ?_, ?_, ?_, ?_, ⟨members, ?_, hid⟩, fun key hkey => ?_⟩
  · rw [Program.run_view hu, hw.read View.request (.head _) r.decode_toValue]
  · rw [Program.run_view hu, hw.read View.query (.tail _ (.head _)) (Json.decode_texts r.query)]
  · rw [Program.run_view hu, hw.read View.cookies (.tail _ (.tail _ (.tail _ (.head _))))
      (Json.decode_texts r.cookies)]
  · rw [Program.run_view hu, hw.read View.form (.tail _ (.tail _ (.head _)))
      (Context.decode_form r)]
  · rw [Program.run_view hu, hw.read View.server (.tail _ (.tail _ (.tail _ (.tail _ (.head _)))))
      (Context.decode_server r)]
  · rw [Program.run_view hu, hw.read View.session
      (.tail _ (.tail _ (.tail _ (.tail _ (.tail _ (.head _)))))) hmembers]
  · rw [Program.run_get hu, hw.get_of_not_mem hkey]

/-- Where hooks have left the units `us₁`, the handler for a request starts with them. It finds the
request, and the root's values with what the hooks wrote there, and what it does is what the hooks
after are given. -/
structure Enters (d : Dispatcher) (hooks : List Hooks) (us : Units) (r : Request) (now : Moment)
    (us₁ : Units) : Prop where
  finds : Finds d.surroundings (.start us₁ (us.child .root).1) r fun key =>
    us₁.store.own? key .root
  root : ∀ top, us.store.node? .root = some ⟨none, top⟩ → us₁.store.node? .root =
    some ⟨none, putAll top (stepsBefore d.surroundings ⟨r, (d.route r).2, now⟩ hooks
      (populated us r now))⟩
  runs : ∀ m handler, (d.route r).2 = some m → m.route.target = .inline handler →
    ∀ result scene, (handler (m.route.plan.bind m.params (Object.ofKeyword r))).run
        d.surroundings (.start us₁ (us.child .root).1) = (result, scene) →
      let afterwards := callAfter d.surroundings ⟨r, some m, now⟩ 0
        (respond scene.finish.sink result) hooks scene.finish.units
      (d.dispatchWith hooks us r now).1.response = afterwards.2.2.1 ∧
        (d.dispatchWith hooks us r now).2 = (afterwards.2.2.2.drop (us.child .root).1).1

/-- Hooks have no handle to the request's unit, so it shows the request when they are over, and of
the other units they have changed none but the root, by what they wrote to it. -/
theorem shows_callBefore {outside : List UnitId} (hs : us.Settled outside)
    {top : List (String × Json)} (hroot : us.store.node? .root = some ⟨none, top⟩)
    (s : Surroundings) (v : Visit) (hooks : List Hooks) (r : Request) (now : Moment) :
    (callBefore s v 0 none hooks (populated us r now)).2.2.2.store.Shows (us.child .root).1 r
        now.start ∧
      (callBefore s v 0 none hooks (populated us r now)).2.2.2.store.node? .root =
        some ⟨none, putAll top (stepsBefore s v hooks (populated us r now))⟩ := by
  obtain ⟨hpopulated, hsince, -⟩ := since_populated hs hroot r now
  obtain ⟨store, -, hpopulate, hshows, -⟩ := Units.exists_populated hs.rising.reachable r now.start
  have hstore : (populated us r now).store = store := by rw [populated, hpopulate]
  have hunit := hshows.unit
  rw [← hstore] at hunit
  have hne : (us.child .root).1 ≠ .root := by
    intro heq
    rw [heq, hsince.root] at hunit
    cases hunit
  -- the hooks work with units opened since the request's unit was populated
  have hleaves : Handler.Leaves (populated us r now) ((us.child .root).1 :: outside) top
      (stepsBefore s v hooks (populated us r now))
      (callBefore s v 0 none hooks (populated us r now)).2.2.2 :=
    leaves_before hpopulated (Context.Units.Since.refl hpopulated hsince.root) 0 none
  refine ⟨⟨?_, _, hleaves.since.root⟩, hleaves.since.root⟩
  rw [hleaves.since.node?_eq hleaves.settled hpopulated, if_neg hne]
  exact hunit

theorem enters_of_callBefore {outside : List UnitId} (hs : us.Settled outside) {hooks : List Hooks}
    {told : List Trace.Event} {called : List Call} {us₁ : Units}
    (hbefore : callBefore d.surroundings ⟨r, (d.route r).2, now⟩ 0 none hooks (populated us r now) =
      (told, called, .ok none, us₁)) : d.Enters hooks us r now us₁ := by
  obtain ⟨top, htop⟩ := hs.rising.reachable.root
  obtain ⟨hshown, hwrites⟩ :=
    shows_callBefore hs htop d.surroundings ⟨r, (d.route r).2, now⟩ hooks r now
  rw [hbefore] at hshown hwrites
  refine ⟨finds_of_shows (u := (us.child .root).1) rfl hshown, fun top' htop' => ?_,
    fun m handler hroute htarget result scene hrun =>
      dispatchWith_inline hbefore hroute htarget hrun⟩
  cases htop.symm.trans htop'
  exact hwrites

/-- Whatever has been done with a store before, the handler for a request starts where its unit
shows it the request, and the root's values where the request has none. The values of the request
are all written and the root's are left alone; a root that was not written since the beginning has
the configured values. The stores at the beginning and after a request are such stores. Where hooks
use units before the handler starts, it finds the root's values as they have left them, and nothing
else is different. -/
theorem entrance_finds (d : Dispatcher) {us : Units} (hus : us.store.Reachable) (r : Request)
    (now : Moment) :
    (∀ m handler, (d.route r).2 = some m → m.route.target = .inline handler →
      (before ⟨r, some m, now⟩ 0 none d.middlewares).2.2 = none →
      ∀ result scene, (handler (m.route.plan.bind m.params (Object.ofKeyword r))).run
          d.surroundings (entrance us r now) = (result, scene) →
        (d.dispatch us r now).1.response =
            (after ⟨r, some m, now⟩ 0 (respond scene.finish.sink result) d.middlewares).2.2 ∧
          (d.dispatch us r now).2 = (scene.finish.units.drop (us.child .root).1).1) ∧
    Finds d.surroundings (entrance us r now) r (fun key => us.store.own? key .root) ∧
    (Context.wellKnown r now.start).foldlM (fun s p => s.set (us.child .root).1 p.1 p.2)
      (us.child .root).2.store = .ok (entrance us r now).units.store ∧
    (entrance us r now).units.store.node? .root = us.store.node? .root ∧
    (∀ c : Config, us.store.node? .root = (App.firstUnits c).store.node? .root →
      ∀ key, us.store.own? key .root =
        Dictionary.find? key (Dictionary.ofPairs c.context)) ∧
    (∀ c : Config, (App.firstUnits c).store.Reachable) ∧
    (d.dispatch us r now).2.store.Reachable ∧
    (∀ (hooks : List Hooks) (outside : List UnitId), us.Settled outside →
      (∀ told called us₁, callBefore d.surroundings ⟨r, (d.route r).2, now⟩ 0 none hooks
          (populated us r now) = (told, called, .ok none, us₁) → d.Enters hooks us r now us₁) ∧
      (d.dispatchWith hooks us r now).2.Settled outside) ∧
    ∀ c : Config, (App.firstUnits c).Settled [] := by
  obtain ⟨s, hwritten, hpopulate, hshows, hroot⟩ := Units.exists_populated hus r now.start
  have hstore : (entrance us r now).units.store = s := by
    rw [entrance, populated, hpopulate]
    rfl
  have hown : ∀ key, s.own? key .root = us.store.own? key .root := fun key => by
    rw [Store.own?, hroot, Store.own?]
  refine ⟨fun m handler hroute htarget hsilent result scene hrun =>
      dispatch_inline hroute htarget hsilent hrun, ?_, ?_, ?_, fun c hc key => ?_, fun c => ?_,
    reachable_dispatch hus d r now, fun hooks outside hs =>
      ⟨fun told called us₁ hbefore => enters_of_callBefore hs hbefore, ?_⟩, settled_firstUnits⟩
  · have hfinds := finds_of_shows (s := d.surroundings) (w := entrance us r now) (r := r)
      (u := (us.child .root).1) rfl (hstore ▸ hshows)
    simpa only [hstore, hown] using hfinds
  · rw [hstore]
    exact hwritten.run
  · rw [hstore]
    exact hroot
  · obtain ⟨first, hfirst, -, hvalues⟩ := App.exists_firstUnits c
    rw [hfirst] at hc
    rw [Store.own?, hc, hvalues, Option.bind_some]
  · obtain ⟨first, hfirst, hreachable, -⟩ := App.exists_firstUnits c
    rw [hfirst]
    exact hreachable
  · obtain ⟨top, htop⟩ := hus.root
    exact (since_dispatchWith hs htop d hooks r now).1

/-- A configuration that has a value under a well-known key, and another value. -/
def crowded : Config := { context := [("site", .text "main"), ("request", .null)] }

/-- Answers with the configured site and the path of the request, both read through its unit. -/
def whereabouts : Handler := fun _ => do
  let site ← Program.get .unit "site"
  let request ← Program.view .unit View.request
  match site, request with
  | .ok (.text site), .ok r => return .html (site ++ r.path)
  | _, _ => return .html ""

/-- Writes another site to the root. -/
def relocating : Hooks where
  before _ := .perform (.set .root "site" (.text "other")) fun _ => .pure ([], none)
  after _ r := .pure ([], r)

/-- A dispatcher with one route. -/
def locating (pattern : Route.Pattern) : Dispatcher :=
  ⟨crowded, ⟨[⟨[⟨"GET"⟩], pattern, "GET /quiz", .inline whereabouts, ⟨[]⟩⟩]⟩, [],
    ⟨⟨.missing "worker", 1000⟩, 0⟩⟩

theorem run_whereabouts {args : Handler.Args} {s : Surroundings} {w : Scene} {r : Request}
    {above : String → Option Json} {site : String} (h : Finds s w r above)
    (hsite : above "site" = some (.text site)) :
    (whereabouts args).run s w = (.ok (.html (site ++ r.path)), w) := by
  have hget := h.other "site" (by decide)
  rw [hsite] at hget
  rw [whereabouts, Program.run_bind, hget]
  simp only
  rw [Program.run_bind, h.request]
  rfl

/-- The first request after the beginning, without hooks and with one that writes to the root. -/
theorem entrance_finds_crowded : ∃ (pattern : Route.Pattern) (r : Request) (now : Moment),
    Route.Pattern.template "/quiz" = .ok pattern ∧
    (App.firstUnits crowded).store.Reachable ∧ (App.firstUnits crowded).Settled [] ∧
    ((locating pattern).dispatch (App.firstUnits crowded) r now).1.response =
      .ofReply (.html "main/quiz") {} ∧
    (entrance (App.firstUnits crowded) r now).units.store.node? .root =
      (App.firstUnits crowded).store.node? .root ∧
    ((locating pattern).dispatchWith [relocating] (App.firstUnits crowded) r now).1.response =
      .ok (.ofReply (.html "other/quiz") {}) := by
  -- the request, the pattern and the match stay names from here on, so that nothing unfolds them
  obtain ⟨r, hr, hpath⟩ : ∃ r : Request, r = .make ⟨1⟩ "GET" "/quiz?page=3" ∧ r.path = "/quiz" :=
    ⟨_, rfl, rfl⟩
  obtain ⟨pattern, hpattern, m, hm, htarget⟩ : ∃ pattern,
      Route.Pattern.template "/quiz" = .ok pattern ∧
      ∃ m, ((locating pattern).route r).2 = some m ∧ m.route.target = .inline whereabouts := by
    rw [hr]
    exact ⟨_, rfl, _, rfl, rfl⟩
  let now : Moment := ⟨.ofInt 0, ⟨2026, 1, 2, 23, 0, 0, 0⟩⟩
  obtain ⟨first, hfirst, hreachable, -⟩ := App.exists_firstUnits crowded
  have hus : (App.firstUnits crowded).store.Reachable := by
    rw [hfirst]
    exact hreachable
  obtain ⟨hdispatch, hfinds, -, hroot, hconfigured, -, -, hhooked, hfirsts⟩ :=
    entrance_finds (locating pattern) hus r now
  have hsite : (App.firstUnits crowded).store.own? "site" .root = some (.text "main") :=
    (hconfigured crowded rfl "site").trans
      (Dictionary.find?_ofPairs_of_mem (by decide) (.head _))
  obtain ⟨hresponse, -⟩ := hdispatch m whereabouts hm htarget rfl _ _ (run_whereabouts hfinds hsite)
  obtain ⟨hafterHook, -⟩ := hhooked [relocating] [] (hfirsts crowded)
  obtain ⟨hfinds', hwrites, hdispatch'⟩ := hafterHook _ _ _ rfl
  obtain ⟨top, htop⟩ := hus.root
  have hsite' := congrArg (Option.bind · fun node => Dictionary.find? "site" node.values)
    (hwrites top htop)
  obtain ⟨hresponse', -⟩ := hdispatch' m whereabouts hm htarget _ _
    (run_whereabouts hfinds' (hsite'.trans (Dictionary.find?_put_self _ _ _)))
  refine ⟨pattern, r, now, hpattern, hus, hfirsts crowded, ?_, hroot, ?_⟩
  · rw [hresponse, hpath, Scene.finish_sink]
    rfl
  · rw [hresponse', hpath, Scene.finish_sink]
    rfl

end Dispatcher

end RequestDispatch
