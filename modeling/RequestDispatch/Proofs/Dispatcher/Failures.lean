import RequestDispatch.Dispatcher
import RequestDispatch.Proofs.Worker.Call

/-!
# Failures are told and nothing else

A target fails when its handler returns an error or panics, or when a worker gives no answer
(`Dispatcher.Fails`, with the text of the failure).

* `Response.tellsFailure_error`: the body of an error is read back as an object with the text.
* `Dispatcher.Fails.settle_eq`: the response to a failure is made of its text alone.
* `Dispatcher.settle_tells_failure`: so it tells the text, and what was set or written before the
  failure does not show.
-/

set_option autoImplicit false

namespace RequestDispatch

open Context (UnitId Units)
open Handler (Failure Object Program Scene)
open Json (Document Draft)
open Route (RouteMatch)

/-! ## Responses that tell a failure -/

namespace Response

/-- A response with nothing but the text of a failure: its body is a document of an object with one
member. -/
structure TellsFailure (r : Response) (text : String) : Prop where
  status : r.status = 500
  headers : r.headers = [("Content-Type", "application/json")]
  body : Document.ofBytes r.body = ⟨.entries [("error", .text text)] true, true⟩
  value : (Document.ofBytes r.body).draft.value? = some (.object [("error", .text text)])

/-- Any text is read back from the body of an error, whatever characters it has. -/
theorem ofBytes_error (status : UInt16) (text : String) :
    Document.ofBytes (Response.error status text).body =
      ⟨.entries [("error", .text text)] true, true⟩ := by
  have hplain : Json.Plain Json.maxDepth (.ofMembers [("error", .text text)]) := by
    rw [show Json.maxDepth = 126 + 1 from rfl]
    exact ⟨trivial, trivial⟩
  have hbody : (Response.error status text).body =
      Text.encodeUtf8 (Json.ofMembers [("error", .text text)]).compact := by
    rw [Response.error, Response.json, Response.make]
  rw [hbody, Json.ofBytes_compact hplain]
  rfl

theorem tellsFailure_error (text : String) : (Response.error 500 text).TellsFailure text where
  status := rfl
  headers := rfl
  body := ofBytes_error 500 text
  value := by
    rw [ofBytes_error]
    rfl

end Response

/-! ## Targets that fail -/

namespace Dispatcher

/-- The target of a match fails with a text. What the run of a handler leaves behind is not
restricted. -/
inductive Fails (d : Dispatcher) (m : RouteMatch Handler) (r : Request) (unit : UnitId) (us : Units)
    (text : String) : Prop
  | error {handler : Handler} {chain : ErrorChain} {w : Scene}
      (target : m.route.target = .inline handler)
      (run : (handler (m.route.plan.bind m.params (Object.ofKeyword r))).run d.surroundings
        (.start us unit) = (.error (.error chain), w))
      (message : chain.message = text)
  | panic {handler : Handler} {reason : Option String} {w : Scene}
      (target : m.route.target = .inline handler)
      (run : (handler (m.route.plan.bind m.params (Object.ofKeyword r))).run d.surroundings
        (.start us unit) = (.error (.panic reason), w))
      (message : "Handler panicked: " ++ reason.getD "task panicked" = text)
  | isolated {task : String} {e : Worker.Error}
      (target : m.route.target = .isolated task)
      (run : (d.surroundings.executor.run ⟨task, r, m.params⟩ {}).2 = .error e)
      (message : e.message = text)

variable {d : Dispatcher} {m : RouteMatch Handler} {r : Request} {unit : UnitId} {us : Units}
  {text : String}

theorem Fails.settle_eq (h : d.Fails m r unit us text) :
    (d.settle none (some m) r unit us).1 = .error 500 text := by
  cases h with
  | error htarget hrun hmessage =>
    simp only [settle, target, invoke, htarget, runHandler, hrun, respond, hmessage]
  | panic htarget hrun hmessage =>
    simp only [settle, target, invoke, htarget, runHandler, hrun, respond, hmessage]
  | isolated htarget hrun hmessage =>
    simp only [settle, target, invoke, htarget, runTask]
    split
    · rename_i hok
      rw [hok] at hrun
      cases hrun
    · rename_i herror
      rw [herror] at hrun
      rw [Except.error.inj hrun, hmessage]

/-- Before the hooks after change it, the response to a target that fails is status 500 with the
text of the failure, readable again, and one header. Any other run that fails with the same text
gives the same response, whatever the two runs set in their sinks or wrote to their units before. -/
theorem settle_tells_failure (h : d.Fails m r unit us text) :
    (d.settle none (some m) r unit us).1.TellsFailure text ∧
    ∀ (d' : Dispatcher) (m' : RouteMatch Handler) (r' : Request) (unit' : UnitId) (us' : Units),
      d'.Fails m' r' unit' us' text →
      (d'.settle none (some m') r' unit' us').1 = (d.settle none (some m) r unit us).1 := by
  constructor
  · rw [h.settle_eq]
    exact Response.tellsFailure_error text
  · intro d' m' r' unit' us' h'
    rw [h.settle_eq, h'.settle_eq]

/-- A handler that sets a status and a header and writes to its unit before it fails. -/
def wasteful : Handler := fun _ => do
  Program.setStatus 201
  Program.setHeader "X-Id" "1"
  Program.set .unit "note" (.bool true)
  Program.fail ["no \"name\"", "\x01é\n"]

/-- That handler and one that fails with the same text at once, one that panics without a text, and
a worker that cannot be started. -/
theorem settle_tells_failure_wasteful : ∃ (d : Dispatcher) (r : Request)
    (target : Route.Target Handler → RouteMatch Handler),
    (wasteful ⟨[]⟩).run d.surroundings (.start {} .root) =
      (.error (.error ["no \"name\"", "\x01é\n"]),
        ((wasteful ⟨[]⟩).run d.surroundings (.start {} .root)).2) ∧
    ((wasteful ⟨[]⟩).run d.surroundings (.start {} .root)).2.sink = ⟨some 201, [("X-Id", "1")]⟩ ∧
    (d.settle none (some (target (.inline fun _ => .fail ["no \"name\": \x01é\n"]))) r .root {}).1 =
      (d.settle none (some (target (.inline wasteful))) r .root {}).1 ∧
    (d.settle none (some (target (.inline wasteful))) r .root {}).1.TellsFailure
      "no \"name\": \x01é\n" ∧
    (d.settle none (some (target (.inline wasteful))) r .root {}).1.body =
      Text.encodeUtf8 "\x7b\"error\":\"no \\\"name\\\": \\u0001é\\n\"\x7d" ∧
    (d.settle none (some (target (.inline fun _ => .stop (.panic none)))) r .root {}).1.TellsFailure
      "Handler panicked: task panicked" ∧
    (d.settle none (some (target (.isolated "page"))) r .root {}).1.TellsFailure
      "failed to spawn isolated worker `worker`" := by
  let d : Dispatcher := ⟨{}, {}, [], ⟨⟨.missing "worker", 1000⟩, 0⟩⟩
  let r : Request := .make ⟨0⟩ "GET" "/"
  let target (t : Route.Target Handler) : RouteMatch Handler :=
    ⟨0, ⟨[], ⟨"/", .raw, ⟨"/", .empty⟩, []⟩, "page", t, ⟨[]⟩⟩, []⟩
  have hwasteful : d.Fails (target (.inline wasteful)) r .root {} "no \"name\": \x01é\n" :=
    .error rfl rfl (by decide)
  have hblunt : d.Fails (target (.inline fun _ => .fail ["no \"name\": \x01é\n"])) r .root {}
      "no \"name\": \x01é\n" := .error rfl rfl (by decide)
  have hpanic : d.Fails (target (.inline fun _ => .stop (.panic none))) r .root {}
      "Handler panicked: task panicked" := .panic rfl rfl (by decide)
  have hrun : (d.surroundings.executor.run ⟨"page", r, []⟩ {}).2 =
      .error (.spawn "worker" "No such file or directory (os error 2)") := by
    have hencode : Worker.Call.encode ⟨"page", r, []⟩ = .ok (Worker.Call.frame ⟨"page", r, []⟩).encode :=
      Worker.Call.encode_eq_ok.2 ⟨by decide +kernel, rfl⟩
    rw [Worker.Executor.run_eq, Worker.Executor.call, hencode]
    rfl
  have hworker : d.Fails (target (.isolated "page")) r .root {}
      "failed to spawn isolated worker `worker`" := .isolated rfl hrun (by decide)
  obtain ⟨htells, hsame⟩ := settle_tells_failure hwasteful
  refine ⟨d, r, target, rfl, rfl, hsame d _ r .root {} hblunt, htells, ?_,
    (settle_tells_failure hpanic).1, (settle_tells_failure hworker).1⟩
  rw [hwasteful.settle_eq]
  rfl

end Dispatcher

end RequestDispatch
