import RequestDispatch.Proofs.Http.HeaderSet
import RequestDispatch.Proofs.Worker.Call
import RequestDispatch.Proofs.Worker.Envelope
import RequestDispatch.Worker.Executor

/-!
# What a call leaves in the sink

A call to a worker either fails, and then the sink is as it was, or the envelope that came back goes
into the sink as a whole.

* `Sink.Produced.distinct`: no two headers of a sink are of one name.
* `Executor.call_eq_ok`: a call has an outcome where the call fits into a frame, the program starts,
  and what the process wrote settles.
* `Executor.runInto_keeps_or_forwards`: what the sink holds after a call.
-/

set_option autoImplicit false

namespace RequestDispatch

open Http (Header.Distinct Header.last? Header.others)

namespace Sink

/-- A sink that setters lead to. -/
inductive Produced : Sink → Prop
  | empty : Produced {}
  | setStatus {s : Sink} (h : Produced s) (status : UInt16) : Produced (s.setStatus status)
  | setHeader {s : Sink} (h : Produced s) (name value : String) : Produced (s.setHeader name value)

theorem Produced.distinct {s : Sink} (h : s.Produced) : Header.Distinct s.headers := by
  induction h with
  | empty => exact List.Pairwise.nil
  | setStatus _ _ ih => exact ih
  | setHeader _ name value ih => exact ih.set name value

theorem foldl_setHeader (s : Sink) (headers : List (String × String)) :
    headers.foldl (fun s h => s.setHeader h.1 h.2) s =
      { s with headers := Http.Header.setAll s.headers headers } := by
  induction headers generalizing s with
  | nil => rfl
  | cons h headers ih =>
    rw [List.foldl_cons, ih]
    rfl

end Sink

namespace Worker.Executor

theorem forward_eq (e : Envelope) (s : Sink) :
    forward e s = ⟨some e.status, Http.Header.setAll s.headers e.headers⟩ := by
  rw [forward, Sink.foldl_setHeader]
  rfl

/-- The outcome is what the output of the process settles to, whatever that output is. -/
def Yields (x : Executor) (c : Call) (o : Outcome) : Prop :=
  ∃ bytes behaviour, c.encode = .ok bytes ∧ x.program.behaviour = .ok behaviour ∧
    settle (behaviour bytes x.timeout).output (behaviour bytes x.timeout).killed =
      .ok (o.answer, o.timedOut) ∧
    (behaviour bytes x.timeout).code = o.exitCode

theorem outcome_eq_ok {task : String} {exit : Exit} {o : Outcome} :
    (outcome task exit).2 = .ok o ↔
      settle exit.output exit.killed = .ok (o.answer, o.timedOut) ∧ exit.code = o.exitCode := by
  obtain ⟨answer, exitCode, timedOut⟩ := o
  unfold outcome
  cases hsettle : settle exit.output exit.killed with
  | error fault => simp
  | ok settled =>
    obtain ⟨a, synthesized⟩ := settled
    simp only [Except.ok.injEq, Outcome.mk.injEq, Prod.mk.injEq]
    constructor
    · rintro ⟨ha, hcode, hsynthesized⟩
      exact ⟨⟨ha, hsynthesized⟩, hcode⟩
    · rintro ⟨⟨ha, hsynthesized⟩, hcode⟩
      exact ⟨ha, hcode, hsynthesized⟩

theorem call_eq_ok {x : Executor} {c : Call} {o : Outcome} :
    (x.call c).2 = .ok o ↔ x.Yields c o := by
  unfold call Yields
  cases hencode : c.encode with
  | error e => simp
  | ok bytes =>
    unfold start
    cases hbehaviour : x.program.behaviour with
    | error reason => simp
    | ok behaviour => simp [outcome_eq_ok]

/-- A call that has no outcome leaves the sink as it was. One that has an outcome sets the status of
the envelope and its headers, of which the last of a name counts; the other headers of the sink stay
as they are, and no two headers are of one name. -/
theorem runInto_keeps_or_forwards (x : Executor) (c : Call) {sink : Sink} (h : sink.Produced) :
    (∃ events e, (x.runInto c).run sink = ((events, .error e), sink) ∧ ∀ o, ¬ x.Yields c o) ∨
    ∃ events o after, (x.runInto c).run sink = ((events, .ok o), after) ∧ x.Yields c o ∧
      after.status = some o.answer.envelope.status ∧
      (∀ name, after.header? name =
        (Header.last? name o.answer.envelope.headers).or (sink.header? name)) ∧
      Header.others o.answer.envelope.headers after.headers =
        Header.others o.answer.envelope.headers sink.headers ∧
      Header.Distinct after.headers := by
  rw [runInto_eq]
  cases hcall : x.call c with
  | mk events result =>
    have hyields (o : Outcome) : result = .ok o ↔ x.Yields c o := by rw [← call_eq_ok, hcall]
    cases result with
    | error e => exact .inl ⟨events, e, rfl, fun o ho => nomatch (hyields o).2 ho⟩
    | ok o =>
      refine .inr ⟨events, o, forward o.answer.envelope sink, rfl, (hyields o).1 rfl, ?_⟩
      rw [forward_eq]
      exact ⟨rfl, fun name => Http.Header.find?_setAll name _ _, Http.Header.others_setAll _ _,
        h.distinct.setAll _⟩

/-- A sink with two headers, a worker that was killed after it had set one of them twice, and one
that wrote a body and no envelope. -/
theorem runInto_keeps_or_forwards_killed : ∃ (answering silent : Executor) (c : Call) (sink : Sink),
    sink.Produced ∧ sink.headers = [("X-Id", "1"), ("Age", "0")] ∧
    (∃ events o after, (answering.runInto c).run sink = ((events, .ok o), after) ∧
      after.status = some 201 ∧ after.header? "x-id" = some "3" ∧ after.header? "age" = some "0" ∧
      Header.Distinct after.headers) ∧
    ∃ events e, (silent.runInto c).run sink = ((events, .error e), sink) := by
  let a : Answer :=
    ⟨.bytes [111, 107], ⟨201, [("x-id", "2"), ("X-ID", "3")], false, false, 2, none⟩⟩
  let body := a.body.frame.encode
  let answering : Executor :=
    ⟨⟨"worker", .ok fun _ _ => ⟨body ++ a.envelope.frame.encode, none, true⟩⟩, 1⟩
  let silent : Executor := ⟨⟨"worker", .ok fun _ _ => ⟨body, some 0, false⟩⟩, 1⟩
  let c : Call := ⟨"page", .make ⟨0⟩ "GET" "/", []⟩
  let sink : Sink := ((({} : Sink).setStatus 500).setHeader "X-Id" "1").setHeader "Age" "0"
  have hsink : sink.Produced :=
    ((Sink.Produced.empty.setStatus 500).setHeader "X-Id" "1").setHeader _ _
  have hpayload : a.envelope.frame.payload.length ≤ Frame.maxPayload := by decide +kernel
  have hdecode := (Answer.spelled_frames (by decide) hpayload rfl).decode
  obtain ⟨bytes, hbytes⟩ : ∃ bytes, c.encode = .ok bytes :=
    ⟨_, Call.encode_eq_ok.2 ⟨by decide +kernel, rfl⟩⟩
  have hyields : answering.Yields c ⟨a, none, false⟩ :=
    ⟨bytes, _, hbytes, rfl, settle_of_ok hdecode true, rfl⟩
  refine ⟨answering, silent, c, sink, hsink, rfl, ?_, ?_⟩
  · obtain ⟨-, -, -, hnone⟩ | ⟨events, o, after, hrun, ho, hstatus, hfind, -, hdistinct⟩ :=
      runInto_keeps_or_forwards answering c hsink
    · exact absurd hyields (hnone _)
    · obtain rfl : o = ⟨a, none, false⟩ :=
        Except.ok.inj ((call_eq_ok.2 ho).symm.trans (call_eq_ok.2 hyields))
      refine ⟨events, _, after, hrun, hstatus, ?_, ?_, hdistinct⟩
      · rw [hfind]
        rfl
      · rw [hfind]
        rfl
  · obtain ⟨events, e, hrun, -⟩ | ⟨-, o, -, -, ⟨_, _, _, hbehaviour, hsettle, -⟩, -⟩ :=
      runInto_keeps_or_forwards silent c hsink
    · exact ⟨events, e, hrun⟩
    · obtain ⟨fault, hfault⟩ := Answer.decode_body a.body (by decide)
      cases hbehaviour
      rw [(settle_of_error hfault).1] at hsettle
      cases hsettle

end Worker.Executor

end RequestDispatch
