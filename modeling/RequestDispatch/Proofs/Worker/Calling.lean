import RequestDispatch.Proofs.Worker.Call
import RequestDispatch.Proofs.Worker.Course

/-!
# What a stream calls for

`Repertoire.Leads` tells from the bytes of a stream, and from how it ends, the course that they lead
to or why they are refused. There is one constructor for each way: a whole frame is the call of a
task, or of no task that there is, or no call; no whole frame comes because there is nothing at all,
because the stream ends within the frame, or because the frame would be too long.

* `Repertoire.leads_iff`: every stream leads to its course and to no other.
* `Repertoire.course_of_encode`: a call that was made leads to the course of its task, in whatever
  pieces it comes.
* `Repertoire.course_of_incomplete`: a payload that is no JSON text leads to no course.
-/

set_option autoImplicit false

namespace RequestDispatch.Worker

open ByteStream (Source)

namespace Repertoire

/-! ## Ways that a stream leads -/

/-- Where a stream leads, by the bytes that it brings and by how it ends. -/
inductive Leads (r : Repertoire) (input : Source) : Except Refusal Course → Prop where
  /-- It begins with the call of a task. -/
  | task {payload rest : List UInt8} {c : Call} {f : Invocation → Course}
      (bytes : input.bytes = (Frame.mk requestTag payload).encode ++ rest)
      (fits : payload.length ≤ Frame.maxPayload)
      (call : (Json.Document.ofBytes payload).decode Call.reader = .ok c)
      (found : r.lookup c.task = some f) :
      Leads r input (.ok (f { request := c.request, params := c.params }))
  /-- It begins with a call, but there is no such task. -/
  | unknownTask {payload rest : List UInt8} {c : Call}
      (bytes : input.bytes = (Frame.mk requestTag payload).encode ++ rest)
      (fits : payload.length ≤ Frame.maxPayload)
      (call : (Json.Document.ofBytes payload).decode Call.reader = .ok c)
      (missing : r.lookup c.task = none) : Leads r input (.error (.unknownTask c.task))
  /-- It begins with a frame of the right kind that is no call. -/
  | malformed {payload rest : List UInt8} {problem : Json.Problem}
      (bytes : input.bytes = (Frame.mk requestTag payload).encode ++ rest)
      (fits : payload.length ≤ Frame.maxPayload)
      (noCall : (Json.Document.ofBytes payload).decode Call.reader = .error problem) :
      Leads r input (.error (.malformed problem))
  /-- It begins with a frame of another kind. -/
  | unexpectedTag {f : Frame} {rest : List UInt8} (bytes : input.bytes = f.encode ++ rest)
      (fits : f.payload.length ≤ Frame.maxPayload) (other : f.tag ≠ requestTag) :
      Leads r input (.error (.unexpectedTag f.tag))
  /-- It was closed before anything came. -/
  | empty (bytes : input.bytes = []) (closed : input.ending = .closed) :
      Leads r input (.error .noCall)
  /-- It was closed within a frame. -/
  | truncated {fault : Fault} (bytes : Frame.Cut input.bytes fault) (begun : input.bytes ≠ [])
      (closed : input.ending = .closed) : Leads r input (.error (.unreadable (.protocol fault)))
  /-- It failed before a frame was whole. -/
  | failed {fault : Fault} {reason : String} (bytes : Frame.Cut input.bytes fault)
      (ending : input.ending = .failed reason) : Leads r input (.error (.unreadable (.io reason)))
  /-- It begins with a header that declares too much. -/
  | oversized {n : Nat} (bytes : Frame.Oversized input.bytes n) :
      Leads r input (.error (.unreadable (.protocol (.oversized n))))

variable {r : Repertoire} {input : Source}

theorem course_of_read {c : Call} (h : Call.read input = .ok c) :
    r.course input = match r.lookup c.task with
      | none => .error (.unknownTask c.task)
      | some f => .ok (f { request := c.request, params := c.params }) := by
  cases hlookup : r.lookup c.task <;> simp only [course, h, hlookup]

theorem course_of_refused {e : Refusal} (h : Call.read input = .error e) :
    r.course input = .error e := by
  rw [course, h]

/-- A stream leads nowhere but to its course. -/
theorem Leads.course_eq {c : Except Refusal Course} (h : r.Leads input c) : r.course input = c := by
  cases h with
  | task bytes fits call found =>
    have hread := Call.read_of_payload fits bytes
    rw [call] at hread
    rw [course_of_read hread, found]
  | unknownTask bytes fits call missing =>
    have hread := Call.read_of_payload fits bytes
    rw [call] at hread
    rw [course_of_read hread, missing]
  | malformed bytes fits noCall =>
    have hread := Call.read_of_payload fits bytes
    rw [noCall] at hread
    exact course_of_refused hread
  | unexpectedTag bytes fits other =>
    have hread := Call.read_of_frame fits bytes
    rw [Call.ofRead, if_neg other] at hread
    exact course_of_refused hread
  | empty bytes closed =>
    refine course_of_refused ?_
    rw [Call.read_eq, bytes, closed]
    rfl
  | truncated bytes begun closed =>
    refine course_of_refused ?_
    rw [Call.read_eq, Frame.readBytes_of_cut bytes (.inl begun), closed]
    rfl
  | failed bytes ending =>
    refine course_of_refused ?_
    rw [Call.read_eq, Frame.readBytes_of_cut bytes (.inr (by simp [ending])), ending]
    rfl
  | oversized bytes =>
    refine course_of_refused ?_
    rw [Call.read_eq, Frame.readBytes_of_oversized bytes]
    rfl

/-- Every stream leads somewhere: a frame comes, or it is cut, or it is too long. -/
theorem exists_leads (r : Repertoire) (input : Source) : ∃ c, r.Leads input c := by
  rcases Frame.whole_or_not input.bytes with ⟨f, rest, fits, bytes⟩ | ⟨fault, cut⟩ | ⟨n, oversized⟩
  · by_cases htag : f.tag = requestTag
    · obtain ⟨tag, payload⟩ := f
      subst htag
      cases hdecode : (Json.Document.ofBytes payload).decode Call.reader with
      | error problem => exact ⟨_, .malformed bytes fits hdecode⟩
      | ok c =>
        cases hlookup : r.lookup c.task with
        | none => exact ⟨_, .unknownTask bytes fits hdecode hlookup⟩
        | some f => exact ⟨_, .task bytes fits hdecode hlookup⟩
    · exact ⟨_, .unexpectedTag bytes fits htag⟩
  · cases hending : input.ending with
    | failed reason => exact ⟨_, .failed cut hending⟩
    | closed =>
      by_cases hnil : input.bytes = []
      · exact ⟨_, .empty hnil hending⟩
      · exact ⟨_, .truncated cut hnil hending⟩
  · exact ⟨_, .oversized oversized⟩

theorem leads_iff {c : Except Refusal Course} : r.Leads input c ↔ c = r.course input := by
  refine ⟨fun h => h.course_eq.symm, fun h => ?_⟩
  obtain ⟨c', hc'⟩ := exists_leads r input
  rw [h, hc'.course_eq]
  exact hc'

/-! ## Calls that were made -/

theorem course_of_encode {c : Call} {bytes rest : List UInt8} {f : Invocation → Course}
    (hencode : c.encode = .ok bytes) (hinput : input.bytes = bytes ++ rest)
    (hfound : r.lookup c.task = some f) :
    r.course input = .ok (f { request := c.request, params := c.params }) := by
  obtain ⟨hfits, rfl⟩ := Call.encode_eq_ok.1 hencode
  rw [course_of_read (Call.read_frame hfits hinput), hfound]

theorem course_of_incomplete {payload rest : List UInt8}
    (hinput : input.bytes = (Frame.mk requestTag payload).encode ++ rest)
    (hfits : payload.length ≤ Frame.maxPayload)
    (hincomplete : (Json.Document.ofBytes payload).complete = false) :
    ∃ problem, r.course input = .error (.malformed problem) := by
  obtain ⟨problem, hproblem⟩ := Json.Document.decode_incomplete hincomplete Call.reader
  exact ⟨problem, (Leads.malformed hinput hfits hproblem).course_eq⟩

end Repertoire

end RequestDispatch.Worker
