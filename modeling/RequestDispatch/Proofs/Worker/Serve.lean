import RequestDispatch.Proofs.Worker.Calling
import RequestDispatch.Proofs.Worker.Envelope

/-!
# Serving a call always leaves an answer

`Reports`: what an answer says of a course and of the exit code.

* `Repertoire.reports_left`: the answer that a worker makes up reports on the course that its task
  took, or on the refusal of the call.
* `Registry.serve_fits`, `Registry.serve_payloadTooLarge`: what any registry writes is read as the
  answer it made up, or cannot be read because a part is too long for a frame.
* `Repertoire.serve_reports`: so what is read reports on the course that the input leads to
  (`Repertoire.Leads`), whatever the input is and whatever the task does.
-/

set_option autoImplicit false

namespace RequestDispatch.Worker

open ByteStream (Delivery Source)

/-! ## The answer of a run -/

namespace Ran

variable (r : Ran)

theorem toBytes_answer : r.answer.body.toBytes = r.output.bytes := by
  obtain ⟨output, completion⟩ := r
  by_cases hempty : output.bytes = [] <;>
    cases completion <;> simp [answer, Body.toBytes, hempty]

theorem bodyLength_answer : r.answer.envelope.bodyLength = r.output.bytes.length := by
  obtain ⟨output, completion⟩ := r
  cases completion <;> rfl

theorem notProduced_answer :
    r.answer.body = .notProduced ↔ r.output.bytes = [] ∧ r.completion ≠ .normal := by
  obtain ⟨output, completion⟩ := r
  cases completion <;> simp [answer]

theorem faulted_answer : r.answer.envelope.faulted = true ↔ ∃ m, r.completion = .fault m := by
  obtain ⟨output, completion⟩ := r
  cases completion <;> simp [answer]

theorem earlyExit_answer : r.answer.envelope.earlyExit = true ↔ r.completion = .earlyExit := by
  obtain ⟨output, completion⟩ := r
  cases completion <;> simp [answer]

theorem exitCode_eq_one : r.exitCode = 1 ↔ ∃ m, r.completion = .fault m := by
  obtain ⟨output, completion⟩ := r
  cases completion <;> simp [exitCode]

theorem error_answer : r.answer.envelope.error.isSome = true ↔ ∃ m, r.completion = .fault m := by
  obtain ⟨output, completion⟩ := r
  cases completion <;> simp [answer]

theorem status_answer : r.answer.envelope.status =
    r.output.status.getD (if r.answer.envelope.faulted then 500 else 200) := by
  obtain ⟨output, completion⟩ := r
  cases completion <;> rfl

end Ran

theorem Completion.ofStop_eq_fault {stop : Option Stop} :
    (∃ m, ofStop stop = .fault m) ↔ stop ≠ none ∧ stop ≠ some .exit := by
  rcases stop with _ | _ | _ | _ <;> simp [ofStop]

theorem Completion.ofStop_eq_earlyExit {stop : Option Stop} :
    ofStop stop = .earlyExit ↔ stop = some .exit := by
  rcases stop with _ | _ | _ | _ <;> simp [ofStop]

theorem Completion.ne_normal {c : Completion} :
    c ≠ .normal ↔ (∃ m, c = .fault m) ∨ c = .earlyExit := by
  cases c <;> simp

/-! ## Reports -/

namespace Repertoire

/-- What was done until the end of a course; nothing where the call was refused. -/
def deeds : Except Refusal Course → List Deed
  | .error _ => []
  | .ok c => c.deeds

/-- The call was refused, or its task failed or panicked. -/
def Faulted : Except Refusal Course → Prop
  | .error _ => True
  | .ok c => c.stop ≠ none ∧ c.stop ≠ some .exit

/-- The task stopped on purpose. -/
def ExitedEarly : Except Refusal Course → Prop
  | .error _ => False
  | .ok c => c.stop = some .exit

/-- What an answer says of a course, and of the exit code of the worker. -/
structure Reports (course : Except Refusal Course) (a : Answer) (code : Nat) : Prop where
  body : a.body.toBytes = Deed.written (deeds course)
  bodyLength : a.envelope.bodyLength = (Deed.written (deeds course)).length
  notProduced : a.body = .notProduced ↔
    Deed.written (deeds course) = [] ∧ (Faulted course ∨ ExitedEarly course)
  faulted : a.envelope.faulted = true ↔ Faulted course
  earlyExit : a.envelope.earlyExit = true ↔ ExitedEarly course
  exitCode : a.envelope.faulted = true ↔ code = 1
  error : a.envelope.error.isSome = true ↔ code = 1
  exclusive : ¬ (a.envelope.faulted = true ∧ a.envelope.earlyExit = true)
  status : a.envelope.status =
    (Deed.lastStatus? (deeds course)).getD (if a.envelope.faulted then 500 else 200)

theorem bytes_left (course : Except Refusal Course) :
    (left course).output.bytes = Deed.written (deeds course) := by
  cases course with
  | error e => rfl
  | ok c =>
    rw [left, Course.output, Deed.bytes_foldl]
    rfl

theorem status_left (course : Except Refusal Course) :
    (left course).output.status = Deed.lastStatus? (deeds course) := by
  cases course with
  | error e => rfl
  | ok c =>
    rw [left, Course.output, Deed.status_foldl]
    exact Option.or_none

theorem completion_eq_fault (course : Except Refusal Course) :
    (∃ m, (left course).completion = .fault m) ↔ Faulted course := by
  cases course with
  | error e => exact ⟨fun _ => trivial, fun _ => ⟨_, rfl⟩⟩
  | ok c => exact Completion.ofStop_eq_fault

theorem completion_eq_earlyExit (course : Except Refusal Course) :
    (left course).completion = .earlyExit ↔ ExitedEarly course := by
  cases course with
  | error e => simp [left, Ran.refused, ExitedEarly]
  | ok c => exact Completion.ofStop_eq_earlyExit

theorem reports_left (course : Except Refusal Course) :
    Reports course (left course).answer (left course).exitCode := by
  have hfaulted := completion_eq_fault course
  have hearly := completion_eq_earlyExit course
  constructor
  · rw [Ran.toBytes_answer, bytes_left]
  · rw [Ran.bodyLength_answer, bytes_left]
  · rw [Ran.notProduced_answer, bytes_left, Completion.ne_normal, hfaulted, hearly]
  · rw [Ran.faulted_answer, hfaulted]
  · rw [Ran.earlyExit_answer, hearly]
  · rw [Ran.faulted_answer, Ran.exitCode_eq_one]
  · rw [Ran.error_answer, Ran.exitCode_eq_one]
  · rw [Ran.faulted_answer, Ran.earlyExit_answer]
    rintro ⟨⟨m, hm⟩, hexit⟩
    simp [hm] at hexit
  · rw [Ran.status_answer, status_left]

end Repertoire

/-! ## Serving -/

/-- The answer to a call is read as it was made up, if its parts fit into frames. -/
theorem Registry.serve_fits (r : Registry) (input : Source)
    (hbody : (r.run 0 false input).output.bytes.length ≤ Frame.maxPayload)
    (hpayload : (r.run 0 false input).answer.envelope.frame.payload.length ≤ Frame.maxPayload) :
    (r.serve input {}).1 = (r.run 0 false input).exitCode ∧
      Answer.decode (r.serve input {}).2.written = .ok (r.run 0 false input).answer := by
  rw [← Ran.toBytes_answer] at hbody
  have hlength : (r.run 0 false input).answer.envelope.bodyLength =
      (r.run 0 false input).answer.body.toBytes.length := by
    rw [Ran.bodyLength_answer, Ran.toBytes_answer]
  simp only [serve, Answer.write_fits hbody hpayload]
  exact ⟨trivial, (Answer.spelled_frames hbody hpayload hlength).decode⟩

/-- If one of its parts does not fit, no answer can be read, and the exit code tells it. -/
theorem Registry.serve_payloadTooLarge (r : Registry) (input : Source)
    (h : ¬ ((r.run 0 false input).output.bytes.length ≤ Frame.maxPayload ∧
      (r.run 0 false input).answer.envelope.frame.payload.length ≤ Frame.maxPayload)) :
    (r.serve input {}).1 = 1 ∧
      ∃ fault, Answer.decode (r.serve input {}).2.written = .error fault := by
  rw [← Ran.toBytes_answer] at h
  obtain ⟨hrefused, hdecode⟩ := Answer.write_payloadTooLarge h
  simp only [serve]
  cases hwrite : (r.run 0 false input).answer.write {} with
  | mk out result =>
    rw [hwrite] at hrefused hdecode
    rw [show result = .error .payloadTooLarge from hrefused]
    exact ⟨rfl, hdecode⟩

/-- The bytes of a stream lead to one course, which is that of the task that was called, or to one
refusal. What a worker writes then is read as the answer that reports on this, and its exit code
tells it. Only a body or an envelope too long for a frame makes it write what is no answer; then the
exit code is 1. -/
theorem Repertoire.serve_reports (r : Repertoire) (input : Source) :
    let course := r.course input
    let answer := (r.registry.run 0 false input).answer
    let served := r.registry.serve input {}
    let fits := (Deed.written (deeds course)).length ≤ Frame.maxPayload ∧
      (Text.encodeUtf8 answer.envelope.toJson.compact).length ≤ Frame.maxPayload
    (∀ c, r.Leads input c ↔ c = course) ∧
    (∀ (c : Call) (bytes rest : List UInt8) (f : Invocation → Course), c.encode = .ok bytes →
      input.bytes = bytes ++ rest → r.lookup c.task = some f →
      course = .ok (f { request := c.request, params := c.params })) ∧
    (∀ payload rest : List UInt8, input.bytes = (Frame.mk requestTag payload).encode ++ rest →
      payload.length ≤ Frame.maxPayload → (Json.Document.ofBytes payload).complete = false →
      ∃ problem, course = .error (.malformed problem)) ∧
    (fits → Answer.decode served.2.written = .ok answer ∧ Reports course answer served.1) ∧
    (¬ fits → served.1 = 1 ∧ ∃ fault, Answer.decode served.2.written = .error fault ∧
      ∀ task, (Executor.outcome task ⟨served.2.written, some served.1, false⟩).2 =
        .error (.protocol fault)) := by
  intro course answer served fits
  have hran : r.registry.run 0 false input = left course := r.run_eq input
  have hfits : fits ↔ (r.registry.run 0 false input).output.bytes.length ≤ Frame.maxPayload ∧
      answer.envelope.frame.payload.length ≤ Frame.maxPayload := by
    rw [hran, bytes_left, answer.envelope.payload_frame]
  refine ⟨fun _ => leads_iff, fun _ _ _ _ => course_of_encode, fun _ _ => course_of_incomplete,
    fun h => ?_, fun h => ?_⟩
  · obtain ⟨hcode, hdecode⟩ := r.registry.serve_fits input (hfits.1 h).1 (hfits.1 h).2
    have hreports : Reports course (left course).answer (left course).exitCode :=
      reports_left course
    rw [← hran] at hreports
    exact ⟨hdecode, hcode ▸ hreports⟩
  · obtain ⟨hcode, fault, hdecode⟩ :=
      r.registry.serve_payloadTooLarge input fun hpayloads => h (hfits.2 hpayloads)
    refine ⟨hcode, fault, hdecode, fun task => ?_⟩
    have hsettle : settle served.2.written false = .error fault := (settle_of_error hdecode).1
    simp only [Executor.outcome, hsettle]

/-- A task that sets a status, writes what was sent to it in two parts and fails, called in two
pieces with a byte behind them; and the same call when the stream is closed within its payload. -/
theorem Repertoire.serve_reports_echo : ∃ (r : Repertoire) (c : Call) (bytes : List UInt8)
    (whole cut : Source) (answer refusal : Answer),
    r.lookup c.task = some (fun i =>
      ⟨[.write [62], .setStatus 207, .setStatus 202, .write i.request.body],
        some (.failure ["late"])⟩) ∧
    c.request.body = [0, 255] ∧ c.encode = .ok bytes ∧ whole.bytes = bytes ++ [33] ∧
    cut.bytes = bytes.take 7 ∧ cut.ending = .closed ∧
    (r.registry.serve whole {}).1 = 1 ∧
    Answer.decode (r.registry.serve whole {}).2.written = .ok answer ∧
    answer.body.toBytes = [62, 0, 255] ∧ answer.envelope.status = 202 ∧
    answer.envelope.faulted = true ∧
    (r.registry.serve cut {}).1 = 1 ∧
    Answer.decode (r.registry.serve cut {}).2.written = .ok refusal ∧
    refusal.body = .notProduced ∧ refusal.envelope.status = 500 := by
  let f : Invocation → Course := fun i =>
    ⟨[.write [62], .setStatus 207, .setStatus 202, .write i.request.body],
      some (.failure ["late"])⟩
  let r : Repertoire := [("greet", fun _ => ⟨[], none⟩), ("echo", f)]
  let request : Request :=
    { id := ⟨7#128⟩, method := "POST", path := "/a", uri := "/a", protocol := "HTTP/1.1"
      remoteAddr := none, headers := [("accept", "b")], query := .empty, cookies := .empty
      body := [0, 255] }
  let c : Call := ⟨"echo", request, [("id", "1")]⟩
  let bytes := c.frame.encode
  let whole : Source := ⟨Delivery.ofBytes (bytes.take 3) ++ .interrupted ::
    Delivery.ofBytes (bytes.drop 3 ++ [33]), .closed⟩
  let cut : Source := .ofBytes (bytes.take 7)
  have hencode : c.encode = .ok bytes := Call.encode_eq_ok.2 ⟨by decide +kernel, rfl⟩
  have hwhole : whole.bytes = bytes ++ [33] := by
    rw [Source.bytes, List.flatMap_append, List.flatMap_cons, ByteStream.bytes_ofBytes,
      ByteStream.bytes_ofBytes, Delivery.bytes, List.nil_append, ← List.append_assoc,
      List.take_append_drop]
  obtain ⟨-, hcalled, -, hserved, -⟩ := serve_reports r whole
  have hcourse : r.course whole = .ok (f { request, params := [("id", "1")] }) :=
    hcalled c bytes [33] f hencode hwhole rfl
  rw [r.run_eq, hcourse] at hserved
  obtain ⟨hdecode, hreports⟩ := hserved ⟨by decide, by decide +kernel⟩
  have hfaulted := hreports.faulted.2 ⟨Option.some_ne_none _, by decide⟩
  have hcut : cut.bytes = bytes.take 7 := ByteStream.bytes_ofBytes (bytes.take 7)
  have hseven : bytes.take 7 = [82, 0, 0, 0, 236, 123, 34] := by decide +kernel
  obtain ⟨hleads, -, -, hrefused, -⟩ := serve_reports r cut
  have hrefusal : r.course cut = .error (.unreadable (.protocol .truncatedPayload)) := by
    refine ((hleads _).1 (.truncated ?_ ?_ rfl)).symm
    · rw [hcut, hseven]
      exact .payload (by decide) (by decide)
    · rw [hcut, hseven]
      exact List.cons_ne_nil _ _
  rw [r.run_eq, hrefusal] at hrefused
  obtain ⟨hdecode', hreports'⟩ := hrefused ⟨by decide, by decide +kernel⟩
  have hfaulted' := hreports'.faulted.2 trivial
  exact ⟨r, c, bytes, whole, cut, _, _, rfl, rfl, hencode, hwhole, hcut, rfl,
    hreports.exitCode.1 hfaulted, hdecode, hreports.body, hreports.status, hfaulted,
    hreports'.exitCode.1 hfaulted', hdecode', hreports'.notProduced.2 ⟨rfl, .inl trivial⟩,
    hreports'.status.trans (by rw [hfaulted']; rfl)⟩

end RequestDispatch.Worker
