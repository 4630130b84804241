import RequestDispatch.Proofs.Http.HeaderSet

/-!
# Responses and what is collected for them

A status and headers can be set on a sink, and be taken over from there, or on a response itself.

* `Change.collect_eq`: a sink collects the headers that are set, as `Header.setAll` does, and the last
  status.
* `Response.applySink_eq`: a response takes the headers over one after the other.
* `Response.applySink_collect`: so it makes no difference whether a response is changed itself or
  takes over what a sink has collected, and to take it over once more changes nothing.
-/

set_option autoImplicit false

namespace RequestDispatch

open Http.Header (Distinct collected firstMentions last? setAll setAll_setAll setAll_twice)

/-- A status or a header that is set. -/
inductive Change where
  | status (code : UInt16)
  | header (name value : String)
  deriving DecidableEq, Repr

namespace Change

/-- A sink on which it is set. -/
def onSink (s : Sink) : Change → Sink
  | .status code => s.setStatus code
  | .header name value => s.setHeader name value

/-- A response on which it is set. -/
def onResponse (r : Response) : Change → Response
  | .status code => { r with status := code }
  | .header name value => r.setHeader name value

/-- The headers that are set, in order. -/
def headers (changes : List Change) : List (String × String) :=
  changes.filterMap fun
    | .status _ => none
    | .header name value => some (name, value)

/-- The statuses that are set, in order. -/
def statuses (changes : List Change) : List UInt16 :=
  changes.filterMap fun
    | .status code => some code
    | .header _ _ => none

/-- The sink on which changes were made from the start. -/
def collect (changes : List Change) : Sink := changes.foldl onSink {}

theorem getLast?_statuses_cons (code : UInt16) (changes : List Change) :
    (statuses (.status code :: changes)).getLast? = some ((statuses changes).getLast?.getD code) :=
  List.getLast?_cons

theorem foldl_onSink (changes : List Change) (s : Sink) :
    changes.foldl onSink s =
      ⟨(statuses changes).getLast?.or s.status, setAll s.headers (headers changes)⟩ := by
  induction changes generalizing s with
  | nil => rfl
  | cons change changes ih =>
    rw [List.foldl_cons, ih]
    cases change with
    | status code =>
      rw [getLast?_statuses_cons, onSink, Sink.setStatus, Option.or_some]
      rfl
    | header name value => rfl

theorem foldl_onResponse (changes : List Change) (r : Response) :
    changes.foldl onResponse r =
      ⟨(statuses changes).getLast?.getD r.status, setAll r.headers (headers changes), r.body⟩ := by
  induction changes generalizing r with
  | nil => rfl
  | cons change changes ih =>
    rw [List.foldl_cons, ih]
    cases change with
    | status code =>
      rw [getLast?_statuses_cons, Option.getD_some]
      rfl
    | header name value => rfl

theorem collect_eq (changes : List Change) :
    collect changes = ⟨(statuses changes).getLast?, setAll [] (headers changes)⟩ := by
  rw [collect, foldl_onSink, Option.or_none]

end Change

namespace Response

theorem applySink_eq (r : Response) (s : Sink) :
    r.applySink s = ⟨s.status.getD r.status, setAll r.headers s.headers, r.body⟩ := by
  have hset : ∀ (headers : List (String × String)) (r : Response),
      headers.foldl (fun r h => r.setHeader h.1 h.2) r =
        { r with headers := setAll r.headers headers } := by
    intro headers
    induction headers with
    | nil => exact fun r => rfl
    | cons h headers ih => exact fun r => ih (r.setHeader h.1 h.2)
  exact hset s.headers { r with status := s.status.getD r.status }

/-- A sink collects one header for each name that is set, in the order and the spelling of the first
mention and with the last value. A response with no two headers of one name that takes the sink over
is as if the status and the headers had been set on the response itself, in the same order: its
status changes if the sink has one, and not otherwise. Taking the sink over once more changes
nothing. -/
theorem applySink_collect (changes : List Change) {r : Response} (hr : Distinct r.headers) {s : Sink}
    (hs : s = Change.collect changes) :
    Distinct s.headers ∧
    s.headers.map Prod.fst = firstMentions ((Change.headers changes).map Prod.fst) ∧
    (∀ h ∈ s.headers, last? h.1 (Change.headers changes) = some h.2) ∧
    s.status = (Change.statuses changes).getLast? ∧
    r.applySink s = changes.foldl Change.onResponse r ∧
    (∀ code, s.status = some code → (r.applySink s).status = code) ∧
    (s.status = none → (r.applySink s).status = r.status) ∧
    (r.applySink s).applySink s = r.applySink s := by
  rw [Change.collect_eq] at hs
  subst hs
  obtain ⟨hnames, hvalues⟩ := collected (Change.headers changes)
  refine ⟨Distinct.setAll List.Pairwise.nil _, hnames, hvalues, rfl, ?_, ?_, ?_, ?_⟩
  · rw [applySink_eq, Change.foldl_onResponse, setAll_setAll hr]
  · intro code hcode
    rw [applySink_eq, hcode, Option.getD_some]
  · intro hnone
    rw [applySink_eq, hnone, Option.getD_none]
  · have hstatus : ∀ (last : Option UInt16) code, last.getD (last.getD code) = last.getD code := by
      intro last code
      cases last <;> rfl
    simp only [applySink_eq, setAll_twice hr, hstatus]

/-- One header in two spellings, and one that the response has in another spelling. -/
theorem applySink_collect_page : ∃ (changes : List Change) (r : Response) (s : Sink),
    changes = [.header "X-Id" "1", .status 404, .header "content-type" "text/plain", .status 201,
      .header "x-ID" "2"] ∧
    r = .make 200 Reply.htmlType [] ∧ Distinct r.headers ∧ s = Change.collect changes ∧
    s.headers = [("X-Id", "2"), ("content-type", "text/plain")] ∧
    r.applySink s = changes.foldl Change.onResponse r ∧
    (r.applySink s).status = 201 ∧
    (r.applySink s).headers = [("Content-Type", "text/plain"), ("X-Id", "2")] ∧
    (r.applySink s).applySink s = r.applySink s := by
  let changes : List Change := [.header "X-Id" "1", .status 404,
    .header "content-type" "text/plain", .status 201, .header "x-ID" "2"]
  let r : Response := .make 200 Reply.htmlType []
  have hr : Distinct r.headers := List.pairwise_singleton _ _
  obtain ⟨-, -, -, -, happly, hstatus, -, htwice⟩ := applySink_collect changes hr rfl
  exact ⟨changes, r, _, rfl, rfl, hr, rfl, by decide +kernel, happly, hstatus 201 rfl,
    by decide +kernel, htwice⟩

end Response

end RequestDispatch
