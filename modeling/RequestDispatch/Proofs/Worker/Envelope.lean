import RequestDispatch.Proofs.Request
import RequestDispatch.Proofs.Worker.Answer
import RequestDispatch.Proofs.Worker.Delivery

/-!
# An answer arrives as it was written

* `Envelope.decode_toJson`, `Envelope.plain_toJson`: an envelope is read from its value, and from
  its bytes, as long as the length it declares has 64 bits.
* `Answer.spelled_frames`: so the two frames of an answer spell it.
* `Answer.write_fits`, `Answer.write_payloadTooLarge`: an answer whose parts fit into frames is
  written in full, and of any other too little is written for it to be read as an answer.
-/

set_option autoImplicit false

namespace RequestDispatch.Worker

open Json (Reader Record)

/-! ## Envelopes -/

theorem decode_status (status : UInt16) :
    (Json.ofNat status.toNat).decode statusReader = .ok status := by
  have hlt : status.toNat < UInt16.size := status.toNat_lt
  have h := Json.decode_natural hlt (by decide) "u16"
  rw [Json.decode] at h
  rw [Json.decode, statusReader, h]
  simp [Except.map]

namespace Envelope

def members (e : Envelope) : List (String × Json) :=
  [("statusCode", .ofNat e.status.toNat), ("headers", .ofTextPairs e.headers),
    ("faulted", .bool e.faulted), ("earlyExit", .bool e.earlyExit),
    ("bodyLength", .ofNat e.bodyLength)] ++ (e.error.map fun m => ("error", Json.text m)).toList

theorem nodup_members (e : Envelope) : (e.members.map Prod.fst).Nodup := by
  cases h : e.error <;> simp [members, h]

/-- The member of the error, if there is one, is a text. -/
theorem mem_error {error : Option String} {m : String × Json}
    (hm : m ∈ (error.map fun m => ("error", Json.text m)).toList) :
    ∃ text, m = ("error", .text text) := by
  obtain ⟨text, -, rfl⟩ : ∃ text, error = some text ∧ ("error", Json.text text) = m := by
    simpa using hm
  exact ⟨text, rfl⟩

variable {e : Envelope}

theorem accepted_members (h : e.bodyLength < UInt64.size) : Json.Accepted fields e.members := by
  refine ⟨e.nodup_members, ?_⟩
  have hlength := Json.decode_natural h (Nat.le_refl _) "u64"
  have herror : ∀ m ∈ (e.error.map fun m => ("error", Json.text m)).toList,
      ∃ f, fields.find? (fun f => f.name == m.1) = some f ∧
        f.check (Json.Draft.ofJson m.2) = .ok () := by
    intro m hm
    obtain ⟨text, rfl⟩ := mem_error hm
    exact ⟨_, rfl, rfl⟩
  simp only [members, List.forall_mem_append, List.forall_mem_cons]
  exact ⟨⟨⟨_, rfl, Json.Field.check_of (decode_status e.status) _ _⟩,
    ⟨_, rfl, Json.Field.check_of (Request.decode_pairs e.headers) _ _⟩, ⟨_, rfl, rfl⟩,
    ⟨_, rfl, rfl⟩, ⟨_, rfl, Json.Field.check_of hlength _ _⟩, by simp⟩, herror⟩

/-- The error is read from its member, and there is none where there is no member. -/
theorem defaulted_error (e : Envelope) :
    (Record.ofMembers e.members).defaulted "error" none (Reader.optional Reader.text) =
      .ok e.error := by
  cases h : e.error with
  | none =>
    refine Record.defaulted_of_not_mem ?_ _ _
    simp [members, h]
  | some text =>
    have hmem : ("error", Json.text text) ∈ e.members := by simp [members, h]
    exact Record.defaulted_ofMembers e.nodup_members hmem (Request.decode_optional (some text)) _

theorem decode_toJson (h : e.bodyLength < UInt64.size) : e.toJson.decode reader = .ok e := by
  have hnodup := e.nodup_members
  exact bind_eq_ok.2 ⟨_, Record.read_object (accepted_members h) "Envelope",
    bind_eq_ok.2 ⟨_, Record.required_ofMembers hnodup (by simp [members])
      (decode_status e.status) 0,
    bind_eq_ok.2 ⟨_, Record.defaulted_ofMembers hnodup (by simp [members])
      (Request.decode_pairs e.headers) _,
    bind_eq_ok.2 ⟨_, Record.required_ofMembers hnodup (by simp [members])
      (Json.decode_bool e.faulted) 2,
    bind_eq_ok.2 ⟨_, Record.defaulted_ofMembers hnodup (by simp [members])
      (Json.decode_bool e.earlyExit) _,
    bind_eq_ok.2 ⟨_, Record.required_ofMembers hnodup (by simp [members])
      (Json.decode_natural h (Nat.le_refl _) "u64") 4,
    bind_eq_ok.2 ⟨_, e.defaulted_error, rfl⟩⟩⟩⟩⟩⟩⟩

theorem plain_toJson (h : e.bodyLength < UInt64.size) : Json.Plain Json.maxDepth e.toJson := by
  have hstatus : e.status.toNat < UInt64.size := Nat.lt_trans e.status.toNat_lt (by decide)
  have herror : ∀ m ∈ (e.error.map fun m => ("error", Json.text m)).toList,
      Json.Plain 126 m.2 := by
    intro m hm
    obtain ⟨text, rfl⟩ := mem_error hm
    trivial
  rw [show Json.maxDepth = 126 + 1 from rfl, toJson, Json.Plain, Json.plainMembers_iff]
  simp only [List.forall_mem_append, List.forall_mem_cons]
  exact ⟨⟨Json.plain_ofNat _ hstatus, Json.plain_ofTextPairs _ _, trivial, trivial,
    Json.plain_ofNat _ h, by simp⟩, herror⟩

theorem payload_frame (e : Envelope) : e.frame.payload = Text.encodeUtf8 e.toJson.compact := by
  rw [frame]

theorem decode_frame (h : e.bodyLength < UInt64.size) :
    (Json.Document.ofBytes e.frame.payload).decode reader = .ok e :=
  Json.decode_ofBytes_compact (plain_toJson h) (decode_toJson h)

end Envelope

/-! ## Frames -/

namespace Answer

theorem spelled_frames {a : Answer} (hbody : a.body.toBytes.length ≤ Frame.maxPayload)
    (hpayload : a.envelope.frame.payload.length ≤ Frame.maxPayload)
    (hlength : a.envelope.bodyLength = a.body.toBytes.length) :
    a.Spelled a.envelope.frame.payload (a.body.frame.encode ++ a.envelope.frame.encode) where
  frames := rfl
  body_le := hbody
  payload_le := hpayload
  envelope := Envelope.decode_frame (by
    rw [hlength]
    exact Nat.lt_of_le_of_lt hbody (by decide))
  length := hlength

theorem write_fits {a : Answer} (hbody : a.body.toBytes.length ≤ Frame.maxPayload)
    (hpayload : a.envelope.frame.payload.length ≤ Frame.maxPayload) :
    a.write {} = (⟨a.body.frame.encode ++ a.envelope.frame.encode, none⟩, .ok ()) := by
  rw [← payload_frame] at hbody
  simp only [write, Frame.write_fits hbody, Frame.write_fits hpayload, List.nil_append]

/-- A body alone is no answer. -/
theorem decode_body (body : Body) (h : body.toBytes.length ≤ Frame.maxPayload) :
    ∃ fault, decode body.frame.encode = .error fault := by
  rw [← payload_frame] at h
  cases hdecode : decode body.frame.encode with
  | error fault => exact ⟨fault, rfl⟩
  | ok a =>
    obtain ⟨payload, ha⟩ := decode_eq_ok.1 hdecode
    have hbody := ha.body_le
    rw [← payload_frame] at hbody
    have hframes := ha.frames
    rw [← List.append_nil body.frame.encode] at hframes
    exact absurd (Frame.encode_append_inj h hbody hframes).2 (by simp [Frame.encode, Frame.header])

/-- An answer of which a part is too long is refused, and what is written of it is no answer: it is
nothing, or the body alone. -/
theorem write_payloadTooLarge {a : Answer} (h : ¬ (a.body.toBytes.length ≤ Frame.maxPayload ∧
    a.envelope.frame.payload.length ≤ Frame.maxPayload)) :
    (a.write {}).2 = .error .payloadTooLarge ∧
      ∃ fault, decode (a.write {}).1.written = .error fault := by
  by_cases hbody : a.body.toBytes.length ≤ Frame.maxPayload
  · have hpayload : Frame.maxPayload < a.envelope.frame.payload.length :=
      Nat.lt_of_not_le fun hle => h ⟨hbody, hle⟩
    have hfits : a.body.frame.payload.length ≤ Frame.maxPayload := by rwa [payload_frame]
    simp only [write, Frame.write_fits hfits, Frame.write_payloadTooLarge hpayload, List.nil_append]
    exact ⟨trivial, decode_body a.body hbody⟩
  · have hlong : Frame.maxPayload < a.body.frame.payload.length := by
      rw [payload_frame]
      omega
    simp only [write, Frame.write_payloadTooLarge hlong]
    exact ⟨trivial, .silence, rfl⟩

end Answer

end RequestDispatch.Worker
