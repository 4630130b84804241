import RequestDispatch.Proofs.Json.Typed
import RequestDispatch.Proofs.RequestId
import RequestDispatch.Proofs.Text.Base64
import RequestDispatch.Request

/-!
# Requests are read back

* `accepted_members`: the members of a request are those that a request is read from.
* `decode_toJson`, `decode_toValue`: a request is read from its value, each field as it was, both
  from the one that is written for a worker and from the one that a store has.
* `plain_toJson`: the value of a request is plain, so it is also read from its bytes.
-/

set_option autoImplicit false

namespace RequestDispatch.Request

open Json (Reader Record)

/-! ## Fields -/

theorem decode_id (id : RequestId) : (Json.text id.text).decode idReader = .ok id := by
  simp [Json.decode, Json.Draft.ofJson, idReader, Reader.text, RequestId.parse_text]

theorem decode_body (body : List UInt8) :
    (Json.text (Text.Base64.encode body)).decode bodyReader = .ok body := by
  simp [Json.decode, Json.Draft.ofJson, bodyReader, Reader.text, Text.Base64.decodeBytes_encode]

theorem decode_pairs (ps : List (String × String)) :
    (Json.ofTextPairs ps).decode pairsReader = .ok ps :=
  Json.decode_list fun _ _ => Json.decode_pair rfl rfl

theorem decode_optional (s : Option String) :
    ((s.map Json.text).getD .null).decode (Reader.optional Reader.text) = .ok s := by
  cases s <;> rfl

/-! ## Requests -/

theorem nodup_members (r : Request) : (r.members.map Prod.fst).Nodup := by
  simp only [members, List.map_cons, List.map_nil]
  decide

theorem accepted_members (r : Request) : Json.Accepted fields r.members := by
  refine ⟨r.nodup_members, ?_⟩
  simp only [members, List.forall_mem_cons]
  refine ⟨⟨_, rfl, Json.Field.check_of (decode_id r.id) _ _⟩, ⟨_, rfl, rfl⟩, ⟨_, rfl, rfl⟩,
    ⟨_, rfl, rfl⟩, ⟨_, rfl, rfl⟩, ⟨_, rfl, Json.Field.check_of (decode_optional r.remoteAddr) _ _⟩,
    ⟨_, rfl, Json.Field.check_of (decode_pairs r.headers) _ _⟩,
    ⟨_, rfl, Json.Field.check_of (Json.decode_texts r.query) _ _⟩,
    ⟨_, rfl, Json.Field.check_of (Json.decode_texts r.cookies) _ _⟩,
    ⟨_, rfl, Json.Field.check_of (decode_body r.body) _ _⟩, by simp⟩

/-- A request is read from an object of its members, in whatever order they stand. -/
theorem decode_object (r : Request) {ms : List (String × Json)} (hnodup : (ms.map Prod.fst).Nodup)
    (hms : ∀ m, m ∈ ms ↔ m ∈ r.members) : (Json.object ms).decode reader = .ok r := by
  have haccepted : Json.Accepted fields ms :=
    ⟨hnodup, fun m hm => r.accepted_members.check m ((hms m).1 hm)⟩
  have hmem : ∀ k v, (k, v) ∈ r.members → (k, v) ∈ ms := fun k v => (hms (k, v)).2
  exact bind_eq_ok.2 ⟨_, Record.read_object haccepted "RequestContext",
    bind_eq_ok.2 ⟨_, Record.required_ofMembers hnodup (hmem _ _ (by simp [members]))
      (decode_id r.id) 0,
    bind_eq_ok.2 ⟨_, Record.required_ofMembers hnodup (hmem _ _ (by simp [members]))
      (Json.decode_text r.method) 1,
    bind_eq_ok.2 ⟨_, Record.required_ofMembers hnodup (hmem _ _ (by simp [members]))
      (Json.decode_text r.path) 2,
    bind_eq_ok.2 ⟨_, Record.required_ofMembers hnodup (hmem _ _ (by simp [members]))
      (Json.decode_text r.uri) 3,
    bind_eq_ok.2 ⟨_, Record.required_ofMembers hnodup (hmem _ _ (by simp [members]))
      (Json.decode_text r.protocol) 4,
    bind_eq_ok.2 ⟨_, Record.defaulted_ofMembers hnodup (hmem _ _ (by simp [members]))
      (decode_optional r.remoteAddr) _,
    bind_eq_ok.2 ⟨_, Record.defaulted_ofMembers hnodup (hmem _ _ (by simp [members]))
      (decode_pairs r.headers) _,
    bind_eq_ok.2 ⟨_, Record.defaulted_ofMembers hnodup (hmem _ _ (by simp [members]))
      (Json.decode_texts r.query) _,
    bind_eq_ok.2 ⟨_, Record.defaulted_ofMembers hnodup (hmem _ _ (by simp [members]))
      (Json.decode_texts r.cookies) _,
    bind_eq_ok.2 ⟨_, Record.defaulted_ofMembers hnodup (hmem _ _ (by simp [members]))
      (decode_body r.body) _, rfl⟩⟩⟩⟩⟩⟩⟩⟩⟩⟩⟩

/-- It is read from what is written for a worker. -/
theorem decode_toJson (r : Request) : r.toJson.decode reader = .ok r :=
  r.decode_object r.nodup_members fun _ => .rfl

/-- It is read from the value that a store has for it. -/
theorem decode_toValue (r : Request) : r.toValue.decode reader = .ok r :=
  r.decode_object (Dictionary.ordered_ofPairs r.members).nodup fun _ =>
    Dictionary.mem_ofPairs_iff r.nodup_members

theorem plain_toJson (depth : Nat) (r : Request) : Json.Plain (depth + 3) r.toJson := by
  rw [toJson, Json.Plain, Json.plainMembers_iff]
  simp only [members, List.forall_mem_cons]
  have hremote : Json.Plain (depth + 2) ((r.remoteAddr.map Json.text).getD .null) := by
    cases r.remoteAddr <;> trivial
  exact ⟨trivial, trivial, trivial, trivial, trivial, hremote, Json.plain_ofTextPairs _ _,
    Json.plain_ofTexts _ _, Json.plain_ofTexts _ _, trivial, by simp⟩

end RequestDispatch.Request
