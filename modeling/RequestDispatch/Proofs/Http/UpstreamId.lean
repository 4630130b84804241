import RequestDispatch.Middleware
import RequestDispatch.Proofs.RequestId

/-!
# Ids that requests bring along

A request keeps the id that its `x-request-id` header spells. The id is then shown in capitals
(`text_of_parse`), except that a text of twenty-six digits may have two bits more than an id.

* `text_eq_upper_iff`: the id is shown as the header's text in capitals exactly if the text has no
  more bits than an id, which its first digit tells (`Fits`).
* `keeps_upstream`: then a request shows it as it came, and different ids stay different.
* `keeps_upstream_overflow`: otherwise it is shown as another id, which another request may have
  brought.
-/

set_option autoImplicit false

namespace RequestDispatch

namespace RequestId

/-- Twenty-six digits have no more bits than an id if the first of them is at most 7. -/
def Fits (s : String) : Prop := ∀ c ∈ s.toList.head?, c ≤ '7'

instance (s : String) : Decidable (Fits s) :=
  decidable_of_iff (s.toList.head?.all (· ≤ '7') = true) (by cases h : s.toList.head? <;> simp [Fits, h])

theorem ofHeader?_eq_some {s : String} {id : RequestId} :
    ofHeader? (some s) = some id ↔ parse s = .ok id := by
  cases h : parse s <;> simp [ofHeader?, h, Except.toOption]

/-- The digits up to 7 are the first eight. -/
theorem le_seven_iff {c : Char} {v : Nat} (h : digitValue? c = some v) : c ≤ '7' ↔ v < 8 := by
  have hall : ∀ n < 128, ∀ v ∈ digitValue? (Char.ofNat n), Char.ofNat n ≤ '7' ↔ v < 8 := by
    decide +kernel
  have hc := hall c.toNat (ascii_of_digitValue? h) v
  rw [Char.ofNat_toNat] at hc
  exact hc h

/-- An id that was read is shown as the text in capitals if the text has no more bits than an id,
and only then. -/
theorem text_eq_upper_iff {s : String} {id : RequestId} (h : parse s = .ok id) :
    id.text = Http.Method.upper s ↔ Fits s := by
  obtain ⟨c, rest, v, hs, hv, htext⟩ := text_of_parse h
  obtain ⟨hlt, hdigit⟩ := digit_of_digitValue? hv
  have hfits : Fits s ↔ v < 8 := by
    rw [← le_seven_iff hv, Fits, hs]
    simp
  rw [htext, Http.Method.upper, hs, List.map_cons, hdigit, hfits, String.ofList_inj]
  constructor
  · intro heq
    have hvalue := digitValue?_digit v hlt
    rw [← (List.cons.inj heq).1, digitValue?_digit _ (by omega)] at hvalue
    have := Option.some.inj hvalue
    omega
  · intro hsmall
    rw [Nat.mod_eq_of_lt hsmall]

end RequestId

/-- A request shows a text as its id: to a worker, in its session and in events. -/
structure Request.ShowsId (r : Request) (text : String) : Prop where
  worker : ("request_id", Json.text text) ∈ r.members
  session : ∀ start, ("session", Json.ofMembers [("UNIQUE_REQUEST_ID", .text text),
    ("__start_time", .real start)]) ∈ Context.wellKnown r start
  events : ∀ visit : Visit, visit.request = r →
    ("request_id", Json.text text) ∈ Middleware.requestFields visit

theorem Request.showsId (r : Request) : r.ShowsId r.id.text where
  worker := .head _
  session start := by simp [Context.wellKnown]
  events visit h := by subst h; exact .head _

namespace RequestId

/-- An id that was read from a header is shown as the header's text in capitals exactly if that text
has no more bits than an id. It is what a request with the header shows to its worker, in its
session and in events. Headers with no more bits bring the same id only where they are the same
but for the case of their letters. -/
theorem keeps_upstream {s : String} {id : RequestId} (h : ofHeader? (some s) = some id) :
    (id.text = Http.Method.upper s ↔ Fits s) ∧
    (∀ fresh method target minorVersion headers body,
      (headers.map fun h => (Http.Header.lower h.1, h.2)).lookup "x-request-id" = some s →
        (Request.ofParts fresh method target minorVersion headers body).ShowsId id.text) ∧
    ∀ other otherId, ofHeader? (some other) = some otherId → Fits s → Fits other →
      (id = otherId ↔ Http.Method.upper s = Http.Method.upper other) := by
  have hparse := ofHeader?_eq_some.1 h
  refine ⟨text_eq_upper_iff hparse, fun fresh method target minorVersion headers body hheader => ?_,
    fun other otherId hother hs hs' => ?_⟩
  · have hid : (Request.ofParts fresh method target minorVersion headers body).id = id := by
      rw [Request.ofParts, hheader, h, Option.getD_some]
    exact hid ▸ Request.showsId _
  · have hparse' := ofHeader?_eq_some.1 hother
    rw [← (text_eq_upper_iff hparse).2 hs, ← (text_eq_upper_iff hparse').2 hs']
    constructor
    · rintro rfl
      rfl
    · intro heq
      have hread := parse_text id
      rw [heq, parse_text otherId] at hread
      exact (Except.ok.inj hread).symm

/-- The greatest id, in small letters, comes with a request and stays. -/
theorem keeps_upstream_greatest : ∃ id : RequestId,
    ofHeader? (some "7zzzzzzzzzzzzzzzzzzzzzzzzz") = some id ∧
    id.text = "7ZZZZZZZZZZZZZZZZZZZZZZZZZ" ∧
    (Request.ofParts ⟨0⟩ "GET" "/" 1 [("X-Request-Id", "7zzzzzzzzzzzzzzzzzzzzzzzzz")] []).ShowsId
      "7ZZZZZZZZZZZZZZZZZZZZZZZZZ" := by
  have h : ofHeader? (some "7zzzzzzzzzzzzzzzzzzzzzzzzz") = some ⟨BitVec.allOnes 128⟩ := by
    decide +kernel
  have hfits : Fits "7zzzzzzzzzzzzzzzzzzzzzzzzz" := by decide +kernel
  obtain ⟨htext, hshows, -⟩ := keeps_upstream h
  have htext := htext.2 hfits
  have hupper : Http.Method.upper "7zzzzzzzzzzzzzzzzzzzzzzzzz" = "7ZZZZZZZZZZZZZZZZZZZZZZZZZ" := by
    decide +kernel
  rw [hupper] at htext
  exact ⟨_, h, htext, htext ▸ hshows _ _ _ _ _ _ (by decide +kernel)⟩

/-- The first text is read as an id, but its two highest bits are lost: the id is shown as another
text, which is read as the same id. -/
theorem keeps_upstream_overflow :
    ofHeader? (some "80000000000000000000000000") = some ⟨0⟩ ∧
    ofHeader? (some "00000000000000000000000000") = some ⟨0⟩ ∧
    RequestId.text ⟨0⟩ ≠ Http.Method.upper "80000000000000000000000000" := by
  decide +kernel

end RequestId

end RequestDispatch
