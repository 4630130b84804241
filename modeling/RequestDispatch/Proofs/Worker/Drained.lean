import Mathlib.Logic.Function.Iterate
import RequestDispatch.Proofs.Worker.Envelope

/-!
# What a process wrote is drained whole

A stream is drained in rounds of one read each. `Draining.promised` is what a loop will have at its
end: the bytes it has and those left in the stream, and the failure that the stream ends in, if any.

* `Draining.promised_round`: no round changes that. A read takes bytes off the stream and puts them
  behind the others, and a chunk that is larger than the buffer stays in order.
* `Draining.roundsLeft_iterate`: every round is one of those that were to come, so the loop is at
  its end after `Source.reads` of them (`Draining.iterate_roundsLeft`) and not before.
* `Source.drain_eq`: what a stream is drained to.
* `drain_settles`: all of this, and that the pieces in which the output of a process comes do not
  matter to what it settles to.
-/

set_option autoImplicit false

namespace RequestDispatch

namespace ByteStream

/-- The reason of the failure that a stream ends in, if it ends in one. -/
def Ending.failure? : Ending → Option String
  | .closed => none
  | .failed reason => some reason

theorem Ending.failure?_eq_none {e : Ending} : e.failure? = none ↔ e = .closed := by
  cases e <;> simp [failure?]

theorem Ending.failure?_eq_some {e : Ending} {reason : String} :
    e.failure? = some reason ↔ e = .failed reason := by
  cases e <;> simp [failure?]

theorem Ending.failure?_inj {e e' : Ending} (h : e.failure? = e'.failure?) : e = e' := by
  cases e' with
  | closed => exact failure?_eq_none.1 h
  | failed reason => exact failure?_eq_some.1 h

/-! ## Rounds -/

namespace Draining

/-- What a loop will have at its end. -/
def promised : Draining → List UInt8 × Option String
  | .going out left => (out.toList ++ left.bytes, left.ending.failure?)
  | .ended out failure => (out.toList, failure)

theorem promised_round (d : Draining) : (round d).promised = d.promised := by
  cases d with
  | ended out failure => rfl
  | going out left =>
    obtain ⟨deliveries, ending⟩ := left
    cases deliveries with
    | nil =>
      cases ending with
      | closed => simp [round_closed, promised, Source.bytes, Ending.failure?]
      | failed reason => simp [round_failed, promised, Source.bytes, Ending.failure?]
    | cons d rest =>
      cases d with
      | interrupted => rfl
      | chunk first more =>
        -- what was read is now behind the other bytes, and the rest of the chunk comes next
        have hchunk : (first :: more).take drainSize ++ (first :: more).drop drainSize =
            (Delivery.chunk first more).bytes := List.take_append_drop drainSize _
        simp only [round_chunk, promised, Source.bytes, Array.toList_appendList, List.append_assoc,
          List.flatMap_append, bytes_ofBytes, List.flatMap_cons, ← hchunk]

theorem promised_iterate (n : Nat) (d : Draining) : (round^[n] d).promised = d.promised := by
  have hround : promised ∘ round = promised := funext promised_round
  exact congrFun (Function.iterate_invariant hround n) d

theorem roundsLeft_iterate (n : Nat) (d : Draining) :
    (round^[n] d).roundsLeft = d.roundsLeft - n := by
  induction n generalizing d with
  | zero => rfl
  | succ n ih =>
    have hround : (round d).roundsLeft = d.roundsLeft - 1 := by
      cases d with
      | going out left => exact Nat.eq_sub_of_add_eq (roundsLeft_round out left)
      | ended out failure => rfl
    rw [Function.iterate_succ_apply, ih, hround, Nat.sub_sub, Nat.add_comm]

/-- A loop that has rounds to come is still going. -/
theorem going_of_roundsLeft_pos {d : Draining} (h : 0 < d.roundsLeft) :
    ∃ out left, d = .going out left := by
  cases d with
  | going out left => exact ⟨out, left, rfl⟩
  | ended out failure => exact absurd h (Nat.lt_irrefl 0)

/-- A loop that has no rounds to come is at its end. -/
theorem ended_of_roundsLeft_eq_zero {d : Draining} (h : d.roundsLeft = 0) :
    d = .ended d.promised.1.toArray d.promised.2 := by
  cases d with
  | going out left => exact absurd ((roundsLeft_round out left).trans h) (Nat.succ_ne_zero _)
  | ended out failure => rfl

/-- After the rounds that are to come, and with what was promised, the loop is at its end. -/
theorem iterate_roundsLeft (d : Draining) :
    round^[d.roundsLeft] d = .ended d.promised.1.toArray d.promised.2 := by
  have hzero : (round^[d.roundsLeft] d).roundsLeft = 0 :=
    (roundsLeft_iterate _ d).trans (Nat.sub_self _)
  rw [ended_of_roundsLeft_eq_zero hzero, promised_iterate]

/-- Going on to the end comes to what was promised. -/
theorem finish_eq (d : Draining) : d.finish = (d.promised.1.toArray, d.promised.2) := by
  fun_induction finish d with
  | case1 out left ih => rw [ih, promised_round]
  | case2 out failure => rfl

end Draining

namespace Source

theorem drain_eq (already : List UInt8) (s : Source) :
    s.drain already = (already ++ s.bytes, s.ending.failure?) := by
  rw [drain, Draining.finish_eq]
  rfl

/-- A stream is drained whole behind the bytes already there: the loop ends, and not before it has
met the end of the stream. -/
structure Drained (already : List UInt8) (s : Source) : Prop where
  /-- Before the last read the loop goes on; the bytes it has and those that are left are all bytes,
  in their order. -/
  going : ∀ n < s.reads, ∃ out left,
    Draining.round^[n] (.going already.toArray s) = .going out left ∧
    out.toList ++ left.bytes = already ++ s.bytes ∧ left.ending = s.ending
  /-- With the last read it ends, and what it has then is the result. -/
  stops : Draining.round^[s.reads] (.going already.toArray s) =
    .ended (s.drain already).1.toArray (s.drain already).2
  bytes : (s.drain already).1 = already ++ s.bytes
  closed : (s.drain already).2 = none ↔ s.ending = .closed
  failed : ∀ reason, (s.drain already).2 = some reason ↔ s.ending = .failed reason

theorem drained (already : List UInt8) (s : Source) : s.Drained already where
  going n hn := by
    have hleft : 0 < (Draining.round^[n] (.going already.toArray s)).roundsLeft := by
      rw [Draining.roundsLeft_iterate]
      exact Nat.sub_pos_of_lt hn
    obtain ⟨out, left, hgoing⟩ := Draining.going_of_roundsLeft_pos hleft
    have hpromised := Draining.promised_iterate n (.going already.toArray s)
    rw [hgoing] at hpromised
    obtain ⟨hbytes, hfailure⟩ := Prod.mk.inj hpromised
    exact ⟨out, left, hgoing, hbytes, Ending.failure?_inj hfailure⟩
  stops := by
    rw [drain_eq]
    exact Draining.iterate_roundsLeft (.going already.toArray s)
  bytes := by rw [drain_eq]
  closed := by rw [drain_eq, Ending.failure?_eq_none]
  failed reason := by rw [drain_eq, Ending.failure?_eq_some]

end Source

end ByteStream

namespace Worker

open ByteStream (Delivery Ending Source)

/-- Draining a stream comes to an end, with the bytes of the stream behind those that were there and
with the failure that the stream ends in, if it ends in one. Another stream of the same bytes is
drained to the same bytes, however they come, and so settles to the same. -/
theorem drain_settles (already : List UInt8) (s : Source) :
    s.Drained already ∧ ∀ s' : Source, s'.bytes = s.bytes →
      (s'.drain already).1 = (s.drain already).1 ∧
      ∀ killed, settle (s'.drain already).1 killed = settle (s.drain already).1 killed := by
  refine ⟨s.drained already, fun s' hbytes => ?_⟩
  have hsame : (s'.drain already).1 = (s.drain already).1 := by
    rw [(s'.drained already).bytes, (s.drained already).bytes, hbytes]
  exact ⟨hsame, fun killed => by rw [hsame]⟩

/-- An answer whose body does not fit into the buffer, delivered at once, byte by byte with an
interruption before each, and like that but with a failure behind the last. -/
theorem drain_settles_trickle : ∃ (a : Answer) (whole trickle broken : Source),
    a.body.toBytes = List.replicate (ByteStream.drainSize + 1) 7 ∧
    trickle = ⟨whole.bytes.flatMap fun b => [.interrupted, .chunk b []], .closed⟩ ∧
    broken = ⟨trickle.deliveries, .failed "read refused"⟩ ∧
    settle (whole.drain []).1 true = .ok (a, false) ∧ (whole.drain []).2 = none ∧
    settle (trickle.drain []).1 true = .ok (a, false) ∧ (trickle.drain []).2 = none ∧
    broken.drain [62] = (62 :: whole.bytes, some "read refused") := by
  let body := List.replicate (ByteStream.drainSize + 1) (7 : UInt8)
  let a : Answer := ⟨.bytes body, ⟨200, [], false, false, ByteStream.drainSize + 1, none⟩⟩
  let bs := a.body.frame.encode ++ a.envelope.frame.encode
  let whole := Source.ofBytes bs
  let pieces : List Delivery := whole.bytes.flatMap fun b => [.interrupted, .chunk b []]
  have hlength : body.length = ByteStream.drainSize + 1 := List.length_replicate
  have hbody : a.body.toBytes.length ≤ Frame.maxPayload :=
    Nat.le_trans (Nat.le_of_eq hlength) (by decide)
  have hpayload : a.envelope.frame.payload.length ≤ Frame.maxPayload := by decide +kernel
  have hdecode : Answer.decode bs = .ok a :=
    (Answer.spelled_frames hbody hpayload hlength.symm).decode
  have hwhole : whole.bytes = bs := ByteStream.bytes_ofBytes bs
  have hpieces (ending : Ending) : (⟨pieces, ending⟩ : Source).bytes = whole.bytes := by
    rw [Source.bytes, List.flatMap_assoc]
    exact List.flatMap_singleton' whole.bytes
  obtain ⟨hdrained, hsame⟩ := drain_settles [] whole
  have hsettle : settle (whole.drain []).1 true = .ok (a, false) := by
    rw [hdrained.bytes, List.nil_append, hwhole]
    exact settle_of_ok hdecode true
  obtain ⟨-, htrickle⟩ := hsame ⟨pieces, .closed⟩ (hpieces .closed)
  have hclosed := (drain_settles [] ⟨pieces, .closed⟩).1.closed.2 rfl
  have hbroken := (drain_settles [62] ⟨pieces, .failed "read refused"⟩).1
  have hbytes := hbroken.bytes.trans (congrArg ([62] ++ ·) (hpieces _))
  exact ⟨a, whole, ⟨pieces, .closed⟩, ⟨pieces, .failed "read refused"⟩, rfl, rfl, rfl, hsettle,
    hdrained.closed.2 rfl, (htrickle true).trans hsettle, hclosed,
    Prod.ext hbytes ((hbroken.failed _).2 rfl)⟩

end Worker

end RequestDispatch
