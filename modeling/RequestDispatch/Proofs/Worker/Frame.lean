import RequestDispatch.Proofs.Outcome
import RequestDispatch.Worker.Frame

/-!
# Frames are cut where they were joined

* `split_eq_ok`: cutting the first frame off some bytes gives a frame and a rest exactly if the
  bytes are that frame as it is written and then the rest, and the frame is not too long.
* `encode_append_inj`: so no frame is the beginning of another, and what follows a frame does not
  matter to how it is read.
* `whole_or_not`: bytes that do not begin with a frame are cut within it (`Cut`), or declare more than
  a frame may hold (`Oversized`).
-/

set_option autoImplicit false

namespace RequestDispatch.Worker.Frame

/-! ## Lengths -/

theorem ofLengthBytes_lengthBytes {n : Nat} (h : n < UInt32.size) :
    ofLengthBytes (lengthBytes n) = n := by
  have hsize : UInt32.size = 0x100000000 := rfl
  simp only [ofLengthBytes, lengthBytes, List.foldl_cons, List.foldl_nil, Nat.toUInt8,
    UInt8.toNat_ofNat']
  omega

/-- Four bytes are the length that they stand for. -/
theorem lengthBytes_ofLengthBytes {bs : List UInt8} (h : bs.length = 4) :
    lengthBytes (ofLengthBytes bs) = bs := by
  match bs, h with
  | [a, b, c, d], _ =>
    have ha := a.toNat_lt
    have hb := b.toNat_lt
    have hc := c.toNat_lt
    have hd := d.toNat_lt
    simp only [ofLengthBytes, lengthBytes, List.foldl_cons, List.foldl_nil, Nat.toUInt8,
      List.cons.injEq, ← UInt8.toNat_inj, UInt8.toNat_ofNat', and_true, Nat.zero_mul, Nat.zero_add]
    refine ⟨?_, ?_, ?_, ?_⟩ <;> omega

/-! ## Cutting a frame off -/

/-- The length in a header is the length of the payload it was written for. -/
theorem declared_header (f : Frame) (h : f.payload.length ≤ maxPayload) :
    declared f.header = .ok f.payload.length := by
  have hlt : f.payload.length < UInt32.size := Nat.lt_of_le_of_lt h (by decide)
  simp only [declared, header, List.drop_one, List.tail_cons, ofLengthBytes_lengthBytes hlt, if_pos h]

theorem split_encode {f : Frame} (h : f.payload.length ≤ maxPayload) (rest : List UInt8) :
    split (f.encode ++ rest) = .ok (f, rest) := by
  have hlen : f.header.length = headerSize := rfl
  have htake : (f.encode ++ rest).take headerSize = f.header := by
    rw [encode, List.append_assoc, ← hlen, List.take_left]
  have hdrop : (f.encode ++ rest).drop headerSize = f.payload ++ rest := by
    rw [encode, List.append_assoc, ← hlen, List.drop_left]
  simp only [split, htake, hdrop, hlen, Nat.lt_irrefl, ↓reduceIte, declared_header f h,
    List.take_left, List.drop_left]
  rfl

/-- The length that a header declares is within the limit, and the header is the one that is
written for it. -/
theorem header_of_declared {header : List UInt8} {n : Nat} (hlen : header.length = headerSize)
    (h : declared header = .ok n) :
    header = header.headD 0 :: lengthBytes n ∧ n ≤ maxPayload := by
  unfold declared at h
  simp only at h
  split at h
  · rename_i hle
    obtain rfl := Except.ok.inj h
    match header, hlen with
    | tag :: len, hlen =>
      have hfour : len.length = 4 := Nat.succ.inj hlen
      refine ⟨?_, hle⟩
      rw [List.drop_one, List.tail_cons, lengthBytes_ofLengthBytes hfour]
      rfl
  · simp at h

theorem eq_encode_of_split {bs rest : List UInt8} {f : Frame} (h : split bs = .ok (f, rest)) :
    bs = f.encode ++ rest ∧ f.payload.length ≤ maxPayload := by
  unfold split at h
  simp only at h
  split at h
  · simp at h
  · rename_i hheader
    split at h
    · simp at h
    · rename_i n hn
      split at h
      · simp at h
      · rename_i hpayload
        obtain ⟨rfl, rfl⟩ := Prod.mk.inj (Except.ok.inj h)
        have hlen : (bs.take headerSize).length = headerSize := by
          rw [List.length_take] at hheader ⊢
          omega
        have htake : ((bs.drop headerSize).take n).length = n := by
          rw [List.length_take] at hpayload ⊢
          omega
        obtain ⟨hh, hle⟩ := header_of_declared hlen hn
        refine ⟨?_, by rw [htake]; exact hle⟩
        rw [encode, Frame.header, htake, ← hh, List.append_assoc, List.take_append_drop,
          List.take_append_drop]

theorem split_eq_ok {bs rest : List UInt8} {f : Frame} :
    split bs = .ok (f, rest) ↔ bs = f.encode ++ rest ∧ f.payload.length ≤ maxPayload :=
  ⟨eq_encode_of_split, fun ⟨hbs, h⟩ => hbs ▸ split_encode h rest⟩

/-- What is written as a frame and something behind it can be cut in one way only. -/
theorem encode_append_inj {f g : Frame} {r s : List UInt8} (hf : f.payload.length ≤ maxPayload)
    (hg : g.payload.length ≤ maxPayload) (h : f.encode ++ r = g.encode ++ s) : f = g ∧ r = s := by
  have hs := split_encode hf r
  rw [h, split_encode hg s] at hs
  obtain ⟨rfl, rfl⟩ := Prod.mk.inj (Except.ok.inj hs)
  exact ⟨rfl, rfl⟩

/-! ## Bytes without a frame -/

/-- The length in the four bytes of a header, the greatest first. -/
def lengthOf (a b c d : UInt8) : Nat :=
  ((a.toNat * 256 + b.toNat) * 256 + c.toNat) * 256 + d.toNat

/-- Bytes that end within the frame that they begin, and where they do. -/
inductive Cut : List UInt8 → Fault → Prop where
  | header {bs : List UInt8} (short : bs.length < headerSize) : Cut bs .truncatedHeader
  | payload {tag a b c d : UInt8} {rest : List UInt8} (fits : lengthOf a b c d ≤ maxPayload)
      (short : rest.length < lengthOf a b c d) :
      Cut (tag :: a :: b :: c :: d :: rest) .truncatedPayload

/-- Bytes that begin with a header of more than a frame may hold, and how much it declares. -/
inductive Oversized : List UInt8 → Nat → Prop where
  | header {tag a b c d : UInt8} {rest : List UInt8} (exceeds : maxPayload < lengthOf a b c d) :
      Oversized (tag :: a :: b :: c :: d :: rest) (lengthOf a b c d)

theorem ofLengthBytes_four (a b c d : UInt8) : ofLengthBytes [a, b, c, d] = lengthOf a b c d := by
  simp only [ofLengthBytes, lengthOf, List.foldl_cons, List.foldl_nil, Nat.zero_mul, Nat.zero_add]

theorem declared_of_le (tag : UInt8) {a b c d : UInt8} (h : lengthOf a b c d ≤ maxPayload) :
    declared [tag, a, b, c, d] = .ok (lengthOf a b c d) := by
  rw [declared, List.drop_one, List.tail_cons, ofLengthBytes_four]
  exact if_pos h

theorem declared_of_lt (tag : UInt8) {a b c d : UInt8} (h : maxPayload < lengthOf a b c d) :
    declared [tag, a, b, c, d] = .error (.oversized (lengthOf a b c d)) := by
  rw [declared, List.drop_one, List.tail_cons, ofLengthBytes_four]
  exact if_neg (Nat.not_le.2 h)

theorem whole_or_not (bs : List UInt8) :
    (∃ (f : Frame) (rest : List UInt8), f.payload.length ≤ maxPayload ∧ bs = f.encode ++ rest) ∨
      (∃ fault, Cut bs fault) ∨ ∃ n, Oversized bs n := by
  match bs with
  | [] | [_] | [_, _] | [_, _, _] | [_, _, _, _] =>
    exact .inr (.inl ⟨_, .header (by simp [headerSize])⟩)
  | tag :: a :: b :: c :: d :: rest =>
    by_cases hfits : lengthOf a b c d ≤ maxPayload
    · by_cases hshort : rest.length < lengthOf a b c d
      · exact .inr (.inl ⟨_, .payload hfits hshort⟩)
      · have hlen : (rest.take (lengthOf a b c d)).length = lengthOf a b c d :=
          List.length_take_of_le (Nat.not_lt.1 hshort)
        have hbytes : lengthBytes (lengthOf a b c d) = [a, b, c, d] := by
          rw [← ofLengthBytes_four]
          exact lengthBytes_ofLengthBytes rfl
        refine .inl ⟨⟨tag, rest.take (lengthOf a b c d)⟩, rest.drop (lengthOf a b c d), ?_, ?_⟩
        · exact hlen.symm ▸ hfits
        · rw [encode, header, hlen, hbytes, List.append_assoc, List.take_append_drop]
          rfl
    · exact .inr (.inr ⟨_, .header (Nat.not_le.1 hfits)⟩)

end RequestDispatch.Worker.Frame
