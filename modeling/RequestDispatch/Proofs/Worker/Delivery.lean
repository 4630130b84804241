import RequestDispatch.Proofs.ByteStream
import RequestDispatch.Proofs.Worker.Frame

/-!
# Frames in streams

A frame is read from a stream as it is cut off bytes that are all there.

* `read_eq_readBytes`: what is read of a stream, and what is left of it, is told from its bytes and
  from how it ends (`Source.take_spec`, once for the header and once for the payload). The pieces in
  which the bytes are delivered do not matter.
* `readBytes_of_split`, `readBytes_of_split_error`: that is the frame that `split` cuts off the
  bytes, or what it refuses them for.
* `readBytes_of_cut`, `readBytes_of_oversized`: and what is told of a frame that does not come.
* `write_of_takes`, `write_payloadTooLarge`: a frame is written whole, unless it is too long, and
  then nothing is written.
* `read_agrees_split`: all of this.
-/

set_option autoImplicit false

namespace RequestDispatch.Worker.Frame

open ByteStream (Delivery Ending Outlet Source WriteFault)

/-! ## Reading -/

/-- What is left of bytes that end in a way after a frame was read, and the frame. -/
def readBytes (ending : Ending) (bs : List UInt8) :
    List UInt8 × Except Error (Option Frame) :=
  if bs = [] ∧ ending = .closed then ([], .ok none)
  else if bs.length < headerSize then ([], .error (endedEarly ⟨[], ending⟩ .truncatedHeader))
  else
    match declared (bs.take headerSize) with
    | .error e => (bs.drop headerSize, .error (.protocol e))
    | .ok n =>
      ((bs.drop headerSize).drop n,
        if (bs.drop headerSize).length < n then .error (endedEarly ⟨[], ending⟩ .truncatedPayload)
        else .ok (some ⟨(bs.take headerSize).headD 0, (bs.drop headerSize).take n⟩))

/-- A stream is read as its bytes are, however they are delivered. -/
theorem read_eq_readBytes (s : Source) :
    ((read s).1.bytes, (read s).2) = readBytes s.ending s.bytes := by
  obtain ⟨hheader, hmissing, hrest⟩ := s.take_spec headerSize
  have hnone : ((s.take headerSize).missing = headerSize && s.ending == .closed) =
      decide (s.bytes = [] ∧ s.ending = .closed) := by
    have hsize : headerSize = 5 := rfl
    have hnil : (s.take headerSize).missing = headerSize ↔ s.bytes = [] := by
      rw [hmissing, ← List.length_eq_zero_iff]
      omega
    rw [Bool.decide_and, decide_eq_decide.2 hnil]
    rfl
  have hshort : 0 < (s.take headerSize).missing ↔ s.bytes.length < headerSize :=
    hmissing ▸ Nat.sub_pos_iff_lt
  simp only [read, readBytes, hnone, hshort, hheader, decide_eq_true_eq]
  split
  · rename_i hnil
    rw [hnil.1] at hrest
    exact congrArg (·, _) hrest
  · split
    · rename_i hlen
      rw [List.drop_of_length_le (Nat.le_of_lt hlen)] at hrest
      exact congrArg (·, _) hrest
    · cases declared (s.bytes.take headerSize) with
      | error e => exact congrArg (·, _) hrest
      | ok n =>
        -- the payload is taken from what is left behind the header
        obtain ⟨hpayload, hpayloadMissing, hpayloadRest⟩ :=
          ({ s with deliveries := (s.take headerSize).rest } : Source).take_spec n
        have hbehind : ({ s with deliveries := (s.take headerSize).rest } : Source).bytes =
            s.bytes.drop headerSize := hrest
        have hcut := hpayloadMissing ▸ Nat.sub_pos_iff_lt
        rw [hbehind] at hpayload hcut hpayloadRest
        simp only [hcut, hpayload]
        split <;> exact congrArg (·, _) hpayloadRest

/-- The lengths that `split` looks at are those of the bytes and of what is behind the header. -/
theorem split_eq (bs : List UInt8) : split bs =
    if bs.length < headerSize then .error .truncatedHeader
    else
      match declared (bs.take headerSize) with
      | .error e => .error e
      | .ok n =>
        if (bs.drop headerSize).length < n then .error .truncatedPayload
        else .ok (⟨(bs.take headerSize).headD 0, (bs.drop headerSize).take n⟩,
          (bs.drop headerSize).drop n) := by
  have hshort (l : List UInt8) (n : Nat) : (l.take n).length < n ↔ l.length < n := by
    rw [List.length_take]
    omega
  simp only [split]
  by_cases hheader : bs.length < headerSize
  · rw [if_pos ((hshort bs headerSize).2 hheader), if_pos hheader]
  · rw [if_neg (mt (hshort bs headerSize).1 hheader), if_neg hheader]
    cases declared (bs.take headerSize) with
    | error e => rfl
    | ok n => simp only [hshort]

/-- A frame that is cut off the bytes is read, and the bytes behind it are left. -/
theorem readBytes_of_split {bs rest : List UInt8} {f : Frame} (h : split bs = .ok (f, rest))
    (ending : Ending) : readBytes ending bs = (rest, .ok (some f)) := by
  rw [split_eq] at h
  by_cases hheader : bs.length < headerSize
  · simp [hheader] at h
  · have hne : ¬ (bs = [] ∧ ending = .closed) := by
      rintro ⟨rfl, -⟩
      exact hheader (by decide)
    rw [if_neg hheader] at h
    rw [readBytes, if_neg hne, if_neg hheader]
    cases hn : declared (bs.take headerSize) with
    | error e => simp [hn] at h
    | ok n =>
      simp only [hn] at h ⊢
      split at h
      · simp at h
      · rename_i hpayload
        obtain ⟨rfl, rfl⟩ := Prod.mk.inj (Except.ok.inj h)
        rw [if_neg hpayload]

/-- Bytes that no frame can be cut off are refused for the same fault, except that a stream that
was closed without any has no frame. -/
theorem readBytes_of_split_error {bs : List UInt8} {e : Fault} (hne : bs ≠ [])
    (h : split bs = .error e) : (readBytes .closed bs).2 = .error (.protocol e) := by
  rw [split_eq] at h
  rw [readBytes, if_neg fun hnil => hne hnil.1]
  by_cases hheader : bs.length < headerSize
  · rw [if_pos hheader] at h ⊢
    obtain rfl := Except.error.inj h
    rfl
  · rw [if_neg hheader] at h ⊢
    cases hn : declared (bs.take headerSize) with
    | error e' =>
      simp only [hn] at h ⊢
      exact congrArg (Except.error ∘ Error.protocol) (Except.error.inj h)
    | ok n =>
      simp only [hn] at h ⊢
      split at h
      · rename_i hpayload
        obtain rfl := Except.error.inj h
        rw [if_pos hpayload]
        rfl
      · simp at h

/-- A frame that the bytes are cut within does not come before the stream has ended. -/
theorem readBytes_of_cut {bs : List UInt8} {fault : Fault} (h : Cut bs fault) {ending : Ending}
    (hsome : bs ≠ [] ∨ ending ≠ .closed) :
    (readBytes ending bs).2 = .error (endedEarly ⟨[], ending⟩ fault) := by
  have hne : ¬ (bs = [] ∧ ending = .closed) := fun ⟨hnil, hclosed⟩ =>
    hsome.elim (· hnil) (· hclosed)
  rw [readBytes, if_neg hne]
  cases h with
  | header short => rw [if_pos short]
  | @payload tag a b c d rest fits short =>
    have htake : (tag :: a :: b :: c :: d :: rest).take headerSize = [tag, a, b, c, d] := rfl
    have hdrop : (tag :: a :: b :: c :: d :: rest).drop headerSize = rest := rfl
    rw [if_neg (by simp [headerSize]), htake, hdrop, declared_of_le tag fits]
    exact if_pos short

theorem readBytes_of_oversized {bs : List UInt8} {n : Nat} (h : Oversized bs n) (ending : Ending) :
    (readBytes ending bs).2 = .error (.protocol (.oversized n)) := by
  obtain @⟨tag, a, b, c, d, rest, exceeds⟩ := h
  have htake : (tag :: a :: b :: c :: d :: rest).take headerSize = [tag, a, b, c, d] := rfl
  rw [readBytes, if_neg (fun hnil => List.cons_ne_nil _ _ hnil.1), if_neg (by simp [headerSize]),
    htake, declared_of_lt tag exceeds]

/-- A stream that begins with a frame gives that frame and goes on behind it. -/
theorem read_encode {f : Frame} (h : f.payload.length ≤ maxPayload) {s : Source}
    {rest : List UInt8} (hs : s.bytes = f.encode ++ rest) :
    ∃ s', read s = (s', .ok (some f)) ∧ s'.bytes = rest := by
  have hread := read_eq_readBytes s
  rw [hs, readBytes_of_split (split_encode h rest)] at hread
  obtain ⟨hrest, hframe⟩ := Prod.mk.inj hread
  exact ⟨(read s).1, Prod.ext rfl hframe, hrest⟩

/-! ## Writing -/

theorem write_payloadTooLarge {f : Frame} (h : maxPayload < f.payload.length) (o : Outlet) :
    f.write o = (o, .error .payloadTooLarge) := by
  rw [write, if_pos h]

/-- Where there is room for a frame that is not too long, its header is written and its payload. -/
theorem write_of_takes {f : Frame} (h : f.payload.length ≤ maxPayload) {o : Outlet}
    (ho : o.Takes f.encode.length) :
    f.write o = (⟨o.written ++ f.encode, o.room.map (· - f.encode.length)⟩, .ok ()) := by
  have hlen : f.encode.length = f.header.length + f.payload.length := List.length_append
  rw [hlen] at ho ⊢
  have hfits : o.Takes f.header.length := fun room hroom =>
    Nat.le_trans (Nat.le_add_right _ _) (ho room hroom)
  have hheader := Outlet.write_of_takes hfits
  rw [write, if_neg (Nat.not_lt.2 h)]
  simp only [hheader]
  split
  · rename_i hempty
    rw [encode, List.isEmpty_iff.1 hempty, List.append_nil]
    rfl
  · rw [Outlet.write_of_takes, encode, List.append_assoc, Option.map_map]
    · simp only [Function.comp_def, Nat.sub_sub]
    · intro room hroom
      obtain ⟨room', hroom', rfl⟩ := Option.map_eq_some_iff.1 hroom
      have hle := ho room' hroom'
      omega

theorem write_fits {f : Frame} (h : f.payload.length ≤ maxPayload) (written : List UInt8) :
    f.write ⟨written, none⟩ = (⟨written ++ f.encode, none⟩, .ok ()) :=
  write_of_takes h nofun

/-- A header is the tag and the length of the payload in four bytes, the greatest first. -/
theorem encode_bytes {f : Frame} (h : f.payload.length ≤ maxPayload) : ∃ a b c d : UInt8,
    f.encode = f.tag :: a :: b :: c :: d :: f.payload ∧
    f.payload.length = ((a.toNat * 256 + b.toNat) * 256 + c.toNat) * 256 + d.toNat := by
  have hlength := ofLengthBytes_lengthBytes (Nat.lt_of_le_of_lt h (by decide))
  exact ⟨_, _, _, _, rfl, hlength.symm.trans (ofLengthBytes_four _ _ _ _)⟩

/-! ## Both ways to read -/

/-- A stream is read as `split` cuts its bytes; only where there are none the stream has no
frame. -/
structure ReadsAsSplit (s : Source) : Prop where
  nothing : s.bytes = [] → (read s).2 = .ok none ∧ split s.bytes = .error .truncatedHeader
  frame : ∀ f rest, split s.bytes = .ok (f, rest) →
    (read s).2 = .ok (some f) ∧ (read s).1.bytes = rest
  fault : ∀ e, s.bytes ≠ [] → split s.bytes = .error e → (read s).2 = .error (.protocol e)

/-- A frame is written as its header and its payload wherever there is room for them, and both ways
to read give it back with the bytes that follow it. -/
structure WritesWhole (f : Frame) : Prop where
  bytes : ∃ a b c d : UInt8, f.encode = f.tag :: a :: b :: c :: d :: f.payload ∧
    f.payload.length = ((a.toNat * 256 + b.toNat) * 256 + c.toNat) * 256 + d.toNat
  written : ∀ o : Outlet, o.Takes f.encode.length →
    (f.write o).2 = .ok () ∧ (f.write o).1.written = o.written ++ f.encode
  split : ∀ rest, split (f.encode ++ rest) = .ok (f, rest)
  read : ∀ (s : Source) rest, s.bytes = f.encode ++ rest →
    (read s).2 = .ok (some f) ∧ (read s).1.bytes = rest

/-- Streams of the same bytes that end in the same way are read alike, whatever the pieces are in
which the bytes come and wherever a read is interrupted. A stream that was closed is read as its
bytes are split. A frame whose payload is not too long is written whole and read back; of one whose
payload is too long nothing is written, and this is told. -/
theorem read_agrees_split :
    (∀ s s' : Source, s.bytes = s'.bytes → s.ending = s'.ending →
      (read s).2 = (read s').2 ∧ (read s).1.bytes = (read s').1.bytes) ∧
    (∀ s : Source, s.ending = .closed → ReadsAsSplit s) ∧
    ∀ f : Frame, (f.payload.length ≤ maxPayload → WritesWhole f) ∧
      (maxPayload < f.payload.length → ∀ o : Outlet, f.write o = (o, .error .payloadTooLarge)) := by
  refine ⟨fun s s' hbytes hending => ?_, fun s hclosed => ?_, fun f => ⟨fun h => ?_, fun h o => ?_⟩⟩
  · have hread := read_eq_readBytes s
    rw [hbytes, hending, ← read_eq_readBytes s'] at hread
    obtain ⟨hleft, hresult⟩ := Prod.mk.inj hread
    exact ⟨hresult, hleft⟩
  · have hread := read_eq_readBytes s
    rw [hclosed] at hread
    refine ⟨fun hnil => ?_, fun f rest hsplit => ?_, fun e hne hsplit => ?_⟩
    · rw [hnil] at hread ⊢
      exact ⟨(Prod.mk.inj hread).2, rfl⟩
    · rw [readBytes_of_split hsplit] at hread
      obtain ⟨hleft, hresult⟩ := Prod.mk.inj hread
      exact ⟨hresult, hleft⟩
    · rw [← readBytes_of_split_error hne hsplit, ← hread]
  · refine ⟨encode_bytes h, fun o ho => ?_, split_encode h, fun s rest hs => ?_⟩
    · rw [write_of_takes h ho]
      exact ⟨rfl, rfl⟩
    · obtain ⟨s', hread, hrest⟩ := read_encode h hs
      rw [hread]
      exact ⟨rfl, hrest⟩
  · exact write_payloadTooLarge h o

/-- A frame that comes in single bytes with interruptions and is followed by half a frame, a header
that declares too much with nothing behind it, an outlet with just enough room, and a payload that
is one byte too long. -/
theorem read_agrees_split_trickle : ∃ (f : Frame) (s oversized : Source),
    f = ⟨bodyTag, [104, 105]⟩ ∧
    s = ⟨[.chunk 66 [], .interrupted, .chunk 0 [], .chunk 0 [0, 2, 104], .interrupted, .interrupted,
      .chunk 105 [69, 0]], .closed⟩ ∧
    oversized = ⟨[.chunk 66 [4], .interrupted, .chunk 0 [0, 1]], .closed⟩ ∧
    (read s).2 = .ok (some f) ∧ (read s).1.bytes = [69, 0] ∧
    (read (read s).1).2 = .error (.protocol .truncatedHeader) ∧
    (read oversized).2 = .error (.protocol (.oversized (maxPayload + 1))) ∧
    (f.write ⟨[1], some 7⟩).2 = .ok () ∧
    (f.write ⟨[1], some 7⟩).1.written = [1, 66, 0, 0, 0, 2, 104, 105] ∧
    write ⟨bodyTag, List.replicate (maxPayload + 1) 0⟩ {} = ({}, .error .payloadTooLarge) := by
  obtain ⟨-, hread, hwrite⟩ := read_agrees_split
  let f : Frame := ⟨bodyTag, [104, 105]⟩
  let s : Source := ⟨[.chunk 66 [], .interrupted, .chunk 0 [], .chunk 0 [0, 2, 104], .interrupted,
    .interrupted, .chunk 105 [69, 0]], .closed⟩
  let oversized : Source := ⟨[.chunk 66 [4], .interrupted, .chunk 0 [0, 1]], .closed⟩
  have hwhole := (hwrite f).1 (by decide)
  obtain ⟨hframe, hleft⟩ := hwhole.read s [69, 0] (by decide)
  have hshort := (hread (read s).1 (by decide)).fault .truncatedHeader (by rw [hleft]; decide)
    (by rw [hleft]; rfl)
  have hheader : oversized.bytes.take headerSize = [66, 4, 0, 0, 1] := by decide
  have hlength : ofLengthBytes [4, 0, 0, 1] = maxPayload + 1 := by decide
  have hdeclared : declared [66, 4, 0, 0, 1] = .error (.oversized (maxPayload + 1)) := by
    rw [declared, List.drop_one, List.tail_cons, hlength, if_neg (Nat.not_succ_le_self _)]
  have hoversized := (hread oversized rfl).fault (.oversized (maxPayload + 1)) (by decide)
    (by rw [split_eq, if_neg (by decide), hheader, hdeclared])
  obtain ⟨hdone, hwritten⟩ := hwhole.written ⟨[1], some 7⟩ fun room h => Option.some.inj h ▸ by decide
  have hlong := (hwrite ⟨bodyTag, List.replicate (maxPayload + 1) 0⟩).2
    (by rw [List.length_replicate]; exact Nat.lt_succ_self _) {}
  exact ⟨f, s, oversized, rfl, rfl, rfl, hframe, hleft, hshort, hoversized, hdone,
    hwritten.trans (by decide), hlong⟩

end RequestDispatch.Worker.Frame
