import RequestDispatch.ByteStream

/-!
# A buffer is filled with what comes first

* `fill_spec`, `take_spec`: what a buffer gets is the first bytes of the stream and what is left is
  the others, however the bytes are cut into chunks and wherever a read is interrupted.
* `Outlet.write_of_takes`: an outlet takes all that it has room for.
-/

set_option autoImplicit false

namespace RequestDispatch.ByteStream

theorem bytes_ofBytes (bs : List UInt8) : (Delivery.ofBytes bs).flatMap Delivery.bytes = bs := by
  cases bs with
  | nil => rfl
  | cons b bs => simp [Delivery.ofBytes, Delivery.bytes]

namespace Source

theorem fill_spec (room : Nat) (buffer : List UInt8) (ds : List Delivery) :
    (fill room buffer ds).bytes = buffer.reverse ++ (ds.flatMap Delivery.bytes).take room ∧
    (fill room buffer ds).missing = room - (ds.flatMap Delivery.bytes).length ∧
    (fill room buffer ds).rest.flatMap Delivery.bytes = (ds.flatMap Delivery.bytes).drop room := by
  induction ds generalizing room buffer with
  | nil => simp [fill]
  | cons d ds ih =>
    by_cases hroom : room = 0
    · simp [fill, hroom]
    · cases d with
      | interrupted => simpa [fill, hroom, Delivery.bytes] using ih room buffer
      | chunk first more =>
        have hlen : (first :: more).length = more.length + 1 := rfl
        have hall : (Delivery.chunk first more :: ds).flatMap Delivery.bytes =
            (first :: more) ++ ds.flatMap Delivery.bytes := List.flatMap_cons
        rw [hall, List.take_append, List.drop_append, List.length_append, hlen]
        by_cases hsize : more.length + 1 ≤ room
        · -- the whole chunk fits, and the room behind it is filled from the other deliveries
          obtain ⟨hbytes, hmissing, hrest⟩ :=
            ih (room - (more.length + 1)) (more.reverse ++ first :: buffer)
          simp only [fill, hroom, hsize, if_true, if_false, hbytes, hmissing, hrest]
          have htake : (first :: more).take room = first :: more := List.take_of_length_le hsize
          have hdrop : (first :: more).drop room = [] := List.drop_of_length_le hsize
          rw [htake, hdrop]
          refine ⟨by simp, by omega, rfl⟩
        · -- the chunk fills the room, and the rest of it is delivered again
          simp only [fill, hroom, hsize, if_false]
          have hnone : room - (more.length + 1) = 0 := by omega
          refine ⟨?_, by omega, ?_⟩
          · rw [hnone, List.take_zero, List.append_nil]
          · rw [List.flatMap_append, bytes_ofBytes, hnone, List.drop_zero]

/-- A buffer is filled from the bytes of a stream, wherever they are cut. -/
theorem take_spec (n : Nat) (s : Source) :
    (s.take n).bytes = s.bytes.take n ∧ (s.take n).missing = n - s.bytes.length ∧
      (s.take n).rest.flatMap Delivery.bytes = s.bytes.drop n :=
  fill_spec n [] s.deliveries

end Source

/-- There is room for a number of bytes. -/
def Outlet.Takes (o : Outlet) (n : Nat) : Prop := ∀ room ∈ o.room, n ≤ room

theorem Outlet.write_of_takes {o : Outlet} {bs : List UInt8} (h : o.Takes bs.length) :
    o.write bs = (⟨o.written ++ bs, o.room.map (· - bs.length)⟩, .ok ()) := by
  obtain ⟨written, room⟩ := o
  cases room with
  | none => rfl
  | some room =>
    have hfits : bs.length ≤ room := h room rfl
    simp only [write, List.take_of_length_le hfits, if_pos hfits, Option.map_some]

end RequestDispatch.ByteStream
