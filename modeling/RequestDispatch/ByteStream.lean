/-!
# Byte streams

A `Source` is what a reader will be given: chunks of any positive size, interruptions, and in the
end a closed stream or a failure. `Source.take` fills a buffer from it, and `Source.drain` takes
all of it (`Source.bytes`), one `Source.read` after the other; neither depends on how the bytes are
cut into chunks. An `Outlet` takes the bytes that are written, up to the room it has.
-/

set_option autoImplicit false

namespace RequestDispatch.ByteStream

/-- What one read brings. -/
inductive Delivery where
  /-- A chunk, which is never empty. -/
  | chunk (first : UInt8) (rest : List UInt8)
  /-- Nothing, and the reader tries again. -/
  | interrupted
  deriving DecidableEq, Repr

/-- How a stream ends once everything has been delivered. -/
inductive Ending where
  | closed
  | failed (reason : String)
  deriving DecidableEq, Repr

/-- A stream to be read. -/
structure Source where
  deliveries : List Delivery
  ending : Ending
  deriving DecidableEq, Repr

/-- The bytes of a delivery. -/
def Delivery.bytes : Delivery → List UInt8
  | .chunk first rest => first :: rest
  | .interrupted => []

/-- The chunk of some bytes, if there are any. -/
def Delivery.ofBytes : List UInt8 → List Delivery
  | [] => []
  | first :: rest => [.chunk first rest]

namespace Source

/-- All bytes that a stream brings before it ends. -/
def bytes (s : Source) : List UInt8 := s.deliveries.flatMap Delivery.bytes

/-- A stream of bytes in one chunk. -/
def ofBytes (bs : List UInt8) : Source := ⟨Delivery.ofBytes bs, .closed⟩

/-- A buffer that was filled from a stream. -/
structure Filled where
  bytes : List UInt8
  /-- How many bytes are missing because the stream ended. -/
  missing : Nat
  rest : List Delivery

/-- Adds deliveries to a buffer, kept in reverse, until `room` bytes have come. -/
def fill (room : Nat) (buffer : List UInt8) : List Delivery → Filled
  | [] => ⟨buffer.reverse, room, []⟩
  | d :: rest =>
    if room = 0 then ⟨buffer.reverse, 0, d :: rest⟩
    else
      match d with
      | .interrupted => fill room buffer rest
      | .chunk first more =>
        let size := more.length + 1
        if size ≤ room then fill (room - size) (more.reverse ++ first :: buffer) rest
        else
          ⟨buffer.reverse ++ (first :: more).take room, 0,
            Delivery.ofBytes ((first :: more).drop room) ++ rest⟩

/-- Takes `n` bytes, or what there is if the stream ends before. -/
def take (n : Nat) (s : Source) : Filled := fill n [] s.deliveries

end Source

/-! ## Draining -/

/-- What one read gives. -/
inductive Reading where
  /-- Some bytes; there are none at the end of a stream that was closed. -/
  | bytes (bs : List UInt8)
  | interrupted
  | failed (reason : String)
  deriving DecidableEq, Repr

/-- Reads once, into a buffer of `room` bytes. What a chunk has beyond that is left. -/
def Source.read (room : Nat) (s : Source) : Reading × Source :=
  match s.deliveries with
  | [] =>
    match s.ending with
    | .closed => (.bytes [], s)
    | .failed reason => (.failed reason, s)
  | .interrupted :: rest => (.interrupted, { s with deliveries := rest })
  | .chunk first more :: rest =>
    (.bytes ((first :: more).take room),
      { s with deliveries := Delivery.ofBytes ((first :: more).drop room) ++ rest })

/-- The size of the buffer that a stream is drained through. -/
def drainSize : Nat := 8192

/-- How many reads through that buffer take up a delivery. -/
def Delivery.reads : Delivery → Nat
  | .chunk _ more => more.length / drainSize + 1
  | .interrupted => 1

/-- How many reads come to the end of a stream, the one that tells of the end included. -/
def Source.reads (s : Source) : Nat := s.deliveries.foldr (fun d n => d.reads + n) 1

/-- A loop that drains a stream into a buffer. -/
inductive Draining where
  | going (out : Array UInt8) (left : Source)
  | ended (out : Array UInt8) (failure : Option String)
  deriving DecidableEq, Repr

namespace Draining

/-- One round of the loop: one read. Bytes are appended and an interrupted read is tried again; a
read without bytes ends the loop, and so does a failure, which is told. -/
def round : Draining → Draining
  | .going out left =>
    match left.read drainSize with
    | (.bytes [], _) => .ended out none
    | (.bytes (b :: bs), left) => .going (out ++ b :: bs) left
    | (.interrupted, left) => .going out left
    | (.failed reason, _) => .ended out (some reason)
  | .ended out failure => .ended out failure

/-- How many rounds are to come. -/
def roundsLeft : Draining → Nat
  | .going _ left => left.reads
  | .ended .. => 0

theorem round_closed (out : Array UInt8) :
    round (.going out ⟨[], .closed⟩) = .ended out none := rfl

theorem round_failed (out : Array UInt8) (reason : String) :
    round (.going out ⟨[], .failed reason⟩) = .ended out (some reason) := rfl

theorem round_interrupted (out : Array UInt8) (rest : List Delivery) (ending : Ending) :
    round (.going out ⟨.interrupted :: rest, ending⟩) = .going out ⟨rest, ending⟩ := rfl

theorem round_chunk (out : Array UInt8) (first : UInt8) (more : List UInt8) (rest : List Delivery)
    (ending : Ending) :
    round (.going out ⟨.chunk first more :: rest, ending⟩) =
      .going (out ++ (first :: more).take drainSize)
        ⟨Delivery.ofBytes ((first :: more).drop drainSize) ++ rest, ending⟩ := rfl

/-- Behind the first read of a chunk there is one read less to come. -/
theorem reads_behind (first : UInt8) (more : List UInt8) (rest : List Delivery) (ending : Ending) :
    Source.reads ⟨Delivery.ofBytes ((first :: more).drop drainSize) ++ rest, ending⟩ + 1 =
      Source.reads ⟨.chunk first more :: rest, ending⟩ := by
  have hpos : 0 < drainSize := by decide
  have hlen : ((first :: more).drop drainSize).length = more.length + 1 - drainSize :=
    List.length_drop
  cases hleft : (first :: more).drop drainSize with
  | nil =>
    rw [hleft, List.length_nil] at hlen
    have hdiv : more.length / drainSize = 0 := Nat.div_eq_of_lt (by omega)
    simp only [Source.reads, Delivery.ofBytes, List.nil_append, List.foldr_cons, Delivery.reads,
      hdiv]
    omega
  | cons b bs =>
    rw [hleft, List.length_cons] at hlen
    have hdiv := Nat.div_eq_sub_div hpos (show drainSize ≤ more.length by omega)
    have hrest : more.length - drainSize = bs.length := by omega
    simp only [Source.reads, Delivery.ofBytes, List.cons_append, List.nil_append, List.foldr_cons,
      Delivery.reads, hdiv, hrest]
    omega

/-- Every round is one of those that were to come. -/
theorem roundsLeft_round (out : Array UInt8) (left : Source) :
    (round (.going out left)).roundsLeft + 1 = left.reads := by
  obtain ⟨deliveries, ending⟩ := left
  cases deliveries with
  | nil =>
    cases ending with
    | closed => rfl
    | failed reason => rfl
  | cons d rest =>
    cases d with
    | interrupted =>
      rw [round_interrupted]
      exact Nat.add_comm _ 1
    | chunk first more =>
      rw [round_chunk]
      exact reads_behind first more rest ending

/-- Goes on to the end. -/
def finish : Draining → Array UInt8 × Option String
  | .going out left => finish (round (.going out left))
  | .ended out failure => (out, failure)
termination_by d => d.roundsLeft
decreasing_by
  have hround := roundsLeft_round out left
  change (round (.going out left)).roundsLeft < left.reads
  omega

end Draining

/-- Reads a stream to its end. The bytes go behind those already there, and a failure is told. -/
def Source.drain (already : List UInt8) (s : Source) : List UInt8 × Option String :=
  let (out, failure) := (Draining.going already.toArray s).finish
  (out.toList, failure)

/-! ## Writing -/

/-- Why bytes were not written. -/
inductive WriteFault where
  /-- A frame would be longer than any reader accepts. -/
  | payloadTooLarge
  /-- The other side takes no more. -/
  | refused
  deriving DecidableEq, Repr

/-- The bytes written so far, and how many more are taken, without a bound if `none`. -/
structure Outlet where
  written : List UInt8 := []
  room : Option Nat := none
  deriving DecidableEq, Repr

/-- Writes bytes. When they do not all fit, those that do are taken and the write is refused. -/
def Outlet.write (bs : List UInt8) (o : Outlet) : Outlet × Except WriteFault Unit :=
  match o.room with
  | none => (⟨o.written ++ bs, none⟩, .ok ())
  | some room =>
    let taken := bs.take room
    (⟨o.written ++ taken, some (room - taken.length)⟩,
      if bs.length ≤ room then .ok () else .error .refused)

end RequestDispatch.ByteStream
