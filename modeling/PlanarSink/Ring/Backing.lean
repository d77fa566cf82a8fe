import PlanarSink.Ring.Call

/-! A ring over queues that are known by their operations alone. The ring goes by what the
operations report: it asks a queue for its room before a write, and then counts what the
queue took. With queues that are first in, first out, it is a `PlaneRing` of what they hold. -/
namespace PlanarSink

/-- What can be done with bounded queues of bytes. -/
structure QueueOps (Queue : Type) where
  /-- An empty queue with this much room, where it can be allocated. -/
  create : Nat → Option Queue
  occupied : Queue → Nat
  vacant : Queue → Nat
  /-- Appends as much of the bytes as there is room for, and counts it. -/
  push : Queue → Bytes → Nat × Queue
  /-- Moves as many of the oldest bytes as there are to the front of the destination, and
  counts them. -/
  pop : Queue → Bytes → Nat × Bytes × Queue
  /-- Moves the end of the queue back to its start. -/
  forget : Queue → Queue

/-- Bounded queues: `held` are the bytes that wait, oldest first, and `room` is how many
there can be. -/
structure QueueOps.Fifo {Queue : Type} (ops : QueueOps Queue) (held : Queue → Bytes)
    (room : Queue → Nat) : Prop where
  created : ∀ size queue, ops.create size = some queue → held queue = [] ∧ room queue = size
  occupied : ∀ queue, ops.occupied queue = (held queue).length
  vacant : ∀ queue, ops.occupied queue + ops.vacant queue = room queue
  pushed : ∀ queue src,
    (ops.push queue src).1 = min src.length (ops.vacant queue) ∧
      held (ops.push queue src).2 = held queue ++ src.take (ops.vacant queue) ∧
      room (ops.push queue src).2 = room queue
  popped : ∀ queue dst,
    (ops.pop queue dst).1 = min dst.length (ops.occupied queue) ∧
      (ops.pop queue dst).2.1 =
        (held queue).take dst.length ++ dst.drop (ops.occupied queue) ∧
      held (ops.pop queue dst).2.2 = (held queue).drop dst.length ∧
      room (ops.pop queue dst).2.2 = room queue
  forgotten : ∀ queue, held (ops.forget queue) = [] ∧ room (ops.forget queue) = room queue

structure BackedRing (Queue : Type) where
  capacity : Nat
  planes : List Queue

namespace QueueOps

variable {Queue : Type} (ops : QueueOps Queue)

/-- A ring of new queues; a size of zero becomes one. -/
def allocate? (bytes planes : Nat) : Option (BackedRing Queue) :=
  ((List.replicate planes (max bytes 1)).mapM ops.create).map (BackedRing.mk (max bytes 1))

def readSize (ring : BackedRing Queue) : Nat :=
  (ring.planes.getLast?.map ops.occupied).getD 0

def writeSize (ring : BackedRing Queue) : Nat :=
  (ring.planes.getLast?.map ops.vacant).getD 0

def write (ring : BackedRing Queue) (src : Bytes) (plane : Nat) : Bool × BackedRing Queue :=
  if ops.writeSize ring < src.length then (false, ring)
  else match ring.planes[plane]? with
    | some queue =>
      if src.length ≤ ops.vacant queue then
        let (count, queue) := ops.push queue src
        (count == src.length, { ring with planes := ring.planes.set plane queue })
      else (false, ring)
    | none => (false, ring)

def writeEach (ring : BackedRing Queue) (src : Bytes) :
    (planes : List Nat) → Bool × BackedRing Queue
  | [] => (true, ring)
  | plane :: rest =>
    match ops.write ring src plane with
    | (true, written) => writeEach written src rest
    | (false, kept) => (false, kept)

def writeAll (ring : BackedRing Queue) (src : Bytes) : Bool × BackedRing Queue :=
  if ops.writeSize ring < src.length then (false, ring)
  else ops.writeEach ring src (List.range ring.planes.length)

def dump (ring : BackedRing Queue) : BackedRing Queue :=
  { ring with planes := ring.planes.map ops.forget }

def read (ring : BackedRing Queue) (dst : Bytes) (plane : Nat) :
    Bool × Bytes × BackedRing Queue :=
  if ops.readSize ring < dst.length then (false, dst, ring)
  else match ring.planes[plane]? with
    | some queue =>
      if dst.length ≤ ops.occupied queue then
        let (count, filled, queue) := ops.pop queue dst
        (count == dst.length, filled, { ring with planes := ring.planes.set plane queue })
      else (false, dst, ring)
    | none => (false, dst, ring)

def perform (ring : BackedRing Queue) : RingCall → RingReply × BackedRing Queue
  | .write src plane =>
    let (accepted, next) := ops.write ring src plane
    (.told accepted, next)
  | .writeAll src =>
    let (accepted, next) := ops.writeAll ring src
    (.told accepted, next)
  | .read dst plane =>
    let (accepted, dst, next) := ops.read ring dst plane
    (.filled accepted dst, next)
  | .dump => (.done, ops.dump ring)

def performAll (ring : BackedRing Queue) : List RingCall → List RingReply × BackedRing Queue
  | [] => ([], ring)
  | call :: rest =>
    let (reply, next) := ops.perform ring call
    let (replies, last) := performAll next rest
    (reply :: replies, last)

end QueueOps

def BackedRing.contents {Queue : Type} (held : Queue → Bytes) (ring : BackedRing Queue) :
    PlaneRing :=
  ⟨ring.capacity, ring.planes.map held⟩

end PlanarSink
