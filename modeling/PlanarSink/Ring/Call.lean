import PlanarSink.Ring.Basic

/-! What the handles of a ring are asked for, in any order, and the books that are kept of
it: what was written to each plane and what was read from it. The books see the calls and
their replies, and nothing of the ring. -/
namespace PlanarSink

/-- A call through one of the handles of a ring. -/
inductive RingCall where
  | write (src : Bytes) (plane : Nat)
  | writeAll (src : Bytes)
  | read (dst : Bytes) (plane : Nat)
  | dump
deriving DecidableEq, Repr

/-- The reply to a call. A read also leaves bytes in its destination. -/
inductive RingReply where
  | told (accepted : Bool)
  | filled (accepted : Bool) (dst : Bytes)
  | done
deriving DecidableEq, Repr

/-- Whether a call was not refused. -/
def RingReply.accepted : RingReply → Bool
  | told accepted => accepted
  | filled accepted _ => accepted
  | done => true

namespace PlaneRing

def read (ring : PlaneRing) (dst : Bytes) (plane : Nat) : Bool × Bytes × PlaneRing :=
  match ring.read? dst.length plane with
  | some (taken, rest) => (true, taken, rest)
  | none => (false, dst, ring)

/-- A call, with its reply and the ring after it. -/
def perform (ring : PlaneRing) : RingCall → RingReply × PlaneRing
  | .write src plane =>
    let (accepted, next) := ring.write src plane
    (.told accepted, next)
  | .writeAll src =>
    let (accepted, next) := ring.writeAll src
    (.told accepted, next)
  | .read dst plane =>
    let (accepted, dst, next) := ring.read dst plane
    (.filled accepted dst, next)
  | .dump => (.done, ring.dump)

/-- The replies to calls that are made one after the other, and the ring after them. -/
def performAll (ring : PlaneRing) : List RingCall → List RingReply × PlaneRing
  | [] => ([], ring)
  | call :: rest =>
    let (reply, next) := ring.perform call
    let (replies, last) := next.performAll rest
    (reply :: replies, last)

/-- The writes of `src` to single planes, in order, up to the first that is refused. -/
def attempts (ring : PlaneRing) (src : Bytes) : (planes : List Nat) → List RingCall
  | [] => []
  | plane :: rest =>
    .write src plane ::
      match ring.write? src plane with
      | some written => written.attempts src rest
      | none => []

def singly (ring : PlaneRing) : RingCall → List RingCall
  | .writeAll src => ring.attempts src (List.range ring.planeCount)
  | call => [call]

end PlaneRing

/-- The bytes that were written to each plane and those that were read from it, oldest
first, since the ring was last dumped. -/
structure Ledger where
  written : Nat → Bytes
  taken : Nat → Bytes

namespace Ledger

def blank : Ledger := ⟨fun _ => [], fun _ => []⟩

def enter (ledger : Ledger) : RingCall → RingReply → Ledger
  | .write src plane, .told true =>
    { ledger with written := fun other =>
        if other = plane then ledger.written plane ++ src else ledger.written other }
  | .read _ plane, .filled true dst =>
    { ledger with taken := fun other =>
        if other = plane then ledger.taken plane ++ dst else ledger.taken other }
  | .dump, _ => blank
  | _, _ => ledger

def enterAll (ledger : Ledger) (calls : List RingCall) (replies : List RingReply) : Ledger :=
  (calls.zip replies).foldl (fun ledger entry => ledger.enter entry.1 entry.2) ledger

end Ledger

/-- A ring in use, and the books that are kept of it. -/
structure Usage where
  ring : PlaneRing
  ledger : Ledger

namespace Usage

/-- A write to all planes is entered as the writes to single planes that it comes to. -/
def after (usage : Usage) (call : RingCall) : Usage where
  ring := (usage.ring.perform call).2
  ledger := usage.ledger.enterAll (usage.ring.singly call)
    (usage.ring.performAll (usage.ring.singly call)).1

def afterAll (usage : Usage) (calls : List RingCall) : Usage :=
  calls.foldl after usage

end Usage

end PlanarSink
