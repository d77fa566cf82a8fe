import PlanarSink.Ring.Basic

/-! One writer and one reader of a ring at work at the same time. Every look at
the length of a queue, every append and every removal is a step of its own, so
that each side works while the other is in the middle of its way through the
planes. The writer looks at the room of the ring once and then writes a block of
any length that fits to each plane; the reader looks once whether a period is
there and then reads one from each plane. -/
namespace PlanarSink.Traffic

/-- Blocks of one length, one for each plane. -/
structure Batch where
  length : Nat
  block : Nat → Bytes
  even : ∀ plane, (block plane).length = length

inductive Phase where
  /-- Before the look at the last plane. -/
  | first
  /-- Before the look at the plane itself. -/
  | second
  /-- Before the change. -/
  | third
deriving DecidableEq, Repr

/-- The writer rests, or is at a plane with a batch. -/
inductive WriterStage where
  | resting
  | busy (batch : Batch) (plane : Nat) (phase : Phase)

inductive ReaderStage where
  | resting
  | busy (plane : Nat) (phase : Phase)
deriving DecidableEq, Repr

structure State where
  ring : PlaneRing
  writer : WriterStage
  reader : ReaderStage
  /-- The batches the writer has begun, oldest first. -/
  batches : List Batch
  /-- All bytes that were appended to a plane. -/
  written : Nat → Bytes
  /-- The periods that were read from a plane, oldest first. -/
  obtained : Nat → List Bytes
  /-- Whether a write or a read was refused. -/
  refused : Bool

/-- A ring before any traffic. -/
def initial (capacity planes : Nat) : State :=
  ⟨.empty capacity planes, .resting, .resting, [], fun _ => [], fun _ => [], false⟩

def stream (batches : List Batch) (plane : Nat) : Bytes :=
  batches.flatMap fun batch => batch.block plane

namespace State

def queue (s : State) (plane : Nat) : Bytes :=
  (s.ring.planes[plane]?).getD []

def setQueue (s : State) (plane : Nat) (queue : Bytes) : State :=
  { s with ring := { s.ring with planes := s.ring.planes.set plane queue } }

def nextWrite (s : State) (batch : Batch) (plane : Nat) : State :=
  { s with writer := if plane + 1 < s.ring.planeCount then .busy batch (plane + 1) .first
      else .resting }

def nextRead (s : State) (plane : Nat) : State :=
  { s with reader := if plane + 1 < s.ring.planeCount then .busy (plane + 1) .first
      else .resting }

/-- The writer goes on where the block fits, and is refused elsewhere. -/
def continueWrite (s : State) (batch : Batch) (plane : Nat) (phase : Phase) (fits : Bool) :
    State :=
  if fits then { s with writer := .busy batch plane phase }
  else { s.nextWrite batch plane with refused := true }

/-- The reader goes on where a period is there, and is refused elsewhere. -/
def continueRead (s : State) (plane : Nat) (phase : Phase) (there : Bool) : State :=
  if there then { s with reader := .busy plane phase }
  else { s.nextRead plane with refused := true }

def append (s : State) (plane : Nat) (block : Bytes) : State :=
  let taken := block.take (s.ring.capacity - (s.queue plane).length)
  { s.setQueue plane (s.queue plane ++ taken) with
    written := fun other => if other = plane then s.written plane ++ taken else s.written other
    refused := s.refused || taken.length != block.length }

def remove (s : State) (plane period : Nat) : State :=
  let taken := (s.queue plane).take period
  { s.setQueue plane ((s.queue plane).drop period) with
    obtained := fun other =>
      if other = plane then s.obtained plane ++ [taken] else s.obtained other
    refused := s.refused || taken.length != period }

end State

inductive Step (period : Nat) : State → State → Prop where
  | startWrite {s : State} (batch : Batch) (resting : s.writer = .resting)
      (fits : batch.length ≤ s.ring.writeSize) (nonempty : 0 < s.ring.planeCount) :
      Step period s { s with writer := .busy batch 0 .first, batches := s.batches ++ [batch] }
  | lookAtRoom {s : State} (batch : Batch) (plane : Nat)
      (busy : s.writer = .busy batch plane .first) :
      Step period s (s.continueWrite batch plane .second
        (decide ((batch.block plane).length ≤ s.ring.writeSize)))
  | lookAtPlaneRoom {s : State} (batch : Batch) (plane : Nat)
      (busy : s.writer = .busy batch plane .second) :
      Step period s (s.continueWrite batch plane .third
        (decide ((s.queue plane).length + (batch.block plane).length ≤ s.ring.capacity)))
  | append {s : State} (batch : Batch) (plane : Nat)
      (busy : s.writer = .busy batch plane .third) :
      Step period s ((s.append plane (batch.block plane)).nextWrite batch plane)
  | startRead {s : State} (resting : s.reader = .resting) (there : period ≤ s.ring.readSize)
      (nonempty : 0 < s.ring.planeCount) :
      Step period s { s with reader := .busy 0 .first }
  | lookAtData {s : State} (plane : Nat) (busy : s.reader = .busy plane .first) :
      Step period s (s.continueRead plane .second (decide (period ≤ s.ring.readSize)))
  | lookAtPlaneData {s : State} (plane : Nat) (busy : s.reader = .busy plane .second) :
      Step period s (s.continueRead plane .third (decide (period ≤ (s.queue plane).length)))
  | remove {s : State} (plane : Nat) (busy : s.reader = .busy plane .third) :
      Step period s ((s.remove plane period).nextRead plane)

/-- What any number of steps on a new ring can lead to. -/
inductive Reachable (capacity planes period : Nat) : State → Prop where
  | start : Reachable capacity planes period (initial capacity planes)
  | step {s t : State} (before : Reachable capacity planes period s) (step : Step period s t) :
      Reachable capacity planes period t

end PlanarSink.Traffic
