import PlanarSink.Callback.Half
import PlanarSink.Ring.Basic
import PlanarSink.Sample.Silence

/-! What happens when a driver asks for a period: every plane's half is filled
from the ring, or with silence when the ring holds less than a period. -/
namespace PlanarSink

structure Dispatcher where
  sampleType : SampleType
  periodFrames : Nat
deriving DecidableEq, Repr

/-- The ring and the buffers after a period was asked for, and whether the
period is silence for want of data. -/
structure Served where
  ring : PlaneRing
  buffers : List DoubleBuffer
  underrun : Bool
deriving DecidableEq, Repr

namespace Dispatcher

/-- The bytes of one period in one plane. -/
def periodBytes (d : Dispatcher) : Nat :=
  d.periodFrames * d.sampleType.bytes

/-- Moves one period of each plane, counted from `plane`, out of the ring. -/
def copy (d : Dispatcher) (half : Half) (ring : PlaneRing) (plane : Nat) :
    List DoubleBuffer → PlaneRing × List DoubleBuffer
  | [] => (ring, [])
  | buffer :: rest =>
    match ring.read? d.periodBytes plane with
    | some (taken, ring) =>
      let (ring, rest) := copy d half ring (plane + 1) rest
      (ring, buffer.set half taken :: rest)
    | none =>
      let (ring, rest) := copy d half ring (plane + 1) rest
      (ring, buffer :: rest)

def silence (d : Dispatcher) (half : Half) (buffer : DoubleBuffer) : DoubleBuffer :=
  buffer.set half (Silence.fill (buffer.get half) d.sampleType d.periodFrames)

def serve (d : Dispatcher) (half : Half) (ring : PlaneRing) (buffers : List DoubleBuffer) :
    Served :=
  if d.periodBytes ≤ ring.readSize then
    let (ring, buffers) := d.copy half ring 0 buffers
    ⟨ring, buffers, false⟩
  else ⟨ring, buffers.map (d.silence half), true⟩

/-- Serves the half with an index; any other index changes nothing. -/
def bufferSwitch (d : Dispatcher) (index : Int) (ring : PlaneRing) (buffers : List DoubleBuffer) :
    Served :=
  match Half.ofIndex? index with
  | some half => d.serve half ring buffers
  | none => ⟨ring, buffers, false⟩

/-- No message of a driver is understood. -/
def message (_ : Dispatcher) (_selector _value : Int) : Int := 0

end Dispatcher

end PlanarSink
