import PlanarSink.Sample.Format
import PlanarSink.Size

/-! The format of the interleaved stream a sink is fed. -/
namespace PlanarSink

structure StreamFormat where
  sampleRate : UInt32
  channels : Nat
  dataFormat : InputFormat
  /-- The bytes of one interleaved frame. -/
  frameSize : Nat
  /-- The frames to deliver at a time, once a sink was connected. -/
  frames : Nat
deriving DecidableEq, Repr

namespace StreamFormat

/-- A format whose chunk length is still open. -/
def ofInput (sampleRate : UInt32) (channels : Nat) (dataFormat : InputFormat) : StreamFormat :=
  ⟨sampleRate, channels, dataFormat, channels * dataFormat.bytes, 0⟩

/-- The format, where a size holds the bytes of a frame. -/
def ofInput? (sampleRate : UInt32) (channels : Nat) (dataFormat : InputFormat) :
    Option StreamFormat :=
  if channels * dataFormat.bytes < Size.bound then some (ofInput sampleRate channels dataFormat)
  else none

def frameBytes (format : StreamFormat) : Nat :=
  format.channels * format.dataFormat.bytes

/-- The first frames of a packet, one after the other. -/
def framesOf (format : StreamFormat) (packet : Bytes) : (count : Nat) → List Bytes
  | 0 => []
  | count + 1 =>
    packet.take format.frameBytes :: format.framesOf (packet.drop format.frameBytes) count

end StreamFormat

end PlanarSink
