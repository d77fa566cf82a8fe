import PlanarSink.Callback.Dispatcher
import PlanarSink.Sample.Interleaved
import PlanarSink.Sink.StreamFormat

/-! The connection of a sink to a driver, and the queueing of interleaved frames
in its ring. -/
namespace PlanarSink

/-- What was agreed with a driver about sizes. -/
structure Geometry where
  planes : Nat
  sampleType : SampleType
  periodFrames : Nat
  /-- The bytes a second of audio takes in one plane. -/
  bytesPerSecond : Nat
  /-- The bytes each plane of the ring is to hold. -/
  capacity : Nat
deriving DecidableEq, Repr

namespace Geometry

def sampleSize (g : Geometry) : Nat := g.sampleType.bytes

end Geometry

/-- A sink's connection to the driver with a number. -/
structure Session where
  driver : Nat
  /-- Whether the driver was started and not stopped since. -/
  running : Bool
  ring : PlaneRing
  codec : Codec
  input : StreamFormat
  geometry : Geometry
  /-- The periods that were silence for want of data. -/
  underruns : Nat
  /-- What the last block left in the working buffer. -/
  scratch : Bytes
deriving DecidableEq, Repr

namespace Session

def sampleSize (s : Session) : Nat := s.geometry.sampleSize

/-- The bytes of one interleaved input frame. -/
def frameBytes (s : Session) : Nat :=
  s.input.channels * s.codec.sourceBytes

/-- The working buffer after the block of one plane was made in it, for frames at
the front of `src`: a channel of the input, or silence for planes beyond its
channels. -/
def fillScratch (s : Session) (src : Bytes) (frames plane : Nat) (scratch : Bytes) : Bytes :=
  if plane < s.input.channels then
    s.codec.deinterleave scratch src plane s.input.channels frames
  else Silence.fill scratch s.geometry.sampleType frames

/-- Makes the block of a plane in the working buffer and writes it; a block that
is refused is left out. -/
def queuePlane (s : Session) (src : Bytes) (frames : Nat) (state : Bytes × PlaneRing)
    (plane : Nat) : Bytes × PlaneRing :=
  let scratch := s.fillScratch src frames plane state.1
  (scratch, (state.2.write scratch plane).2)

/-- Queues the blocks of the planes in order, all made in one working buffer. -/
def queueFrames (s : Session) (src : Bytes) (frames : Nat) : Session :=
  let (scratch, ring) := (List.range s.geometry.planes).foldl (s.queuePlane src frames)
    (s.scratch.resize (frames * s.sampleSize), s.ring)
  { s with scratch, ring }

/-- The number of frames that can be taken of `src` after `offset` frames. -/
def acceptable (s : Session) (available frames : Nat) : Nat :=
  min (min frames (available / s.frameBytes)) (s.ring.writeSize / s.sampleSize)

/-- Queues up to `frames` frames of `src`, from `offset` frames in, and gives the
number taken: what is asked for, what `src` holds, or what the ring has room for. -/
def addPackets (s : Session) (src : Bytes) (frames offset : Nat) : Nat × Session :=
  let start := Size.saturatingMul offset s.frameBytes
  if s.frameBytes = 0 then (0, s)
  else if src.length < start then (0, s)
  else
    let src := src.drop start
    let taken := s.acceptable src.length frames
    if taken = 0 then (0, s)
    else (taken, s.queueFrames src taken)

/-- The playing time of bytes of one plane in nanoseconds: their quotient with
the bytes of a second is rounded to a double, and that to a whole number. -/
def nanoseconds (s : Session) (bytes : Nat) : Nat :=
  if s.geometry.bytesPerSecond = 0 then 0
  else
    let seconds := Binary.Double.div (.ofNat bytes) (.ofNat s.geometry.bytesPerSecond)
    match seconds.value with
    | .finite _ mantissa exponent =>
      let (numerator, denominator) := Binary.fraction mantissa exponent
      Binary.roundHalfEven (numerator * 1000000000) denominator
    | _ => 0

def delay (s : Session) : Nat := s.nanoseconds s.ring.readSize

def cacheTotal (s : Session) : Nat := s.nanoseconds s.ring.capacity

def dispatcher (s : Session) : Dispatcher :=
  ⟨s.geometry.sampleType, s.geometry.periodFrames⟩

end Session

end PlanarSink
