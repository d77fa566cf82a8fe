import PlanarSink.Callback.Half
import PlanarSink.Driver.Profile
import PlanarSink.Size

/-! A simulated driver: the calls it answers and the periods it delivers. -/
namespace PlanarSink

/-- The time a driver announces with a period. -/
structure TimeInfo where
  speed : Binary.Double
  systemTime : Nat
  position : UInt64
  rate : Binary.Double
  flags : Nat
deriving DecidableEq, Repr

/-- A period announced to the registered callbacks. -/
structure Announcement where
  half : Half
  direct : Bool
  time : Option TimeInfo
deriving DecidableEq, Repr

structure Simulated where
  profile : Profile
  mode : IoMode
  rate : Binary.Double
  /-- A double buffer for every channel that buffers were created for. -/
  buffers : List DoubleBuffer
  period : Nat
  /-- Whether callbacks are registered. -/
  registered : Bool
  running : Bool
  nextHalf : Half
  /-- The periods delivered so far. -/
  switches : Nat
  /-- The frames delivered so far. -/
  position : UInt64
deriving DecidableEq, Repr

namespace Simulated

/-- A driver as it is when opened. -/
def boot (profile : Profile) : Simulated where
  profile := profile
  mode := .pcm
  rate := .ofNat ((profile.sampleRates.head?.getD 48000).toNat)
  buffers := []
  period := 0
  registered := false
  running := false
  nextHalf := .first
  switches := 0
  position := 0

def sampleType (s : Simulated) : SampleType :=
  s.profile.sampleTypeIn s.mode

def supports (s : Simulated) (rate : Binary.Double) : Bool :=
  (s.profile.ratesIn s.mode).any fun offered => rate.isNat offered.toNat

/-- Refuses when the driver is made to fail here. -/
def check (s : Simulated) (point : FailPoint) : Except Status Unit :=
  if s.profile.failAt = some point then .error point.status else .ok ()

/-- The state after a call that may change it; a failed check changes nothing. -/
def guarded (s : Simulated) (point : FailPoint) (body : Except Status α × Simulated) :
    Except Status α × Simulated :=
  match s.check point with
  | .error status => (.error status, s)
  | .ok () => body

def canRate (s : Simulated) (rate : Binary.Double) : Except Status Unit := do
  s.check .canSampleRate
  if s.supports rate then .ok () else .error .noClock

def setRate (s : Simulated) (rate : Binary.Double) : Except Status Unit × Simulated :=
  s.guarded .setSampleRate <|
    if s.supports rate then (.ok (), { s with rate }) else (.error .noClock, s)

def channelCounts (s : Simulated) : Except Status ChannelCounts := do
  s.check .channels
  return ⟨s.profile.inputChannels, s.profile.outputChannels⟩

def bufferSizes (s : Simulated) : Except Status BufferSizes := do
  s.check .bufferSizes
  return ⟨s.profile.minPeriod, s.profile.maxPeriod, s.profile.preferredPeriod, -1⟩

def channelInfo (s : Simulated) (channel : Nat) (isInput : Bool) : Except Status ChannelInfo := do
  s.check .channelInfo
  if s.profile.channelCount isInput ≤ channel then .error .invalidParameter
  else return {
    channel := channel
    isInput := isInput
    isActive := !s.buffers.isEmpty
    group := 0
    sampleType := s.sampleType
    name := (if isInput then "In " else "Out ") ++ toString (channel + 1) }

/-- The mode cannot change while there are buffers. -/
def setIoMode (s : Simulated) (mode : IoMode) : Except Status Unit × Simulated :=
  s.guarded .setIoFormat <|
    if mode = .dsd ∧ s.profile.dsdSampleType = none then (.error .notPresent, s)
    else if s.buffers ≠ [] then (.error .invalidMode, s)
    else (.ok (), { s with mode })

def hasChannel (s : Simulated) (info : BufferInfo) : Bool :=
  0 ≤ info.channel.toInt && info.channel.toInt < s.profile.channelCount info.isInput

/-- The bytes of one period in one plane. -/
def halfBytes (s : Simulated) (period : Nat) : Nat :=
  period * s.sampleType.bytes

/-- Whether a list of some double buffers, or one of their halves, would be longer than a list can
be. -/
def tooLong (s : Simulated) (planes period : Nat) : Bool :=
  Size.longest < planes * DoubleBuffer.bytes || planes != 0 && Size.longest < s.halfBytes period

/-- Creates a double buffer of zeros for every wanted channel. -/
def createBuffers (s : Simulated) (infos : List BufferInfo) (period : Nat) :
    Except CreationFault (List BufferInfo) × Simulated :=
  match s.check .createBuffers with
  | .error status => (.error (.status status), s)
  | .ok () =>
    if period < s.profile.minPeriod ∨ s.profile.maxPeriod < period then
      (.error (.status .invalidMode), s)
    else if !infos.all s.hasChannel then (.error (.status .invalidParameter), s)
    else if s.buffers ≠ [] then (.error (.status .invalidMode), s)
    else if Size.bound ≤ s.halfBytes period then (.error .panic, s)
    else if s.halfBytes period = 0 then (.error (.status .invalidMode), s)
    else if s.tooLong infos.length period then (.error .panic, s)
    else
      (.ok (infos.map fun info => { info with addressed := true }),
        { s with
          buffers := infos.map fun _ => DoubleBuffer.filled (s.halfBytes period) 0
          period := period
          registered := true
          nextHalf := .first })

def halt (s : Simulated) : Simulated :=
  { s with running := false }

def disposeBuffers (s : Simulated) : Except Status Unit × Simulated :=
  s.guarded .disposeBuffers <|
    if s.buffers = [] then (.error .invalidMode, s.halt)
    else (.ok (), { s.halt with buffers := [], registered := false })

/-- Starts over at the first half, unless the driver is running already. A driver with a clock
is not started without a `thread` for it. -/
def start (s : Simulated) (thread : Bool) : Except Status Unit × Simulated :=
  s.guarded .start <|
    if s.buffers = [] then (.error .invalidMode, s)
    else if s.running then (.ok (), s)
    else if s.profile.clock && !thread then (.error .noClock, { s with nextHalf := .first })
    else (.ok (), { s with running := true, nextHalf := .first })

def stop (s : Simulated) : Except Status Unit × Simulated :=
  s.guarded .stop (.ok (), s.halt)

/-- Answers a call, while a thread can be had or not. -/
def perform (s : Simulated) (thread : Bool) : (call : DriverCall) → call.Reply × Simulated
  | .setIoMode mode => s.setIoMode mode
  | .canRate rate => (s.canRate rate, s)
  | .setRate rate => s.setRate rate
  | .channelCounts => (s.channelCounts, s)
  | .bufferSizes => (s.bufferSizes, s)
  | .channelInfo channel isInput => (s.channelInfo channel isInput, s)
  | .createBuffers infos period => s.createBuffers infos period
  | .disposeBuffers => s.disposeBuffers
  | .start => s.start thread
  | .stop => s.stop

/-- Delivers one period to the registered callbacks, if the driver is running. -/
def tick (s : Simulated) : Option (Announcement × Simulated) :=
  if s.running && s.registered then
    let position := s.position + UInt64.ofNat s.period
    let time : TimeInfo := ⟨.ofNat 0, 0, position, s.rate, 0⟩
    some (⟨s.nextHalf, true, if s.profile.timeInfo then some time else none⟩,
      { s with nextHalf := s.nextHalf.other, switches := s.switches + 1, position })
  else none

def output (s : Simulated) (plane : Nat) (half : Int) : Bytes :=
  match s.buffers[plane]?, Half.ofIndex? half with
  | some buffer, some half => buffer.get half
  | _, _ => []

end Simulated

end PlanarSink
