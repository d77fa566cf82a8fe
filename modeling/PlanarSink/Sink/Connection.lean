import PlanarSink.Sink.Backend
import PlanarSink.Sink.Error
import PlanarSink.Sink.Options
import PlanarSink.Sink.Session

/-! Opening a session: lease the host, claim the slot, open the driver, agree on
mode, rate, planes, period and sample type, create the driver's buffers, build
the ring, and start. Whatever was taken is given back in reverse order when a
later step fails or panics. -/
namespace PlanarSink

/-- The surroundings and the caller's format while a session is being opened. -/
structure Opening (σ : Type) where
  backend : σ
  format : StreamFormat

abbrev OpeningM (σ : Type) := ExceptT Interruption (StateM (Opening σ))

namespace OpeningM

variable {σ α ε : Type} [Backend σ]

def ask (request : Request) : OpeningM σ request.Reply := fun opening =>
  let (reply, backend) := Backend.perform request opening.backend
  (.ok reply, { opening with backend })

/-- Continues with the value of a reply, or ends with what its fault means. -/
def expect (meaning : ε → Interruption) (reply : Except ε α) : OpeningM σ α :=
  match reply with
  | .ok value => pure value
  | .error fault => throw (meaning fault)

/-- Goes on where the condition holds, and is interrupted elsewhere. -/
def require (condition : Bool) (interruption : Interruption) : OpeningM σ Unit :=
  if condition then pure () else throw interruption

/-- Makes a driver call and continues with its answer. -/
def call (driver : Nat) (cause : Status → SinkError) (c : DriverCall) : OpeningM σ c.Answer := do
  expect (c.interruption cause) (← ask (.call driver c))

/-- Runs `body`, and makes the request `undo` when it is interrupted, by a panic too. -/
def undoing (undo : Request) (body : OpeningM σ α) : OpeningM σ α := fun opening =>
  match body opening with
  | (.ok value, opening) => (.ok value, opening)
  | (.error interruption, opening) =>
    (.error interruption, { opening with backend := (Backend.perform undo opening.backend).2 })

/-- Sets what a connected sink tells the caller about the stream. -/
def setFormat (frameSize frames : Nat) : OpeningM σ Unit :=
  modify fun opening => { opening with format := { opening.format with frameSize, frames } }

end OpeningM

/-- What the driver was found to be like. -/
structure Agreement where
  codec : Codec
  planes : Nat
  sampleType : SampleType
  periodFrames : Nat

namespace Agreement

def isDsd (options : SinkOptions) (rate : UInt32) : Bool :=
  options.dsdMinSampleRate ≤ rate

/-- The frames of one chunk; one-bit frames are counted in bytes. -/
def chunkFrames (options : SinkOptions) (rate : UInt32) : Nat :=
  (rate / (if isDsd options rate then 8 else 1) / options.chunksPerSecond).toNat

def frameBits (format : StreamFormat) : Nat :=
  format.channels * format.dataFormat.bits

/-- The bytes of one interleaved frame, by way of its bits. -/
def frameSize (format : StreamFormat) : Nat :=
  frameBits format / 8

def periodBytes (a : Agreement) : Nat :=
  a.periodFrames * a.sampleType.bytes

def chunkBytes (a : Agreement) (options : SinkOptions) (rate : UInt32) : Nat :=
  rate.toNat * a.sampleType.bits / 8 / options.chunksPerSecond.toNat

/-- The bytes of a chunk or of a period in one plane, whichever is larger. -/
def blockBytes (a : Agreement) (options : SinkOptions) (rate : UInt32) : Nat :=
  max (a.chunkBytes options rate) a.periodBytes

/-- The sizes that follow from the agreement: each plane of the ring holds whole
samples, a number of times the larger of a chunk and a period. -/
def geometry (a : Agreement) (options : SinkOptions) (rate : UInt32) : Geometry :=
  let wanted := Size.saturatingMul options.bufferPeriods (a.blockBytes options rate)
  { planes := a.planes
    sampleType := a.sampleType
    periodFrames := a.periodFrames
    bytesPerSecond := rate.toNat * a.sampleType.bits / 8
    capacity := wanted - wanted % a.sampleType.bytes }

end Agreement

namespace Session

variable {σ : Type} [Backend σ]

def enterMode (options : SinkOptions) (rate : UInt32) (driver : Nat) : OpeningM σ Unit :=
  if Agreement.isDsd options rate then
    OpeningM.call driver .modeUnsupported (.setIoMode .dsd)
  else pure ()

/-- Agrees with an opened driver on everything short of its buffers. -/
def negotiate (options : SinkOptions) (format : StreamFormat) (driver : Nat) :
    OpeningM σ Agreement := do
  let rate := format.sampleRate
  enterMode options rate driver
  OpeningM.call driver (.unsupportedRate rate) (.canRate (.ofNat rate.toNat))
  OpeningM.call driver (.unsupportedRate rate) (.setRate (.ofNat rate.toNat))
  let counts ← OpeningM.call driver (.negotiation .getChannels) .channelCounts
  OpeningM.require (counts.outputs != 0) (.failure (.negotiation .getChannels .notPresent))
  let sizes ← OpeningM.call driver (.negotiation .getBufferSize) .bufferSizes
  OpeningM.require (sizes.preferred != 0) (.failure (.negotiation .getBufferSize .invalidMode))
  let info ← OpeningM.call driver (.negotiation .getChannelInfo) (.channelInfo 0 false)
  match Codec.resolve format.dataFormat info.sampleType with
  | .error _ => throw (.failure (.unsupportedEncoding format.dataFormat info.sampleType))
  | .ok codec => return ⟨codec, counts.outputs, info.sampleType, sizes.preferred⟩

/-- Gets memory for the ring of an agreement, and for a block of it in the working buffer. Lists
that are longer than they can be are refused, whatever memory there is. -/
def provide (options : SinkOptions) (rate : UInt32) (agreement : Agreement) :
    OpeningM σ Unit := do
  let geometry := agreement.geometry options rate
  let room ← OpeningM.ask (.allocateRing geometry.capacity geometry.planes)
  OpeningM.require (geometry.capacity ≤ Size.longest && room)
    (.failure (.allocation (Size.saturatingMul geometry.capacity geometry.planes)))
  let block := agreement.blockBytes options rate
  let reserved ← OpeningM.ask (.reserve block)
  OpeningM.require (block ≤ Size.longest && reserved) (.failure (.allocation block))

/-- Settles the sizes of a session, gets its memory, and starts the driver that will drain its
ring. -/
def begin (options : SinkOptions) (driver : Nat) (agreement : Agreement)
    (infos : List BufferInfo) : OpeningM σ Session := do
  OpeningM.require (infos.all BufferInfo.addressed) (.failure (.bufferAlloc .noMemory))
  let format := (← get).format
  OpeningM.require (Agreement.frameBits format < Size.bound) .panic
  OpeningM.setFormat (Agreement.frameSize format) (Agreement.chunkFrames options format.sampleRate)
  OpeningM.require (agreement.periodBytes < Size.bound) .panic
  provide options format.sampleRate agreement
  let input := (← get).format
  let geometry := agreement.geometry options format.sampleRate
  let ring := PlaneRing.empty geometry.capacity geometry.planes
  let session : Session := ⟨driver, true, ring, agreement.codec, input, geometry, 0, []⟩
  OpeningM.ask (.install driver session.dispatcher)
  OpeningM.call driver (.negotiation .start) .start
  return session

/-- Agrees with an opened driver, creates its buffers and starts it. -/
def engage (options : SinkOptions) (driver : Nat) : OpeningM σ Session := do
  let agreement ← negotiate options (← get).format driver
  OpeningM.require (agreement.planes * BufferInfo.bytes ≤ Size.longest) .panic
  let infos ← OpeningM.call driver .bufferAlloc
    (.createBuffers ((List.range agreement.planes).map BufferInfo.output) agreement.periodFrames)
  OpeningM.undoing (.call driver .disposeBuffers) do
    begin options driver agreement infos

def openOn (options : SinkOptions) (device : String) : OpeningM σ Session := do
  let refusal (status : Status) : Interruption := .failure (.driverOpen device status)
  OpeningM.expect refusal (← OpeningM.ask .acquireHost)
  OpeningM.undoing .releaseHost do
    OpeningM.require (← OpeningM.ask .claimSlot) (.failure .instanceActive)
    OpeningM.undoing .vacateSlot do
      let driver ← OpeningM.expect refusal (← OpeningM.ask (.openDriver device))
      OpeningM.undoing (.dropDriver driver) do
        engage options driver

/-- Starts the driver unless it was started already. -/
def start (s : Session) : StateM σ (Except Status Unit × Session) := do
  if s.running then return (.ok (), s)
  else
    match (← Backend.ask (.call s.driver .start) : Except Status Unit) with
    | .ok () => return (.ok (), { s with running := true })
    | .error status => return (.error status, s)

/-- Stops the driver if it was started. It counts as stopped even where it
reports an error. -/
def stop (s : Session) : StateM σ Session := do
  if s.running then
    discard (Backend.ask (.call s.driver .stop) : StateM σ (Except Status Unit))
  return { s with running := false }

/-- Gives back what a session holds: the driver is stopped, its buffers disposed
of and itself dropped, then the slot and the host are given up. -/
def close (s : Session) : StateM σ Unit := do
  let s ← s.stop
  discard (Backend.ask (.call s.driver .disposeBuffers) : StateM σ (Except Status Unit))
  Backend.ask (.dropDriver s.driver)
  Backend.ask .vacateSlot
  Backend.ask .releaseHost

end Session

end PlanarSink
