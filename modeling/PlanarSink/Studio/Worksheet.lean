import PlanarSink.Size.Calculation
import PlanarSink.Studio

/-! An attempt to connect with every calculation that is made for it: by the caller, who makes the
format, by the sink while it opens a session, by the driver that creates the buffers, and for the
dispatcher that serves them. -/
namespace PlanarSink

/-- The format of an input whose chunk length is still open. -/
def StreamFormat.reckonInput (sampleRate : UInt32) (channels : Nat) (dataFormat : InputFormat) :
    Reckoned StreamFormat := do
  let frameSize ← .make (.product channels dataFormat.bytes)
  return ⟨sampleRate, channels, dataFormat, frameSize, 0⟩

/-- The answer of a driver that is to create buffers. The bytes of a half are reckoned where
nothing else speaks against it. -/
def Simulated.reckonBuffers (s : Simulated) (infos : List BufferInfo) (period : Nat) :
    Reckoned (Except CreationFault (List BufferInfo) × Simulated) :=
  match s.check .createBuffers with
  | .error status => return (.error (.status status), s)
  | .ok () =>
    if period < s.profile.minPeriod ∨ s.profile.maxPeriod < period then
      return (.error (.status .invalidMode), s)
    else if !infos.all s.hasChannel then return (.error (.status .invalidParameter), s)
    else if s.buffers ≠ [] then return (.error (.status .invalidMode), s)
    else do
      let bytes ← .make (.product period s.sampleType.bytes)
      if bytes = 0 then return (.error (.status .invalidMode), s)
      else if s.tooLong infos.length period then return (.error .panic, s)
      else
        return (.ok (infos.map fun info => { info with addressed := true }),
          { s with
            buffers := infos.map fun _ => DoubleBuffer.filled bytes 0
            period := period
            registered := true
            nextHalf := .first })

def Dispatcher.reckonPeriod (d : Dispatcher) : Reckoned Nat :=
  .make (.product d.periodFrames d.sampleType.bytes)

namespace Agreement

def reckonFrameSize (format : StreamFormat) : Reckoned Nat := do
  let bits ← .make (.product format.channels format.dataFormat.bits)
  .make (.quotient bits 8)

def reckonChunkFrames (options : SinkOptions) (rate : UInt32) : Reckoned Nat := do
  let packed ← .make (.quotient rate.toNat (if isDsd options rate then 8 else 1))
  .make (.quotient packed options.chunksPerSecond.toNat)

/-- The sizes of a session, and the bytes of a block. -/
def reckonGeometry (a : Agreement) (options : SinkOptions) (rate : UInt32) :
    Reckoned (Geometry × Nat) := do
  let secondBits ← .make (.product rate.toNat a.sampleType.bits)
  let bytesPerSecond ← .make (.quotient secondBits 8)
  let chunkBytes ← .make (.quotient bytesPerSecond options.chunksPerSecond.toNat)
  let periodBytes ← .make (.product a.periodFrames a.sampleType.bytes)
  let block := max chunkBytes periodBytes
  let wanted ← .make (.stoppedProduct options.bufferPeriods block)
  let rest ← .make (.remainder wanted a.sampleType.bytes)
  let capacity ← .make (.difference wanted rest)
  return (⟨a.planes, a.sampleType, a.periodFrames, bytesPerSecond, capacity⟩, block)

end Agreement

/-- A seat with the calculations that were made so far. -/
structure Worksheet where
  seat : Seat
  calculations : List Size.Calculation

/-- The calculations that a request leads to in the surroundings of a sink. -/
def Seat.calculations (seat : Seat) : Request → List Size.Calculation
  | .call number (.createBuffers infos period) =>
    match seat.studio.driver? seat.host number with
    | some driver => (driver.reckonBuffers infos period).calculations
    | none => []
  | _ => []

namespace Worksheet

instance : Backend Worksheet where
  perform request sheet :=
    let (reply, seat) := Backend.perform request sheet.seat
    (reply, ⟨seat, sheet.calculations ++ sheet.seat.calculations request⟩)

/-- Continues with a reckoned value, and keeps its calculations. It panics where they came to
nothing. -/
def reckon (reckoned : Reckoned α) : OpeningM Worksheet α := fun opening =>
  let sheet := opening.backend
  let calculations := sheet.calculations ++ reckoned.calculations
  (match reckoned.value? with
    | some value => .ok value
    | none => .error .panic,
    { opening with backend := { sheet with calculations } })

def provide (geometry : Geometry) (block : Nat) : OpeningM Worksheet Unit := do
  let room ← OpeningM.ask (.allocateRing geometry.capacity geometry.planes)
  if geometry.capacity ≤ Size.longest && room then
    let reserved ← OpeningM.ask (.reserve block)
    OpeningM.require (block ≤ Size.longest && reserved) (.failure (.allocation block))
  else
    let bytes ← reckon (.make (.stoppedProduct geometry.capacity geometry.planes))
    throw (.failure (.allocation bytes))

def begin (options : SinkOptions) (driver : Nat) (agreement : Agreement)
    (infos : List BufferInfo) : OpeningM Worksheet Session := do
  OpeningM.require (infos.all BufferInfo.addressed) (.failure (.bufferAlloc .noMemory))
  let format := (← get).format
  let frameSize ← reckon (Agreement.reckonFrameSize format)
  let frames ← reckon (Agreement.reckonChunkFrames options format.sampleRate)
  OpeningM.setFormat frameSize frames
  let (geometry, block) ← reckon (agreement.reckonGeometry options format.sampleRate)
  provide geometry block
  let input := (← get).format
  let ring := PlaneRing.empty geometry.capacity geometry.planes
  let session : Session := ⟨driver, true, ring, agreement.codec, input, geometry, 0, []⟩
  let _ ← reckon session.dispatcher.reckonPeriod
  OpeningM.ask (.install driver session.dispatcher)
  OpeningM.call driver (.negotiation .start) .start
  return session

/-- Agrees with an opened driver, creates its buffers and starts it. Until there are buffers,
nothing is reckoned. -/
def engage (options : SinkOptions) (driver : Nat) : OpeningM Worksheet Session := do
  let agreement ← Session.negotiate options (← get).format driver
  OpeningM.require (agreement.planes * BufferInfo.bytes ≤ Size.longest) .panic
  let infos ← OpeningM.call driver .bufferAlloc
    (.createBuffers ((List.range agreement.planes).map BufferInfo.output) agreement.periodFrames)
  OpeningM.undoing (.call driver .disposeBuffers) do
    begin options driver agreement infos

def openOn (options : SinkOptions) (device : String) : OpeningM Worksheet Session := do
  let refusal (status : Status) : Interruption := .failure (.driverOpen device status)
  OpeningM.expect refusal (← OpeningM.ask .acquireHost)
  OpeningM.undoing .releaseHost do
    OpeningM.require (← OpeningM.ask .claimSlot) (.failure .instanceActive)
    OpeningM.undoing .vacateSlot do
      let driver ← OpeningM.expect refusal (← OpeningM.ask (.openDriver device))
      OpeningM.undoing (.dropDriver driver) do
        engage options driver

def connect (sink : Sink) (format : StreamFormat) (device : String) :
    StateM Worksheet ConnectResult := fun sheet =>
  match sink.session with
  | some _ => (⟨.error (.failure .alreadyInitialized), sink, format⟩, sheet)
  | none =>
    let sink := { sink with state := .negotiating }
    let (result, opening) := (openOn sink.options.normalized device).run ⟨sheet, format⟩
    (⟨result.map fun _ => (), sink.settle result, opening.format⟩, opening.backend)

/-- Makes a format and connects a sink with it: how that ended, and the seat after it with all
the calculations from the first to the last. No attempt is made with a format whose frames have no
size. -/
def attempt (seat : Seat) (sink : Sink) (rate : UInt32) (channels : Nat)
    (dataFormat : InputFormat) (device : String) : Option ConnectResult × Worksheet :=
  let format := StreamFormat.reckonInput rate channels dataFormat
  match format.value? with
  | none => (none, ⟨seat, format.calculations⟩)
  | some value =>
    let (result, sheet) := connect sink value device ⟨seat, format.calculations⟩
    (some result, sheet)

end Worksheet

end PlanarSink
