import PlanarSink.Callback.Slot
import PlanarSink.Driver.Host
import PlanarSink.Sink.Basic
import PlanarSink.Supply

/-! One process with its hosts, its sinks, the callback slot they share, and what it can still
give them. -/
namespace PlanarSink

/-- The target of callbacks: the sink whose ring is drained, and the driver whose
buffers are filled. -/
structure Feed where
  sink : Nat
  host : Nat
  driver : Nat
  dispatcher : Dispatcher
deriving DecidableEq, Repr

/-- A sink and the host it was made for. -/
structure SeatedSink where
  host : Nat
  sink : Sink
deriving DecidableEq, Repr

/-- Hosts and sinks are known by their positions; a dropped sink leaves nothing. -/
structure Studio where
  hosts : List Host
  sinks : List (Option SeatedSink)
  slot : Slot Feed
  supply : Supply
deriving DecidableEq, Repr

structure Seat where
  sink : Nat
  host : Nat
  studio : Studio

namespace Studio

def ofHosts (hosts : List Host) (sinks : List SeatedSink) : Studio :=
  ⟨hosts, sinks.map some, .free, .ample⟩

def onHost (studio : Studio) (host : Nat) (otherwise : α) (step : Host → α × Host) : α × Studio :=
  match studio.hosts[host]? with
  | none => (otherwise, studio)
  | some current =>
    let (result, next) := step current
    (result, { studio with hosts := studio.hosts.set host next })

end Studio

namespace Seat

def onHost (seat : Seat) (otherwise : α) (step : Host → α × Host) : α × Seat :=
  let (result, studio) := seat.studio.onHost seat.host otherwise step
  (result, { seat with studio })

def onSlot (seat : Seat) (step : Slot Feed → α × Slot Feed) : α × Seat :=
  let (result, slot) := step seat.studio.slot
  (result, { seat with studio := { seat.studio with slot } })

def perform (seat : Seat) : (request : Request) → request.Reply × Seat
  | .acquireHost => seat.onHost (.error .notPresent) Host.acquire
  | .releaseHost => seat.onHost () fun host => ((), host.release)
  | .claimSlot => seat.onSlot Slot.claim
  | .vacateSlot => seat.onSlot fun slot => ((), slot.vacate)
  | .install driver dispatcher =>
    seat.onSlot fun slot => ((), slot.install ⟨seat.sink, seat.host, driver, dispatcher⟩)
  | .openDriver device => seat.onHost (.error .notPresent) fun host => host.openDriver device
  | .dropDriver driver => seat.onHost () fun host => ((), host.dropDriver driver)
  | .allocateRing capacity planes => (seat.studio.supply.hasRing capacity planes, seat)
  | .reserve bytes => (seat.studio.supply.hasScratch bytes, seat)
  | .call driver c =>
    seat.onHost (.error (c.fault .notPresent)) fun host =>
      host.call seat.studio.supply.thread driver c

instance : Backend Seat where
  perform request seat := seat.perform request

end Seat

namespace Studio

def sink? (studio : Studio) (sink : Nat) : Option SeatedSink :=
  (studio.sinks[sink]?).join

def session? (studio : Studio) (sink : Nat) : Option Session :=
  (studio.sink? sink).bind fun seated => seated.sink.session

def addSink (studio : Studio) (host : Nat) (options : SinkOptions) : Studio :=
  let seated : SeatedSink := ⟨host, .ofOptions options⟩
  { studio with sinks := studio.sinks ++ [some seated] }

def setSink (studio : Studio) (sink : Nat) (seated : Option SeatedSink) : Studio :=
  { studio with sinks := studio.sinks.set sink seated }

/-- Runs an operation of a sink in its surroundings and stores the sink it leaves;
`otherwise` where the sink was dropped. -/
def onSink (studio : Studio) (sink : Nat) (otherwise : α) (operation : Sink → StateM Seat (α × Sink)) :
    α × Studio :=
  match studio.sink? sink with
  | none => (otherwise, studio)
  | some seated =>
    let ((result, next), seat) := (operation seated.sink).run ⟨sink, seated.host, studio⟩
    (result, seat.studio.setSink sink (some { seated with sink := next }))

/-- Connects a sink. A dropped one cannot be initialized any more. -/
def connect (studio : Studio) (sink : Nat) (format : StreamFormat) (device : String) :
    (Except Interruption Unit × StreamFormat) × Studio :=
  studio.onSink sink (.error (.failure .notInitialized), format) fun current => do
    let result ← current.connect format device
    return ((result.outcome, result.format), result.sink)

def disconnect (studio : Studio) (sink : Nat) : Studio :=
  (studio.onSink sink () fun current => do return ((), ← current.disconnect)).2

def stop (studio : Studio) (sink : Nat) : Studio :=
  (studio.onSink sink () fun current => do return ((), ← current.stop)).2

def start (studio : Studio) (sink : Nat) : Except SinkError Unit × Studio :=
  studio.onSink sink (.error .notInitialized) Sink.start

def drain (studio : Studio) (sink : Nat) : Studio :=
  (studio.onSink sink () fun current => do return ((), ← current.drain)).2

def addPackets (studio : Studio) (sink : Nat) (data : List Bytes) (frames offset : Nat) :
    Nat × Studio :=
  studio.onSink sink 0 fun current => return current.addPackets data frames offset

def dropSink (studio : Studio) (sink : Nat) : Studio :=
  (studio.disconnect sink).setSink sink none

def setRefusing (studio : Studio) (host : Nat) (refusing : Bool) : Studio :=
  (studio.onHost host () fun current => ((), { current with refusing })).2

/-- From now on the process can give as much. -/
def setSupply (studio : Studio) (supply : Supply) : Studio :=
  { studio with supply }

def driver? (studio : Studio) (host driver : Nat) : Option Simulated := do
  (← studio.hosts[host]?).driver? driver

def setDriver (studio : Studio) (host number : Nat) (driver : Simulated) : Studio :=
  (studio.onHost host () fun current => ((), current.setDriver number driver)).2

/-- Sends a period to whatever the slot holds: the ring of one sink and the
buffers of one driver change, and a period of silence is counted. -/
def deliver (studio : Studio) (half : Half) : Studio :=
  match studio.slot.target with
  | none => studio
  | some feed =>
    match studio.sink? feed.sink, studio.driver? feed.host feed.driver with
    | some ⟨host, sink⟩, some driver =>
      match sink.session with
      | none => studio
      | some session =>
        let served := feed.dispatcher.serve half session.ring driver.buffers
        let session := { session with
          ring := served.ring
          underruns := session.underruns + (if served.underrun then 1 else 0) }
        (studio.setSink feed.sink (some ⟨host, { sink with session := some session }⟩)).setDriver
          feed.host feed.driver { driver with buffers := served.buffers }
    | _, _ => studio

/-- Lets a driver deliver one period, and gives the half it announced. -/
def tick (studio : Studio) (host number : Nat) : Option Half × Studio :=
  match studio.driver? host number with
  | none => (none, studio)
  | some driver =>
    match driver.tick with
    | none => (none, studio)
    | some (announcement, driver) =>
      (some announcement.half, (studio.setDriver host number driver).deliver announcement.half)

end Studio

end PlanarSink
