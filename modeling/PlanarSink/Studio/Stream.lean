import PlanarSink.Studio.Command

/-! The stream through a connected sink: what comes in with the frames it accepts, and
what goes out with the periods of its driver and by draining. -/
namespace PlanarSink

/-- Bytes lent by a caller. They are in memory, so their number fits a signed word. -/
structure Slice where
  bytes : Bytes
  inMemory : bytes.length < 0x8000000000000000
deriving DecidableEq, Repr

/-- Where a connected sink plays: its number and host, and the number of its driver there. -/
structure Line where
  sink : Nat
  host : Nat
  driver : Nat
deriving DecidableEq, Repr

/-- What can happen to a connected sink that leaves it connected. -/
inductive Handling where
  | addPackets (data : List Slice) (frames offset : Nat)
  | tick
  | stop
  | start
  | drain
deriving DecidableEq, Repr

def Line.command (line : Line) : Handling → Studio.Command
  | .addPackets data frames offset => .addPackets line.sink (data.map Slice.bytes) frames offset
  | .tick => .tick line.host line.driver
  | .stop => .stop line.sink
  | .start => .start line.sink
  | .drain => .drain line.sink

/-- What can be seen of a sink when it was handled. -/
structure Glimpse where
  /-- The frames that were taken. -/
  taken : Nat
  /-- The half that the driver asked for, and what each of its planes has there. -/
  played : Option (Half × List Bytes)
  /-- The periods of silence that were counted meanwhile. -/
  underruns : Nat
  /-- The bytes that the ring has to offer. -/
  readSize : Nat
  /-- The bytes that the ring has room for. -/
  writeSize : Nat
  state : Option SinkState
deriving DecidableEq, Repr

namespace Studio

/-- The line of a sink, if it is connected. -/
def line? (studio : Studio) (sink : Nat) : Option Line := do
  let seated ← studio.sink? sink
  let session ← seated.sink.session
  return ⟨sink, seated.host, session.driver⟩

def handle (studio : Studio) (line : Line) (handling : Handling) : Studio :=
  studio.execute (line.command handling)

def handleAll (studio : Studio) (line : Line) (handlings : List Handling) : Studio :=
  handlings.foldl (·.handle line ·) studio

/-- Hands a slice to a sink in pieces of so many frames, each from where the one before it
ends. -/
def submit (studio : Studio) (sink : Nat) (src : Slice) (offset : Nat) :
    (pieces : List Nat) → Studio
  | [] => studio
  | frames :: rest =>
    (studio.addPackets sink [src.bytes] frames offset).2.submit sink src (offset + frames) rest

def queued (studio : Studio) (line : Line) (plane : Nat) : Bytes :=
  (studio.session? line.sink).elim [] fun session => session.ring.queue plane

def backlog (studio : Studio) (line : Line) : Nat :=
  (studio.session? line.sink).elim 0 fun session => session.ring.readSize

def capacity (studio : Studio) (line : Line) : Nat :=
  (studio.session? line.sink).elim 0 fun session => session.ring.capacity

def room (studio : Studio) (line : Line) : Nat :=
  (studio.session? line.sink).elim 0 fun session => session.ring.writeSize

/-- The periods of a sink that were silence for want of data. -/
def underruns (studio : Studio) (line : Line) : Nat :=
  (studio.session? line.sink).elim 0 Session.underruns

/-- One half of the buffer that a sink's driver has for a plane. -/
def output (studio : Studio) (line : Line) (plane : Nat) (half : Half) : Bytes :=
  (studio.driver? line.host line.driver).elim [] fun driver => driver.output plane half.index

/-- What the frames accepted from the first slice come to in a plane. -/
def arrival (studio : Studio) (line : Line) (codec : Codec) (channels plane : Nat) :
    Handling → List (Except ConvertError Bytes)
  | .addPackets (src :: others) frames offset =>
    let taken := (studio.addPackets line.sink ((src :: others).map Slice.bytes) frames offset).1
    codec.rendered src.bytes channels offset taken plane
  | _ => []

/-- What leaves a plane: a period, where the driver asks for one and as much is there, or
everything when the sink is drained. -/
def departure (studio : Studio) (line : Line) (period plane : Nat) : Handling → Bytes
  | .tick =>
    match studio.tick line.host line.driver with
    | (some half, after) => if period ≤ studio.backlog line then after.output line plane half else []
    | (none, _) => []
  | .drain => studio.queued line plane
  | _ => []

/-- The half that is filled with silence, where the driver asks for a period and too
little is there. -/
def silence (studio : Studio) (line : Line) (period : Nat) : Handling → List Half
  | .tick =>
    match studio.tick line.host line.driver with
    | (some half, _) => if period ≤ studio.backlog line then [] else [half]
    | (none, _) => []
  | _ => []

def taken (studio : Studio) (line : Line) : Handling → Nat
  | .addPackets data frames offset =>
    (studio.addPackets line.sink (data.map Slice.bytes) frames offset).1
  | _ => 0

/-- The half that the driver asks for, and what each of its planes has there then. -/
def played (studio : Studio) (line : Line) : Handling → Option (Half × List Bytes)
  | .tick =>
    match studio.tick line.host line.driver with
    | (some half, after) => some (half, (after.driver? line.host line.driver).elim [] fun driver =>
        driver.buffers.map fun buffer => buffer.get half)
    | (none, _) => none
  | _ => none

def state? (studio : Studio) (sink : Nat) : Option SinkState :=
  (studio.sink? sink).map fun seated => seated.sink.state

/-- What a handling is answered with, and what it leaves to be seen. -/
def glimpse (studio : Studio) (line : Line) (handling : Handling) : Glimpse :=
  let after := studio.handle line handling
  { taken := studio.taken line handling
    played := studio.played line handling
    underruns := after.underruns line - studio.underruns line
    readSize := after.backlog line
    writeSize := after.room line
    state := after.state? line.sink }

/-- What a sink connects to a device with: its options, and the profile that its host has
for the device. -/
def prospect (studio : Studio) (sink : Nat) (device : String) : Option (SinkOptions × Profile) := do
  let seated ← studio.sink? sink
  let host ← studio.hosts[seated.host]?
  let profile ← host.profile? device
  return (seated.sink.options, profile)

/-- What is seen of each handling in the studio it meets, in the order of time. -/
def seen (studio : Studio) (line : Line) (look : Studio → Handling → List α) :
    List Handling → List α
  | [] => []
  | handling :: rest => look studio handling ++ (studio.handle line handling).seen line look rest

end Studio

end PlanarSink
