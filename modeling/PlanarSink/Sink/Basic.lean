import PlanarSink.Sink.Connection

/-! A sink: connecting and disconnecting, starting and stopping, and what can be
asked of it at any time. -/
namespace PlanarSink

inductive SinkState where
  | uninitialized
  | negotiating
  | running
  | stopped
  | closed
deriving DecidableEq, Repr

def SinkState.name : SinkState → String
  | uninitialized => "Uninitialized"
  | negotiating => "Negotiating"
  | running => "Running"
  | stopped => "Stopped"
  | closed => "Closed"

structure Sink where
  options : SinkOptions
  state : SinkState
  session : Option Session
deriving DecidableEq, Repr

/-- How an attempt to connect ended: its outcome, the sink, and the format as it
was left to the caller. -/
structure ConnectResult where
  outcome : Except Interruption Unit
  sink : Sink
  format : StreamFormat

namespace Sink

variable {σ : Type} [Backend σ]

def ofOptions (options : SinkOptions) : Sink :=
  ⟨options, .uninitialized, none⟩

/-- The sink when an attempt to open a session has ended. One that does not return changes it no
more. -/
def settle (sink : Sink) : Except Interruption Session → Sink
  | .ok session => { sink with state := .running, session := some session }
  | .error (.failure _) => { sink with state := .uninitialized }
  | .error .panic => sink

def connect (sink : Sink) (format : StreamFormat) (device : String) :
    StateM σ ConnectResult := fun backend =>
  match sink.session with
  | some _ => (⟨.error (.failure .alreadyInitialized), sink, format⟩, backend)
  | none =>
    let sink := { sink with state := .negotiating }
    let (result, opening) := (Session.openOn sink.options.normalized device).run ⟨backend, format⟩
    (⟨result.map fun _ => (), sink.settle result, opening.format⟩, opening.backend)

def disconnect (sink : Sink) : StateM σ Sink := do
  match sink.session with
  | none => return sink
  | some session =>
    session.close
    return { sink with state := .closed, session := none }

def stop (sink : Sink) : StateM σ Sink := do
  match sink.session with
  | none => return sink
  | some session =>
    let session ← session.stop
    return { sink with state := .stopped, session := some session }

def start (sink : Sink) : StateM σ (Except SinkError Unit × Sink) := do
  match sink.session with
  | none => return (.error .notInitialized, sink)
  | some session =>
    match ← session.start with
    | (.ok (), session) =>
      return (.ok (), { sink with state := .running, session := some session })
    | (.error status, session) =>
      return (.error (.negotiation .start status), { sink with session := some session })

def drain (sink : Sink) : StateM σ Sink := do
  match sink.session with
  | none => return sink
  | some session =>
    let session ← session.stop
    return { sink with
      state := .stopped
      session := some { session with ring := session.ring.dump } }

/-- Queues frames of the first of some buffers; see `Session.addPackets`. -/
def addPackets (sink : Sink) (data : List Bytes) (frames offset : Nat) : Nat × Sink :=
  match sink.session, data.head? with
  | some session, some src =>
    let (taken, session) := session.addPackets src frames offset
    (taken, { sink with session := some session })
  | _, _ => (0, sink)

def measure (sink : Sink) (property : Session → Nat) : Nat :=
  (sink.session.map property).getD 0

def isInitialized (sink : Sink) : Bool := sink.session.isSome

def isRunning (sink : Sink) : Bool := sink.session.any Session.running

def planes (sink : Sink) : Nat := sink.measure fun s => s.geometry.planes

def periodFrames (sink : Sink) : Nat := sink.measure fun s => s.geometry.periodFrames

def sampleType? (sink : Sink) : Option SampleType :=
  sink.session.map fun s => s.geometry.sampleType

def sampleSize (sink : Sink) : Nat := sink.measure Session.sampleSize

def bytesPerSecond (sink : Sink) : Nat := sink.measure fun s => s.geometry.bytesPerSecond

def delay (sink : Sink) : Nat := sink.measure Session.delay

def cacheTotal (sink : Sink) : Nat := sink.measure Session.cacheTotal

def underruns (sink : Sink) : Nat := sink.measure Session.underruns

end Sink

end PlanarSink
