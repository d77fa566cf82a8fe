import PlanarSink.Sink.Basic

/-! A sink from its making to its end, in whatever surroundings, and what they see of it: the
life of each driver it opens, call by call, until the driver is dropped. -/
namespace PlanarSink

/-- What can be done with a sink. -/
inductive Action where
  | connect (format : StreamFormat) (device : String)
  | disconnect
  | stop
  | start
  | drain
  | addPackets (data : List Bytes) (frames offset : Nat)
  | drop
deriving DecidableEq, Repr

namespace Sink

variable {σ : Type} [Backend σ]

def act (sink : Sink) : Action → StateM σ (Option Sink)
  | .connect format device => do
    let result ← sink.connect format device
    return some result.sink
  | .disconnect => return some (← sink.disconnect)
  | .stop => return some (← sink.stop)
  | .start => return some (← sink.start).2
  | .drain => return some (← sink.drain)
  | .addPackets data frames offset => return some (sink.addPackets data frames offset).2
  | .drop => do
    discard sink.disconnect
    return none

def actAll (sink : Option Sink) : List Action → StateM σ (Option Sink)
  | [] => return sink
  | action :: actions => do
    match sink with
    | none => return none
    | some sink => actAll (← sink.act action) actions

/-- What is left of a new sink after some actions, and all that it asked for meanwhile. -/
def conduct (options : SinkOptions) (surroundings : σ) (actions : List Action) :
    Option Sink × List Exchange :=
  let (sink, journal) := (actAll (some (ofOptions options)) actions).run
    (⟨surroundings, []⟩ : Journal σ)
  (sink, journal.exchanges)

end Sink

/-- A call on a driver with the answer it got. -/
structure Called where
  driverCall : DriverCall
  reply : driverCall.Reply

namespace Called

def creates : Called → Bool
  | ⟨.createBuffers .., _⟩ => true
  | _ => false

def created : Called → Bool
  | ⟨.createBuffers .., reply⟩ => reply.isOk
  | _ => false

def disposes : Called → Bool
  | ⟨.disposeBuffers, _⟩ => true
  | _ => false

end Called

namespace Exchange

def returnsLease : Exchange → Bool
  | ⟨.releaseHost, _⟩ => true
  | _ => false

def drops (driver : Nat) : Exchange → Bool
  | ⟨.dropDriver number, _⟩ => number == driver
  | _ => false

def call? (driver : Nat) : Exchange → Option Called
  | ⟨.call number c, reply⟩ => if number = driver then some ⟨c, reply⟩ else none
  | _ => none

end Exchange

/-- The calls made on a driver until it was dropped, and whether it was. -/
structure Life where
  calls : List Called
  dropped : Bool

/-- The life of the driver with a number after it was opened. -/
def Life.ofExchanges (driver : Nat) (later : List Exchange) : Life where
  calls := (later.takeWhile fun exchange => !exchange.drops driver).filterMap (·.call? driver)
  dropped := later.any (·.drops driver)

end PlanarSink
