import PlanarSink.Studio

/-! Everything that can be done in a studio, one command after the other, and what its
sinks ask of their surroundings meanwhile. -/
namespace PlanarSink

namespace Exchange

def grantsLease : Exchange → Bool
  | ⟨.acquireHost, reply⟩ => reply.isOk
  | _ => false

end Exchange

namespace Studio

inductive Command where
  | connect (sink : Nat) (format : StreamFormat) (device : String)
  | disconnect (sink : Nat)
  | stop (sink : Nat)
  | start (sink : Nat)
  | drain (sink : Nat)
  | addPackets (sink : Nat) (data : List Bytes) (frames offset : Nat)
  | drop (sink : Nat)
  | tick (host driver : Nat)
  | refuse (host : Nat) (refusing : Bool)
  | supply (supply : Supply)
deriving DecidableEq, Repr

def execute (studio : Studio) : Command → Studio
  | .connect sink format device => (studio.connect sink format device).2
  | .disconnect sink => studio.disconnect sink
  | .stop sink => studio.stop sink
  | .start sink => (studio.start sink).2
  | .drain sink => studio.drain sink
  | .addPackets sink data frames offset => (studio.addPackets sink data frames offset).2
  | .drop sink => studio.dropSink sink
  | .tick host driver => (studio.tick host driver).2
  | .refuse host refusing => studio.setRefusing host refusing
  | .supply supply => studio.setSupply supply

def run (studio : Studio) (commands : List Command) : Studio :=
  commands.foldl execute studio

/-- A studio in which nothing was done yet, with the profiles of its hosts, and with
the host and the options of each sink. -/
def unused (hosts : List (List Profile)) (sinks : List (Nat × SinkOptions)) : Studio :=
  ofHosts (hosts.map .ofProfiles) (sinks.map fun (host, options) => ⟨host, .ofOptions options⟩)

/-- What a sink asks of its surroundings during an operation, with its host. -/
def asked (studio : Studio) (sink : Nat) (operation : Sink → StateM (Journal Seat) α) :
    List (Nat × Exchange) :=
  match studio.sink? sink with
  | none => []
  | some seated =>
    let (_, journal) := (operation seated.sink).run ⟨⟨sink, seated.host, studio⟩, []⟩
    journal.exchanges.map (seated.host, ·)

def exchanges (studio : Studio) : Command → List (Nat × Exchange)
  | .connect sink format device => studio.asked sink (·.connect format device)
  | .disconnect sink | .drop sink => studio.asked sink Sink.disconnect
  | .stop sink => studio.asked sink Sink.stop
  | .start sink => studio.asked sink Sink.start
  | .drain sink => studio.asked sink Sink.drain
  | .addPackets .. | .tick .. | .refuse .. | .supply _ => []

def leases (studio : Studio) (host : Nat) (command : Command) : Nat :=
  (studio.exchanges command).countP fun (asked, exchange) => asked == host && exchange.grantsLease

def leasesOver (studio : Studio) (host : Nat) : List Command → Nat
  | [] => 0
  | command :: commands =>
    studio.leases host command + (studio.execute command).leasesOver host commands

/-- The frames that a sink takes when it is handed some by a command. -/
def accepted (studio : Studio) (sink : Nat) (format : StreamFormat) : Command → List Bytes
  | .addPackets number data frames offset =>
    if number = sink then
      format.framesOf ((data.headD []).drop (offset * format.frameBytes))
        (studio.addPackets sink data frames offset).1
    else []
  | _ => []

/-- The frames that a sink takes during a run, one after the other. -/
def acceptedOver (studio : Studio) (sink : Nat) (format : StreamFormat) : List Command → List Bytes
  | [] => []
  | command :: commands =>
    studio.accepted sink format command ++
      (studio.execute command).acceptedOver sink format commands

def panics (studio : Studio) (sink : Nat) : Command → Bool
  | .connect number format device =>
    number == sink && ((studio.connect number format device).1.1 matches .error .panic)
  | _ => false

def panicsOver (studio : Studio) (sink : Nat) : List Command → Bool
  | [] => false
  | command :: commands =>
    studio.panics sink command || (studio.execute command).panicsOver sink commands

def connected (studio : Studio) (sink : Nat) : Bool :=
  (studio.sink? sink).any fun seated => seated.sink.isInitialized

end Studio

end PlanarSink
