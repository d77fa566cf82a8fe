import PlanarSink.Driver.Event

/-! What was seen of a driver since it was opened, and what can be told from that alone: whether
it runs, which rate and which period are in force, and what it delivered. -/
namespace PlanarSink

/-- Something that happened to a driver, and whether the driver did as it was asked: whether it
accepted a call, or delivered a period. -/
structure Seen where
  event : DriverEvent
  done : Bool
deriving DecidableEq, Repr

namespace Seen

def period? : Seen → Option Nat
  | ⟨.call (.createBuffers _ period) _, true⟩ => some period
  | _ => none

def rate? : Seen → Option Binary.Double
  | ⟨.call (.setRate rate) _, true⟩ => some rate
  | _ => none

def runs? : Seen → Option Bool
  | ⟨.call .start _, true⟩ => some true
  | ⟨.call .stop _, true⟩ => some false
  | ⟨.call .disposeBuffers _, true⟩ => some false
  | ⟨.drop, _⟩ => some false
  | _ => none

def starts : Seen → Bool
  | ⟨.call .start _, _⟩ => true
  | _ => false

def delivers : Seen → Bool
  | ⟨.tick, done⟩ => done
  | _ => false

end Seen

/-- What was seen of a driver, the latest first. -/
abbrev History := List Seen

namespace History

/-- The driver was started, and neither stopped nor dropped since; its buffers were not disposed
of either. -/
def running (history : History) : Bool :=
  (history.findSome? Seen.runs?).getD false

def period (history : History) : Nat :=
  (history.findSome? Seen.period?).getD 0

/-- The rate set last; `initial` where none was. -/
def rate (initial : Binary.Double) (history : History) : Binary.Double :=
  (history.findSome? Seen.rate?).getD initial

def delivered (history : History) : Nat :=
  history.countP Seen.delivers

/-- The periods delivered since the driver was last asked to start while it stood still. -/
def deliveredSinceStart : History → Nat
  | [] => 0
  | seen :: before =>
    if seen.starts && !running before then 0
    else deliveredSinceStart before + (if seen.delivers then 1 else 0)

/-- The frames delivered: as many at a time as the period in force had. -/
def frames : History → Nat
  | [] => 0
  | seen :: before => frames before + (if seen.delivers then period before else 0)

end History

/-- A driver, and what was seen of it. -/
structure Watched where
  driver : Simulated
  history : History
deriving DecidableEq, Repr

namespace Watched

def boot (profile : Profile) : Watched := ⟨.boot profile, []⟩

/-- Whether the driver does as it is asked. -/
def does (watched : Watched) : DriverEvent → Bool
  | .call c thread => (watched.driver.perform thread c).1.isOk
  | .tick => watched.driver.tick.isSome
  | .write .. => true
  | .drop => true

def after (watched : Watched) (event : DriverEvent) : Watched :=
  ⟨watched.driver.after event, ⟨event, watched.does event⟩ :: watched.history⟩

def afterAll (watched : Watched) (events : List DriverEvent) : Watched :=
  events.foldl after watched

end Watched

end PlanarSink
