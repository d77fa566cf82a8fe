import PlanarSink.Callback.Dispatcher
import PlanarSink.Driver.Call

/-! Everything around a sink that it asks something of: the host it leases, the
callback slot it claims, the driver it opens, and the memory it needs. -/
namespace PlanarSink

/-- What a sink asks for. Opened drivers are known by numbers. -/
inductive Request where
  | acquireHost
  | releaseHost
  | claimSlot
  | vacateSlot
  /-- The dispatcher is to serve the buffers of the driver with this number. -/
  | install (driver : Nat) (dispatcher : Dispatcher)
  | openDriver (device : String)
  | dropDriver (driver : Nat)
  /-- Memory for a ring of some planes with a capacity in bytes each. -/
  | allocateRing (capacity planes : Nat)
  /-- Memory for a working buffer of some bytes. -/
  | reserve (bytes : Nat)
  | call (driver : Nat) (driverCall : DriverCall)
deriving DecidableEq, Repr

namespace Request

abbrev Reply : Request → Type
  | acquireHost => Except Status Unit
  | claimSlot | allocateRing .. | reserve _ => Bool
  | openDriver _ => Except Status Nat
  | call _ driverCall => driverCall.Reply
  | _ => Unit

end Request

/-- Surroundings of a sink in a state `σ`. Nothing is assumed of the replies. -/
class Backend (σ : Type) where
  perform : (request : Request) → σ → request.Reply × σ

structure Exchange where
  request : Request
  reply : request.Reply

structure Journal (σ : Type) where
  backend : σ
  exchanges : List Exchange

instance [Backend σ] : Backend (Journal σ) where
  perform request journal :=
    let (reply, backend) := Backend.perform request journal.backend
    (reply, ⟨backend, journal.exchanges ++ [⟨request, reply⟩]⟩)

namespace Backend

/-- Asks, and keeps the state that follows. -/
def ask [Backend σ] (request : Request) : StateM σ request.Reply :=
  perform request

end Backend

end PlanarSink
