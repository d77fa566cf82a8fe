import PlanarSink.Driver.Simulated

/-! What can happen to an opened driver, in any order: its calls, its periods, and what is
written through the addresses of its buffers. -/
namespace PlanarSink

/-- The bytes with others written over them from a place on. Nothing is written past the
end. -/
def Bytes.splice (bytes : Bytes) (start : Nat) (src : Bytes) : Bytes :=
  (bytes.take start ++ src ++ bytes.drop (start + src.length)).take bytes.length

@[simp] theorem Bytes.length_splice (bytes : Bytes) (start : Nat) (src : Bytes) :
    (bytes.splice start src).length = bytes.length := by
  simp only [splice, List.length_take, List.length_append, List.length_drop]
  omega

inductive DriverEvent where
  /-- A call, made while a thread can be had or not. -/
  | call (c : DriverCall) (thread : Bool)
  | tick
  /-- The holder of an address writes into the half it belongs to. -/
  | write (plane : Nat) (half : Half) (start : Nat) (src : Bytes)
  /-- The driver is dropped. Whoever has its handle can still let it tick. -/
  | drop
deriving DecidableEq, Repr

namespace Simulated

/-- Writes into a half of the buffer of one plane, where there is one. -/
def writeHalf (s : Simulated) (plane : Nat) (half : Half) (start : Nat) (src : Bytes) : Simulated :=
  { s with buffers := s.buffers.modify plane fun buffer =>
      buffer.set half ((buffer.get half).splice start src) }

def after (s : Simulated) : DriverEvent → Simulated
  | .call c thread => (s.perform thread c).2
  | .tick => (s.tick.map Prod.snd).getD s
  | .write plane half start src => s.writeHalf plane half start src
  | .drop => s.halt

def afterAll (s : Simulated) (events : List DriverEvent) : Simulated :=
  events.foldl after s

end Simulated

end PlanarSink
