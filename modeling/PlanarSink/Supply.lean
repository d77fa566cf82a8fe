/-! What the process around a studio can give from now on: memory and threads. How much that is
may be different at any time. -/
namespace PlanarSink

structure Supply where
  /-- The most bytes that the planes of a new ring can have together. -/
  ring : Nat
  /-- The most bytes that a new working buffer can have. -/
  scratch : Nat
  /-- Whether a thread can be had. -/
  thread : Bool
deriving DecidableEq, Repr

namespace Supply

/-- As much memory as a process has addresses for, and threads. -/
def ample : Supply := ⟨0x800000000000, 0x800000000000, true⟩

/-- Whether there is memory for a ring, each plane of which is a list and takes a byte at least. -/
def hasRing (supply : Supply) (capacity planes : Nat) : Bool :=
  max capacity 1 * planes ≤ supply.ring

def hasScratch (supply : Supply) (bytes : Nat) : Bool :=
  bytes ≤ supply.scratch

end Supply

end PlanarSink
