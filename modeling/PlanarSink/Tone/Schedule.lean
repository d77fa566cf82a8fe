import PlanarSink.Sink.Session

/-! What happens around the calls of somebody who feeds a sink: which drivers
deliver a period before a call, and when waiting in vain is given up. -/
namespace PlanarSink

/-- Calls are counted from zero. -/
structure Schedule where
  /-- The drivers that deliver a period before a call, in order. -/
  ticks : (call : Nat) → List Nat
  /-- Whether waiting is given up after a call and a number of earlier calls in vain. -/
  expired : (call vain : Nat) → Bool
  /-- The calls in vain after which waiting is given up in any case. -/
  patience : Nat

namespace Schedule

/-- Whether waiting is over after a call and a number of calls in vain. A
`grace` is added to the patience. -/
def givesUp (schedule : Schedule) (grace call vain : Nat) : Bool :=
  schedule.patience + grace ≤ vain || schedule.expired call vain

def idle : Schedule := ⟨fun _ => [], fun _ _ => true, 0⟩

/-- Before each call the driver of a session delivers a period. Two seconds of
periods are waited for. -/
def steady (s : Session) : Schedule where
  ticks _ := [s.driver]
  expired _ _ := false
  patience := 2 * s.input.sampleRate.toNat / s.geometry.periodFrames + 1

end Schedule

end PlanarSink
