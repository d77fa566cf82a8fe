/-! The one place of a process that driver callbacks are sent to. Callbacks
carry no context, so whoever wants them claims the slot first and then installs
a target in it. -/
namespace PlanarSink

/-- Whether the slot is claimed, and the target installed in it. -/
structure Slot (Target : Type) where
  claimed : Bool
  target : Option Target
deriving DecidableEq, Repr

namespace Slot

variable {Target : Type}

def free : Slot Target := ⟨false, none⟩

def claim (slot : Slot Target) : Bool × Slot Target :=
  if slot.claimed then (false, slot) else (true, { slot with claimed := true })

/-- Makes `target` the receiver of callbacks in place of an older one. -/
def install (slot : Slot Target) (target : Target) : Slot Target :=
  { slot with target := some target }

def uninstall (slot : Slot Target) : Option Target × Slot Target :=
  (slot.target, { slot with target := none })

/-- Gives up the claim and with it any target. -/
def vacate (_ : Slot Target) : Slot Target := free

end Slot

end PlanarSink
