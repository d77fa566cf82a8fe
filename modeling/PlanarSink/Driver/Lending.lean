import PlanarSink.Driver.Simulated

/-! The creation of buffers one statement at a time, in a list of wanted channels that its
caller lends to the driver. A failure keeps whatever was changed before it. -/
namespace PlanarSink

/-- A driver and the list that is lent to it. -/
structure Lending where
  driver : Simulated
  infos : List BufferInfo
deriving DecidableEq, Repr

/-- What an answer comes to where the list is lent: it is filled in, or left as it was. -/
def Lending.ofAnswer (infos : List BufferInfo) :
    Except CreationFault (List BufferInfo) × Simulated → Except CreationFault Unit × Lending
  | (.ok filled, driver) => (.ok (), ⟨driver, filled⟩)
  | (.error fault, driver) => (.error fault, ⟨driver, infos⟩)

abbrev LendingM := ExceptT CreationFault (StateM Lending)

namespace LendingM

/-- Ends with a fault where the condition holds, and goes on elsewhere. -/
def refuse (condition : Prop) [Decidable condition] (fault : CreationFault) : LendingM Unit :=
  if condition then throw fault else pure ()

def check (point : FailPoint) : LendingM Unit := fun lending =>
  ((lending.driver.check point).mapError .status, lending)

/-- Creates a double buffer of zeros for each wanted channel, notes the addresses of its halves
in the list, and registers the callbacks. -/
def createBuffers (period : Nat) : LendingM Unit := do
  check .createBuffers
  let ⟨driver, infos⟩ ← get
  refuse (period < driver.profile.minPeriod ∨ driver.profile.maxPeriod < period)
    (.status .invalidMode)
  refuse (!infos.all driver.hasChannel) (.status .invalidParameter)
  refuse (driver.buffers ≠ []) (.status .invalidMode)
  refuse (Size.bound ≤ driver.halfBytes period) .panic
  refuse (driver.halfBytes period = 0) (.status .invalidMode)
  refuse (driver.tooLong infos.length period) .panic
  modify fun lending =>
    let buffers := lending.infos.map fun _ => DoubleBuffer.filled (driver.halfBytes period) 0
    { lending with driver := { lending.driver with buffers } }
  modify fun lending =>
    { lending with infos := lending.infos.map fun info => { info with addressed := true } }
  modify fun lending =>
    { lending with
      driver := { lending.driver with period, registered := true, nextHalf := .first } }

variable {β : Type} (lending : Lending)

theorem get_bind (next : Lending → LendingM β) : (get >>= next) lending = next lending lending :=
  rfl

theorem modify_bind (change : Lending → Lending) (next : PUnit → LendingM β) :
    (modify change >>= next) lending = next () (change lending) :=
  rfl

theorem refuse_bind (condition : Prop) [Decidable condition] (fault : CreationFault)
    (next : Unit → LendingM β) :
    (refuse condition fault >>= next) lending =
      if condition then (.error fault, lending) else next () lending := by
  by_cases holds : condition <;> simp only [refuse, holds, if_true, if_false] <;> rfl

theorem check_bind (point : FailPoint) (next : Unit → LendingM β) :
    (check point >>= next) lending =
      if lending.driver.profile.failAt = some point then (.error (.status point.status), lending)
      else next () lending := by
  change ExceptT.bindCont next ((lending.driver.check point).mapError .status) lending = _
  unfold Simulated.check
  split <;> rfl

end LendingM

end PlanarSink
