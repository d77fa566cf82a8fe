import PlanarSink.Proofs.PlaneQueues

/-! The books of a ring in use. What was written to a plane and is not in it any more was read
from it, in this order, whatever was asked of the ring and of its other planes. -/
namespace PlanarSink

namespace Usage

variable {usage : Usage}

/-- What was written to a plane was read from it, or waits in it, in this order. -/
def Balanced (usage : Usage) : Prop :=
  ∀ plane, usage.ledger.written plane = usage.ledger.taken plane ++ usage.ring.queue plane

theorem Balanced.write (balanced : usage.Balanced) (src : Bytes) (plane : Nat) :
    Balanced ⟨(usage.ring.write src plane).2,
      usage.ledger.enter (.write src plane) (.told (usage.ring.write src plane).1)⟩ := by
  intro other
  cases granted : (usage.ring.write src plane).1 with
  | true =>
    have replaced := PlaneRing.write_replaced granted
    dsimp only [Ledger.enter]
    by_cases same : other = plane
    · subst same
      rw [if_pos rfl, balanced, replaced.here, List.append_assoc]
    · rw [if_neg same, balanced, replaced.elsewhere other same]
  | false =>
    rw [PlaneRing.write_refused granted]
    exact balanced other

theorem Balanced.read (balanced : usage.Balanced) (dst : Bytes) (plane : Nat) :
    Balanced ⟨(usage.ring.read dst plane).2.2,
      usage.ledger.enter (.read dst plane)
        (.filled (usage.ring.read dst plane).1 (usage.ring.read dst plane).2.1)⟩ := by
  intro other
  cases granted : (usage.ring.read dst plane).1 with
  | true =>
    obtain ⟨filled, replaced⟩ := PlaneRing.read_replaced granted
    dsimp only [Ledger.enter]
    by_cases same : other = plane
    · subst same
      rw [if_pos rfl, balanced, replaced.here, filled, List.append_assoc, List.take_append_drop]
    · rw [if_neg same, balanced, replaced.elsewhere other same]
  | false =>
    rw [PlaneRing.read_refused granted]
    exact balanced other

/-- What a call for a single plane does is what is entered for it. -/
theorem Balanced.single (balanced : usage.Balanced) {call : RingCall}
    (single : ∀ src, call ≠ .writeAll src) :
    Balanced ⟨(usage.ring.perform call).2,
      usage.ledger.enter call (usage.ring.perform call).1⟩ := by
  cases call with
  | write src plane => exact balanced.write src plane
  | writeAll src => exact absurd rfl (single src)
  | read dst plane => exact balanced.read dst plane
  | dump =>
    intro plane
    simp [PlaneRing.perform, Ledger.enter, Ledger.blank]

theorem Balanced.singles (balanced : usage.Balanced) {calls : List RingCall}
    (single : ∀ call ∈ calls, ∀ src, call ≠ .writeAll src) :
    Balanced ⟨(usage.ring.performAll calls).2,
      usage.ledger.enterAll calls (usage.ring.performAll calls).1⟩ := by
  induction calls generalizing usage with
  | nil => exact balanced
  | cons call rest ih =>
    have step := balanced.single (single call List.mem_cons_self)
    exact ih step fun later member => single later (List.mem_cons_of_mem call member)

theorem singly_single {ring : PlaneRing} {call single : RingCall}
    (member : single ∈ ring.singly call) (src : Bytes) : single ≠ .writeAll src := by
  cases call with
  | writeAll all =>
    obtain ⟨plane, rfl⟩ := PlaneRing.mem_attempts member
    exact nofun
  | write | read | dump =>
    obtain rfl := List.mem_singleton.mp member
    exact nofun

/-- A call leaves the ring that the calls for single planes leave. -/
theorem performAll_singly {ring : PlaneRing} (somePlanes : 0 < ring.planeCount)
    (call : RingCall) :
    (ring.performAll (ring.singly call)).2 = (ring.perform call).2 := by
  cases call with
  | writeAll src =>
    rw [PlaneRing.singly, (PlaneRing.performAll_attempts ring src _).1,
      ← PlaneRing.writeAll_eq somePlanes]
    rfl
  | write | read | dump => rfl

theorem Balanced.after (balanced : usage.Balanced) (somePlanes : 0 < usage.ring.planeCount)
    (call : RingCall) : (usage.after call).Balanced := by
  have single : ∀ each ∈ usage.ring.singly call, ∀ src, each ≠ .writeAll src :=
    fun _ member => singly_single member
  have step := balanced.singles single
  rw [performAll_singly somePlanes] at step
  exact step

@[simp] theorem ring_afterAll (usage : Usage) (calls : List RingCall) :
    (usage.afterAll calls).ring = (usage.ring.performAll calls).2 := by
  induction calls generalizing usage with
  | nil => rfl
  | cons call rest ih => exact ih (usage.after call)

/-- The books are right after any calls, since every call finds as many planes. -/
theorem Balanced.afterAll {planes limit : Nat} (balanced : usage.Balanced)
    (shaped : usage.ring.Shaped planes limit) (somePlanes : 0 < planes) (calls : List RingCall) :
    (usage.afterAll calls).Balanced := by
  induction calls generalizing usage with
  | nil => exact balanced
  | cons call rest ih =>
    have there : 0 < usage.ring.planeCount := shaped.planeCount ▸ somePlanes
    exact ih (balanced.after there call) (shaped.perform call)

theorem balanced_blank (bytes planes : Nat) : Balanced ⟨.empty bytes planes, .blank⟩ := by
  intro plane
  have vacant : (PlaneRing.empty bytes planes).queue plane = [] := by
    by_cases there : plane < planes <;>
      simp [PlaneRing.queue, PlaneRing.empty, there]
  exact vacant.symm

end Usage

end PlanarSink
