import PlanarSink.Proofs.Conservation

/-! What the working buffer of a session held before makes no difference to what is queued: the
block of the first plane covers all of it. -/
namespace PlanarSink.Session

variable {s t : Session} {level : Nat}

/-- Sessions that differ in no more than the number of the driver, the count of silent
periods, and the working buffer. -/
structure Alike (s t : Session) : Prop where
  running : t.running = s.running
  ring : t.ring = s.ring
  terms : t.terms = s.terms

namespace Alike

variable (alike : s.Alike t)
include alike

theorem codec : t.codec = s.codec :=
  congrArg (·.1.codec) alike.terms

theorem input : t.input = s.input :=
  congrArg Prod.snd alike.terms

theorem planes : t.geometry.planes = s.geometry.planes :=
  congrArg (·.1.planes) alike.terms

theorem sampleType : t.geometry.sampleType = s.geometry.sampleType :=
  congrArg (·.1.sampleType) alike.terms

theorem frameBytes : t.frameBytes = s.frameBytes := by
  rw [Session.frameBytes, Session.frameBytes, alike.input, alike.codec]

theorem sampleSize : t.sampleSize = s.sampleSize := by
  rw [Session.sampleSize, Session.sampleSize, Geometry.sampleSize, Geometry.sampleSize,
    alike.sampleType]

theorem dispatcher : t.dispatcher = s.dispatcher :=
  congrArg (fun terms => Dispatcher.mk terms.1.sampleType terms.1.periodFrames) alike.terms

theorem block (src : Bytes) (frames plane : Nat) :
    t.block src frames plane = s.block src frames plane := by
  rw [Session.block, Session.block, fillScratch, fillScratch, alike.input, alike.codec,
    alike.sampleType, alike.sampleSize]

theorem aligned (aligned : s.Aligned level) : t.Aligned level := by
  obtain ⟨resolved, even, planes, addressable⟩ := aligned
  rw [← alike.sampleType, ← alike.codec] at resolved
  rw [← alike.ring] at even planes addressable
  rw [← alike.planes] at planes
  exact ⟨resolved, even, planes, addressable⟩

theorem queueFrames (aligned : s.Aligned level) {src : Bytes} {frames : Nat}
    (whole : frames * s.frameBytes ≤ src.length)
    (free : frames * s.sampleSize ≤ s.ring.writeSize) :
    (s.queueFrames src frames).Alike (t.queueFrames src frames) := by
  have room : frames * s.sampleSize < Size.bound := by
    have writeSize := aligned.even.writeSize
    have addressable := aligned.addressable
    omega
  obtain ⟨scratch, queued⟩ := aligned.queueFrames_blocks whole room free
  rw [← alike.frameBytes] at whole
  rw [← alike.sampleSize] at room free
  rw [← alike.ring] at free
  obtain ⟨scratch', queued'⟩ := (alike.aligned aligned).queueFrames_blocks whole room free
  rw [queued, queued']
  refine ⟨alike.running, ?_, alike.terms⟩
  simp only [alike.block, alike.ring]

theorem addPackets (aligned : s.Aligned level) (src : Bytes) (frames offset : Nat) :
    (t.addPackets src frames offset).1 = (s.addPackets src frames offset).1 ∧
      (s.addPackets src frames offset).2.Alike (t.addPackets src frames offset).2 := by
  unfold Session.addPackets
  rw [alike.frameBytes]
  dsimp only
  split
  · exact ⟨rfl, alike⟩
  split
  · exact ⟨rfl, alike⟩
  have accepted : ∀ available, t.acceptable available frames = s.acceptable available frames := by
    intro available
    rw [acceptable, acceptable, alike.frameBytes, alike.sampleSize, alike.ring]
  rw [accepted]
  split
  · exact ⟨rfl, alike⟩
  refine ⟨rfl, alike.queueFrames aligned ?_ ?_⟩
  · exact Nat.mul_le_of_le_div _ _ _ (Nat.le_trans (Nat.min_le_left _ _) (Nat.min_le_right _ _))
  · exact Nat.mul_le_of_le_div _ _ _ (Nat.min_le_right _ _)

end Alike

end PlanarSink.Session
