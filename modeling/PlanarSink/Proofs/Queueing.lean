import PlanarSink.Proofs.EvenRing
import PlanarSink.Proofs.Samples
import PlanarSink.Sink.Session

/-! What a session queues. The frames it takes are there in whole and have room, so each
plane gets one block of as many samples, and none of what the working buffer held before. -/
namespace PlanarSink.Session

variable {s : Session}

/-- The frames that are taken of a slice of `length` bytes: as many as are asked for, are
there in whole, and have room. -/
def takeable (s : Session) (length frames offset : Nat) : Nat :=
  if s.frameBytes = 0 ∨ length < offset * s.frameBytes then 0
  else min frames (min ((length - offset * s.frameBytes) / s.frameBytes)
    (s.ring.writeSize / s.sampleSize))

theorem addPackets_eq (s : Session) {src : Bytes} (inMemory : src.length < 0x8000000000000000)
    (frames offset : Nat) :
    s.addPackets src frames offset =
      if s.takeable src.length frames offset = 0 then (0, s)
      else (s.takeable src.length frames offset,
        s.queueFrames (src.drop (offset * s.frameBytes))
          (s.takeable src.length frames offset)) := by
  have small : src.length < Size.largest := Nat.lt_trans inMemory (by decide)
  unfold addPackets takeable
  by_cases none : s.frameBytes = 0
  · simp [none]
  by_cases short : src.length < offset * s.frameBytes
  · simp [none, short, Size.lt_saturatingMul_iff small]
  have start : Size.saturatingMul offset s.frameBytes = offset * s.frameBytes :=
    Size.saturatingMul_eq (Nat.lt_of_le_of_lt (Nat.not_lt.mp short)
      (Nat.lt_of_lt_of_le small (Nat.sub_le _ _)))
  simp only [none, short, start, acceptable, Nat.min_assoc, List.length_drop, if_false, or_self]

theorem taken_eq (s : Session) {src : Bytes} (inMemory : src.length < 0x8000000000000000)
    (frames offset : Nat) :
    (s.addPackets src frames offset).1 = s.takeable src.length frames offset := by
  rw [s.addPackets_eq inMemory]
  split
  · next nothing => exact nothing.symm
  · rfl

/-- The frames that are taken are there in whole, and the ring has room for them. -/
theorem takeable_fits {length frames offset : Nat} (some : s.takeable length frames offset ≠ 0) :
    (offset + s.takeable length frames offset) * s.frameBytes ≤ length ∧
      s.takeable length frames offset * s.sampleSize ≤ s.ring.writeSize := by
  unfold takeable at some ⊢
  split
  · next nothing => exact absurd (if_pos nothing) some
  · constructor
    · have whole := Nat.mul_le_of_le_div _ _ _ (Nat.le_trans (Nat.min_le_right frames _)
        (Nat.min_le_left ((length - offset * s.frameBytes) / s.frameBytes)
          (s.ring.writeSize / s.sampleSize)))
      rw [Nat.add_mul]
      omega
    · exact Nat.mul_le_of_le_div _ _ _ (Nat.le_trans (Nat.min_le_right _ _) (Nat.min_le_right _ _))

/-- The codec of a session writes samples of the driver's type, and its ring has a level
plane for each plane of the driver. -/
structure Aligned (s : Session) (level : Nat) : Prop where
  resolved : ∃ source, Codec.resolve source s.geometry.sampleType = .ok s.codec
  even : s.ring.Even level
  planes : s.ring.planeCount = s.geometry.planes
  addressable : s.ring.capacity < Size.bound

/-- The working buffer after the blocks of the first planes were made in it. -/
def worked (s : Session) (src : Bytes) (frames : Nat) (scratch : Bytes) : (planes : Nat) → Bytes
  | 0 => scratch
  | plane + 1 => s.fillScratch src frames plane (s.worked src frames scratch plane)

namespace Aligned

variable {level : Nat} (aligned : s.Aligned level)
include aligned

theorem target : s.codec.target = s.geometry.sampleType := by
  obtain ⟨source, resolved⟩ := aligned.resolved
  exact (Codec.resolve_cases resolved).2.1

theorem targetBytes : s.codec.targetBytes = s.sampleSize :=
  congrArg SampleType.bytes aligned.target

theorem length_fillScratch (src : Bytes) (frames plane : Nat) (scratch : Bytes) :
    (s.fillScratch src frames plane scratch).length = scratch.length := by
  obtain ⟨source, resolved⟩ := aligned.resolved
  unfold fillScratch
  split
  · exact Codec.length_deinterleave resolved ..
  · exact Silence.length_fill ..

theorem length_worked (src : Bytes) (frames : Nat) (scratch : Bytes) (planes : Nat) :
    (s.worked src frames scratch planes).length = scratch.length := by
  induction planes with
  | zero => rfl
  | succ plane ih => rw [worked, aligned.length_fillScratch, ih]

theorem foldl_queuePlane (src : Bytes) (frames : Nat) {scratch : Bytes}
    (free : scratch.length ≤ s.ring.writeSize) {count : Nat} (within : count ≤ s.ring.planeCount) :
    (List.range count).foldl (s.queuePlane src frames) (scratch, s.ring) =
      (s.worked src frames scratch count,
        s.ring.upTo (fun plane queue => queue ++ s.worked src frames scratch (plane + 1)) count) := by
  induction count with
  | zero => simp [worked]
  | succ count ih =>
    have length := aligned.length_worked src frames scratch (count + 1)
    have fits : level + (s.worked src frames scratch (count + 1)).length ≤ s.ring.capacity := by
      have bounded := aligned.even.bounded
      rw [aligned.even.writeSize] at free
      omega
    have written := @PlaneRing.Even.write _ _ aligned.even
      (fun plane => s.worked src frames scratch (plane + 1)) count within fits
    rw [List.range_succ, List.foldl_append, ih (Nat.le_of_succ_le within)]
    simp only [worked] at written ⊢
    simp only [List.foldl_cons, List.foldl_nil, queuePlane, written]

theorem queueFrames_eq (src : Bytes) {frames : Nat}
    (free : frames * s.sampleSize ≤ s.ring.writeSize) :
    s.queueFrames src frames =
      { s with
        scratch := s.worked src frames (s.scratch.resize (frames * s.sampleSize)) s.geometry.planes
        ring := s.ring.upTo (fun plane queue => queue ++
          s.worked src frames (s.scratch.resize (frames * s.sampleSize)) (plane + 1))
          s.ring.planeCount } := by
  have length := Bytes.length_resize s.scratch (frames * s.sampleSize)
  rw [queueFrames, ← aligned.planes,
    aligned.foldl_queuePlane src frames (by rw [length]; exact free) (Nat.le_refl _)]

theorem addPackets (src : Bytes) (frames offset : Nat) :
    ∃ scratch ring after, (s.addPackets src frames offset).2 = { s with scratch, ring } ∧
      ring.capacity = s.ring.capacity ∧ Aligned { s with scratch, ring } after := by
  unfold Session.addPackets
  dsimp only
  split
  · exact ⟨s.scratch, s.ring, level, rfl, rfl, aligned⟩
  split
  · exact ⟨s.scratch, s.ring, level, rfl, rfl, aligned⟩
  split
  · exact ⟨s.scratch, s.ring, level, rfl, rfl, aligned⟩
  · generalize counted : s.acceptable _ frames = taken
    have free : taken * s.sampleSize ≤ s.ring.writeSize := by
      apply Nat.mul_le_of_le_div
      rw [← counted]
      exact Nat.min_le_right _ _
    have bounded := aligned.even.bounded
    have writeSize := aligned.even.writeSize
    rw [aligned.queueFrames_eq _ free]
    refine ⟨_, _, level + taken * s.sampleSize, rfl, rfl, aligned.resolved, ?_,
      PlaneRing.length_upTo.trans aligned.planes, aligned.addressable⟩
    apply aligned.even.upTo
    · omega
    · intro plane queue found
      rw [List.length_append, aligned.length_worked, Bytes.length_resize,
        aligned.even.same queue (List.mem_of_getElem? found)]

end Aligned

/-- The block of a plane, made in a working buffer of zeros. -/
def block (s : Session) (src : Bytes) (frames plane : Nat) : Bytes :=
  s.fillScratch src frames plane (List.replicate (frames * s.sampleSize) 0)

namespace Aligned

variable {level : Nat} (aligned : s.Aligned level)
include aligned

theorem sampleSize_pos : 0 < s.sampleSize := by
  obtain ⟨source, resolved⟩ := aligned.resolved
  rw [← aligned.targetBytes]
  exact Codec.targetBytes_pos resolved

theorem takeable_eq {length frames offset : Nat} (some : 0 < s.frameBytes)
    (whole : (offset + frames) * s.frameBytes ≤ length)
    (room : frames * s.sampleSize ≤ s.ring.writeSize) :
    s.takeable length frames offset = frames := by
  rw [Nat.add_mul] at whole
  have there : frames ≤ (length - offset * s.frameBytes) / s.frameBytes :=
    (Nat.le_div_iff_mul_le some).mpr (by omega)
  have free : frames ≤ s.ring.writeSize / s.sampleSize :=
    (Nat.le_div_iff_mul_le aligned.sampleSize_pos).mpr room
  rw [takeable, if_neg (by omega)]
  omega

section Block

variable {src : Bytes} {frames : Nat} (whole : frames * s.frameBytes ≤ src.length)
  (room : frames * s.sampleSize < Size.bound)
include whole room

theorem fillScratch_eq (plane : Nat) {scratch : Bytes}
    (length : scratch.length = frames * s.sampleSize) :
    s.fillScratch src frames plane scratch = s.block src frames plane := by
  obtain ⟨source, resolved⟩ := aligned.resolved
  unfold block fillScratch
  split
  · next within =>
    rw [← aligned.targetBytes] at length ⊢
    rw [Codec.deinterleave_eq resolved within length whole,
      Codec.deinterleave_eq resolved within List.length_replicate whole]
  · have reach : frames * s.sampleSize ≤ Size.saturatingMul frames s.geometry.sampleType.bytes :=
      Nat.le_of_eq (Size.saturatingMul_eq room).symm
    rw [Silence.fill_eq (by rw [length]; exact reach),
      Silence.fill_eq (by rw [List.length_replicate]; exact reach), length, List.length_replicate]

/-- Made in whatever buffer of their size, the blocks are those made in zeros. -/
theorem worked_eq {scratch : Bytes} (length : scratch.length = frames * s.sampleSize) (plane : Nat) :
    s.worked src frames scratch (plane + 1) = s.block src frames plane := by
  rw [worked, aligned.fillScratch_eq whole room]
  rw [aligned.length_worked, length]

theorem queueFrames_blocks (free : frames * s.sampleSize ≤ s.ring.writeSize) :
    ∃ scratch, s.queueFrames src frames =
      { s with
        scratch
        ring := s.ring.upTo (fun plane queue => queue ++ s.block src frames plane)
          s.ring.planeCount } := by
  have length := Bytes.length_resize s.scratch (frames * s.sampleSize)
  rw [aligned.queueFrames_eq src free]
  simp only [aligned.worked_eq whole room length]
  exact ⟨_, rfl⟩

end Block

theorem length_block (src : Bytes) (frames plane : Nat) :
    (s.block src frames plane).length = frames * s.sampleSize :=
  (aligned.length_fillScratch ..).trans List.length_replicate

/-- The block of a plane is what the frames come to there, frame by frame. -/
theorem rendered_block {src : Bytes} {offset taken : Nat}
    (whole : (offset + taken) * s.frameBytes ≤ src.length) (plane : Nat) :
    ∃ blocks : List Bytes, s.codec.rendered src s.input.channels offset taken plane = blocks.map .ok ∧
      s.block (src.drop (offset * s.frameBytes)) taken plane = blocks.flatten := by
  obtain ⟨source, resolved⟩ := aligned.resolved
  by_cases within : plane < s.input.channels
  · refine ⟨_, Codec.rendered_eq resolved within offset taken whole, ?_⟩
    have rest : taken * (s.input.channels * s.codec.sourceBytes) ≤
        (src.drop (offset * s.frameBytes)).length := by
      rw [Nat.add_mul] at whole
      rw [List.length_drop, ← frameBytes]
      omega
    rw [block, fillScratch, if_pos within, ← aligned.targetBytes,
      Codec.deinterleave_eq resolved within List.length_replicate rest,
      List.range'_eq_map_range, List.map_map]
    congr 2
    funext frame
    simp only [Function.comp_apply, frameBytes, List.drop_drop, Nat.add_mul, Nat.mul_assoc,
      Nat.add_assoc]
  · refine ⟨[_], by rw [Codec.rendered, if_neg within]; rfl, ?_⟩
    rw [block, fillScratch, if_neg within, List.flatten_singleton, aligned.target, aligned.targetBytes]

end Aligned

theorem rendered_none (s : Session) (src : Bytes) (offset plane : Nat) :
    ∃ blocks : List Bytes, s.codec.rendered src s.input.channels offset 0 plane = blocks.map .ok ∧
      blocks.flatten = [] := by
  unfold Codec.rendered
  split
  · exact ⟨[], rfl, rfl⟩
  · exact ⟨[[]], by simp [Silence.fill, Silence.bytes, Bytes.overwrite], rfl⟩

/-- Every plane gets what the accepted frames come to there, a sample for each, and nothing
else changes but the working buffer. -/
theorem Aligned.addPackets_stream {level : Nat} (aligned : s.Aligned level) {src : Bytes}
    (inMemory : src.length < 0x8000000000000000) (frames offset : Nat) :
    ∃ scratch ring, (s.addPackets src frames offset).2 = { s with scratch, ring } ∧
      ring.capacity = s.ring.capacity ∧
      Aligned { s with scratch, ring } (level + (s.addPackets src frames offset).1 * s.sampleSize) ∧
      ∀ plane < s.geometry.planes, ∃ blocks : List Bytes,
        s.codec.rendered src s.input.channels offset (s.addPackets src frames offset).1 plane =
          blocks.map .ok ∧
        ring.queue plane = s.ring.queue plane ++ blocks.flatten := by
  rw [s.addPackets_eq inMemory]
  split
  · refine ⟨s.scratch, s.ring, rfl, rfl, by simpa using aligned, fun plane _ => ?_⟩
    obtain ⟨blocks, rendered, none⟩ := s.rendered_none src offset plane
    exact ⟨blocks, rendered, by rw [none, List.append_nil]⟩
  · next some =>
    obtain ⟨whole, free⟩ := takeable_fits some
    generalize s.takeable src.length frames offset = taken at whole free ⊢
    have bounded := aligned.even.bounded
    have writeSize := aligned.even.writeSize
    have room : taken * s.sampleSize < Size.bound := by
      have addressable := aligned.addressable
      omega
    have rest : taken * s.frameBytes ≤ (src.drop (offset * s.frameBytes)).length := by
      rw [Nat.add_mul] at whole
      rw [List.length_drop]
      omega
    obtain ⟨scratch, queued⟩ := aligned.queueFrames_blocks rest room free
    rw [queued]
    refine ⟨scratch, _, rfl, rfl,
      ⟨aligned.resolved, ?_, ?_, aligned.addressable⟩, ?_⟩
    · apply aligned.even.upTo
      · show level + taken * s.sampleSize ≤ s.ring.capacity
        omega
      · intro plane queue found
        rw [List.length_append, aligned.length_block,
          aligned.even.same queue (List.mem_of_getElem? found)]
    · exact PlaneRing.length_upTo.trans aligned.planes
    · intro plane there
      obtain ⟨blocks, rendered, made⟩ := aligned.rendered_block whole plane
      rw [← aligned.planes] at there
      refine ⟨blocks, rendered, ?_⟩
      rw [PlaneRing.queue_upTo there there, made]

end PlanarSink.Session
