import PlanarSink.Proofs.ChunkRoom
import PlanarSink.Studio.Worksheet

/-! What is reckoned while a sink connects. It is what the sink and its driver go by, and all of
its calculations stay in range but for the bits of a frame and the bytes of a period. -/
namespace PlanarSink

open Size (Calculation)

namespace Reckoned

variable {α : Type}

/-- What is reckoned comes to a value, and all of its calculations are in range. -/
structure Settles (reckoned : Reckoned α) (value : α) : Prop where
  found : reckoned.value? = some value
  inRange : ∀ c ∈ reckoned.calculations, c.InRange

variable {c : Calculation} {next : Nat → Reckoned α} {value : α}

theorem settles_pure (value : α) : (pure value : Reckoned α).Settles value :=
  ⟨rfl, nofun⟩

theorem Settles.make (inRange : c.InRange) : (make c).Settles c.value :=
  ⟨if_pos inRange, List.forall_mem_singleton.mpr inRange⟩

theorem make_bind (inRange : c.InRange) : make c >>= next =
    ⟨(next c.value).value?, c :: (next c.value).calculations⟩ := by
  change andThen (make c) next = _
  rw [make, if_pos inRange]
  rfl

theorem Settles.bind (inRange : c.InRange) (rest : (next c.value).Settles value) :
    (Reckoned.make c >>= next).Settles value := by
  rw [make_bind inRange]
  exact ⟨rest.found, List.forall_mem_cons.mpr ⟨inRange, rest.inRange⟩⟩

theorem make_bind_of_stray (stray : ¬c.InRange) : make c >>= next = ⟨none, [c]⟩ := by
  change andThen (make c) next = _
  rw [make, if_neg stray]
  rfl

theorem mem_make_bind (c : Calculation) (next : Nat → Reckoned α) :
    c ∈ (make c >>= next).calculations := by
  by_cases inRange : c.InRange
  · rw [make_bind inRange]
    exact .head _
  · rw [make_bind_of_stray inRange]
    exact .head _

end Reckoned

theorem StreamFormat.settles_reckonInput {channels : Nat} {dataFormat : InputFormat}
    (fits : channels * dataFormat.bytes < Size.bound) (rate : UInt32) :
    (reckonInput rate channels dataFormat).Settles (ofInput rate channels dataFormat) :=
  .bind fits (Reckoned.settles_pure _)

/-- A driver that is to create buffers refuses before it reckons anything, or it reckons the bytes
of a half and nothing else, and panics where that comes to nothing. -/
theorem Simulated.reckonBuffers_cases (s : Simulated) (infos : List BufferInfo) (period : Nat) :
    (∃ status, s.createBuffers infos period = (.error (.status status), s) ∧
        s.reckonBuffers infos period = ⟨some (.error (.status status), s), []⟩) ∨
      (Calculation.product period s.sampleType.bytes).InRange ∧
        s.reckonBuffers infos period =
          ⟨some (s.createBuffers infos period), [.product period s.sampleType.bytes]⟩ ∨
      ¬(Calculation.product period s.sampleType.bytes).InRange ∧
        s.createBuffers infos period = (.error .panic, s) ∧
        s.reckonBuffers infos period = ⟨none, [.product period s.sampleType.bytes]⟩ := by
  cases checked : s.check .createBuffers with
  | error status =>
    refine .inl ⟨status, ?_, ?_⟩
    · simp only [createBuffers, checked]
    · simp only [reckonBuffers, checked]
      rfl
  | ok =>
    simp only [createBuffers, reckonBuffers, checked]
    split
    · exact .inl ⟨_, rfl, rfl⟩
    split
    · exact .inl ⟨_, rfl, rfl⟩
    split
    · exact .inl ⟨_, rfl, rfl⟩
    by_cases inRange : (Calculation.product period s.sampleType.bytes).InRange
    · have small : ¬Size.bound ≤ s.halfBytes period := Nat.not_le.mpr inRange
      have half : (Calculation.product period s.sampleType.bytes).value = s.halfBytes period := rfl
      rw [Reckoned.make_bind inRange, half, if_neg small]
      refine .inr (.inl ⟨inRange, ?_⟩)
      split
      · rfl
      split <;> rfl
    · have large : Size.bound ≤ s.halfBytes period := Nat.not_lt.mp inRange
      rw [Reckoned.make_bind_of_stray inRange, if_pos large]
      exact .inr (.inr ⟨inRange, rfl, rfl⟩)

namespace Agreement

theorem reckonFrameSize_of_large {format : StreamFormat}
    (large : ¬frameBits format < Size.bound) :
    reckonFrameSize format = ⟨none, [.product format.channels format.dataFormat.bits]⟩ :=
  Reckoned.make_bind_of_stray large

theorem settles_reckonFrameSize {format : StreamFormat} (fits : frameBits format < Size.bound) :
    (reckonFrameSize format).Settles (frameSize format) :=
  .bind fits (.make (Calculation.inRange_quotient fits (by decide)))

variable (a : Agreement) {options : SinkOptions} (someChunks : options.chunksPerSecond.toNat ≠ 0)
  (rate : UInt32)

theorem rate_mul_lt (t : SampleType) : rate.toNat * t.bits < Size.bound :=
  calc rate.toNat * t.bits
      ≤ rate.toNat * 64 := Nat.mul_le_mul_left _ t.bits_le
    _ < 0x100000000 * 64 := Nat.mul_lt_mul_of_pos_right rate.toNat_lt (by decide)
    _ < Size.bound := by decide

include someChunks

theorem settles_reckonChunkFrames :
    (reckonChunkFrames options rate).Settles (chunkFrames options rate) := by
  have word : rate.toNat < Size.bound := Nat.lt_trans rate.toNat_lt (by decide)
  have packed := Calculation.inRange_quotient word
    (show (if isDsd options rate then 8 else 1) ≠ 0 by split <;> decide)
  rw [chunkFrames_eq]
  exact .bind packed (.make (Calculation.inRange_quotient packed.2 someChunks))

theorem settles_reckonGeometry (someBytes : a.sampleType.bytes ≠ 0)
    (fits : a.periodBytes < Size.bound) :
    (a.reckonGeometry options rate).Settles
      (a.geometry options rate, a.blockBytes options rate) := by
  have second := Calculation.inRange_quotient (rate_mul_lt rate a.sampleType) (show 8 ≠ 0 by decide)
  have chunk := Calculation.inRange_quotient second.2 someChunks
  have wanted := Calculation.inRange_stoppedProduct options.bufferPeriods (a.blockBytes options rate)
  refine .bind (rate_mul_lt rate a.sampleType) (.bind second (.bind chunk (.bind fits ?_)))
  refine .bind wanted (.bind (Calculation.inRange_remainder wanted someBytes) ?_)
  exact .bind (Calculation.inRange_difference wanted (Nat.mod_le ..)) (Reckoned.settles_pure _)

end Agreement

end PlanarSink
