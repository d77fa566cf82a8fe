import PlanarSink.Proofs.Samples

/-! Which samples of a channel are taken out of interleaved frames. They are those that are
asked for, have room, and are there in whole, each converted as it would be on its own; no
other byte is written, and no byte outside the channel counts. -/
namespace PlanarSink.Codec

variable {codec : Codec} {source : InputFormat} {target : SampleType}

/-- A sweep over a buffer and a lane of some lengths comes to this sample. -/
structure Sweeps (codec : Codec) (stride samples room length frame : Nat) : Prop where
  wanted : frame < samples
  room : (frame + 1) * codec.targetBytes ≤ room
  wide : codec.sourceBytes ≤ stride
  whole : frame * stride + codec.sourceBytes ≤ length

theorem sweeps_succ_iff {stride samples room length frame : Nat} (wide : codec.sourceBytes ≤ stride)
    (first : codec.targetBytes ≤ room) :
    codec.Sweeps stride (samples + 1) room length (frame + 1) ↔
      codec.Sweeps stride samples (room - codec.targetBytes) (length - stride) frame := by
  have some := codec.sourceBytes_pos
  constructor
  · rintro ⟨wanted, room, _, whole⟩
    rw [Nat.succ_mul] at room whole
    exact ⟨by omega, by omega, wide, by omega⟩
  · rintro ⟨wanted, room, _, whole⟩
    refine ⟨by omega, ?_, wide, ?_⟩
    · rw [Nat.succ_mul]
      omega
    · rw [Nat.succ_mul]
      omega

section Resolved

variable (resolved : resolve source target = .ok codec)
include resolved

/-- A sample that a sweep comes to is converted into its own place. -/
theorem sample_of_sweeps {stride samples frame : Nat} {dst lane : Bytes}
    (sweeps : codec.Sweeps stride samples dst.length lane.length frame) :
    ((codec.sweep stride samples dst lane).drop (frame * codec.targetBytes)).take codec.targetBytes =
      codec.sample (lane.drop (frame * stride)) := by
  induction frame generalizing samples dst lane with
  | zero =>
    obtain ⟨wanted, room, wide, whole⟩ := sweeps
    obtain ⟨samples, rfl⟩ := Nat.exists_eq_succ_of_ne_zero (Nat.ne_of_gt wanted)
    have first : codec.sourceBytes ≤ lane.length := by omega
    rw [sweep_succ resolved samples (by omega) wide first, Nat.zero_mul, Nat.zero_mul,
      List.drop_zero, List.drop_zero]
    exact List.take_left' (length_sample resolved first)
  | succ frame ih =>
    obtain ⟨wanted, room, wide, whole⟩ := sweeps
    obtain ⟨samples, rfl⟩ := Nat.exists_eq_succ_of_ne_zero (Nat.ne_of_gt (Nat.zero_lt_of_lt wanted))
    have here : codec.targetBytes ≤ dst.length :=
      Nat.le_trans (Nat.le_mul_of_pos_left _ (Nat.succ_pos _)) room
    have rest := (sweeps_succ_iff wide here).mp ⟨wanted, room, wide, whole⟩
    have first : codec.sourceBytes ≤ lane.length := Nat.le_trans (Nat.le_add_left _ _) whole
    rw [← List.length_drop, ← List.length_drop] at rest
    rw [sweep_succ resolved samples here wide first, Nat.succ_mul, Nat.add_comm, ← List.drop_drop,
      List.drop_left' (length_sample resolved first), ih rest, List.drop_drop, Nat.succ_mul,
      Nat.add_comm]

theorem getElem?_sweep {stride samples : Nat} {dst lane : Bytes} {place : Nat}
    (outside : ∀ frame, codec.Sweeps stride samples dst.length lane.length frame →
      place < frame * codec.targetBytes ∨ (frame + 1) * codec.targetBytes ≤ place) :
    (codec.sweep stride samples dst lane)[place]? = dst[place]? := by
  induction samples generalizing dst lane place with
  | zero => rfl
  | succ samples ih =>
    rcases codec.sweep_cases stride samples dst lane with stopped | ⟨room, wide, whole⟩
    · rw [stopped]
    have behind : codec.targetBytes ≤ place := by
      have first := outside 0 ⟨Nat.succ_pos _, by omega, wide, by omega⟩
      omega
    have length := length_sample resolved whole
    rw [sweep_succ resolved samples room wide whole,
      List.getElem?_append_right (by omega), length, ih, List.getElem?_drop]
    · congr 1
      omega
    · intro frame sweeps
      rw [List.length_drop, List.length_drop] at sweeps
      have there := outside (frame + 1) ((sweeps_succ_iff wide room).mpr sweeps)
      rw [Nat.succ_mul, Nat.succ_mul] at there
      omega

theorem sweep_congr {stride samples : Nat} {dst lane other : Bytes}
    (length : other.length = lane.length)
    (same : ∀ frame, codec.Sweeps stride samples dst.length lane.length frame →
      (other.drop (frame * stride)).take codec.sourceBytes =
        (lane.drop (frame * stride)).take codec.sourceBytes) :
    codec.sweep stride samples dst other = codec.sweep stride samples dst lane := by
  induction samples generalizing dst lane other with
  | zero => rfl
  | succ samples ih =>
    by_cases goes : codec.targetBytes ≤ dst.length ∧ codec.sourceBytes ≤ stride ∧
        codec.sourceBytes ≤ lane.length
    · obtain ⟨room, wide, whole⟩ := goes
      have first := same 0 ⟨Nat.succ_pos _, by omega, wide, by omega⟩
      rw [Nat.zero_mul, List.drop_zero, List.drop_zero] at first
      have sample : codec.sample other = codec.sample lane := by
        rw [← sample_take resolved, first, sample_take resolved]
      rw [sweep_succ resolved samples room wide whole,
        sweep_succ resolved samples room wide (length ▸ whole), sample, ih]
      · rw [List.length_drop, List.length_drop, length]
      · intro frame sweeps
        rw [List.length_drop, List.length_drop] at sweeps
        have next := same (frame + 1) ((sweeps_succ_iff wide room).mpr sweeps)
        simpa only [List.drop_drop, Nat.succ_mul, Nat.add_comm] using next
    · have still := (codec.sweep_cases stride samples dst lane).resolve_right goes
      rw [← length] at goes
      rw [still, (codec.sweep_cases stride samples dst other).resolve_right goes]

end Resolved

/-- A sample of a channel is asked for, has room in a buffer, and is there in whole among
interleaved frames. -/
structure Reaches (source : InputFormat) (target : SampleType)
    (room length channel channels samples frame : Nat) : Prop where
  wanted : frame < samples
  room : (frame + 1) * target.bytes ≤ room
  within : channel < channels
  held : (frame * channels + channel + 1) * source.bytes ≤ length

/-- A channel was taken out of interleaved frames: its samples stand where they belong, each
as it is converted on its own into whatever was there, and all else is as it was. The sizes
that the frames are stepped over with are words and not zero, and no byte of another channel makes
a difference. -/
structure Extracted (source : InputFormat) (target : SampleType) (dst src : Bytes)
    (channel channels samples : Nat) (out : Bytes) : Prop where
  length : out.length = dst.length
  converted : ∀ frame, Reaches source target dst.length src.length channel channels samples frame →
    ∀ slot : Bytes, slot.length = target.bytes →
      convertSample slot target (src.drop ((frame * channels + channel) * source.bytes)) source =
        (.ok (), (out.drop (frame * target.bytes)).take target.bytes)
  others : ∀ place,
    (∀ frame, Reaches source target dst.length src.length channel channels samples frame →
      place < frame * target.bytes ∨ (frame + 1) * target.bytes ≤ place) →
    out[place]? = dst[place]?
  steps : channel < channels → 0 < target.bytes ∧ 0 < channels * source.bytes ∧
    channels * source.bytes < Size.bound ∧ channel * source.bytes < Size.bound
  alone : ∀ other : Bytes, other.length = src.length →
    (∀ frame, Reaches source target dst.length src.length channel channels samples frame →
      (other.drop ((frame * channels + channel) * source.bytes)).take source.bytes =
        (src.drop ((frame * channels + channel) * source.bytes)).take source.bytes) →
    convertBlock dst target other channel channels source samples = (.ok (), out)

theorem convertBlock_eq (resolved : resolve source target = .ok codec) (dst src : Bytes)
    (channel channels samples : Nat) :
    convertBlock dst target src channel channels source samples =
      (.ok (), codec.deinterleave dst src channel channels samples) := by
  rw [convertBlock, resolved]

/-- The samples of a channel that can be reached are those that a sweep along it comes to. -/
theorem reaches_iff {room length channel channels samples frame : Nat} (within : channel < channels)
    (resolved : resolve source target = .ok codec) :
    Reaches source target room length channel channels samples frame ↔
      codec.Sweeps (channels * source.bytes) samples room (length - channel * source.bytes) frame := by
  obtain ⟨rfl, rfl, _⟩ := resolve_cases resolved
  have some := codec.sourceBytes_pos
  have wide : codec.source.bytes ≤ channels * codec.source.bytes :=
    Nat.le_mul_of_pos_left _ (Nat.zero_lt_of_lt within)
  have ends : (frame * channels + channel + 1) * codec.source.bytes =
      frame * (channels * codec.source.bytes) + channel * codec.source.bytes +
        codec.source.bytes := by
    rw [Nat.succ_mul, Nat.add_mul, Nat.mul_assoc]
  constructor
  · rintro ⟨wanted, room, _, held⟩
    refine ⟨wanted, room, wide, ?_⟩
    rw [ends] at held
    rw [sourceBytes]
    omega
  · rintro ⟨wanted, room, _, whole⟩
    refine ⟨wanted, room, within, ?_⟩
    rw [sourceBytes] at some whole
    rw [ends]
    omega

theorem extracted_beyond (resolved : resolve source target = .ok codec) (dst src : Bytes)
    {channel channels : Nat} (beyond : channels ≤ channel) (samples : Nat) :
    Extracted source target dst src channel channels samples
      (codec.deinterleave dst src channel channels samples) where
  length := length_deinterleave resolved ..
  converted frame reaches := absurd reaches.within (Nat.not_lt.mpr beyond)
  others place _ := by rw [deinterleave_beyond beyond]
  steps within := absurd within (Nat.not_lt.mpr beyond)
  alone other _ _ := by
    rw [convertBlock_eq resolved, deinterleave_beyond beyond, deinterleave_beyond beyond]

theorem extracted_within (resolved : resolve source target = .ok codec) (dst src : Bytes)
    {channel channels : Nat} (within : channel < channels)
    (fits : channels * source.bytes < Size.bound) (samples : Nat) :
    Extracted source target dst src channel channels samples
      (codec.deinterleave dst src channel channels samples) := by
  have reached : ∀ frame, Reaches source target dst.length src.length channel channels samples
      frame ↔ codec.Sweeps (channels * source.bytes) samples dst.length
        (src.drop (channel * source.bytes)).length frame := by
    intro frame
    rw [List.length_drop]
    exact reaches_iff within resolved
  have some := codec.targetBytes_pos resolved
  obtain ⟨rfl, rfl, _⟩ := resolve_cases resolved
  have swept := codec.deinterleave_within within dst
  have start : channel * codec.source.bytes ≤ channels * codec.source.bytes :=
    Nat.mul_le_mul_right _ (Nat.le_of_lt within)
  refine ⟨length_deinterleave resolved .., fun frame reaches slot size => ?converted,
    fun place outside => ?others, fun _ => ⟨some, ?some, fits,
      Nat.lt_of_le_of_lt start fits⟩,
    fun other length same => ?alone⟩
  case converted =>
    have sample := sample_of_sweeps resolved ((reached frame).mp reaches)
    have whole := reaches.held
    rw [Nat.succ_mul] at whole
    rw [drop_lane] at sample
    rw [swept, convertSample, resolved]
    dsimp only
    rw [convert_whole resolved size]
    · exact congrArg _ sample.symm
    · rw [sourceBytes, List.length_drop]
      omega
  case others =>
    rw [swept]
    exact getElem?_sweep resolved fun frame sweeps => outside frame ((reached frame).mpr sweeps)
  case some => exact Nat.mul_pos (Nat.zero_lt_of_lt within) codec.sourceBytes_pos
  case alone =>
    rw [convertBlock_eq resolved, swept, swept, sweep_congr resolved]
    · rw [List.length_drop, List.length_drop, length]
    · intro frame sweeps
      rw [drop_lane, drop_lane]
      exact same frame ((reached frame).mpr sweeps)

/-- Taking a channel out of frames whose size is a word converts its samples one by one,
whatever the lengths of the buffer and of the frames. -/
theorem channel_extracted (resolved : resolve source target = .ok codec) (dst src : Bytes)
    (channel : Nat) {channels : Nat} (fits : channels * source.bytes < Size.bound) (samples : Nat) :
    ∃ out, convertBlock dst target src channel channels source samples = (.ok (), out) ∧
      Extracted source target dst src channel channels samples out := by
  refine ⟨_, convertBlock_eq resolved dst src channel channels samples, ?_⟩
  rcases Nat.lt_or_ge channel channels with within | beyond
  · exact extracted_within resolved dst src within fits samples
  · exact extracted_beyond resolved dst src beyond samples

/-- The second of two channels, in frames of which the last is cut short within its sample. -/
theorem channel_extracted_cut :
    resolve .s16le (.ofInt 0) = .ok ⟨.s16le, .ofInt 0, .level (.integer 2 16 .big)⟩ ∧
      2 * InputFormat.s16le.bytes < Size.bound ∧
      ∃ out, convertBlock [9, 9, 9, 9, 9] (.ofInt 0) [1, 2, 3, 4, 5, 6, 7] 1 2 .s16le 3 =
          (.ok (), out) ∧
        Extracted .s16le (.ofInt 0) [9, 9, 9, 9, 9] [1, 2, 3, 4, 5, 6, 7] 1 2 3 out :=
  ⟨rfl, by decide, channel_extracted rfl _ _ 1 (by decide) 3⟩

/-- Of three samples one is there in whole; the other bytes stay. -/
example : convertBlock [9, 9, 9] (.ofInt 33) [1, 2, 3] 1 2 .u8 3 = (.ok (), [2, 9, 9]) := rfl

end PlanarSink.Codec
