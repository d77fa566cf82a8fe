import PlanarSink.Sample.Interleaved

/-! Codecs that were resolved write samples of the width of their target, and taking a
channel out of whole frames converts its samples one by one. -/
namespace PlanarSink

theorem Bytes.length_flatten_of_forall {pieces : List Bytes} {size : Nat}
    (whole : ∀ piece ∈ pieces, piece.length = size) :
    pieces.flatten.length = pieces.length * size := by
  induction pieces with
  | nil => simp
  | cons first others ih =>
    have rest := ih fun piece member => whole piece (List.mem_cons_of_mem _ member)
    rw [List.flatten_cons, List.length_append, whole first List.mem_cons_self, rest,
      List.length_cons, Nat.succ_mul, Nat.add_comm]

/-- Whether a storage takes levels. -/
def Storage.leveled : Storage → Bool
  | .integer .. | .float .. => true
  | .packed _ | .unpacked => false

theorem SampleType.known_whole : ∀ entry ∈ SampleType.known, entry.storage.leveled = true →
    entry.storage.bits = 8 * entry.storage.bytes := by
  decide

theorem SampleType.known_pos : ∀ entry ∈ SampleType.known, 0 < entry.storage.bytes := by
  decide

theorem SampleType.known_small : ∀ entry ∈ SampleType.known, entry.storage.bits ≤ 64 := by
  decide

theorem SampleType.bits_le (t : SampleType) : t.bits ≤ 64 := by
  unfold bits storage?
  cases found : t.entry? with
  | none => exact Nat.zero_le _
  | some entry => exact known_small entry (List.mem_of_find?_eq_some found)

theorem SampleType.bytes_le (t : SampleType) : t.bytes ≤ 8 := by
  have small := t.bits_le
  unfold bytes
  omega

theorem Storage.length_write {storage : Storage} (leveled : storage.leveled = true)
    (whole : storage.bits = 8 * storage.bytes) (level : Binary.Double) :
    (storage.write level).length = storage.bytes := by
  cases storage with
  | integer width bits order =>
    simp only [write, ByteOrder.length_writeInt, bytes, Storage.bits]
    omega
  | float layout order =>
    simp only [write, ByteOrder.length_write]
    simp only [Storage.bits] at whole
    omega
  | packed | unpacked => contradiction

theorem InputFormat.level_integer {source : InputFormat} {width : Nat} {order : ByteOrder}
    (integral : source.integer? = some (width, order)) (bytes : Bytes) :
    source.level bytes =
      (Binary.Double.ofInt (order.readInt bytes)).div (.ofNat (Nat.pow 2 (8 * width - 1))) := by
  cases source with
  | u8 | float | double | raw => contradiction
  | _ =>
    obtain ⟨rfl, rfl⟩ := Prod.mk.inj (Option.some.inj integral)
    rfl

theorem InputFormat.integer_width {source : InputFormat} {width : Nat} {order : ByteOrder}
    (integral : source.integer? = some (width, order)) :
    source.bytes = width ∧ (width = 2 ∨ width = 3 ∨ width = 4) := by
  cases source with
  | u8 | float | double | raw => contradiction
  | _ =>
    obtain ⟨rfl, rfl⟩ := Prod.mk.inj (Option.some.inj integral)
    decide

theorem Silence.fill_eq {dst : Bytes} {t : SampleType} {samples : Nat}
    (reach : dst.length ≤ Size.saturatingMul samples t.bytes) :
    fill dst t samples = bytes t dst.length := by
  simp [fill, Nat.min_eq_right reach, Bytes.overwrite]

namespace Codec

variable {codec : Codec} {source : InputFormat} {target : SampleType}

/-- One-bit input is copied into samples of a byte; a level goes to the storage of the
target. -/
theorem resolve_cases (resolved : resolve source target = .ok codec) :
    codec.source = source ∧ codec.target = target ∧
      ((codec.path = .copy ∧ source = .u8 ∧ target.bytes = 1) ∨
        ∃ storage, codec.path = .level storage ∧ target.storage? = some storage ∧
          storage.leveled = true) := by
  unfold resolve at resolved
  split at resolved
  · next highFirst stored =>
    obtain rfl := Except.ok.inj resolved
    have byte : target.bytes = 1 := by
      simp [SampleType.bytes_of_storage stored, Storage.bytes, Storage.bits]
    exact ⟨rfl, rfl, .inl ⟨rfl, rfl, byte⟩⟩
  · next stored =>
    obtain rfl := Except.ok.inj resolved
    have byte : target.bytes = 1 := by
      simp [SampleType.bytes_of_storage stored, Storage.bytes, Storage.bits]
    exact ⟨rfl, rfl, .inl ⟨rfl, rfl, byte⟩⟩
  · contradiction
  · contradiction
  · next width bits order _ _ stored =>
    obtain rfl := Except.ok.inj resolved
    exact ⟨rfl, rfl, .inr ⟨_, rfl, stored, rfl⟩⟩
  · next layout order _ _ stored =>
    obtain rfl := Except.ok.inj resolved
    exact ⟨rfl, rfl, .inr ⟨_, rfl, stored, rfl⟩⟩
  · contradiction

theorem resolve_leveled {storage : Storage} (leveled : source ≠ .u8 ∧ source ≠ .raw)
    (stored : target.storage? = some storage) (takes : storage.leveled = true) :
    resolve source target = .ok ⟨source, target, .level storage⟩ := by
  cases storage with
  | packed | unpacked => contradiction
  | integer | float => cases source <;> simp_all [resolve]

theorem sample_end {frame frames channel channels : Nat} (width : Nat) (within : channel < channels)
    (last : frame < frames) :
    (frame * channels + channel) * width + width ≤ frames * (channels * width) := by
  have next : frame * channels + channel + 1 ≤ frames * channels := by
    have whole := Nat.mul_le_mul_right channels (Nat.succ_le_of_lt last)
    rw [Nat.succ_mul] at whole
    omega
  have bytes := Nat.mul_le_mul_right width next
  rw [Nat.succ_mul, Nat.mul_assoc frames] at bytes
  exact bytes

theorem drop_lane (src : Bytes) (frame channel channels width : Nat) :
    (src.drop (channel * width)).drop (frame * (channels * width)) =
      src.drop ((frame * channels + channel) * width) := by
  rw [List.drop_drop, Nat.add_mul, Nat.mul_assoc, Nat.add_comm]

/-- A channel is swept along from its first sample, in steps of a frame. -/
theorem deinterleave_within (codec : Codec) {channel channels : Nat} (within : channel < channels)
    (dst src : Bytes) (samples : Nat) :
    codec.deinterleave dst src channel channels samples =
      codec.sweep (channels * codec.sourceBytes) samples dst
        (src.drop (channel * codec.sourceBytes)) := by
  rw [deinterleave, if_neg (by omega)]

theorem deinterleave_beyond {codec : Codec} {channel channels : Nat} (beyond : channels ≤ channel)
    (dst src : Bytes) (samples : Nat) :
    codec.deinterleave dst src channel channels samples = dst :=
  if_pos (.inr beyond)

theorem sourceBytes_pos (codec : Codec) : 0 < codec.sourceBytes :=
  codec.source.bytes_pos

theorem sweep_cases (codec : Codec) (stride samples : Nat) (dst lane : Bytes) :
    codec.sweep stride (samples + 1) dst lane = dst ∨
      codec.targetBytes ≤ dst.length ∧ codec.sourceBytes ≤ stride ∧
        codec.sourceBytes ≤ lane.length := by
  unfold sweep
  dsimp only
  split
  · exact .inl rfl
  next more =>
  split
  · exact .inl rfl
  next converted =>
  unfold convert at converted
  split at converted
  · contradiction
  next whole =>
  rw [not_or, List.length_take] at more
  rw [List.length_take] at whole
  exact .inr (by omega)

section Resolved

variable (resolved : resolve source target = .ok codec)
include resolved

theorem targetBytes_pos : 0 < codec.targetBytes := by
  obtain ⟨_, rfl, ⟨_, _, byte⟩ | ⟨storage, _, stored, _⟩⟩ := resolve_cases resolved
  · simp [targetBytes, byte]
  · obtain ⟨entry, known, rfl⟩ := Option.map_eq_some_iff.mp stored
    rw [targetBytes, SampleType.bytes_of_storage stored]
    exact SampleType.known_pos entry (List.mem_of_find?_eq_some known)

theorem bytes_pos_of_resolve : 0 < target.bytes := by
  have some := targetBytes_pos resolved
  rwa [targetBytes, (resolve_cases resolved).2.1] at some

theorem sample_take (src : Bytes) : codec.sample (src.take codec.sourceBytes) = codec.sample src := by
  obtain ⟨rfl, rfl, ⟨copied, u8, byte⟩ | ⟨storage, level, _⟩⟩ := resolve_cases resolved
  · have narrow : codec.targetBytes = codec.sourceBytes := by
      rw [targetBytes, byte, sourceBytes, u8]
      rfl
    simp only [sample, copied, narrow, List.take_take, Nat.min_self]
  · simp only [sample, level, List.take_take, Nat.min_self]

theorem length_sample {src : Bytes} (whole : codec.sourceBytes ≤ src.length) :
    (codec.sample src).length = codec.targetBytes := by
  obtain ⟨rfl, rfl, ⟨copied, u8, byte⟩ | ⟨storage, level, stored, leveled⟩⟩ := resolve_cases resolved
  · have some : 0 < src.length := Nat.lt_of_lt_of_le codec.sourceBytes_pos whole
    simp only [sample, copied, targetBytes, byte, List.length_take]
    omega
  · obtain ⟨entry, known, rfl⟩ := Option.map_eq_some_iff.mp stored
    have width := SampleType.known_whole entry (List.mem_of_find?_eq_some known) leveled
    rw [sample, level, targetBytes, SampleType.bytes_of_storage stored]
    exact Storage.length_write leveled width _

theorem convert_whole {dst src : Bytes} (room : dst.length = codec.targetBytes)
    (whole : codec.sourceBytes ≤ src.length) : codec.convert dst src = .ok (codec.sample src) := by
  have length := length_sample resolved whole
  rw [convert, if_neg (Nat.not_lt.mpr whole), if_neg (Nat.not_lt.mpr (Nat.le_of_eq room.symm)),
    Bytes.overwrite, length, ← room, List.drop_length, List.append_nil]

/-- Converting a whole sample into as many bytes as it needs writes all of them. -/
theorem convert_sample {src : Bytes} (whole : codec.sourceBytes ≤ src.length) :
    codec.convert (List.replicate codec.targetBytes 0) (src.take codec.sourceBytes) =
      .ok (codec.sample src) := by
  rw [convert_whole resolved List.length_replicate, sample_take resolved]
  rw [List.length_take]
  omega

/-- While there is room and a whole sample in a frame, the sample takes its place in front of
what the other frames come to. -/
theorem sweep_succ {stride : Nat} (samples : Nat) {dst lane : Bytes}
    (room : codec.targetBytes ≤ dst.length) (wide : codec.sourceBytes ≤ stride)
    (whole : codec.sourceBytes ≤ lane.length) :
    codec.sweep stride (samples + 1) dst lane =
      codec.sample lane ++
        codec.sweep stride samples (dst.drop codec.targetBytes) (lane.drop stride) := by
  have some := codec.sourceBytes_pos
  have slot : (dst.take codec.targetBytes).length = codec.targetBytes := by
    rw [List.length_take]
    omega
  have frame : codec.sourceBytes ≤ (lane.take stride).length := by
    rw [List.length_take]
    omega
  have more : ¬((dst.take codec.targetBytes).length < codec.targetBytes ∨ lane = []) := by
    rintro (short | rfl)
    · omega
    · exact absurd whole (Nat.not_le.mpr some)
  have same : codec.sample (lane.take stride) = codec.sample lane := by
    rw [← sample_take resolved (lane.take stride), List.take_take, Nat.min_eq_left wide,
      sample_take resolved]
  rw [sweep, if_neg more, convert_whole resolved slot frame, same]

theorem rendered_eq {src : Bytes} {channels plane : Nat} (within : plane < channels)
    (offset count : Nat) (whole : (offset + count) * (channels * codec.sourceBytes) ≤ src.length) :
    codec.rendered src channels offset count plane =
      ((List.range' offset count).map fun frame =>
        codec.sample (src.drop ((frame * channels + plane) * codec.sourceBytes))).map .ok := by
  rw [rendered, if_pos within, List.map_map]
  apply List.map_congr_left
  intro frame member
  have last : frame < offset + count := (List.mem_range'_1.mp member).2
  apply convert_sample resolved
  rw [List.length_drop]
  have before := sample_end codec.sourceBytes within last
  omega

theorem length_sweep (stride samples : Nat) (dst lane : Bytes) :
    (codec.sweep stride samples dst lane).length = dst.length := by
  induction samples generalizing dst lane with
  | zero => rfl
  | succ samples ih =>
    rcases codec.sweep_cases stride samples dst lane with stopped | ⟨room, wide, whole⟩
    · rw [stopped]
    · rw [sweep_succ resolved samples room wide whole, List.length_append, ih,
        length_sample resolved whole, List.length_drop]
      omega

/-- With a whole sample in every frame all of the buffer is made of samples. -/
theorem sweep_eq {stride samples : Nat} {dst lane : Bytes}
    (room : dst.length = samples * codec.targetBytes) (wide : codec.sourceBytes ≤ stride)
    (held : ∀ frame < samples, frame * stride + codec.sourceBytes ≤ lane.length) :
    codec.sweep stride samples dst lane =
      ((List.range samples).map fun frame => codec.sample (lane.drop (frame * stride))).flatten := by
  induction samples generalizing dst lane with
  | zero =>
    rw [Nat.zero_mul] at room
    exact List.length_eq_zero_iff.mp room
  | succ samples ih =>
    have first := held 0 (Nat.succ_pos samples)
    rw [Nat.succ_mul] at room
    rw [sweep_succ resolved samples (by omega) wide (by omega), ih, List.range_succ_eq_map,
      List.map_cons, List.map_map, List.flatten_cons, Nat.zero_mul, List.drop_zero]
    · congr 3
      funext frame
      simp only [Function.comp_apply, List.drop_drop, Nat.succ_mul, Nat.add_comm]
    · rw [List.length_drop]
      omega
    · intro frame last
      have next := held (frame + 1) (Nat.succ_lt_succ last)
      rw [Nat.succ_mul] at next
      rw [List.length_drop]
      omega

/-- A whole channel of frames that are there in whole is made of its samples, whatever
was in the buffer. -/
theorem deinterleave_eq {dst src : Bytes} {channel channels samples : Nat}
    (within : channel < channels) (room : dst.length = samples * codec.targetBytes)
    (whole : samples * (channels * codec.sourceBytes) ≤ src.length) :
    codec.deinterleave dst src channel channels samples =
      ((List.range samples).map fun frame =>
        codec.sample (src.drop ((frame * channels + channel) * codec.sourceBytes))).flatten := by
  have held : ∀ frame < samples, frame * (channels * codec.sourceBytes) + codec.sourceBytes ≤
      (src.drop (channel * codec.sourceBytes)).length := by
    intro frame last
    have before := sample_end codec.sourceBytes within last
    rw [List.length_drop, ← Nat.mul_assoc]
    rw [Nat.add_mul] at before
    omega
  have wide : codec.sourceBytes ≤ channels * codec.sourceBytes :=
    Nat.le_mul_of_pos_left _ (by omega)
  rw [codec.deinterleave_within within, sweep_eq resolved room wide held]
  simp only [drop_lane]

/-- A channel takes the place of as many bytes as it has, however few of its samples are
there. -/
theorem length_deinterleave (dst src : Bytes) (channel channels samples : Nat) :
    (codec.deinterleave dst src channel channels samples).length = dst.length := by
  unfold deinterleave
  split
  · rfl
  · exact length_sweep resolved ..

end Resolved

end Codec

end PlanarSink
