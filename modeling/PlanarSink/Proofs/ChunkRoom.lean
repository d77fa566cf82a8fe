import PlanarSink.Proofs.Progress
import PlanarSink.Proofs.ReportedFormat

/-! Whether a sink that was just connected takes the chunks it asks for. The frames of a chunk
and the bytes of its ring come from the same rate by divisions of their own: one goes by the
mode of the driver, the other by the bits of a sample. They part where a driver packs one-bit
samples while it is not in one-bit mode. -/
namespace PlanarSink

/-- The frames of a chunk, however they are packed, take no more bytes than a chunk has. -/
theorem chunk_mul_le (rate packing chunks size : Nat) :
    rate / packing / chunks * size ≤ rate * size / chunks := by
  have fewer : rate / packing / chunks ≤ rate / chunks :=
    Nat.div_le_div_right (Nat.div_le_self rate packing)
  calc rate / packing / chunks * size
      ≤ rate / chunks * size := Nat.mul_le_mul_right size fewer
    _ = size * (rate / chunks) := Nat.mul_comm _ _
    _ ≤ size * rate / chunks := Nat.mul_div_le_mul_div_assoc size rate chunks
    _ = rate * size / chunks := by rw [Nat.mul_comm]

/-- A chunk that is no more than its eighth part is empty. -/
theorem chunk_eq_zero {rate chunks : Nat} (less : rate / chunks ≤ rate / 8 / chunks) :
    rate / chunks = 0 := by
  rw [Nat.div_div_eq_div_mul rate 8, Nat.mul_comm, ← Nat.div_div_eq_div_mul] at less
  generalize rate / chunks = frames at less ⊢
  omega

theorem SampleType.known_cases : ∀ entry ∈ SampleType.known,
    entry.storage.bits = 8 * ((entry.storage.bits + 7) / 8) ∨ entry.storage.bits = 1 := by
  decide

/-- Samples are whole bytes, or single bits. -/
theorem SampleType.bits_cases (t : SampleType) : t.bits = 8 * t.bytes ∨ t.bits = 1 := by
  unfold bytes bits storage?
  cases found : t.entry? with
  | none => exact .inl rfl
  | some entry => exact known_cases entry (List.mem_of_find?_eq_some found)

namespace Agreement

variable {agreement : Agreement} {options : SinkOptions} {rate : UInt32}

theorem chunkFrames_eq (options : SinkOptions) (rate : UInt32) :
    chunkFrames options rate =
      rate.toNat / (if isDsd options rate then 8 else 1) / options.chunksPerSecond.toNat := by
  unfold chunkFrames
  split <;> simp

/-- The capacity of a ring that there can be is the one that is wanted: the product was not
stopped at the largest word. -/
theorem capacity_eq (someBytes : 0 < agreement.sampleType.bytes)
    (ring : (agreement.geometry options rate).capacity ≤ Size.longest) :
    let wanted := options.bufferPeriods * agreement.blockBytes options rate
    (agreement.geometry options rate).capacity = wanted - wanted % agreement.sampleType.bytes := by
  intro wanted
  have capacity : (agreement.geometry options rate).capacity =
      min wanted Size.largest - min wanted Size.largest % agreement.sampleType.bytes := rfl
  have fits : wanted ≤ Size.largest := by
    have small := agreement.sampleType.bytes_le
    have rest := Nat.mod_lt (min wanted Size.largest) someBytes
    have largest : Size.largest = 0xffffffffffffffff := rfl
    have longest : Size.longest = 0x7fffffffffffffff := rfl
    omega
  rw [capacity, Nat.min_eq_left fits]

theorem bytes_eq_one (single : agreement.sampleType.bits = 1) : agreement.sampleType.bytes = 1 := by
  rw [SampleType.bytes, single]

/-- Outside of one exception, a chunk of frames is no more than a chunk of bytes. -/
theorem chunkFrames_mul_le
    (regular : agreement.sampleType.bits = 1 → isDsd options rate = true) :
    chunkFrames options rate * agreement.sampleType.bytes ≤ agreement.chunkBytes options rate := by
  rw [chunkFrames_eq, chunkBytes]
  rcases agreement.sampleType.bits_cases with whole | single
  · have seconds : rate.toNat * agreement.sampleType.bits / 8 =
        rate.toNat * agreement.sampleType.bytes := by
      rw [whole, Nat.mul_left_comm, Nat.mul_div_cancel_left _ (by decide)]
    rw [seconds]
    exact chunk_mul_le ..
  · apply Nat.le_of_eq
    rw [if_pos (regular single), bytes_eq_one single, single, Nat.mul_one, Nat.mul_one]

/-- In the exception a chunk of bytes holds no more than an eighth of a chunk of frames. -/
theorem chunkFrames_eq_zero (single : agreement.sampleType.bits = 1)
    (notDsd : ¬isDsd options rate = true)
    (less : chunkFrames options rate ≤ agreement.chunkBytes options rate) :
    chunkFrames options rate = 0 := by
  rw [chunkFrames_eq, if_neg notDsd, Nat.div_one] at less ⊢
  rw [chunkBytes, single, Nat.mul_one] at less
  exact chunk_eq_zero less

/-- A ring holds the chunks that are asked for unless one-bit samples are packed in it while
the driver is not in one-bit mode, and a period is shorter than a chunk. -/
theorem chunks_le_capacity_iff (someBytes : 0 < agreement.sampleType.bytes)
    (periods : 2 ≤ options.bufferPeriods)
    (ring : (agreement.geometry options rate).capacity ≤ Size.longest) :
    options.bufferPeriods * (chunkFrames options rate * agreement.sampleType.bytes) ≤
        max (agreement.geometry options rate).capacity 1 ↔
      (agreement.sampleType.bits = 1 →
        isDsd options rate = true ∨ chunkFrames options rate ≤ agreement.periodBytes) := by
  rw [capacity_eq someBytes ring, blockBytes]
  constructor
  · intro held single
    by_cases dsd : isDsd options rate = true
    · exact .inl dsd
    right
    rw [bytes_eq_one single, Nat.mod_one, Nat.mul_one, Nat.sub_zero] at held
    rcases Nat.eq_zero_or_pos (chunkFrames options rate) with none | some
    · omega
    have more : 2 * 1 ≤ options.bufferPeriods * chunkFrames options rate :=
      Nat.mul_le_mul periods some
    have within : chunkFrames options rate ≤
        max (agreement.chunkBytes options rate) agreement.periodBytes := by
      have held : options.bufferPeriods * chunkFrames options rate ≤ options.bufferPeriods *
          max (agreement.chunkBytes options rate) agreement.periodBytes := by omega
      exact Nat.le_of_mul_le_mul_left held (by omega)
    rcases Nat.le_total (agreement.chunkBytes options rate) agreement.periodBytes with less | less
    · rwa [Nat.max_eq_right less] at within
    · rw [Nat.max_eq_left less] at within
      have none := chunkFrames_eq_zero single dsd within
      omega
  · intro regular
    have within : chunkFrames options rate * agreement.sampleType.bytes ≤
        max (agreement.chunkBytes options rate) agreement.periodBytes := by
      by_cases dsd : agreement.sampleType.bits = 1 → isDsd options rate = true
      · exact Nat.le_trans (chunkFrames_mul_le dsd) (Nat.le_max_left ..)
      · obtain ⟨single, notDsd⟩ := Classical.not_imp.mp dsd
        rw [bytes_eq_one single, Nat.mul_one]
        exact Nat.le_trans ((regular single).resolve_left notDsd) (Nat.le_max_right ..)
    refine Nat.le_trans ?_ (Nat.le_max_left ..)
    apply le_sub_mod_of_dvd
    · exact Nat.dvd_mul_left_of_dvd (Nat.dvd_mul_left ..) _
    · exact Nat.mul_le_mul_left _ within

end Agreement

namespace Session.Founded

variable {options : SinkOptions} {format : StreamFormat} {session : Session}
  (founded : Founded options format session)
include founded

theorem sampleSize_pos : 0 < session.sampleSize := by
  obtain ⟨_, agreement, resolved, _, _, rfl⟩ := founded
  exact Codec.bytes_pos_of_resolve resolved

theorem writeSize : session.ring.writeSize = session.ring.capacity := by
  obtain ⟨_, _, _, somePlanes, _, rfl⟩ := founded
  exact (PlaneRing.even_empty somePlanes).writeSize

theorem frameBytes_eq : session.frameBytes = format.frameBytes := by
  obtain ⟨_, agreement, resolved, _, _, rfl⟩ := founded
  have source : agreement.codec.sourceBytes = format.dataFormat.bytes :=
    congrArg InputFormat.bytes (Codec.resolve_cases resolved).1
  exact congrArg (format.channels * ·) source

/-- Of whole frames that are there, as many are taken as the ring holds samples. -/
theorem taken_eq (someChannels : 0 < format.channels) (src : Slice) {frames : Nat}
    (whole : frames * format.frameBytes ≤ src.bytes.length) :
    (session.addPackets src.bytes frames 0).1 =
      min frames (session.ring.capacity / session.sampleSize) := by
  rw [session.taken_eq src.inMemory, takeable, founded.writeSize, Nat.zero_mul, Nat.sub_zero]
  rcases Nat.eq_zero_or_pos frames with rfl | wanted
  · simp
  have some : 0 < format.frameBytes := Nat.mul_pos someChannels format.dataFormat.bytes_pos
  have there : frames ≤ src.bytes.length / format.frameBytes :=
    (Nat.le_div_iff_mul_le some).mpr whole
  rw [founded.frameBytes_eq, if_neg (by omega)]
  omega

/-- The ring holds whole samples, of as many times a chunk or a period as is asked for. -/
theorem capacity :
    let wanted := options.bufferPeriods *
      max (session.geometry.bytesPerSecond / options.chunksPerSecond.toNat)
        session.dispatcher.periodBytes
    session.ring.capacity = max (wanted - wanted % session.sampleSize) 1 := by
  have someBytes := founded.sampleSize_pos
  obtain ⟨_, _, _, _, inMemory, rfl⟩ := founded
  exact congrArg (max · 1) (Agreement.capacity_eq someBytes inMemory.ring)

/-- The ring holds the chunks that are asked for, but for one exception. -/
theorem chunks_held_iff (periods : 2 ≤ options.bufferPeriods) :
    options.bufferPeriods * Agreement.chunkFrames options format.sampleRate * session.sampleSize ≤
        session.ring.capacity ↔
      (session.geometry.sampleType.bits = 1 →
        Agreement.isDsd options format.sampleRate = true ∨
          Agreement.chunkFrames options format.sampleRate ≤ session.dispatcher.periodBytes) := by
  have someBytes := founded.sampleSize_pos
  obtain ⟨_, _, _, _, inMemory, rfl⟩ := founded
  rw [Nat.mul_assoc]
  exact Agreement.chunks_le_capacity_iff someBytes periods inMemory.ring

end Session.Founded

namespace Sink

variable {σ : Type} [Backend σ]

/-- The frames of as many chunks as a sink asks its ring to hold. -/
def wantedFrames (sink : Sink) (format : StreamFormat) : Nat :=
  max sink.options.bufferPeriods 2 * format.frames

/-- The bytes that a sink asks each plane of its ring to hold. -/
def wantedBytes (sink : Sink) (session : Session) : Nat :=
  max sink.options.bufferPeriods 2 *
    max (session.geometry.bytesPerSecond / (max sink.options.chunksPerSecond 1).toNat)
      session.dispatcher.periodBytes

/-- Right after it was connected, a sink takes the chunks that its ring was asked to hold,
unless its driver packs one-bit samples while it is not in one-bit mode, and has periods that
are shorter than a chunk. In any case it takes as many frames as its ring holds samples. -/
theorem chunks_taken {sink : Sink} {format : StreamFormat} {device : String} {surroundings : σ}
    (connected : (sink.connect format device surroundings).1.outcome = .ok ())
    (someChannels : 0 < format.channels) (src : Slice) (others : List Bytes)
    (whole : sink.wantedFrames (sink.connect format device surroundings).1.format *
      format.frameBytes ≤ src.bytes.length) :
    let result := (sink.connect format device surroundings).1
    let wanted := sink.wantedFrames result.format
    let taken := (result.sink.addPackets (src.bytes :: others) wanted 0).1
    ∃ session, result.sink.session = some session ∧
      session.ring.capacity =
        max (sink.wantedBytes session - sink.wantedBytes session % session.sampleSize) 1 ∧
      taken = min wanted (session.ring.capacity / session.sampleSize) ∧
      (taken = wanted ↔
        (session.geometry.sampleType.bits = 1 →
          Agreement.isDsd sink.options format.sampleRate = true ∨
            result.format.frames ≤ session.dispatcher.periodBytes)) := by
  intro result wanted taken
  rcases sink.connect_ends format device surroundings with
    ⟨session, _, founded, same, settled⟩ | ⟨failure, failed, _⟩
  · have count : taken = min wanted (session.ring.capacity / session.sampleSize) := by
      have held := founded.taken_eq someChannels src whole
      simp only [taken, result, addPackets, same, List.head?_cons]
      exact held
    have room : taken = wanted ↔ wanted * session.sampleSize ≤ session.ring.capacity := by
      rw [count, ← Nat.le_div_iff_mul_le founded.sampleSize_pos]
      exact ⟨fun all => by omega, Nat.min_eq_left⟩
    have frames : result.format.frames =
        Agreement.chunkFrames sink.options.normalized format.sampleRate :=
      congrArg StreamFormat.frames settled
    have chunks : wanted = sink.options.normalized.bufferPeriods *
        Agreement.chunkFrames sink.options.normalized format.sampleRate :=
      congrArg (_ * ·) frames
    refine ⟨session, congrArg Sink.session same, founded.capacity, count, ?_⟩
    rw [room, frames, chunks]
    exact founded.chunks_held_iff (Nat.le_max_right sink.options.bufferPeriods 2)
  · have impossible := failed.symm.trans connected
    contradiction

end Sink

namespace Studio

theorem chunks_taken_prompted :
    let result := ((Sink.ofOptions .standard).connect (.ofInput 48000 1 .s16le) "sim"
      (⟨0, 0, prompted⟩ : Seat)).1
    result.outcome = .ok () ∧ 0 < 1 ∧ (Sink.ofOptions .standard).wantedFrames result.format = 1920 ∧
      1920 * 2 ≤ (List.replicate 3840 (0 : UInt8)).length ∧
      (result.sink.addPackets [List.replicate 3840 0] 1920 0).1 = 1920 := by
  intro result
  have length : (List.replicate 3840 (0 : UInt8)).length = 3840 := List.length_replicate
  have inMemory : (List.replicate 3840 (0 : UInt8)).length < 0x8000000000000000 := by
    rw [length]
    decide
  have wanted : (Sink.ofOptions .standard).wantedFrames result.format = 1920 := rfl
  have whole : 1920 * 2 ≤ (List.replicate 3840 (0 : UInt8)).length := Nat.le_of_eq length.symm
  obtain ⟨session, found, _, _, all⟩ := @Sink.chunks_taken Seat _ (.ofOptions .standard)
    (.ofInput 48000 1 .s16le) "sim" ⟨0, 0, prompted⟩ rfl (by decide)
    ⟨List.replicate 3840 0, inMemory⟩ [] (by rw [wanted]; exact whole)
  rw [wanted] at all
  refine ⟨rfl, by decide, wanted, whole, all.mpr ?_⟩
  obtain rfl := Option.some.inj found
  decide

/-- A driver that packs one-bit samples, and is not in one-bit mode. -/
def packing : Studio :=
  unused [[{ Profile.standard with sampleType := .ofInt 32, clock := false }]] [(0, .standard)]

/-- A sink is told of chunks of 640 frames and is to hold three of them; it takes 1536 frames. -/
theorem chunks_left_over :
    let result := ((Sink.ofOptions .standard).connect (.ofInput 48000 2 .u8) "sim"
      (⟨0, 0, packing⟩ : Seat)).1
    result.outcome = .ok () ∧ (Sink.ofOptions .standard).wantedFrames result.format = 1920 ∧
      (result.sink.addPackets [List.replicate 3840 0x69] 1920 0).1 = 1536 := by
  intro result
  have length : (List.replicate 3840 (0x69 : UInt8)).length = 3840 := List.length_replicate
  have inMemory : (List.replicate 3840 (0x69 : UInt8)).length < 0x8000000000000000 := by
    rw [length]
    decide
  obtain ⟨session, found, room⟩ : ∃ session, result.sink.session = some session ∧
      session.takeable 3840 1920 0 = 1536 := ⟨_, rfl, rfl⟩
  refine ⟨rfl, rfl, ?_⟩
  rw [Sink.addPackets, found, List.head?_cons]
  dsimp only
  rw [session.taken_eq inMemory, length, room]

end Studio

end PlanarSink
