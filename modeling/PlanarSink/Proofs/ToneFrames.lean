import PlanarSink.Proofs.Samples
import PlanarSink.Sink.StreamFormat
import PlanarSink.Tone.Synthesis

/-! A tone frame by frame. What a frame comes to depends on its number alone, so that packets
have in their places what the whole tone has there. -/
namespace PlanarSink

theorem StreamFormat.framesOf_congr {format other : StreamFormat}
    (same : format.frameBytes = other.frameBytes) (packet : Bytes) (count : Nat) :
    format.framesOf packet count = other.framesOf packet count := by
  induction count generalizing packet with
  | zero => rfl
  | succ count ih => rw [framesOf, framesOf, ih, same]

/-- Frames of the right size that were put together are found again, whatever comes after. -/
theorem StreamFormat.framesOf_append (format : StreamFormat) {frames : List Bytes}
    (whole : ∀ frame ∈ frames, frame.length = format.frameBytes) (rest : Bytes) :
    format.framesOf (frames.flatten ++ rest) frames.length = frames := by
  induction frames with
  | nil => rfl
  | cons first others ih =>
    obtain ⟨length, sizes⟩ := List.forall_mem_cons.mp whole
    rw [List.length_cons, framesOf, List.flatten_cons, List.append_assoc, List.take_left' length,
      List.drop_left' length, ih sizes]

namespace Tone

open Binary

theorem length_writer {format : InputFormat} {write : Double → Bytes}
    (writable : writer? format = some write) (level : Double) :
    (write level).length = format.bytes := by
  cases format <;> simp [writer?, InputFormat.integer?] at writable <;> subst writable <;>
    simp [InputFormat.bytes, InputFormat.bits]

theorem encode_of_writer {format : InputFormat} {write : Double → Bytes}
    (writable : writer? format = some write) (levels : List Double) :
    encode format levels = .ok (levels.flatMap fun level => write level.clampToUnit) := by
  cases levels with
  | nil => rfl
  | cons level rest => simp only [encode, writable]

def frame (tone : Tone) (wave : Double → Double) (format : StreamFormat) (number : Nat) : Bytes :=
  (List.replicate format.channels (tone.level wave format.sampleRate number)).flatMap fun level =>
    (writer? format.dataFormat).elim [] fun write => write level.clampToUnit

/-- A frame can be written that has no channels, or has samples that hold levels. -/
def Writable (format : StreamFormat) : Prop :=
  format.channels = 0 ∨ ∃ write, writer? format.dataFormat = some write

variable {tone : Tone} {wave : Double → Double} {format : StreamFormat} {start frames : Nat}

theorem length_frame (writable : Writable format) (number : Nat) :
    (tone.frame wave format number).length = format.frameBytes := by
  rcases writable with silent | ⟨write, writable⟩
  · simp [frame, silent, StreamFormat.frameBytes]
  · simp [frame, writable, List.length_flatMap, length_writer writable, StreamFormat.frameBytes]

/-- Synthesized frames are those of their numbers, one after the other. -/
theorem synthesize_eq_ok (writable : 0 < frames → Writable format)
    (fits : start + frames < Size.bound) :
    tone.synthesize wave format start frames =
      .ok ((List.range' start frames).map (tone.frame wave format)).flatten := by
  have reached := reach_eq fits
  rcases Nat.eq_zero_or_pos frames with rfl | some
  · simp [synthesize, reached]
  rcases writable some with silent | ⟨write, writable⟩
  · have none : tone.frame wave format = fun _ => [] := by
      funext number
      rw [frame, silent, List.replicate_zero, List.flatMap_nil]
    simp [synthesize, silent, none]
  · have each : tone.frame wave format = fun number =>
        (List.replicate format.channels (tone.level wave format.sampleRate number)).flatMap fun level =>
          write level.clampToUnit := by
      funext number
      simp only [frame, writable, Option.elim_some]
    rw [synthesize_eq_encode, encode_of_writer writable, levels, reached, List.flatMap_assoc, each,
      List.flatMap_def]

theorem synthesize_eq_error (unwritable : ¬Writable format) (some : 0 < frames)
    (fits : start + frames < Size.bound) :
    tone.synthesize wave format start frames = .error (.unencodable format.dataFormat) := by
  obtain ⟨channels, none⟩ := not_or.mp unwritable
  have unwritable : (writer? format.dataFormat).isNone = true := by
    rw [Option.isNone_iff_eq_none, Option.eq_none_iff_forall_ne_some]
    exact fun write writes => none ⟨write, writes⟩
  rw [synthesize, reach_eq fits, if_neg (by omega), if_pos unwritable]

/-- Some frames of a packet are those that the tone has in their places. -/
theorem framesOf_synthesize {packet : Bytes} (fits : start + frames < Size.bound)
    (made : tone.synthesize wave format start frames = .ok packet) {offset count : Nat}
    (within : offset + count ≤ frames) :
    format.framesOf (packet.drop (offset * format.frameBytes)) count =
      (List.range' (start + offset) count).map (tone.frame wave format) := by
  rcases Nat.eq_zero_or_pos frames with rfl | some
  · obtain ⟨rfl, rfl⟩ := Nat.add_eq_zero_iff.mp (Nat.le_zero.mp within)
    rfl
  have writable : Writable format := by
    apply Classical.byContradiction
    intro unwritable
    rw [synthesize_eq_error unwritable some fits] at made
    contradiction
  obtain rfl := Except.ok.inj ((synthesize_eq_ok (fun _ => writable) fits).symm.trans made)
  have whole (first count : Nat) : ∀ bytes ∈ (List.range' first count).map (tone.frame wave format),
      bytes.length = format.frameBytes := by
    intro bytes member
    obtain ⟨number, _, rfl⟩ := List.mem_map.mp member
    exact length_frame writable number
  have skipped : ((List.range' start offset).map (tone.frame wave format)).flatten.length =
      offset * format.frameBytes := by
    rw [Bytes.length_flatten_of_forall (whole start offset), List.length_map, List.length_range']
  have parts : frames = offset + (count + (frames - offset - count)) := by omega
  have found := format.framesOf_append (whole (start + offset) count)
  rw [List.length_map, List.length_range'] at found
  rw [parts, ← List.range'_append_1, ← List.range'_append_1, List.map_append, List.map_append,
    List.flatten_append, List.flatten_append, List.drop_left' skipped, found]

end Tone

end PlanarSink
