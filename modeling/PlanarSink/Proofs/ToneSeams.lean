import PlanarSink.Proofs.ToneFrames
import PlanarSink.Tone.Output

/-! A tone in packets. Frames depend on their numbers alone, so packets that follow each other
are the tone in one piece, whatever the buffers held in which they were made. -/
namespace PlanarSink

namespace Tone

open Binary

variable {tone : Tone} {wave : Double → Double} {format : StreamFormat} {start frames n m : Nat}

namespace OutputM

variable {α : Type} {step : α → OutputM Unit}

theorem bind_eq (first : OutputM Unit) (next : Unit → OutputM Unit) (out : Bytes) :
    (first >>= next) out =
      match first out with
      | (.ok (), out) => next () out
      | (.error cause, out) => (.error cause, out) := by
  change ExceptT.bindCont next (first out).1 (first out).2 = _
  rcases first out with ⟨_ | _, _⟩ <;> rfl

theorem forM_append {written : α → Bytes} (appends : ∀ a out, step a out = (.ok (), out ++ written a))
    (steps : List α) (out : Bytes) :
    (forM steps step : OutputM Unit) out = (.ok (), out ++ steps.flatMap written) := by
  induction steps generalizing out with
  | nil => simp; rfl
  | cons a rest ih =>
    rw [List.forM_cons, bind_eq, appends]
    dsimp only
    rw [ih, List.flatMap_cons, List.append_assoc]

theorem forM_fails {cause : ToneError} (fails : ∀ a out, step a out = (.error cause, out))
    {steps : List α} (some : steps ≠ []) (out : Bytes) :
    (forM steps step : OutputM Unit) out = (.error cause, out) := by
  cases steps with
  | nil => contradiction
  | cons a rest => rw [List.forM_cons, bind_eq, fails]

theorem append_of_writer {format : InputFormat} {write : Double → Bytes}
    (writable : writer? format = some write) (level : Double) (out : Bytes) :
    append format level out = (.ok (), out ++ write level.clampToUnit) := by
  rw [append, writable]
  rfl

theorem append_of_none {format : InputFormat} (unwritable : writer? format = none)
    (level : Double) (out : Bytes) :
    append format level out = (.error (.unencodable format), out) := by
  rw [append, unwritable]
  rfl

theorem appendFrames_of_writer {write : Double → Bytes}
    (writable : writer? format.dataFormat = some write) (out : Bytes) :
    appendFrames tone wave format start frames out =
      (.ok (), out ++ (tone.levels wave format start frames).flatMap fun level =>
        write level.clampToUnit) := by
  have each (number : Nat) := forM_append (append_of_writer writable)
    (List.replicate format.channels (tone.level wave format.sampleRate number))
  rw [appendFrames, forM_append each, levels, List.flatMap_assoc]

theorem appendFrames_of_none (unwritable : writer? format.dataFormat = none) (out : Bytes) :
    appendFrames tone wave format start frames out =
      (if reach start frames = 0 ∨ format.channels = 0 then .ok ()
        else .error (.unencodable format.dataFormat), out) := by
  rw [appendFrames]
  by_cases silent : format.channels = 0
  · have each (number : Nat) (out : Bytes) : (forM (List.replicate format.channels
        (tone.level wave format.sampleRate number)) (append format.dataFormat) : OutputM Unit) out =
          (.ok (), out ++ []) := by
      rw [silent, List.append_nil]
      rfl
    have nothing := forM_append each (List.range' start (reach start frames)) out
    rw [if_pos (.inr silent), nothing, List.flatMap_eq_nil_iff.mpr fun _ _ => rfl, List.append_nil]
  · have some (level : Double) : List.replicate format.channels level ≠ [] := by
      simpa using silent
    have each (number : Nat) := forM_fails (append_of_none unwritable)
      (some (tone.level wave format.sampleRate number))
    by_cases none : reach start frames = 0
    · rw [if_pos (.inl none), none]
      rfl
    · rw [if_neg (not_or.mpr ⟨none, silent⟩), forM_fails each (by simpa using none)]

end OutputM

/-- The buffer is left with what is synthesized, and with nothing where that fails. -/
theorem fill_eq (tone : Tone) (wave : Double → Double) (format : StreamFormat) (start frames : Nat)
    (out : Bytes) :
    tone.fill wave format start frames out =
      match tone.synthesize wave format start frames with
      | .ok bytes => (.ok (), bytes)
      | .error cause => (.error cause, []) := by
  have emptied : tone.fill wave format start frames out =
      OutputM.appendFrames tone wave format start frames [] := rfl
  rw [emptied]
  cases writes : writer? format.dataFormat with
  | some write =>
    rw [OutputM.appendFrames_of_writer writes, synthesize_eq_encode, encode_of_writer writes]
    rfl
  | none =>
    rw [OutputM.appendFrames_of_none writes, synthesize, writes]
    split <;> rfl

theorem exists_writer {format : InputFormat} (leveled : format ≠ .u8 ∧ format ≠ .raw) :
    ∃ write, writer? format = some write := by
  obtain ⟨notBits, notRaw⟩ := leveled
  cases format <;> first | contradiction | exact ⟨_, rfl⟩

end Tone

/-- A packet of so many frames, in each of which all channels have the same sample. -/
structure StreamFormat.Uniform (format : StreamFormat) (packet : Bytes) (count : Nat) : Prop where
  length : packet.length = count * format.channels * format.dataFormat.bytes
  repeated : ∀ frame ∈ format.framesOf packet count, ∃ sample : Bytes,
    sample.length = format.dataFormat.bytes ∧
      frame = (List.replicate format.channels sample).flatten

namespace Tone

open Binary

variable {tone : Tone} {wave : Double → Double} {format : StreamFormat} {start frames n m : Nat}

theorem frame_repeats {write : Double → Bytes} (writable : writer? format.dataFormat = some write)
    (number : Nat) : ∃ sample : Bytes, sample.length = format.dataFormat.bytes ∧
      tone.frame wave format number = (List.replicate format.channels sample).flatten := by
  refine ⟨_, length_writer writable (tone.level wave format.sampleRate number).clampToUnit, ?_⟩
  simp [frame, writable, List.flatMap_replicate]

theorem uniform_frames {write : Double → Bytes} (writable : writer? format.dataFormat = some write)
    (start frames : Nat) :
    format.Uniform ((List.range' start frames).map (tone.frame wave format)).flatten frames := by
  have whole : ∀ frame ∈ (List.range' start frames).map (tone.frame wave format),
      frame.length = format.frameBytes := by
    intro frame member
    obtain ⟨number, _, rfl⟩ := List.mem_map.mp member
    exact length_frame (.inr ⟨write, writable⟩) number
  have found := format.framesOf_append whole []
  rw [List.append_nil, List.length_map, List.length_range'] at found
  refine ⟨?_, fun frame member => ?_⟩
  · rw [Bytes.length_flatten_of_forall whole, List.length_map, List.length_range',
      StreamFormat.frameBytes, Nat.mul_assoc]
  · rw [found] at member
    obtain ⟨number, _, rfl⟩ := List.mem_map.mp member
    exact frame_repeats writable number

/-- Where the format holds levels, packets that follow each other are the tone in one piece,
whatever was in the buffers; each has as many bytes as its frames, and in each frame one sample
in all channels. One-bit and opaque formats fail where there is anything to write, and leave
nothing. -/
theorem packets_seamless (tone : Tone) (wave : Double → Double) (format : StreamFormat)
    {start n m : Nat} (fits : start + n + m < Size.bound) :
    (format.dataFormat ≠ .u8 ∧ format.dataFormat ≠ .raw → ∃ first second,
      (∀ out, tone.fill wave format start n out = (.ok (), first)) ∧
      (∀ out, tone.fill wave format (start + n) m out = (.ok (), second)) ∧
      (∀ out, tone.fill wave format start (n + m) out = (.ok (), first ++ second)) ∧
      format.Uniform first n ∧ format.Uniform second m ∧ format.Uniform (first ++ second) (n + m)) ∧
    (format.dataFormat = .u8 ∨ format.dataFormat = .raw → ∀ out,
      tone.fill wave format start n out =
        (if 0 < n ∧ 0 < format.channels then .error (.unencodable format.dataFormat) else .ok (),
          [])) := by
  refine ⟨fun leveled => ?_, fun unleveled out => ?_⟩
  · obtain ⟨write, writable⟩ := exists_writer leveled
    have made {start frames : Nat} (fits : start + frames < Size.bound) (out : Bytes) :
        tone.fill wave format start frames out =
          (.ok (), ((List.range' start frames).map (tone.frame wave format)).flatten) := by
      rw [fill_eq, synthesize_eq_ok (fun _ => .inr ⟨write, writable⟩) fits]
    have joined : ((List.range' start (n + m)).map (tone.frame wave format)).flatten =
        ((List.range' start n).map (tone.frame wave format)).flatten ++
          ((List.range' (start + n) m).map (tone.frame wave format)).flatten := by
      rw [← List.range'_append_1, List.map_append, List.flatten_append]
    refine ⟨_, _, made (by omega), made fits, ?_, uniform_frames writable start n,
      uniform_frames writable (start + n) m, ?_⟩
    · intro out
      rw [← joined]
      exact made (by omega) out
    · rw [← joined]
      exact uniform_frames writable start (n + m)
  · have unwritable : writer? format.dataFormat = none := by
      rcases unleveled with same | same <;> rw [same] <;> rfl
    rw [fill_eq, synthesize, reach_eq (by omega), unwritable]
    by_cases nothing : n = 0 ∨ format.channels = 0
    · have none : ¬(0 < n ∧ 0 < format.channels) := by omega
      rw [if_pos nothing, if_neg none]
    · have some : 0 < n ∧ 0 < format.channels := by omega
      rw [if_neg nothing, if_pos some]
      rfl

/-- Three stereo frames made in a buffer that is used over and over. -/
theorem packets_seamless_stereo :
    let tone : Tone := ⟨.ofNat 1000, .ofNat 1⟩
    let format := StreamFormat.ofInput 48000 2 .s24le
    5 + 1 + 2 < Size.bound ∧ (format.dataFormat ≠ .u8 ∧ format.dataFormat ≠ .raw) ∧
      ∃ first second,
        tone.fill id format 5 1 [7] = (.ok (), first) ∧
        tone.fill id format (5 + 1) 2 first = (.ok (), second) ∧
        tone.fill id format 5 (1 + 2) second = (.ok (), first ++ second) ∧
        first.length = 6 ∧ second.length = 12 := by
  intro tone format
  have fits : 5 + 1 + 2 < Size.bound := by decide
  have leveled : format.dataFormat ≠ .u8 ∧ format.dataFormat ≠ .raw := by decide
  obtain ⟨first, second, one, two, three, short, long, -⟩ :=
    (packets_seamless tone id format fits).1 leveled
  exact ⟨fits, leveled, first, second, one _, two _, three _, short.length.trans (by decide),
    long.length.trans (by decide)⟩

end Tone

end PlanarSink
