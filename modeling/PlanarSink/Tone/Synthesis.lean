import PlanarSink.Sink.StreamFormat
import PlanarSink.Tone.Encoding

/-! Sampling a tone. The wave is a parameter: any function of the phase. -/
namespace PlanarSink

structure Tone where
  frequency : Binary.Double
  amplitude : Binary.Double
deriving DecidableEq, Repr

namespace Tone

open Binary

def turn : Double := .ofFraction false 6283185307179586 1000000000000000

def step (tone : Tone) (rate : UInt32) : Double :=
  (turn.mul tone.frequency).div (.ofNat rate.toNat)

def level (tone : Tone) (wave : Double → Double) (rate : UInt32) (frame : Nat) : Double :=
  tone.amplitude.mul (wave ((Double.ofNat frame).mul (tone.step rate)))

/-- How many frames there are from `start` on: none where their numbers would
pass the largest size. -/
def reach (start frames : Nat) : Nat :=
  Size.add start frames - start

theorem reach_eq {start frames : Nat} (fits : start + frames < Size.bound) :
    reach start frames = frames := by
  rw [reach, Size.add_eq fits, Nat.add_sub_cancel_left]

/-- The levels of some frames, the same in all channels of a frame. -/
def levels (tone : Tone) (wave : Double → Double) (format : StreamFormat) (start frames : Nat) :
    List Double :=
  (List.range' start (reach start frames)).flatMap fun frame =>
    List.replicate format.channels (tone.level wave format.sampleRate frame)

theorem levels_eq_nil_iff (tone : Tone) (wave : Double → Double) (format : StreamFormat)
    (start frames : Nat) :
    tone.levels wave format start frames = [] ↔ reach start frames = 0 ∨ format.channels = 0 := by
  cases count : reach start frames <;> simp [levels, count, List.range'_succ]
  intro silent
  simp [silent]

/-- `frames` interleaved frames of the tone, the first being number `start`.
Whether there is anything to write, and whether the format can hold it, is
known before any level is computed. -/
def synthesize (tone : Tone) (wave : Double → Double) (format : StreamFormat)
    (start frames : Nat) : Except ToneError Bytes :=
  if reach start frames = 0 ∨ format.channels = 0 then .ok []
  else if (writer? format.dataFormat).isNone then .error (.unencodable format.dataFormat)
  else encode format.dataFormat (tone.levels wave format start frames)

theorem synthesize_eq_encode (tone : Tone) (wave : Double → Double) (format : StreamFormat)
    (start frames : Nat) :
    tone.synthesize wave format start frames =
      encode format.dataFormat (tone.levels wave format start frames) := by
  unfold synthesize
  split
  · next nothing =>
    rw [(levels_eq_nil_iff tone wave format start frames).mpr nothing]
    rfl
  · next something =>
    split
    · next unwritable =>
      have filled : tone.levels wave format start frames ≠ [] := by
        rw [ne_eq, levels_eq_nil_iff]
        exact something
      exact (encode_eq_error (Option.isNone_iff_eq_none.mp unwritable) filled).symm
    · rfl

end Tone

end PlanarSink
