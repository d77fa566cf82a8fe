import PlanarSink.Tone.Synthesis

/-! Synthesis one sample at a time into a buffer that its caller lends, and lends again for the
next packet. A sample that cannot be written ends it and leaves what was written before. -/
namespace PlanarSink.Tone

open Binary

abbrev OutputM := ExceptT ToneError (StateM Bytes)

namespace OutputM

def append (format : InputFormat) (level : Double) : OutputM Unit :=
  match writer? format with
  | some write => modify fun out => out ++ write level.clampToUnit
  | none => throw (.unencodable format)

/-- Appends the levels of some frames, each once for every channel. -/
def appendFrames (tone : Tone) (wave : Double → Double) (format : StreamFormat)
    (start frames : Nat) : OutputM Unit :=
  forM (List.range' start (reach start frames)) fun number =>
    let level := tone.level wave format.sampleRate number
    forM (List.replicate format.channels level) (append format.dataFormat)

end OutputM

/-- Fills the buffer with `frames` frames of the tone in place of what it holds, the first being
number `start`. -/
def fill (tone : Tone) (wave : Double → Double) (format : StreamFormat) (start frames : Nat)
    (out : Bytes) : Except ToneError Unit × Bytes :=
  let program : OutputM Unit := do
    set ([] : Bytes)
    OutputM.appendFrames tone wave format start frames
  program out

end PlanarSink.Tone
