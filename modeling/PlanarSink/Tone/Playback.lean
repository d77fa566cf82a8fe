import PlanarSink.Settings
import PlanarSink.Studio.Command
import PlanarSink.Tone.Schedule
import PlanarSink.Tone.Synthesis

/-! Playing a tone through a sink: connect, queue the frames chunk by chunk as
the ring takes them, wait until they are played, and disconnect. -/
namespace PlanarSink

inductive PlaybackError where
  | connection (device : String) (cause : SinkError)
  | synthesis (cause : ToneError)
  /-- The ring stayed full for too long. -/
  | stalled
  /-- Something panicked, and playing did not return. -/
  | panic
deriving DecidableEq, Repr

namespace PlaybackError

/-- What failed, and why as far as that is a matter of its own. -/
def messages : PlaybackError → List String
  | connection device cause => ["opening '" ++ device ++ "'", cause.message]
  | synthesis cause => [cause.message]
  | stalled => ["driver stopped consuming audio"]
  | panic => []

end PlaybackError

/-- What is played, on which sink of which host, and what happens meanwhile. -/
structure Playback where
  host : Nat
  sink : Nat
  format : StreamFormat
  tone : Tone
  wave : Binary.Double → Binary.Double
  schedule : Schedule

namespace Playback

/-- The studio, the number of calls made on the sink, and what was done in the studio so
far, in the order of time. -/
structure Progress where
  studio : Studio
  calls : Nat
  commands : List Studio.Command

def wait (p : Playback) (progress : Progress) : Progress :=
  let ticks := (p.schedule.ticks progress.calls).map (Studio.Command.tick p.host)
  ⟨progress.studio.run ticks, progress.calls + 1, progress.commands ++ ticks⟩

/-- Hands frames of a packet to the sink, from `offset` frames in, and gives the number of those
it takes. -/
def hand (p : Playback) (packet : Bytes) (frames offset : Nat) (progress : Progress) :
    Nat × Progress :=
  let (count, studio) := progress.studio.addPackets p.sink [packet] frames offset
  let command := .addPackets p.sink [packet] frames offset
  (count, { progress with studio, commands := progress.commands ++ [command] })

/-- Offers the frames of a packet from `offset` on until all are taken or
waiting is given up, and tells which. -/
def offer (p : Playback) (packet : Bytes) (frames offset vain : Nat) (progress : Progress) :
    Bool × Progress :=
  if frames ≤ offset then (true, progress)
  else
    let (count, progress) := p.hand packet (frames - offset) offset (p.wait progress)
    if count = 0 then
      if p.schedule.givesUp 0 progress.calls vain then (false, progress)
      else p.offer packet frames offset (vain + 1) progress
    else p.offer packet frames (offset + count) 0 progress
termination_by (frames - offset, p.schedule.patience - vain)
decreasing_by
  · next gaveUp =>
      apply Prod.Lex.right
      simp only [Schedule.givesUp, Bool.or_eq_true, decide_eq_true_eq, not_or] at gaveUp
      omega
  · apply Prod.Lex.left
    omega

/-- Queues the frames of the tone from `start` up to `total`. -/
def queue (p : Playback) (total start : Nat) (progress : Progress) :
    Except PlaybackError Unit × Progress :=
  if total ≤ start then (.ok (), progress)
  else
    let frames := min (max p.format.frames 1) (total - start)
    match p.tone.synthesize p.wave p.format start frames with
    | .error cause => (.error (.synthesis cause), progress)
    | .ok packet =>
      match p.offer packet frames 0 0 progress with
      | (true, progress) => p.queue total (start + frames) progress
      | (false, progress) => (.error .stalled, progress)
termination_by total - start
decreasing_by omega

/-- What is queued in a sink, in periods, the last perhaps cut short. -/
def queuedPeriods (p : Playback) (studio : Studio) : Nat :=
  match (studio.sink? p.sink).bind fun seated => seated.sink.session with
  | some session => session.ring.readSize / session.dispatcher.periodBytes + 1
  | none => 0

def delay (p : Playback) (studio : Studio) : Nat :=
  ((studio.sink? p.sink).map fun seated => seated.sink.delay).getD 0

def settle (p : Playback) (grace vain : Nat) (progress : Progress) : Progress :=
  let progress := p.wait progress
  if p.delay progress.studio = 0 then progress
  else if p.schedule.givesUp grace progress.calls vain then progress
  else p.settle grace (vain + 1) progress
termination_by p.schedule.patience + grace - vain
decreasing_by
  next gaveUp =>
    simp only [Schedule.givesUp, Bool.or_eq_true, decide_eq_true_eq, not_or] at gaveUp
    omega

def run (p : Playback) (total : Nat) (studio : Studio) : Except PlaybackError Unit × Progress :=
  let (outcome, progress) := p.queue total 0 ⟨studio, 0, []⟩
  match outcome with
  | .ok () => (.ok (), p.settle (p.queuedPeriods progress.studio) 0 progress)
  | .error cause => (.error cause, progress)

structure Played where
  outcome : Except PlaybackError Unit
  /-- What was done after the attempt to connect. -/
  commands : List Studio.Command
  /-- The studio before the sink is dropped. -/
  ended : Studio
  studio : Studio

/-- The whole frames in the seconds to play. -/
def totalFrames (settings : Settings) : Nat :=
  (settings.seconds.orZero.mul (.ofNat settings.sampleRate.toNat)).toNatWithin Size.largest

theorem totalFrames_lt (settings : Settings) : totalFrames settings < Size.bound :=
  Nat.lt_of_le_of_lt (Binary.Double.toNatWithin_le _ _) (by decide)

/-- What is told of an attempt to connect that came to nothing. -/
def interrupted (device : String) : Interruption → PlaybackError
  | .failure cause => .connection device cause
  | .panic => .panic

/-- Whether the packets of a format would be longer than a list can be. -/
def tooLong (format : StreamFormat) : Bool :=
  Size.longest < max format.frames 1 * format.frameSize

/-- Adds a new sink for a host to the studio and connects it, and gives the format as the
connected sink has it. -/
def attempt (settings : Settings) (host : Nat) (studio : Studio) :
    Except Interruption StreamFormat × Studio :=
  let sink := studio.sinks.length
  let studio := studio.addSink host settings.sink
  match StreamFormat.ofInput? settings.sampleRate settings.channels settings.format with
  | none => (.error .panic, studio)
  | some format =>
    match studio.connect sink format settings.device with
    | ((.error cause, _), studio) => (.error cause, studio)
    | ((.ok (), format), studio) => (.ok format, studio)

def finish (sink : Nat) (outcome : Except PlaybackError Unit) (progress : Progress) : Played :=
  ⟨outcome, progress.commands, progress.studio, progress.studio.dropSink sink⟩

def play (wave : Binary.Double → Binary.Double) (schedule : Session → Schedule)
    (settings : Settings) (host : Nat) (studio : Studio) : Played :=
  let sink := studio.sinks.length
  match attempt settings host studio with
  | (.error cause, studio) =>
    finish sink (.error (interrupted settings.device cause)) ⟨studio, 0, []⟩
  | (.ok format, studio) =>
    if tooLong format then finish sink (.error .panic) ⟨studio, 0, []⟩
    else
      let playback : Playback :=
        ⟨host, sink, format, ⟨settings.frequency, settings.amplitude⟩, wave,
          ((studio.session? sink).map schedule).getD .idle⟩
      let (outcome, progress) := playback.run (totalFrames settings) studio
      finish sink outcome progress

end Playback

end PlanarSink
