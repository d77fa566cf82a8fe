import PlanarSink.Proofs.DriverCalls
import PlanarSink.Proofs.Opening

/-! What a sink agrees on with a simulated driver, and in which state a negotiation
leaves the driver: until its buffers are created, only its mode and its rate change. -/
namespace PlanarSink

variable {σ : Type} [Backend σ]

/-- Calls on the driver with a number are answered by a simulated driver, which gets a thread or
not, and change nothing in the surroundings but that driver. -/
def Placed (number : Nat) (thread : Bool) (place : Simulated → σ) : Prop :=
  ∀ driver c, Backend.perform (.call number c) (place driver) =
    ((driver.perform thread c).1, place (driver.perform thread c).2)

namespace OpeningM

theorem ends_call {number : Nat} {thread : Bool} {place : Simulated → σ}
    (placed : Placed number thread place) (cause : Status → SinkError) (c : DriverCall)
    (driver : Simulated) (format : StreamFormat) {ok : c.Answer → Opening σ → Prop}
    {failed : Interruption → Opening σ → Prop} :
    Ends (call number cause c) ⟨place driver, format⟩ ok failed ↔
      match (driver.perform thread c).1 with
      | .ok answer => ok answer ⟨place (driver.perform thread c).2, format⟩
      | .error fault =>
        failed (c.interruption cause fault) ⟨place (driver.perform thread c).2, format⟩ := by
  rw [call, ends_bind, ends_ask, ends_expect]
  simp only [placed driver c]
  generalize (driver.perform thread c).1 = reply
  cases reply <;> rfl

end OpeningM

namespace Agreement

def mode (options : SinkOptions) (rate : UInt32) (before : IoMode) : IoMode :=
  if isDsd options rate then .dsd else before

end Agreement

namespace Simulated

/-- The driver in the mode and at the rate that a sink asks for. -/
def tuned (driver : Simulated) (options : SinkOptions) (rate : UInt32) : Simulated :=
  { driver with
    mode := Agreement.mode options rate driver.mode
    rate := .ofNat rate.toNat }

end Simulated

/-- A driver and a sink agree: the driver accepts what is asked for, and the
agreement tells its channels, its preferred period and its sample type. -/
structure Agreed (options : SinkOptions) (format : StreamFormat) (driver : Simulated)
    (agreement : Agreement) : Prop where
  offered : (driver.tuned options format.sampleRate).supports (.ofNat format.sampleRate.toNat)
  planes : agreement.planes = driver.profile.outputChannels
  somePlanes : agreement.planes ≠ 0
  period : agreement.periodFrames = driver.profile.preferredPeriod
  somePeriod : agreement.periodFrames ≠ 0
  sampleType : agreement.sampleType = (driver.tuned options format.sampleRate).sampleType
  codec : Codec.resolve format.dataFormat agreement.sampleType = .ok agreement.codec

namespace Session

variable {number : Nat} {thread : Bool} {place : Simulated → σ}

theorem ends_enterMode (placed : Placed number thread place) (options : SinkOptions)
    (rate : UInt32) (driver : Simulated) (format : StreamFormat) {ok : Unit → Opening σ → Prop}
    {failed : Interruption → Opening σ → Prop}
    (entered : ok () ⟨place { driver with mode := Agreement.mode options rate driver.mode }, format⟩)
    (refused : ∀ error, failed (.failure error) ⟨place driver, format⟩) :
    (enterMode options rate number).Ends ⟨place driver, format⟩ ok failed := by
  unfold enterMode
  unfold Agreement.mode at entered
  split
  · next dsd =>
    rw [OpeningM.ends_call placed]
    rcases driver.setIoMode_cases .dsd with ⟨status, done⟩ | ⟨done, _⟩
    · simp only [Simulated.perform, done]
      exact refused _
    · simp only [Simulated.perform, done]
      simpa [dsd] using entered
  · next pcm => simpa [pcm] using entered

/-- A negotiation ends with an agreement and the driver tuned, or it fails with
nothing but the driver's mode and rate changed. It does not panic. -/
theorem ends_negotiate (placed : Placed number thread place) (options : SinkOptions)
    (format : StreamFormat) (driver : Simulated) (left : StreamFormat) :
    (negotiate options format number).Ends ⟨place driver, left⟩
      (fun agreement after => Agreed options format driver agreement ∧
        after = ⟨place (driver.tuned options format.sampleRate), left⟩)
      (fun interruption after => interruption ≠ .panic ∧
        ∃ mode rate, after = ⟨place { driver with mode, rate }, left⟩) := by
  unfold negotiate
  rw [OpeningM.ends_bind]
  apply ends_enterMode placed
  case refused => exact fun _ => ⟨Interruption.failure_ne_panic _, driver.mode, driver.rate, rfl⟩
  rw [OpeningM.ends_bind, OpeningM.ends_call placed, Simulated.perform]
  split
  case h_2 => exact ⟨Interruption.failure_ne_panic _, _, driver.rate, rfl⟩
  rw [OpeningM.ends_bind, OpeningM.ends_call placed, Simulated.perform]
  rcases Simulated.setRate_cases
    { driver with mode := Agreement.mode options format.sampleRate driver.mode }
    (.ofNat format.sampleRate.toNat) with ⟨status, done⟩ | ⟨done, _, offered⟩
  · rw [done]
    exact ⟨Interruption.failure_ne_panic _, _, driver.rate, rfl⟩
  simp only [done]
  change OpeningM.Ends _ ⟨place (driver.tuned options format.sampleRate), left⟩ _ _
  have kept : ∃ mode rate, (⟨place (driver.tuned options format.sampleRate), left⟩ : Opening σ) =
      ⟨place { driver with mode, rate }, left⟩ := ⟨_, _, rfl⟩
  rw [OpeningM.ends_bind, OpeningM.ends_call placed, Simulated.perform]
  split
  case h_2 => exact ⟨Interruption.failure_ne_panic _, kept⟩
  next counts counted =>
  have channels : counts.outputs = driver.profile.outputChannels :=
    Simulated.outputs_channelCounts counted
  rw [OpeningM.ends_bind, OpeningM.ends_require]
  refine ⟨fun somePlanes => ?_, fun _ => ⟨Interruption.failure_ne_panic _, kept⟩⟩
  rw [OpeningM.ends_bind, OpeningM.ends_call placed, Simulated.perform]
  split
  case h_2 => exact ⟨Interruption.failure_ne_panic _, kept⟩
  next sizes sized =>
  have preferred : sizes.preferred = driver.profile.preferredPeriod :=
    Simulated.preferred_bufferSizes sized
  rw [OpeningM.ends_bind, OpeningM.ends_require]
  refine ⟨fun somePeriod => ?_, fun _ => ⟨Interruption.failure_ne_panic _, kept⟩⟩
  rw [OpeningM.ends_bind, OpeningM.ends_call placed, Simulated.perform]
  split
  case h_2 => exact ⟨Interruption.failure_ne_panic _, kept⟩
  next info informed =>
  split
  · exact ⟨Interruption.failure_ne_panic _, kept⟩
  · next codec resolved =>
    refine ⟨⟨offered, channels, bne_iff_ne.mp somePlanes, preferred, bne_iff_ne.mp somePeriod,
      Simulated.sampleType_channelInfo informed, resolved⟩, rfl⟩

end Session

end PlanarSink
