import PlanarSink.Driver.History
import PlanarSink.Proofs.Coherence

/-! The periods a driver delivers. What was seen of it tells whether it delivers one when it is
let tick, which half it announces, and where in the stream the period ends. -/
namespace PlanarSink

theorem Half.index_other (half : Half) : half.other.index = (half.index + 1) % 2 := by
  cases half <;> rfl

theorem Half.index_mod (half : Half) : half.index % 2 = half.index := by
  cases half <;> rfl

theorem Seen.starts_of_runs {seen : Seen} (running : seen.runs? = some true) :
    seen.starts = true := by
  unfold runs? at running
  split at running <;> first | rfl | contradiction

namespace History

variable (seen : Seen) (before : History)

@[simp] theorem running_cons :
    running (seen :: before) = seen.runs?.getD before.running := by
  cases decided : seen.runs? <;> simp [running, decided]

@[simp] theorem period_cons : period (seen :: before) = seen.period?.getD before.period := by
  cases created : seen.period? <;> simp [period, created]

@[simp] theorem rate_cons (initial : Binary.Double) :
    rate initial (seen :: before) = seen.rate?.getD (before.rate initial) := by
  cases set : seen.rate? <;> simp [rate, set]

@[simp] theorem delivered_cons :
    delivered (seen :: before) = before.delivered + (if seen.delivers then 1 else 0) :=
  List.countP_cons

theorem running_of_cons (going : running (seen :: before) = true)
    (unstarted : ¬(seen.starts && !before.running) = true) : before.running = true := by
  rw [running_cons] at going
  cases decided : seen.runs? with
  | none => rwa [decided] at going
  | some runs =>
    rw [decided, Option.getD_some] at going
    subst going
    simpa [Seen.starts_of_runs decided] using unstarted

end History

namespace Simulated

variable {s : Simulated}

/-- A driver changes as is seen of it. Which half it announces next matters while it runs: a start
that found it standing still makes it the first, and each period the other one. -/
structure Heeds (s : Simulated) (seen : Seen) (next : Simulated) : Prop where
  profile : next.profile = s.profile
  running : next.running = seen.runs?.getD s.running
  period : next.period = seen.period?.getD s.period
  rate : next.rate = seen.rate?.getD s.rate
  switches : next.switches = s.switches + (if seen.delivers then 1 else 0)
  position : next.position = s.position + UInt64.ofNat (if seen.delivers then s.period else 0)
  half : next.running = true → next.nextHalf.index =
    if seen.starts && !s.running then 0
    else (s.nextHalf.index + (if seen.delivers then 1 else 0)) % 2

theorem heeds_on {seen : Seen} (running : s.running = seen.runs?.getD s.running)
    (uncreated : seen.period? = none) (undelivered : seen.delivers = false) (mode : IoMode)
    {rate : Binary.Double} (set : rate = seen.rate?.getD s.rate) (buffers : List DoubleBuffer) :
    s.Heeds seen { s with mode, rate, buffers } where
  profile := rfl
  running := running
  period := by rw [uncreated]; rfl
  rate := set
  switches := by simp [undelivered]
  position := by simp [undelivered]
  half going := by
    have going : s.running = true := going
    simp [undelivered, going, Half.index_mod]

theorem heeds_refused (c : DriverCall) (thread : Bool) :
    s.Heeds ⟨.call c thread, false⟩ s := by
  have undecided : Seen.runs? ⟨.call c thread, false⟩ = none := by cases c <;> rfl
  have uncreated : Seen.period? ⟨.call c thread, false⟩ = none := by cases c <;> rfl
  have unset : Seen.rate? ⟨.call c thread, false⟩ = none := by cases c <;> rfl
  exact heeds_on (by rw [undecided]; rfl) uncreated rfl s.mode (by rw [unset]; rfl) s.buffers

theorem heeds_unstarted (still : s.running = false) (thread : Bool) :
    s.Heeds ⟨.call .start thread, false⟩ { s with nextHalf := .first } where
  profile := rfl
  running := rfl
  period := rfl
  rate := rfl
  switches := rfl
  position := (UInt64.add_zero _).symm
  half going := Bool.noConfusion (still.symm.trans going)

theorem heeds_halted {seen : Seen} (stopped : seen.runs? = some false)
    (uncreated : seen.period? = none) (unset : seen.rate? = none)
    (undelivered : seen.delivers = false) (buffers : List DoubleBuffer) (registered : Bool) :
    s.Heeds seen { s.halt with buffers, registered } where
  profile := rfl
  running := by rw [stopped]; rfl
  period := by rw [uncreated]; rfl
  rate := by rw [unset]; rfl
  switches := by simp [undelivered, halt]
  position := by simp [undelivered, halt]
  half running := Bool.noConfusion running

namespace Coherent

variable (coherent : s.Coherent)
include coherent

theorem heeds_call (c : DriverCall) (thread : Bool) :
    s.Heeds ⟨.call c thread, (s.perform thread c).1.isOk⟩ (s.perform thread c).2 := by
  cases c with
  | setIoMode mode =>
    rw [Simulated.perform]
    rcases s.setIoMode_cases mode with ⟨_, done⟩ | ⟨done, _⟩ <;> rw [done]
    · exact heeds_refused _ _
    · exact heeds_on rfl rfl rfl mode rfl s.buffers
  | setRate rate =>
    rw [Simulated.perform]
    rcases s.setRate_cases rate with ⟨_, done⟩ | ⟨done, _⟩ <;> rw [done]
    · exact heeds_refused _ _
    · exact heeds_on rfl rfl rfl s.mode rfl s.buffers
  | createBuffers infos period =>
    rw [Simulated.perform]
    rcases s.createBuffers_cases infos period with ⟨_, done, _⟩ | ⟨done, _, _, _, _, none, _⟩ <;>
      rw [done]
    · exact heeds_refused _ _
    · exact ⟨rfl, rfl, rfl, rfl, rfl, (UInt64.add_zero _).symm, fun running =>
        absurd none (coherent.furnished running)⟩
  | disposeBuffers =>
    rw [Simulated.perform]
    rcases s.disposeBuffers_cases with ⟨_, done⟩ | ⟨_, none, done⟩ | ⟨_, _, done⟩ <;> rw [done]
    · exact heeds_refused _ _
    · rw [coherent.halt_eq none]
      exact heeds_refused _ _
    · exact heeds_halted rfl rfl rfl rfl [] false
  | start =>
    rw [Simulated.perform]
    rcases s.start_cases thread with ⟨_, done⟩ | ⟨_, _, still, done⟩ | ⟨_, _, _, done⟩ <;>
      rw [done]
    · exact heeds_refused _ _
    · exact heeds_unstarted still thread
    · dsimp only
      split
      · next running => exact heeds_on running rfl rfl s.mode rfl s.buffers
      · next still =>
        exact ⟨rfl, rfl, rfl, rfl, rfl, (UInt64.add_zero _).symm, fun _ => by
          simp [Seen.starts, still, Half.index]⟩
  | stop =>
    rw [Simulated.perform]
    rcases s.stop_cases with ⟨_, done⟩ | ⟨_, done⟩ <;> rw [done]
    · exact heeds_refused _ _
    · exact heeds_halted rfl rfl rfl rfl s.buffers s.registered
  | canRate | channelCounts | bufferSizes | channelInfo =>
    exact heeds_on rfl rfl rfl s.mode rfl s.buffers

/-- A driver that runs has callbacks, and so it delivers a period when it is let tick. -/
theorem tick_eq : s.tick =
    if s.running then
      some (⟨s.nextHalf, true,
          if s.profile.timeInfo then
            some ⟨.ofNat 0, 0, s.position + UInt64.ofNat s.period, s.rate, 0⟩
          else none⟩,
        { s with
          nextHalf := s.nextHalf.other
          switches := s.switches + 1
          position := s.position + UInt64.ofNat s.period })
    else none := by
  unfold Simulated.tick
  cases running : s.running with
  | false => rfl
  | true => rw [coherent.registered (coherent.furnished running)]; rfl

theorem tick_of_running (running : s.running = true) :
    s.tick = some
      (⟨s.nextHalf, true,
        if s.profile.timeInfo then
          some ⟨.ofNat 0, 0, s.position + UInt64.ofNat s.period, s.rate, 0⟩
        else none⟩,
      s.after .tick) := by
  have ticked := coherent.tick_eq
  rw [if_pos running] at ticked
  rw [Simulated.after, ticked]
  rfl

theorem tick_of_still (still : s.running = false) : s.tick = none ∧ s.after .tick = s := by
  have silent : s.tick = none := by rw [coherent.tick_eq, still]; rfl
  exact ⟨silent, by rw [Simulated.after, silent]; rfl⟩

end Coherent

end Simulated

namespace Watched

variable {profile : Profile} {watched : Watched}

theorem heeds_after (coherent : watched.driver.Coherent) (event : DriverEvent) :
    watched.driver.Heeds ⟨event, watched.does event⟩ (watched.after event).driver := by
  cases event with
  | call c thread => exact coherent.heeds_call c thread
  | tick =>
    simp only [does, after, Simulated.after, coherent.tick_eq]
    cases running : watched.driver.running with
    | false => exact Simulated.heeds_on rfl rfl rfl watched.driver.mode rfl watched.driver.buffers
    | true => exact ⟨rfl, running.symm, rfl, rfl, rfl, rfl, fun _ => Half.index_other _⟩
  | write plane half start src =>
    exact Simulated.heeds_on rfl rfl rfl watched.driver.mode rfl _
  | drop =>
    exact Simulated.heeds_halted rfl rfl rfl rfl watched.driver.buffers watched.driver.registered

/-- A driver is as what was seen of it tells. -/
structure Told (profile : Profile) (watched : Watched) : Prop where
  coherent : watched.driver.Coherent
  ofProfile : watched.driver.profile = profile
  running : watched.driver.running = watched.history.running
  period : watched.driver.period = watched.history.period
  rate : watched.driver.rate = watched.history.rate (Simulated.boot profile).rate
  switches : watched.driver.switches = watched.history.delivered
  position : watched.driver.position = UInt64.ofNat watched.history.frames
  half : watched.history.running = true →
    watched.driver.nextHalf.index = watched.history.deliveredSinceStart % 2

theorem told_boot (profile : Profile) : (boot profile).Told profile where
  coherent := Simulated.coherent_boot profile
  ofProfile := rfl
  running := rfl
  period := rfl
  rate := rfl
  switches := rfl
  position := rfl
  half running := Bool.noConfusion running

namespace Told

theorem after (told : watched.Told profile) (event : DriverEvent) :
    (watched.after event).Told profile := by
  have heeds := heeds_after told.coherent event
  have running : (watched.after event).driver.running = (watched.after event).history.running := by
    rw [heeds.running, told.running, Watched.after, History.running_cons]
  refine {
    coherent := told.coherent.after event
    ofProfile := heeds.profile.trans told.ofProfile
    running := running
    period := ?_
    rate := ?_
    switches := ?_
    position := ?_
    half := fun going => ?_ }
  · rw [heeds.period, told.period, Watched.after, History.period_cons]
  · rw [heeds.rate, told.rate, Watched.after, History.rate_cons]
  · rw [heeds.switches, told.switches, Watched.after, History.delivered_cons]
  · rw [heeds.position, told.position, told.period, Watched.after, History.frames, UInt64.ofNat_add]
  · rw [heeds.half (running.trans going), told.running, Watched.after, History.deliveredSinceStart]
    split
    · rfl
    · next unstarted =>
      rw [told.half (History.running_of_cons _ _ going unstarted), Nat.mod_add_mod]

theorem afterAll (told : watched.Told profile) (events : List DriverEvent) :
    (watched.afterAll events).Told profile := by
  induction events generalizing watched with
  | nil => exact told
  | cons event rest ih => exact ih (told.after event)

end Told

end Watched

/-- After any events a tick delivers no period, and changes nothing, exactly where the driver does
not run by what was seen of it. Elsewhere it makes one callback, with the time where the profile
asks for it. The half is the parity of the periods since the last start from standstill, and the
position is the sum, as a word, of the periods in force at this tick and at those delivered before.
The driver has counted what it delivered. -/
theorem ticks_in_sequence (profile : Profile) (events : List DriverEvent) :
    let watched := (Watched.boot profile).afterAll events
    let driver := watched.driver
    let history := watched.history
    (driver.tick = none ∧ driver.after .tick = driver ↔ history.running = false) ∧
      (history.running = true → ∃ announcement,
        driver.tick = some (announcement, driver.after .tick) ∧
        announcement.half.index = history.deliveredSinceStart % 2 ∧
        announcement.direct = true ∧
        announcement.time =
          if profile.timeInfo then
            some ⟨.ofNat 0, 0, UInt64.ofNat (history.frames + history.period),
              history.rate (Simulated.boot profile).rate, 0⟩
          else none) ∧
      driver.switches = history.delivered := by
  intro watched driver history
  have told : watched.Told profile := (Watched.told_boot profile).afterAll events
  cases running : history.running with
  | false =>
    have silent := told.coherent.tick_of_still (told.running.trans running)
    exact ⟨⟨fun _ => rfl, fun _ => silent⟩, nofun, told.switches⟩
  | true =>
    have ticked := told.coherent.tick_of_running (told.running.trans running)
    refine ⟨⟨fun still => ?_, nofun⟩, fun _ => ⟨_, ticked, told.half running, rfl, ?_⟩, told.switches⟩
    · exact absurd (ticked.symm.trans still.1) nofun
    · rw [told.ofProfile, told.position, told.period, told.rate, ← UInt64.ofNat_add]

end PlanarSink
