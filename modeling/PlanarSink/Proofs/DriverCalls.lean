import PlanarSink.Driver.Simulated

/-! What each call can do to a simulated driver: it is refused and leaves the driver
as it was, or it is accepted under conditions that are known from then on. Two calls change it
where they are refused: disposal stops it even where it finds nothing to dispose of, and a start
without a thread for the clock sets it to its first half. -/
namespace PlanarSink.Simulated

theorem guarded_eq (s : Simulated) (point : FailPoint) (body : Except Status α × Simulated) :
    s.guarded point body =
      if s.profile.failAt = some point then (.error point.status, s) else body := by
  unfold guarded check
  by_cases fails : s.profile.failAt = some point <;> simp [fails]

theorem bind_check (s : Simulated) (point : FailPoint) (body : Unit → Except Status α) :
    (s.check point >>= body) =
      if s.profile.failAt = some point then .error point.status else body () := by
  unfold check
  split <;> rfl

theorem outputs_channelCounts {s : Simulated} {counts : ChannelCounts}
    (given : s.channelCounts = .ok counts) : counts.outputs = s.profile.outputChannels := by
  rw [channelCounts, bind_check] at given
  split at given
  · contradiction
  · exact (congrArg ChannelCounts.outputs (Except.ok.inj given)).symm

theorem preferred_bufferSizes {s : Simulated} {sizes : BufferSizes}
    (given : s.bufferSizes = .ok sizes) : sizes.preferred = s.profile.preferredPeriod := by
  rw [bufferSizes, bind_check] at given
  split at given
  · contradiction
  · exact (congrArg BufferSizes.preferred (Except.ok.inj given)).symm

theorem sampleType_channelInfo {s : Simulated} {channel : Nat} {isInput : Bool}
    {info : ChannelInfo} (given : s.channelInfo channel isInput = .ok info) :
    info.sampleType = s.sampleType := by
  rw [channelInfo, bind_check] at given
  split at given
  · contradiction
  · split at given
    · contradiction
    · exact (congrArg ChannelInfo.sampleType (Except.ok.inj given)).symm

theorem setIoMode_cases (s : Simulated) (mode : IoMode) :
    (∃ status, s.setIoMode mode = (.error status, s)) ∨
      (s.setIoMode mode = (.ok (), { s with mode }) ∧ s.profile.failAt ≠ some .setIoFormat ∧
        (mode = .dsd → s.profile.dsdSampleType ≠ none) ∧ s.buffers = []) := by
  unfold setIoMode
  rw [guarded_eq]
  split
  · exact .inl ⟨_, rfl⟩
  · next passes =>
    split
    · exact .inl ⟨_, rfl⟩
    · next offered =>
      split
      · exact .inl ⟨_, rfl⟩
      · next empty =>
        exact .inr ⟨rfl, passes, fun dsd missing => offered ⟨dsd, missing⟩, Decidable.not_not.mp empty⟩

theorem setRate_cases (s : Simulated) (rate : Binary.Double) :
    (∃ status, s.setRate rate = (.error status, s)) ∨
      (s.setRate rate = (.ok (), { s with rate }) ∧ s.profile.failAt ≠ some .setSampleRate ∧
        s.supports rate = true) := by
  unfold setRate
  rw [guarded_eq]
  split
  · exact .inl ⟨_, rfl⟩
  · next passes =>
    split
    · next offered => exact .inr ⟨rfl, passes, offered⟩
    · exact .inl ⟨_, rfl⟩

theorem createBuffers_cases (s : Simulated) (infos : List BufferInfo) (period : Nat) :
    (∃ fault, s.createBuffers infos period = (.error fault, s) ∧
        (fault = .panic →
          Size.bound ≤ s.halfBytes period ∨ s.tooLong infos.length period = true)) ∨
      (s.createBuffers infos period =
          (.ok (infos.map fun info => { info with addressed := true }),
            { s with
              buffers := infos.map fun _ => DoubleBuffer.filled (s.halfBytes period) 0
              period := period
              registered := true
              nextHalf := .first }) ∧
        s.profile.failAt ≠ some .createBuffers ∧
        s.profile.minPeriod ≤ period ∧ period ≤ s.profile.maxPeriod ∧
        infos.all s.hasChannel = true ∧ s.buffers = [] ∧ s.halfBytes period ≠ 0 ∧
        s.halfBytes period < Size.bound ∧ s.tooLong infos.length period = false) := by
  unfold createBuffers check
  split
  · exact .inl ⟨_, rfl, nofun⟩
  · next passed =>
    have passes : s.profile.failAt ≠ some .createBuffers := by
      intro fails
      rw [if_pos fails] at passed
      contradiction
    split
    · exact .inl ⟨_, rfl, nofun⟩
    · next inRange =>
      split
      · exact .inl ⟨_, rfl, nofun⟩
      · next known =>
        split
        · exact .inl ⟨_, rfl, nofun⟩
        · next empty =>
          split
          · next large => exact .inl ⟨_, rfl, fun _ => .inl large⟩
          · next small =>
            split
            · exact .inl ⟨_, rfl, nofun⟩
            · next some =>
              split
              · next long => exact .inl ⟨_, rfl, fun _ => .inr long⟩
              · next short =>
                exact .inr ⟨rfl, passes, by omega, by omega, by simpa using known,
                  Decidable.not_not.mp empty, some, Nat.not_le.mp small,
                  Bool.eq_false_iff.mpr short⟩

theorem start_cases (s : Simulated) (thread : Bool) :
    (∃ status, s.start thread = (.error status, s)) ∨
      (s.profile.clock = true ∧ thread = false ∧ s.running = false ∧
        s.start thread = (.error .noClock, { s with nextHalf := .first })) ∨
      (s.profile.failAt ≠ some .start ∧ s.buffers ≠ [] ∧
        (s.running = false → s.profile.clock = true → thread = true) ∧
        s.start thread =
          (.ok (), if s.running then s else { s with running := true, nextHalf := .first })) := by
  unfold start
  rw [guarded_eq]
  split
  · exact .inl ⟨_, rfl⟩
  · next passes =>
    split
    · exact .inl ⟨_, rfl⟩
    · next some =>
      split
      · next runs =>
        refine .inr (.inr ⟨passes, some, fun still => ?_, rfl⟩)
        rw [runs] at still
        contradiction
      · next stands =>
        have still : s.running = false := Bool.eq_false_iff.mpr stands
        split
        · next lacks =>
          obtain ⟨clock, missing⟩ := Bool.and_eq_true_iff.mp lacks
          exact .inr (.inl ⟨clock, by simpa using missing, still, rfl⟩)
        · next given =>
          refine .inr (.inr ⟨passes, some, fun _ clock => ?_, rfl⟩)
          simpa [clock] using given

theorem stop_cases (s : Simulated) :
    (s.profile.failAt = some .stop ∧ s.stop = (.error FailPoint.stop.status, s)) ∨
      (s.profile.failAt ≠ some .stop ∧ s.stop = (.ok (), s.halt)) := by
  unfold stop
  rw [guarded_eq]
  split
  · next fails => exact .inl ⟨fails, rfl⟩
  · next passes => exact .inr ⟨passes, rfl⟩

theorem disposeBuffers_cases (s : Simulated) :
    (s.profile.failAt = some .disposeBuffers ∧
        s.disposeBuffers = (.error FailPoint.disposeBuffers.status, s)) ∨
      (s.profile.failAt ≠ some .disposeBuffers ∧ s.buffers = [] ∧
        s.disposeBuffers = (.error .invalidMode, s.halt)) ∨
      (s.profile.failAt ≠ some .disposeBuffers ∧ s.buffers ≠ [] ∧
        s.disposeBuffers = (.ok (), { s.halt with buffers := [], registered := false })) := by
  unfold disposeBuffers
  rw [guarded_eq]
  split
  · next fails => exact .inl ⟨fails, rfl⟩
  · next passes =>
    split
    · next none => exact .inr (.inl ⟨passes, none, rfl⟩)
    · next some => exact .inr (.inr ⟨passes, some, rfl⟩)

@[simp] theorem profile_perform (s : Simulated) (thread : Bool) (c : DriverCall) :
    (s.perform thread c).2.profile = s.profile := by
  cases c with
  | setIoMode mode =>
    rcases s.setIoMode_cases mode with ⟨_, done⟩ | ⟨done, _⟩ <;> rw [perform, done]
  | setRate rate =>
    rcases s.setRate_cases rate with ⟨_, done⟩ | ⟨done, _⟩ <;> rw [perform, done]
  | createBuffers infos period =>
    rcases s.createBuffers_cases infos period with ⟨_, done, _⟩ | ⟨done, _⟩ <;> rw [perform, done]
  | disposeBuffers =>
    rcases s.disposeBuffers_cases with ⟨_, done⟩ | ⟨_, _, done⟩ | ⟨_, _, done⟩ <;>
      rw [perform, done] <;> rfl
  | start =>
    rcases s.start_cases thread with ⟨_, done⟩ | ⟨_, _, _, done⟩ | ⟨_, _, _, done⟩ <;>
      rw [perform, done]
    dsimp only
    split <;> rfl
  | stop =>
    rcases s.stop_cases with ⟨_, done⟩ | ⟨_, done⟩
    · rw [perform, done]
    · rw [perform, done]
      rfl
  | canRate | channelCounts | bufferSizes | channelInfo => rfl

end PlanarSink.Simulated
