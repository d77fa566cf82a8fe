import PlanarSink.Proofs.Lifecycle
import PlanarSink.Proofs.Samples

/-! Connecting to a driver that is not made to fail. All it answers follows from its profile:
a sink is turned away for the rate, where the driver does not play it, and otherwise gets
everything it needs if its format converts to the samples of the driver. -/
namespace PlanarSink

namespace Simulated

/-- The driver in the mode that a sink uses for a rate. -/
def switched (s : Simulated) (options : SinkOptions) (rate : UInt32) : Simulated :=
  { s with mode := Agreement.mode options rate s.mode }

/-- A driver has a mode, unless it is the one-bit mode and the profile does not know of it. -/
def hasMode (s : Simulated) (options : SinkOptions) (rate : UInt32) : Bool :=
  !Agreement.isDsd options rate || s.profile.dsdSampleType.isSome

/-- A driver plays a rate that it offers in the mode for it. -/
def plays (s : Simulated) (options : SinkOptions) (rate : UInt32) : Bool :=
  s.hasMode options rate && (s.switched options rate).supports (.ofNat rate.toNat)

theorem switched_pcm {s : Simulated} {options : SinkOptions} {rate : UInt32}
    (pcm : Agreement.isDsd options rate = false) : s.switched options rate = s := by
  simp [switched, Agreement.mode, pcm]

theorem switched_dsd {s : Simulated} {options : SinkOptions} {rate : UInt32}
    (dsd : Agreement.isDsd options rate = true) :
    s.switched options rate = { s with mode := .dsd } := by
  simp [switched, Agreement.mode, dsd]

theorem supports_tuned (s : Simulated) (options : SinkOptions) (rate : UInt32)
    (other : Binary.Double) :
    (s.tuned options rate).supports other = (s.switched options rate).supports other := by
  unfold supports
  rfl

theorem sampleType_tuned (s : Simulated) (options : SinkOptions) (rate : UInt32) :
    (s.tuned options rate).sampleType = (s.switched options rate).sampleType := by
  unfold sampleType
  rfl

section Willing

variable {s : Simulated} (willing : s.profile.failAt = none)
include willing

theorem guarded_of_willing (point : FailPoint) (body : Except Status α × Simulated) :
    s.guarded point body = body := by
  rw [guarded_eq, if_neg (by simp [willing])]

theorem check_of_willing (point : FailPoint) : s.check point = .ok () := by
  simp [check, willing]

theorem canRate_of_willing (rate : Binary.Double) :
    s.canRate rate = if s.supports rate then .ok () else .error .noClock := by
  rw [canRate, check_of_willing willing]
  rfl

theorem setRate_of_willing {rate : Binary.Double} (offered : s.supports rate = true) :
    s.setRate rate = (.ok (), { s with rate }) := by
  rw [setRate, guarded_of_willing willing, if_pos offered]

theorem setIoMode_of_willing (bare : s.buffers = []) (mode : IoMode) :
    s.setIoMode mode =
      if mode = .dsd ∧ s.profile.dsdSampleType = none then (.error .notPresent, s)
      else (.ok (), { s with mode }) := by
  rw [setIoMode, guarded_of_willing willing, if_neg (Decidable.not_not.mpr bare)]

theorem channelCounts_of_willing :
    s.channelCounts = .ok ⟨s.profile.inputChannels, s.profile.outputChannels⟩ := by
  rw [channelCounts, check_of_willing willing]
  rfl

theorem bufferSizes_of_willing : s.bufferSizes =
    .ok ⟨s.profile.minPeriod, s.profile.maxPeriod, s.profile.preferredPeriod, -1⟩ := by
  rw [bufferSizes, check_of_willing willing]
  rfl

theorem channelInfo_of_willing (someOutputs : 0 < s.profile.outputChannels) :
    ∃ info, s.channelInfo 0 false = .ok info ∧ info.sampleType = s.sampleType := by
  have there : ¬ s.profile.channelCount false ≤ 0 := by
    simpa [Profile.channelCount] using Nat.ne_of_gt someOutputs
  rw [channelInfo, check_of_willing willing]
  simp only [bind, Except.bind, if_neg there]
  exact ⟨_, rfl, rfl⟩

theorem createBuffers_of_willing {infos : List BufferInfo} {period : Nat}
    (least : s.profile.minPeriod ≤ period) (greatest : period ≤ s.profile.maxPeriod)
    (known : infos.all s.hasChannel = true) (bare : s.buffers = [])
    (someBytes : s.halfBytes period ≠ 0) (fits : s.halfBytes period < Size.bound)
    (short : s.tooLong infos.length period = false) :
    ∃ created driver, s.createBuffers infos period = (.ok created, driver) := by
  rw [createBuffers, check_of_willing willing]
  dsimp only
  rw [if_neg (by omega), if_neg (by simp [known]), if_neg (Decidable.not_not.mpr bare),
    if_neg (Nat.not_le.mpr fits), if_neg someBytes, if_neg (by simp [short])]
  exact ⟨_, _, rfl⟩

theorem start_of_willing (furnished : s.buffers ≠ []) {thread : Bool}
    (clocked : s.profile.clock = true → thread = true) :
    ∃ driver, s.start thread = (.ok (), driver) := by
  rw [start, guarded_of_willing willing, if_neg furnished]
  split
  · exact ⟨_, rfl⟩
  · rw [if_neg (by simpa using clocked)]
    exact ⟨_, rfl⟩

end Willing

theorem hasChannel_outputs {s : Simulated} (numbered : s.profile.outputChannels ≤ 0x80000000) :
    ((List.range s.profile.outputChannels).map BufferInfo.output).all s.hasChannel = true := by
  rw [List.all_map, List.all_eq_true]
  intro channel member
  have below := List.mem_range.mp member
  have number := @Int32.toInt_ofNat_of_lt channel (by omega)
  simp only [Function.comp_apply, hasChannel, BufferInfo.output, BufferInfo.wanted, number,
    Profile.channelCount]
  simp [below]

end Simulated

/-- A profile that a sink can be connected to: the driver has outputs, as many as a signed number
of 32 bits can count, and is fine with the period it prefers, of as many frames as a word of 32
bits can count. -/
structure Profile.Workable (profile : Profile) : Prop where
  willing : profile.failAt = none
  someOutputs : 1 ≤ profile.outputChannels
  numbered : profile.outputChannels ≤ 0x80000000
  somePeriod : 1 ≤ profile.preferredPeriod
  counted : profile.preferredPeriod ≤ 0x100000000
  least : profile.minPeriod ≤ profile.preferredPeriod
  greatest : profile.preferredPeriod ≤ profile.maxPeriod

/-- There is memory for whatever a sink with the standard options and a driver of the profile may
agree on, and a thread for the clock of the driver. -/
structure Supply.Serves (supply : Supply) (profile : Profile) : Prop where
  memory : ∀ (agreement : Agreement) (rate : UInt32), agreement.planes = profile.outputChannels →
    agreement.periodFrames = profile.preferredPeriod →
    supply.hasRing (agreement.geometry .standard rate).capacity agreement.planes = true ∧
      supply.hasScratch (agreement.blockBytes .standard rate) = true
  thread : profile.clock = true → supply.thread = true

namespace Profile.Workable

variable {profile : Profile} (workable : profile.Workable)
include workable

/-- The standard options lead to blocks of no more than 32 gigabytes, three of which each plane is
to hold. -/
theorem sizes {agreement : Agreement} (period : agreement.periodFrames = profile.preferredPeriod)
    (rate : UInt32) : agreement.blockBytes .standard rate ≤ 0x800000000 ∧
      (agreement.geometry .standard rate).capacity ≤ 0x1800000000 := by
  have counted : agreement.periodFrames ≤ 0x100000000 := period ▸ workable.counted
  have periodBytes : agreement.periodBytes ≤ 0x800000000 :=
    Nat.mul_le_mul counted agreement.sampleType.bytes_le
  have chunkBytes : agreement.chunkBytes .standard rate ≤ 0x800000000 := by
    have second : rate.toNat * agreement.sampleType.bits ≤ 0x100000000 * 64 :=
      Nat.mul_le_mul (Nat.le_of_lt rate.toNat_lt) agreement.sampleType.bits_le
    exact Nat.le_trans (Nat.div_le_self _ _) (by omega)
  have block : agreement.blockBytes .standard rate ≤ 0x800000000 :=
    Nat.max_le.mpr ⟨chunkBytes, periodBytes⟩
  exact ⟨block, Nat.le_trans (Nat.sub_le _ _)
    (Nat.le_trans (Size.saturatingMul_le _ _) (Nat.mul_le_mul_left 3 block))⟩

/-- With that much memory, and a thread where one is needed, the driver can be served. -/
theorem served {supply : Supply} (ring : 0x1800000000 * profile.outputChannels ≤ supply.ring)
    (scratch : 0x800000000 ≤ supply.scratch)
    (thread : profile.clock = true → supply.thread = true) : supply.Serves profile := by
  refine ⟨fun agreement rate planes period => ?_, thread⟩
  obtain ⟨block, capacity⟩ := workable.sizes period rate
  have whole : max (agreement.geometry .standard rate).capacity 1 * agreement.planes ≤
      supply.ring := by
    rw [planes]
    exact Nat.le_trans (Nat.mul_le_mul_right _ (Nat.max_le.mpr ⟨capacity, by decide⟩)) ring
  exact ⟨decide_eq_true whole, decide_eq_true (Nat.le_trans block scratch)⟩

end Profile.Workable

theorem Host.acquire_of_granted {host : Host} (granted : host.refusing = false) :
    host.acquire = (.ok (), { host with held := host.held + 1 }) := by
  rw [acquire, if_neg (Bool.eq_false_iff.mp granted)]

namespace Session

variable {σ : Type} [Backend σ] {number : Nat} {thread : Bool}
  {place : Simulated → σ}

section Willing

variable {driver : Simulated} (willing : driver.profile.failAt = none) (bare : driver.buffers = [])
include willing bare

theorem ends_enterMode_of_willing (placed : Placed number thread place) (options : SinkOptions)
    (rate : UInt32) (left : StreamFormat) {ok : Unit → Opening σ → Prop}
    {failed : Interruption → Opening σ → Prop} :
    (enterMode options rate number).Ends ⟨place driver, left⟩ ok failed ↔
      if driver.hasMode options rate = true then
        ok () ⟨place (driver.switched options rate), left⟩
      else failed (.failure (.modeUnsupported .notPresent)) ⟨place driver, left⟩ := by
  unfold enterMode Simulated.hasMode Simulated.switched Agreement.mode
  by_cases dsd : Agreement.isDsd options rate = true
  · rw [if_pos dsd, OpeningM.ends_call placed, Simulated.perform,
      Simulated.setIoMode_of_willing willing bare]
    cases present : driver.profile.dsdSampleType <;> simp [dsd, DriverCall.interruption]
  · simp [dsd]

/-- A rate that the driver does not play ends the negotiation, and is what it ends for. -/
theorem ends_negotiate_of_not_plays (placed : Placed number thread place) {options : SinkOptions}
    {format : StreamFormat} (unplayed : driver.plays options format.sampleRate = false)
    (left : StreamFormat) :
    (negotiate options format number).Ends ⟨place driver, left⟩ (fun _ _ => False)
      (fun interruption _ => ∃ status,
        interruption = .failure (.unsupportedRate format.sampleRate status) ∨
          interruption = .failure (.modeUnsupported status)) := by
  unfold negotiate
  rw [OpeningM.ends_bind, ends_enterMode_of_willing willing bare placed]
  split
  · next entered =>
    have unsupported : (driver.switched options format.sampleRate).supports
        (.ofNat format.sampleRate.toNat) = false := by
      simpa [Simulated.plays, entered] using unplayed
    have switched : (driver.switched options format.sampleRate).profile.failAt = none := willing
    rw [OpeningM.ends_bind, OpeningM.ends_call placed, Simulated.perform,
      Simulated.canRate_of_willing switched, unsupported]
    exact ⟨_, .inl rfl⟩
  · exact ⟨_, .inr rfl⟩

/-- A driver that plays the rate agrees with a sink whose format converts to its samples. -/
theorem ends_negotiate_of_plays (placed : Placed number thread place) {options : SinkOptions}
    {format : StreamFormat} (played : driver.plays options format.sampleRate = true)
    (someOutputs : 0 < driver.profile.outputChannels)
    (somePeriod : 0 < driver.profile.preferredPeriod) {codec : Codec}
    (resolved : Codec.resolve format.dataFormat
      (driver.switched options format.sampleRate).sampleType = .ok codec) (left : StreamFormat) :
    (negotiate options format number).Ends ⟨place driver, left⟩
      (fun agreement after => Agreed options format driver agreement ∧
        after = ⟨place (driver.tuned options format.sampleRate), left⟩)
      (fun _ _ => False) := by
  obtain ⟨entered, offered⟩ := Bool.and_eq_true_iff.mp played
  unfold negotiate
  rw [OpeningM.ends_bind, ends_enterMode_of_willing willing bare placed, if_pos entered]
  have switched : (driver.switched options format.sampleRate).profile.failAt = none := willing
  rw [OpeningM.ends_bind, OpeningM.ends_call placed, Simulated.perform,
    Simulated.canRate_of_willing switched, if_pos offered]
  dsimp only
  rw [OpeningM.ends_bind, OpeningM.ends_call placed, Simulated.perform,
    Simulated.setRate_of_willing switched offered]
  change OpeningM.Ends _ ⟨place (driver.tuned options format.sampleRate), left⟩ _ _
  have tuned : (driver.tuned options format.sampleRate).profile.failAt = none := willing
  rw [OpeningM.ends_bind, OpeningM.ends_call placed, Simulated.perform,
    Simulated.channelCounts_of_willing tuned]
  dsimp only
  rw [OpeningM.ends_bind, OpeningM.ends_require]
  refine ⟨fun _ => ?_, fun none => absurd (bne_eq_false_iff_eq.mp none) (Nat.ne_of_gt someOutputs)⟩
  rw [OpeningM.ends_bind, OpeningM.ends_call placed, Simulated.perform,
    Simulated.bufferSizes_of_willing tuned]
  dsimp only
  rw [OpeningM.ends_bind, OpeningM.ends_require]
  refine ⟨fun _ => ?_, fun none => absurd (bne_eq_false_iff_eq.mp none) (Nat.ne_of_gt somePeriod)⟩
  obtain ⟨info, informed, sampleType⟩ := Simulated.channelInfo_of_willing tuned someOutputs
  rw [OpeningM.ends_bind, OpeningM.ends_call placed, Simulated.perform, informed]
  dsimp only
  rw [sampleType, Simulated.sampleType_tuned, resolved]
  rw [← Simulated.supports_tuned] at offered
  exact ⟨⟨offered, rfl, Nat.ne_of_gt someOutputs, rfl, Nat.ne_of_gt somePeriod,
    (Simulated.sampleType_tuned ..).symm, resolved⟩, rfl⟩

end Willing

variable {seat : Seat} {host : Host} {slot : Slot Feed}

/-- With addressed buffers and all the memory and threads it needs, a driver that is not made to
fail is started, where the bits of a frame and the bytes of a period can be counted. -/
theorem ends_begin_of_willing (present : seat.host < seat.studio.hosts.length)
    {agreement : Agreement} {infos : List BufferInfo}
    (addressed : infos.all BufferInfo.addressed = true) (driver : Simulated)
    (workable : driver.profile.Workable) (furnished : driver.buffers ≠ []) {format : StreamFormat}
    (frame : Agreement.frameBits format < Size.bound)
    (planes : agreement.planes = driver.profile.outputChannels)
    (preferred : agreement.periodFrames = driver.profile.preferredPeriod)
    (serves : seat.studio.supply.Serves driver.profile) :
    (begin .standard host.opened.length agreement infos).Ends
      ⟨seat.place (host.withOpened ⟨driver, true⟩) slot, format⟩ (fun _ _ => True)
      (fun _ _ => False) := by
  obtain ⟨room, reserved⟩ := serves.memory agreement format.sampleRate planes preferred
  obtain ⟨block, capacity⟩ := workable.sizes preferred format.sampleRate
  have period : agreement.periodBytes < Size.bound :=
    Nat.lt_of_le_of_lt (Nat.le_trans (Nat.le_max_right _ _) block) (by decide)
  obtain ⟨started, done⟩ := Simulated.start_of_willing workable.willing furnished serves.thread
  unfold begin provide
  rw [OpeningM.ends_bind, OpeningM.ends_require]
  refine ⟨fun _ => ?_, fun missing => Bool.noConfusion (addressed.symm.trans missing)⟩
  rw [OpeningM.ends_bind, OpeningM.ends_get, OpeningM.ends_bind, OpeningM.ends_require]
  refine ⟨fun _ => ?_, fun large => absurd frame (of_decide_eq_false large)⟩
  rw [OpeningM.ends_bind, OpeningM.ends_setFormat, OpeningM.ends_bind, OpeningM.ends_require]
  refine ⟨fun _ => ?_, fun large => absurd period (of_decide_eq_false large)⟩
  rw [OpeningM.ends_bind, OpeningM.ends_bind, Seat.ends_ask present, OpeningM.ends_bind,
    OpeningM.ends_require]
  have given : (decide ((agreement.geometry .standard format.sampleRate).capacity ≤ Size.longest) &&
      seat.studio.supply.hasRing (agreement.geometry .standard format.sampleRate).capacity
        agreement.planes) = true := by
    rw [room, decide_eq_true (Nat.le_trans capacity (by decide))]
    rfl
  refine ⟨fun _ => ?_, fun missing => Bool.noConfusion (given.symm.trans missing)⟩
  have kept : (decide (agreement.blockBytes .standard format.sampleRate ≤ Size.longest) &&
      seat.studio.supply.hasScratch (agreement.blockBytes .standard format.sampleRate)) = true := by
    rw [reserved, decide_eq_true (Nat.le_trans block (by decide))]
    rfl
  rw [OpeningM.ends_bind, Seat.ends_ask present, OpeningM.ends_require]
  refine ⟨fun _ => ?_, fun missing => Bool.noConfusion (kept.symm.trans missing)⟩
  rw [OpeningM.ends_bind, OpeningM.ends_get, OpeningM.ends_bind, Seat.ends_ask present]
  simp only [Seat.effect]
  rw [OpeningM.ends_bind, OpeningM.ends_call (Seat.placed_withOpened present host _),
    Simulated.perform, done]
  trivial

theorem createBuffers_workable {driver : Simulated} (workable : driver.profile.Workable)
    (bare : driver.buffers = []) {agreement : Agreement}
    (planes : agreement.planes = driver.profile.outputChannels)
    (period : agreement.periodFrames = driver.profile.preferredPeriod)
    (sampleType : agreement.sampleType = driver.sampleType)
    (someBytes : agreement.periodBytes ≠ 0) (fits : agreement.periodBytes ≤ Size.longest) :
    ∃ infos : List BufferInfo, infos.all BufferInfo.addressed = true ∧
      driver.createBuffers ((List.range agreement.planes).map BufferInfo.output)
        agreement.periodFrames = (.ok infos, furnished driver agreement) := by
  rcases createBuffers_agreed sampleType with
    ⟨fault, refused, _⟩ | ⟨infos, addressed, done, _⟩
  · have half : driver.halfBytes agreement.periodFrames = agreement.periodBytes := by
      rw [Simulated.halfBytes, ← sampleType, Agreement.periodBytes]
    have few : ¬Size.longest < driver.profile.outputChannels * DoubleBuffer.bytes :=
      Nat.not_lt.mpr (Nat.le_trans (Nat.mul_le_mul_right _ workable.numbered) (by decide))
    have short : driver.tooLong ((List.range driver.profile.outputChannels).map
        BufferInfo.output).length driver.profile.preferredPeriod = false := by
      rw [Simulated.tooLong, ← period, half]
      simp [few, fits]
    rw [← half, period] at someBytes fits
    obtain ⟨created, next, accepted⟩ := Simulated.createBuffers_of_willing workable.willing
      workable.least workable.greatest (Simulated.hasChannel_outputs workable.numbered) bare
      someBytes (Nat.lt_of_le_of_lt fits (by decide)) short
    rw [planes, period, accepted] at refused
    simp at refused
  · exact ⟨infos, addressed, done⟩

theorem ends_engage_of_plays (present : seat.host < seat.studio.hosts.length) {profile : Profile}
    (workable : profile.Workable) (serves : seat.studio.supply.Serves profile)
    {format : StreamFormat} (frame : Agreement.frameBits format < Size.bound)
    (played : (Simulated.boot profile).plays .standard format.sampleRate = true) {codec : Codec}
    (resolved : Codec.resolve format.dataFormat
      ((Simulated.boot profile).switched .standard format.sampleRate).sampleType = .ok codec) :
    (engage .standard host.opened.length).Ends
      ⟨seat.place (host.withOpened ⟨.boot profile, true⟩) slot, format⟩ (fun _ _ => True)
      (fun _ _ => False) := by
  unfold engage
  have placed := Seat.placed_withOpened present host slot
  rw [OpeningM.ends_bind, OpeningM.ends_get, OpeningM.ends_bind]
  apply (ends_negotiate_of_plays workable.willing rfl placed played workable.someOutputs
    workable.somePeriod resolved format).imp
  case failure => exact fun _ _ impossible => impossible.elim
  rintro agreement _ ⟨agreed, rfl⟩
  have few : agreement.planes * BufferInfo.bytes ≤ Size.longest := by
    rw [agreed.planes]
    exact Nat.le_trans (Nat.mul_le_mul_right _ workable.numbered) (by decide)
  have someBytes : agreement.periodBytes ≠ 0 := by
    have bytes := Codec.bytes_pos_of_resolve agreed.codec
    exact Nat.ne_of_gt (Nat.mul_pos (Nat.pos_of_ne_zero agreed.somePeriod) bytes)
  have fits : agreement.periodBytes ≤ Size.longest :=
    Nat.le_trans (Nat.le_max_right _ _)
      (Nat.le_trans (workable.sizes agreed.period format.sampleRate).1 (by decide))
  rw [OpeningM.ends_bind, OpeningM.ends_require]
  refine ⟨fun _ => ?_, fun many => absurd few (of_decide_eq_false many)⟩
  have tuned : ((Simulated.boot profile).tuned .standard format.sampleRate).profile.Workable :=
    workable
  obtain ⟨infos, addressed, created⟩ := createBuffers_workable tuned rfl agreed.planes
    agreed.period agreed.sampleType someBytes fits
  rw [OpeningM.ends_bind, OpeningM.ends_call placed, Simulated.perform, created]
  dsimp only
  rw [OpeningM.ends_undoing]
  apply ends_begin_of_willing present addressed
    (furnished ((Simulated.boot profile).tuned .standard format.sampleRate) agreement)
    workable ?_ frame agreed.planes agreed.period serves
  simpa [furnished] using agreed.somePlanes

theorem ends_engage_of_not_plays (present : seat.host < seat.studio.hosts.length)
    {profile : Profile} (willing : profile.failAt = none) {options : SinkOptions}
    {format : StreamFormat}
    (unplayed : (Simulated.boot profile).plays options format.sampleRate = false) :
    (engage options host.opened.length).Ends
      ⟨seat.place (host.withOpened ⟨.boot profile, true⟩) slot, format⟩ (fun _ _ => False)
      (fun interruption _ => ∃ status,
        interruption = .failure (.unsupportedRate format.sampleRate status) ∨
          interruption = .failure (.modeUnsupported status)) := by
  unfold engage
  have placed := Seat.placed_withOpened present host slot
  rw [OpeningM.ends_bind, OpeningM.ends_get, OpeningM.ends_bind]
  apply (ends_negotiate_of_not_plays willing rfl placed unplayed format).imp
  · exact fun _ _ impossible => impossible.elim
  · exact fun _ _ told => told

theorem ends_openOn_of_engage (present : seat.host < seat.studio.hosts.length)
    (granted : host.refusing = false) (unclaimed : slot.claimed = false) {options : SinkOptions}
    {device : String} {profile : Profile} (found : host.profile? device = some profile)
    (works : profile.failAt ≠ some .openDriver) {format : StreamFormat} {ok : Prop}
    {failed : Interruption → Prop}
    (ends : (engage options host.opened.length).Ends
      ⟨seat.place ({ host with held := host.held + 1 }.withOpened ⟨.boot profile, true⟩)
        ⟨true, slot.target⟩, format⟩ (fun _ _ => ok) (fun interruption _ => failed interruption)) :
    (openOn options device).Ends ⟨seat.place host slot, format⟩ (fun _ _ => ok)
      (fun interruption _ => failed interruption) := by
  have opened : { host with held := host.held + 1 }.openDriver device =
      (.ok host.opened.length,
        { host with held := host.held + 1 }.withOpened ⟨.boot profile, true⟩) := by
    have again : { host with held := host.held + 1 }.profile? device = some profile := found
    rw [Host.openDriver, again]
    dsimp only
    rw [if_neg works]
    rfl
  have claimed : slot.claim = (true, ⟨true, slot.target⟩) := by
    rw [Slot.claim, if_neg (Bool.eq_false_iff.mp unclaimed)]
  unfold openOn
  rw [OpeningM.ends_bind, Seat.ends_ask present, OpeningM.ends_bind, OpeningM.ends_expect]
  simp only [Seat.effect, Host.acquire_of_granted granted]
  rw [OpeningM.ends_undoing, OpeningM.ends_bind, Seat.ends_ask present, OpeningM.ends_bind,
    OpeningM.ends_require]
  simp only [Seat.effect, claimed]
  refine ⟨fun _ => ?_, fun impossible => Bool.noConfusion impossible⟩
  rw [OpeningM.ends_undoing, OpeningM.ends_bind, Seat.ends_ask present, OpeningM.ends_bind,
    OpeningM.ends_expect]
  simp only [Seat.effect, opened]
  rw [OpeningM.ends_undoing]
  exact ends

end Session

namespace Studio

variable {studio : Studio} {sink : Nat} {seated : SeatedSink}

/-- An attempt to connect has the outcome of opening a session. -/
theorem connect_outcome (found : studio.sink? sink = some seated)
    (idle : seated.sink.session = none) {format : StreamFormat} {device : String} {ok : Prop}
    {failed : Interruption → Prop}
    (ends : OpeningM.Ends
      (Session.openOn seated.sink.options.normalized device : OpeningM Seat Session)
      ⟨⟨sink, seated.host, studio⟩, format⟩ (fun _ _ => ok)
      (fun interruption _ => failed interruption)) :
    match (studio.connect sink format device).1.1 with
    | .ok () => ok
    | .error interruption => failed interruption := by
  rw [connect, onSink_of_sink? found]
  simp only [bind, StateT.bind, seat_pure, Sink.connect, idle, ExceptT.run]
  unfold OpeningM.Ends at ends
  generalize (Session.openOn seated.sink.options.normalized device : OpeningM Seat Session) _ =
    outcome at ends ⊢
  rcases outcome with ⟨failure | session, after⟩
  · exact ends
  · exact ends

section Standard

variable {host : Host} {profile : Profile} {device : String} {format : StreamFormat}
  (found : studio.sink? sink = some seated) (idle : seated.sink.session = none)
  (standard : seated.sink.options = .standard) (unclaimed : studio.slot.claimed = false)
  (present : studio.hosts[seated.host]? = some host) (granted : host.refusing = false)
  (listed : host.profile? device = some profile)
include found idle standard unclaimed present granted listed

theorem connect_standard (works : profile.failAt ≠ some .openDriver) {ok : Prop}
    {failed : Interruption → Prop}
    (ends : ∀ (seat : Seat) (host : Host) (slot : Slot Feed),
      seat.host < seat.studio.hosts.length → seat.studio.supply = studio.supply →
      (Session.engage .standard host.opened.length).Ends
        ⟨seat.place (host.withOpened ⟨.boot profile, true⟩) slot, format⟩ (fun _ _ => ok)
        (fun interruption _ => failed interruption)) :
    match (studio.connect sink format device).1.1 with
    | .ok () => ok
    | .error interruption => failed interruption := by
  have inside := (List.getElem?_eq_some_iff.mp present).1
  have opening := @Session.ends_openOn_of_engage ⟨sink, seated.host, studio⟩ host studio.slot inside
    granted unclaimed .standard device profile listed works format ok failed (ends _ _ _ inside rfl)
  rw [Seat.place, place_self present] at opening
  apply connect_outcome found idle
  rw [standard]
  exact opening

theorem connect_of_plays (workable : profile.Workable) (serves : studio.supply.Serves profile)
    (frame : Agreement.frameBits format < Size.bound)
    (played : (Simulated.boot profile).plays .standard format.sampleRate = true) {codec : Codec}
    (resolved : Codec.resolve format.dataFormat
      ((Simulated.boot profile).switched .standard format.sampleRate).sampleType = .ok codec) :
    (studio.connect sink format device).1.1 = .ok () := by
  have outcome := connect_standard found idle standard unclaimed present granted listed
    (by simp [workable.willing]) fun _ _ _ inside same =>
      Session.ends_engage_of_plays inside workable (same ▸ serves) frame played resolved
  split at outcome
  · next done => exact done
  · exact outcome.elim

theorem connect_of_not_plays (willing : profile.failAt = none)
    (unplayed : (Simulated.boot profile).plays .standard format.sampleRate = false) :
    ∃ status, (studio.connect sink format device).1.1 =
        .error (.failure (.unsupportedRate format.sampleRate status)) ∨
      (studio.connect sink format device).1.1 = .error (.failure (.modeUnsupported status)) := by
  have outcome := connect_standard found idle standard unclaimed present granted listed
    (by simp [willing]) fun _ _ _ inside _ =>
      Session.ends_engage_of_not_plays inside willing unplayed
  split at outcome
  · exact outcome.elim
  · next failure done =>
    obtain ⟨status, rfl | rfl⟩ := outcome
    · exact ⟨status, .inl done⟩
    · exact ⟨status, .inr done⟩

end Standard

end Studio

end PlanarSink
