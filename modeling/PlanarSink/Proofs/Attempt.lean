import PlanarSink.Proofs.Places

/-! How an attempt to open a session ends: with everything a session needs, or with
nothing but a driver that was dropped and stands still. -/
namespace PlanarSink

/-- A driver as a failed attempt leaves it. -/
structure Remnant (opened : OpenedDriver) : Prop where
  dropped : opened.live = false
  still : opened.driver.running = false
  bare : opened.driver.buffers = [] ∨ opened.driver.profile.failAt = some .disposeBuffers

theorem remnant_disposeBuffers (driver : Simulated) :
    Remnant ⟨driver.disposeBuffers.2.halt, false⟩ := by
  refine ⟨rfl, rfl, ?_⟩
  rcases driver.disposeBuffers_cases with ⟨fails, done⟩ | ⟨_, bare, done⟩ | ⟨_, _, done⟩
  · rw [done]
    exact .inr fails
  · rw [done]
    exact .inl bare
  · rw [done]
    exact .inl rfl

/-- A failed attempt leaves the record of its host with at most one remnant, and with
a lease given back where one was taken. -/
def Host.RolledBack (before after : Host) : Prop :=
  ∃ remnants : List OpenedDriver, remnants.length ≤ 1 ∧ (∀ opened ∈ remnants, Remnant opened) ∧
    after = { before with
      releases := before.releases + if before.refusing then 0 else 1
      opened := before.opened ++ remnants }

namespace Host

theorem RolledBack.refused {host : Host} (refusing : host.refusing = true) :
    host.RolledBack host :=
  ⟨[], by simp, by simp, by rw [if_pos refusing, List.append_nil, Nat.add_zero]⟩

theorem RolledBack.unopened {host : Host} (granted : host.refusing = false) :
    host.RolledBack { host with held := host.held + 1 }.release :=
  ⟨[], by simp, by simp, by simp [release, granted]⟩

theorem RolledBack.dropped {host : Host} (granted : host.refusing = false)
    {opened : OpenedDriver} (remnant : Remnant opened) :
    host.RolledBack ({ host with held := host.held + 1 }.withOpened opened).release :=
  ⟨[opened], by simp, by simpa using remnant, by simp [release, withOpened, granted]⟩

end Host

/-- A failed attempt leaves the slot alone, or gives up the claim it made. -/
def Slot.RolledBack (before after : Slot Feed) : Prop :=
  after = before ∨ before.claimed = false ∧ after = .free

namespace Profile

/-- The sample type of the channels in the mode that a rate asks for. -/
def sampleTypeAt (profile : Profile) (options : SinkOptions) (rate : UInt32) : SampleType :=
  profile.sampleTypeIn (Agreement.mode options rate .pcm)

/-- The bits of a frame cannot be counted, or the buffers of a driver are longer than lists in
memory can be. -/
def Oversized (profile : Profile) (options : SinkOptions) (format : StreamFormat) : Prop :=
  Size.bound ≤ Agreement.frameBits format ∨
    Size.longest < profile.outputChannels * DoubleBuffer.bytes ∨
    Size.longest < profile.preferredPeriod * (profile.sampleTypeAt options format.sampleRate).bytes

end Profile

/-- The sizes that follow from an agreement can be counted, and lists in memory can be as long. -/
structure Agreement.InMemory (agreement : Agreement) (options : SinkOptions)
    (format : StreamFormat) : Prop where
  frame : Agreement.frameBits format < Size.bound
  ring : (agreement.geometry options format.sampleRate).capacity ≤ Size.longest
  block : agreement.blockBytes options format.sampleRate ≤ Size.longest

namespace Agreed

variable {options : SinkOptions} {format : StreamFormat} {profile : Profile}
  {agreement : Agreement} (agreed : Agreed options format (.boot profile) agreement)
include agreed

theorem sampleTypeAt :
    agreement.sampleType = profile.sampleTypeAt options format.sampleRate :=
  agreed.sampleType

theorem oversized_of_planes (many : Size.longest < agreement.planes * DoubleBuffer.bytes) :
    profile.Oversized options format := by
  rw [agreed.planes] at many
  exact .inr (.inl many)

theorem oversized_of_infos (many : Size.longest < agreement.planes * BufferInfo.bytes) :
    profile.Oversized options format :=
  agreed.oversized_of_planes (Nat.lt_of_lt_of_le many (Nat.mul_le_mul_left _ (by decide)))

theorem oversized_of_period (long : Size.longest < agreement.periodBytes) :
    profile.Oversized options format := by
  rw [Agreement.periodBytes, agreed.period, agreed.sampleTypeAt] at long
  exact .inr (.inr long)

end Agreed

namespace Session

/-- The format that a caller is left with once a session could be sized. -/
def settled (options : SinkOptions) (format : StreamFormat) : StreamFormat :=
  { format with
    frameSize := Agreement.frameSize format
    frames := Agreement.chunkFrames options format.sampleRate }

/-- The session that an agreement leads to, with an empty ring. -/
def fresh (options : SinkOptions) (format : StreamFormat) (driver : Nat) (agreement : Agreement) :
    Session :=
  let geometry := agreement.geometry options format.sampleRate
  ⟨driver, true, .empty geometry.capacity geometry.planes, agreement.codec,
    settled options format, geometry, 0, []⟩

variable {seat : Seat} {host : Host} {slot : Slot Feed}

theorem ends_provide (present : seat.host < seat.studio.hosts.length) (options : SinkOptions)
    (rate : UInt32) (agreement : Agreement) (format : StreamFormat) :
    (provide options rate agreement).Ends ⟨seat.place host slot, format⟩
      (fun _ after => (agreement.geometry options rate).capacity ≤ Size.longest ∧
        agreement.blockBytes options rate ≤ Size.longest ∧
        after = ⟨seat.place host slot, format⟩)
      (fun interruption after => interruption ≠ .panic ∧
        after = ⟨seat.place host slot, format⟩) := by
  unfold provide
  rw [OpeningM.ends_bind, Seat.ends_ask present, OpeningM.ends_bind, OpeningM.ends_require]
  refine ⟨fun room => ?_, fun _ => ⟨Interruption.failure_ne_panic _, rfl⟩⟩
  rw [OpeningM.ends_bind, Seat.ends_ask present, OpeningM.ends_require]
  refine ⟨fun block => ?_, fun _ => ⟨Interruption.failure_ne_panic _, rfl⟩⟩
  simp only [Seat.effect, Bool.and_eq_true, decide_eq_true_eq] at room block
  exact ⟨room.1, block.1, rfl⟩

/-- With addressed buffers, only sizes, memory and the driver's start can be in the way. -/
theorem ends_begin (present : seat.host < seat.studio.hosts.length) (options : SinkOptions)
    (agreement : Agreement) {infos : List BufferInfo}
    (addressed : infos.all BufferInfo.addressed = true) (driver : Simulated)
    (still : driver.running = false) (format : StreamFormat) :
    (begin options host.opened.length agreement infos).Ends
      ⟨seat.place (host.withOpened ⟨driver, true⟩) slot, format⟩
      (fun session after => agreement.InMemory options format ∧
        driver.profile.failAt ≠ some .start ∧
        (driver.profile.clock = true → seat.studio.supply.thread = true) ∧
        session = fresh options format host.opened.length agreement ∧
        after = ⟨seat.place
            (host.withOpened ⟨{ driver with running := true, nextHalf := .first }, true⟩)
            (slot.install ⟨seat.sink, seat.host, session.driver, session.dispatcher⟩),
          settled options format⟩)
      (fun interruption after =>
        (interruption = .panic →
          Size.bound ≤ Agreement.frameBits format ∨ Size.bound ≤ agreement.periodBytes) ∧
        ∃ nextHalf slot left,
          after = ⟨seat.place (host.withOpened ⟨{ driver with nextHalf }, true⟩) slot, left⟩) := by
  unfold begin
  rw [OpeningM.ends_bind, OpeningM.ends_require]
  refine ⟨fun _ => ?_, fun missing => Bool.noConfusion (addressed.symm.trans missing)⟩
  rw [OpeningM.ends_bind, OpeningM.ends_get, OpeningM.ends_bind, OpeningM.ends_require]
  refine ⟨fun frame => ?_, fun large => ⟨fun _ => .inl ?_, driver.nextHalf, slot, _, rfl⟩⟩
  case refine_2 => exact Nat.not_lt.mp (of_decide_eq_false large)
  rw [OpeningM.ends_bind, OpeningM.ends_setFormat, OpeningM.ends_bind, OpeningM.ends_require]
  refine ⟨fun _ => ?_, fun large => ⟨fun _ => .inr ?_, driver.nextHalf, slot, _, rfl⟩⟩
  case refine_2 => exact Nat.not_lt.mp (of_decide_eq_false large)
  rw [OpeningM.ends_bind]
  apply (ends_provide present options format.sampleRate agreement _).imp
  case failure =>
    rintro _ _ ⟨returned, rfl⟩
    exact ⟨fun panicked => absurd panicked returned, driver.nextHalf, slot, _, rfl⟩
  rintro _ _ ⟨ring, block, rfl⟩
  rw [OpeningM.ends_bind, OpeningM.ends_get, OpeningM.ends_bind, Seat.ends_ask present]
  simp only [Seat.effect]
  rw [OpeningM.ends_bind, OpeningM.ends_call (Seat.placed_withOpened present host _),
    Simulated.perform]
  rcases driver.start_cases seat.studio.supply.thread with
    ⟨status, done⟩ | ⟨_, _, _, done⟩ | ⟨starts, _, clocked, done⟩
  · rw [done]
    exact ⟨(Interruption.failure_ne_panic _).elim, driver.nextHalf, _, _, rfl⟩
  · rw [done]
    exact ⟨(Interruption.failure_ne_panic _).elim, .first, _, _, rfl⟩
  · rw [done]
    simp only [still]
    exact ⟨⟨of_decide_eq_true frame, ring, block⟩, starts, clocked still, rfl, rfl⟩

/-- What an opened driver must grant before it is started for a session, where a thread can be had
or not. -/
structure Engagement (thread : Bool) (options : SinkOptions) (format : StreamFormat)
    (profile : Profile) (agreement : Agreement) : Prop where
  agreed : Agreed options format (.boot profile) agreement
  least : profile.minPeriod ≤ agreement.periodFrames
  greatest : agreement.periodFrames ≤ profile.maxPeriod
  someBytes : agreement.periodBytes ≠ 0
  inMemory : agreement.InMemory options format
  starts : profile.failAt ≠ some .start
  clocked : profile.clock = true → thread = true

/-- A driver with its buffers for an agreement, which hold zeros. -/
def furnished (driver : Simulated) (agreement : Agreement) : Simulated :=
  { driver with
    buffers := List.replicate agreement.planes
      (.filled agreement.periodBytes 0)
    period := agreement.periodFrames
    registered := true
    nextHalf := .first }

/-- The driver of a session that was just opened. -/
def engaged (options : SinkOptions) (format : StreamFormat) (profile : Profile)
    (agreement : Agreement) : Simulated :=
  { furnished ((Simulated.boot profile).tuned options format.sampleRate) agreement with
    running := true }

/-- The buffers of an agreement are addressed, or the driver stays as it was. -/
theorem createBuffers_agreed {driver : Simulated} {agreement : Agreement}
    (sampleType : agreement.sampleType = driver.sampleType) :
    (∃ fault, driver.createBuffers ((List.range agreement.planes).map BufferInfo.output)
        agreement.periodFrames = (.error fault, driver) ∧
        (fault = .panic → Size.longest < agreement.planes * DoubleBuffer.bytes ∨
          Size.longest < agreement.periodBytes)) ∨
      ∃ infos : List BufferInfo, infos.all BufferInfo.addressed = true ∧
        driver.createBuffers ((List.range agreement.planes).map BufferInfo.output)
          agreement.periodFrames = (.ok infos, furnished driver agreement) ∧
        driver.profile.minPeriod ≤ agreement.periodFrames ∧
        agreement.periodFrames ≤ driver.profile.maxPeriod ∧ agreement.periodBytes ≠ 0 := by
  rcases driver.createBuffers_cases ((List.range agreement.planes).map BufferInfo.output)
    agreement.periodFrames with
    ⟨fault, refused, panicked⟩ | ⟨done, _, least, greatest, _, _, someBytes, _⟩
  · refine .inl ⟨fault, refused, fun panics => ?_⟩
    rcases panicked panics with large | long
    · rw [Simulated.halfBytes, ← sampleType] at large
      exact .inr (Nat.lt_of_lt_of_le (by decide) large)
    · simp only [Simulated.tooLong, List.length_map, List.length_range, Bool.or_eq_true,
        Bool.and_eq_true, decide_eq_true_eq, Simulated.halfBytes, ← sampleType] at long
      exact long.imp id And.right
  · rw [Simulated.halfBytes, ← sampleType, ← Agreement.periodBytes] at someBytes
    have addressed : (((List.range agreement.planes).map BufferInfo.output).map
        fun info => { info with addressed := true }).all BufferInfo.addressed = true := by simp
    have created : furnished driver agreement =
        { driver with
          buffers := ((List.range agreement.planes).map BufferInfo.output).map
            fun _ => DoubleBuffer.filled (driver.halfBytes agreement.periodFrames) 0
          period := agreement.periodFrames
          registered := true
          nextHalf := .first } := by
      simp [furnished, Agreement.periodBytes, Simulated.halfBytes, sampleType, Function.comp_def,
        List.map_const']
    exact .inr ⟨_, addressed, created ▸ done, least, greatest, someBytes⟩

theorem ends_engage (present : seat.host < seat.studio.hosts.length) (options : SinkOptions)
    (profile : Profile) (format : StreamFormat) :
    (engage options host.opened.length).Ends
      ⟨seat.place (host.withOpened ⟨.boot profile, true⟩) slot, format⟩
      (fun session after => ∃ agreement,
        Engagement seat.studio.supply.thread options format profile agreement ∧
        session = fresh options format host.opened.length agreement ∧
        after = ⟨seat.place (host.withOpened ⟨engaged options format profile agreement, true⟩)
            (slot.install ⟨seat.sink, seat.host, session.driver, session.dispatcher⟩),
          settled options format⟩)
      (fun interruption after => (interruption = .panic → profile.Oversized options format) ∧
        ∃ driver slot left, Remnant ⟨driver.halt, false⟩ ∧
          after = ⟨seat.place (host.withOpened ⟨driver, true⟩) slot, left⟩) := by
  unfold engage
  have placed := Seat.placed_withOpened present host slot
  rw [OpeningM.ends_bind, OpeningM.ends_get, OpeningM.ends_bind]
  apply (ends_negotiate placed options format (.boot profile) format).imp
  case failure =>
    rintro _ _ ⟨returned, mode, rate, rfl⟩
    exact ⟨fun panicked => absurd panicked returned, _, slot, format, ⟨rfl, rfl, .inl rfl⟩, rfl⟩
  rintro agreement _ ⟨agreed, rfl⟩
  rw [OpeningM.ends_bind, OpeningM.ends_require]
  refine ⟨fun _ => ?_, fun many => ⟨fun _ => ?_, _, slot, format, ⟨rfl, rfl, .inl rfl⟩, rfl⟩⟩
  case refine_2 => exact agreed.oversized_of_infos (Nat.not_le.mp (of_decide_eq_false many))
  rw [OpeningM.ends_bind, OpeningM.ends_call placed, Simulated.perform]
  rcases createBuffers_agreed agreed.sampleType with
    ⟨fault, done, panicked⟩ | ⟨infos, addressed, done, least, greatest, someBytes⟩
  · rw [done]
    refine ⟨fun panics => ?_, _, slot, format, ⟨rfl, rfl, .inl rfl⟩, rfl⟩
    cases fault with
    | status => contradiction
    | panic => exact (panicked rfl).elim agreed.oversized_of_planes agreed.oversized_of_period
  rw [done]
  dsimp only
  rw [OpeningM.ends_undoing]
  apply (ends_begin present options agreement addressed _ rfl format).imp
  case value =>
    rintro session after ⟨inMemory, starts, clocked, rfl, rfl⟩
    exact ⟨agreement, ⟨agreed, least, greatest, someBytes, inMemory, starts, clocked⟩, rfl, rfl⟩
  rintro _ _ ⟨panicked, nextHalf, slot, left, rfl⟩
  have disposed := Seat.placed_withOpened present host slot
    { furnished ((Simulated.boot profile).tuned options format.sampleRate) agreement with nextHalf }
    .disposeBuffers
  refine ⟨fun panics => ?_, _, slot, left, remnant_disposeBuffers _,
    congrArg (fun reply => Opening.mk reply.2 left) disposed⟩
  rcases panicked panics with frame | long
  · exact .inl frame
  · exact agreed.oversized_of_period (Nat.lt_of_lt_of_le (by decide) long)

/-- What a session just opened rests on: a lease, the claim, a driver that works for it
and its record on the host. -/
structure Opened (session : Session) (seat : Seat) (host : Host) (slot : Slot Feed)
    (options : SinkOptions) (format : StreamFormat) (device : String) (after : Opening Seat) :
    Prop where
  granted : host.refusing = false
  unclaimed : slot.claimed = false
  engaged : ∃ profile agreement, host.profile? device = some profile ∧
    Engagement seat.studio.supply.thread options format profile agreement ∧
    session = fresh options format host.opened.length agreement ∧
    after = ⟨seat.place
        ({ host with held := host.held + 1 }.withOpened
          ⟨engaged options format profile agreement, true⟩)
        ⟨true, some ⟨seat.sink, seat.host, session.driver, session.dispatcher⟩⟩,
      settled options format⟩

theorem ends_openOn (present : seat.host < seat.studio.hosts.length) (options : SinkOptions)
    (device : String) (format : StreamFormat) :
    (openOn options device).Ends ⟨seat.place host slot, format⟩
      (Opened · seat host slot options format device)
      (fun interruption after => (interruption = .panic →
          ∃ profile, host.profile? device = some profile ∧ profile.Oversized options format) ∧
        ∃ host' slot' left, after = ⟨seat.place host' slot', left⟩ ∧
          host.RolledBack host' ∧ slot.RolledBack slot') := by
  unfold openOn
  rw [OpeningM.ends_bind, Seat.ends_ask present, OpeningM.ends_bind, OpeningM.ends_expect]
  simp only [Seat.effect, Host.acquire]
  by_cases refusing : host.refusing
  · rw [if_pos refusing]
    exact ⟨(Interruption.failure_ne_panic _).elim, host, slot, format, rfl, .refused refusing, .inl rfl⟩
  have granted : host.refusing = false := Bool.eq_false_iff.mpr refusing
  rw [if_neg refusing]
  dsimp only
  rw [OpeningM.ends_undoing, OpeningM.ends_bind, Seat.ends_ask present, OpeningM.ends_bind,
    OpeningM.ends_require]
  simp only [Seat.effect, Slot.claim]
  by_cases claimed : slot.claimed
  · rw [if_pos claimed, Seat.perform_place present]
    exact ⟨fun impossible => Bool.noConfusion impossible,
      fun _ => ⟨(Interruption.failure_ne_panic _).elim, _, _, _, rfl, .unopened granted, .inl rfl⟩⟩
  have unclaimed : slot.claimed = false := Bool.eq_false_iff.mpr claimed
  rw [if_neg claimed]
  refine ⟨fun _ => ?_, fun impossible => Bool.noConfusion impossible⟩
  rw [OpeningM.ends_undoing, OpeningM.ends_bind, Seat.ends_ask present, OpeningM.ends_bind,
    OpeningM.ends_expect]
  simp only [Seat.effect]
  rcases Host.openDriver_cases { host with held := host.held + 1 } device with
    ⟨status, done⟩ | ⟨profile, found, works, done⟩
  · rw [done]
    dsimp only
    rw [Seat.perform_place present, Seat.perform_place present]
    exact ⟨(Interruption.failure_ne_panic _).elim, _, _, _, rfl, .unopened granted, .inr ⟨unclaimed, rfl⟩⟩
  rw [done]
  dsimp only
  rw [OpeningM.ends_undoing]
  apply (ends_engage present options profile format).imp
  case value =>
    rintro session after ⟨agreement, engagement, rfl, rfl⟩
    exact ⟨granted, unclaimed, profile, agreement, found, engagement, rfl, rfl⟩
  rintro _ _ ⟨panicked, driver, slot', left, remnant, rfl⟩
  rw [Seat.perform_place present, Seat.perform_place present, Seat.perform_place present]
  simp only [Seat.effect, Host.dropDriver_withOpened]
  exact ⟨fun panics => ⟨profile, found, panicked panics⟩, _, _, _, rfl,
    .dropped granted remnant, .inr ⟨unclaimed, rfl⟩⟩

/-- Without a host there is no lease. -/
theorem ends_openOn_homeless (absent : seat.studio.hosts[seat.host]? = none)
    (options : SinkOptions) (device : String) (format : StreamFormat) :
    (openOn options device).Ends ⟨seat, format⟩ (fun _ _ => False) (fun interruption after =>
      interruption = .failure (.driverOpen device .notPresent) ∧ after = ⟨seat, format⟩) := by
  have refused : Backend.perform .acquireHost seat = (.error .notPresent, seat) := by
    simp [Backend.perform, Seat.perform, Seat.onHost, Studio.onHost, absent]
  unfold openOn
  rw [OpeningM.ends_bind, OpeningM.ends_ask, OpeningM.ends_bind, OpeningM.ends_expect, refused]
  exact ⟨rfl, rfl⟩

end Session

end PlanarSink
