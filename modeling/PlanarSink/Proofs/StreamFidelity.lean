import PlanarSink.Proofs.Conservation

/-! End to end through a connected sink: in every plane the driver gets the conversion of
the frames that were accepted, in order and nothing else, and silence where too little
of it is there. -/
namespace PlanarSink

namespace Studio

variable {studio : Studio} {line : Line} {c : Coupling} {level : Nat}

/-- Over any number of handlings every plane stays balanced, and every period of silence
is counted. -/
theorem Plays.run (plays : studio.Plays line c) (aligned : c.Aligned level)
    (handlings : List Handling) :
    ∃ next after, (studio.handleAll line handlings).Plays line next ∧ next.Aligned after ∧
      next.session.terms = c.session.terms ∧
      (∀ plane < c.session.geometry.planes, Balanced
        (studio.seen line (·.arrival line c.session.codec c.session.input.channels plane) handlings)
        (studio.seen line (·.departure line c.session.dispatcher.periodBytes plane) handlings)
        (c.session.ring.queue plane) (next.session.ring.queue plane)) ∧
      next.session.underruns = c.session.underruns +
        (studio.seen line (·.silence line c.session.dispatcher.periodBytes) handlings).length := by
  induction handlings generalizing studio c level with
  | nil => exact ⟨c, level, plays, aligned, rfl, fun _ _ => .still _, rfl⟩
  | cons handling rest ih =>
    obtain ⟨kept, stream, counted, _⟩ := aligned.handle handling
    obtain ⟨next, after, playing, ends, terms, others, silences⟩ := ih (plays.handle handling) kept
    have same := c.terms_handle handling
    obtain ⟨agreement, input⟩ := Prod.mk.inj same
    obtain ⟨codec, planes, sampleType, period⟩ := Agreement.mk.inj agreement
    have dispatcher : (c.handle handling).session.dispatcher = c.session.dispatcher := by
      rw [Session.dispatcher, sampleType, period, Session.dispatcher]
    rw [codec, input, planes, dispatcher] at others
    rw [dispatcher] at silences
    refine ⟨next, after, playing, ends, terms.trans same, fun plane there => ?_, ?_⟩
    · have first := stream plane there
      rw [← plays.arrival, ← plays.departure] at first
      exact first.trans (others plane there)
    · rw [silences, counted, ← plays.silence, seen, List.length_append, Nat.add_assoc]

/-- What a sink and the driver on its line agreed on for a format. -/
structure Agrees (studio : Studio) (line : Line) (format : StreamFormat) (agreement : Agreement) :
    Prop where
  driver : ∃ driver, studio.driver? line.host line.driver = some driver ∧
    agreement.planes = driver.profile.outputChannels ∧
    agreement.periodFrames = driver.profile.preferredPeriod ∧
    agreement.sampleType = driver.sampleType
  codec : Codec.resolve format.dataFormat agreement.sampleType = .ok agreement.codec

/-- After some handlings, each plane's periods and drained bytes and what is still queued
there make up the conversions of the accepted frames; a period for which too little is
queued is silence in every plane, takes nothing from the queues and is counted. -/
structure Faithful (opened : Studio) (line : Line) (agreement : Agreement) (channels : Nat)
    (handlings : List Handling) : Prop where
  stream : ∀ plane < agreement.planes, ∃ blocks : List Bytes,
    opened.seen line (·.arrival line agreement.codec channels plane) handlings = blocks.map .ok ∧
    opened.seen line (·.departure line agreement.periodBytes plane) handlings ++
      (opened.handleAll line handlings).queued line plane = blocks.flatten
  even : ∀ plane < agreement.planes,
    ((opened.handleAll line handlings).queued line plane).length =
      (opened.handleAll line handlings).backlog line
  underruns : (opened.handleAll line handlings).underruns line =
    (opened.seen line (·.silence line agreement.periodBytes) handlings).length
  starved : ∀ half after,
    (opened.handleAll line handlings).tick line.host line.driver = (some half, after) →
    (opened.handleAll line handlings).backlog line < agreement.periodBytes →
    after.underruns line = (opened.handleAll line handlings).underruns line + 1 ∧
    ∀ plane < agreement.planes,
      after.output line plane half = Silence.fill (List.replicate agreement.periodBytes 0)
        agreement.sampleType agreement.periodFrames ∧
      after.queued line plane = (opened.handleAll line handlings).queued line plane
  other : ∀ half after,
    (opened.handleAll line handlings).tick line.host line.driver = (some half, after) →
    ∀ plane, after.output line plane half.other =
      (opened.handleAll line handlings).output line plane half.other

theorem Plays.ticked (plays : studio.Plays line c) (aligned : c.Aligned level) {half : Half}
    {after : Studio} (asked : studio.tick line.host line.driver = (some half, after)) :
    ∃ driver : Simulated, driver.buffers = c.driver.buffers ∧
      Coupling.Aligned { c with driver } level ∧
      after.Plays line (Coupling.served { c with driver } half) := by
  rcases plays.tick with ⟨_, done⟩ | ⟨_, _, _, delivered, done, playing⟩
  · rw [asked] at done
    simp at done
  · obtain ⟨same, rfl⟩ := Prod.mk.inj (asked.symm.trans done)
    obtain rfl := Option.some.inj same
    obtain ⟨driver, buffers, steady, rfl⟩ := aligned.ticked delivered
    exact ⟨driver, buffers, steady, playing⟩

theorem Plays.starved (plays : studio.Plays line c) (aligned : c.Aligned level) {half : Half}
    {after : Studio} (asked : studio.tick line.host line.driver = (some half, after))
    (short : studio.backlog line < c.session.dispatcher.periodBytes) :
    after.underruns line = studio.underruns line + 1 ∧
      ∀ plane < c.session.geometry.planes,
        after.output line plane half =
          Silence.bytes c.session.geometry.sampleType c.session.dispatcher.periodBytes ∧
        after.queued line plane = studio.queued line plane := by
  obtain ⟨driver, _, steady, playing⟩ := plays.ticked aligned asked
  rw [plays.backlog, aligned.session.even.readSize] at short
  obtain ⟨_, ring, silent, counted⟩ := steady.served_starved short half
  refine ⟨?_, fun plane there => ⟨?_, ?_⟩⟩
  · rw [playing.underruns, plays.underruns, counted]
  · rw [playing.output, silent plane there]
  · rw [playing.queued, plays.queued, ring]

theorem Plays.other (plays : studio.Plays line c) (aligned : c.Aligned level) {half : Half}
    {after : Studio} (asked : studio.tick line.host line.driver = (some half, after))
    (plane : Nat) : after.output line plane half.other = studio.output line plane half.other := by
  obtain ⟨driver, buffers, steady, playing⟩ := plays.ticked aligned asked
  rw [playing.output, plays.output, steady.served_other, Simulated.output_index,
    Simulated.output_index, buffers]

theorem stream_faithful {sink : Nat} {format : StreamFormat} {device : String}
    (connected : (studio.connect sink format device).1.1 = .ok ()) :
    ∃ line agreement, (studio.connect sink format device).2.line? sink = some line ∧
      (studio.connect sink format device).2.Agrees line format agreement ∧
      ∀ handlings, (studio.connect sink format device).2.Faithful line agreement format.channels
        handlings := by
  obtain ⟨line, options, profile, agreement, rfl, engagement, plays⟩ := plays_connect connected
  have agreed := engagement.agreed
  have aligned := engagement.aligned line.driver
  refine ⟨line, agreement, plays.line?, ?_, fun handlings => ?_⟩
  · exact ⟨⟨_, plays.driver?, agreed.planes, agreed.period, agreed.sampleType⟩, agreed.codec⟩
  obtain ⟨next, level, playing, steady, terms, stream, underruns⟩ := plays.run aligned handlings
  obtain ⟨same, _⟩ := Prod.mk.inj terms
  obtain ⟨_, planes, sampleType, period⟩ := Agreement.mk.inj same
  have bytes : next.session.dispatcher.periodBytes = agreement.periodBytes := by
    rw [Session.dispatcher, sampleType, period]
    rfl
  refine ⟨fun plane there => ?_, fun plane there => ?_, ?_, fun half after asked short => ?_,
    fun half after asked => playing.other steady asked⟩
  · obtain ⟨blocks, arrived, whole⟩ := stream plane there
    refine ⟨blocks, arrived, ?_⟩
    have vacant := List.length_eq_zero_iff.mp
      (aligned.session.even.found (aligned.plane there).1).2
    rw [vacant, List.nil_append] at whole
    rw [playing.queued]
    exact whole
  · have here : plane < next.session.geometry.planes := Nat.lt_of_lt_of_eq there planes.symm
    rw [playing.queued, playing.backlog, steady.session.even.readSize]
    exact (steady.session.even.found (steady.plane here).1).2
  · rw [playing.underruns, underruns]
    exact Nat.zero_add _
  · rw [← bytes] at short
    obtain ⟨counted, silent⟩ := playing.starved steady asked short
    rw [planes, sampleType, bytes] at silent
    refine ⟨counted, fun plane there => ⟨?_, (silent plane there).2⟩⟩
    rw [(silent plane there).1, Silence.fill_eq, List.length_replicate]
    · rfl
    · rw [List.length_replicate]
      exact Size.le_saturatingMul (Nat.lt_of_le_of_lt (Nat.le_of_eq bytes.symm) steady.period)

/-- A studio with one sink, whose driver plays periods of two frames when it is told to. -/
def prompted : Studio :=
  unused [[{ Profile.standard with
    minPeriod := 1, preferredPeriod := 2, sampleType := .ofInt 16, clock := false }]]
    [(0, .standard)]

/-- Of three frames two make a period, and the third waits; the period after is silence. -/
theorem stream_faithful_prompted :
    let opened := (prompted.connect 0 (.ofInput 48000 1 .s16le) "sim").2
    let line : Line := ⟨0, 0, 0⟩
    let handlings : List Handling :=
      [.addPackets [⟨[1, 2, 3, 4, 5, 6], by decide⟩] 9 0, .tick, .tick]
    (prompted.connect 0 (.ofInput 48000 1 .s16le) "sim").1.1 = .ok () ∧
      (∃ line agreement, opened.line? 0 = some line ∧
        opened.Agrees line (.ofInput 48000 1 .s16le) agreement ∧
        ∀ handlings, opened.Faithful line agreement 1 handlings) ∧
      opened.line? 0 = some line ∧
      opened.seen line
        (·.arrival line ⟨.s16le, .ofInt 16, .level (.integer 2 16 .little)⟩ 1 0) handlings =
          [.ok [1, 2], .ok [3, 4], .ok [5, 6]] ∧
      opened.seen line (·.departure line 4 0) handlings = [1, 2, 3, 4] ∧
      opened.seen line (·.silence line 4) handlings = [.second] ∧
      (opened.handleAll line handlings).queued line 0 = [5, 6] :=
  ⟨rfl, stream_faithful rfl, rfl, rfl, rfl, rfl, rfl⟩

end Studio

end PlanarSink
