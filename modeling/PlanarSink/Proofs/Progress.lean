import PlanarSink.Proofs.StreamFidelity

/-! A sink that takes nothing of what it is offered is full, and a full sink has a period for
its driver. Everything in the ring is counted in whole samples, and the ring has room for
two periods, so neither side waits for the other forever. -/
namespace PlanarSink

section Whole

variable {size total : Nat}

/-- Rounding down to whole samples takes nothing from what is counted in them. -/
theorem le_sub_mod_of_dvd {counted : Nat} (whole : size ∣ counted) (within : counted ≤ total) :
    counted ≤ total - total % size := by
  obtain ⟨samples, rfl⟩ := whole
  have split := Nat.div_add_mod total size
  rcases Nat.eq_zero_or_pos size with rfl | some
  · rw [Nat.zero_mul]
    exact Nat.zero_le _
  · have fewer : samples ≤ total / size := by
      rw [Nat.le_div_iff_mul_le some, Nat.mul_comm]
      exact within
    have below := Nat.mul_le_mul_left size fewer
    omega

/-- With whole samples in it, what has no room for another sample is full. -/
theorem eq_of_room_eq_zero {level : Nat} (whole : size ∣ total) (held : size ∣ level)
    (within : level ≤ total) (some : 0 < size) (none : (total - level) / size = 0) :
    level = total := by
  obtain ⟨room, counted⟩ := Nat.dvd_sub whole held
  rw [counted, Nat.mul_div_cancel_left room some] at none
  rw [none, Nat.mul_zero] at counted
  omega

end Whole

namespace Agreement

/-- Each plane of the ring is to hold whole samples. -/
theorem bytes_dvd_capacity (agreement : Agreement) (options : SinkOptions) (rate : UInt32) :
    agreement.sampleType.bytes ∣ (agreement.geometry options rate).capacity :=
  Nat.dvd_sub_mod _

/-- Two periods fit however many are wanted, for a product that stops at the largest word
still holds them. -/
theorem two_periods_le_capacity (agreement : Agreement) (options : SinkOptions) (rate : UInt32)
    (small : agreement.periodBytes ≤ Size.longest) :
    2 * agreement.periodBytes ≤ (agreement.geometry options.normalized rate).capacity := by
  have periods : 2 ≤ options.normalized.bufferPeriods := Nat.le_max_right _ _
  apply le_sub_mod_of_dvd
  · exact Nat.dvd_mul_left_of_dvd (Nat.dvd_mul_left _ _) 2
  · exact Nat.le_min.mpr ⟨Nat.mul_le_mul periods (Nat.le_max_right _ _),
      Nat.le_trans (Nat.mul_le_mul_left 2 small) (by decide)⟩

end Agreement

namespace Coupling

variable {c : Coupling} {level : Nat}

/-- An aligned coupling whose planes hold whole samples, with room for two periods of them. -/
structure Roomy (c : Coupling) (level : Nat) : Prop where
  aligned : c.Aligned level
  held : c.session.sampleSize ∣ level
  whole : c.session.sampleSize ∣ c.session.ring.capacity
  someBytes : 0 < c.session.dispatcher.periodBytes
  twoPeriods : 2 * c.session.dispatcher.periodBytes ≤ c.session.ring.capacity

namespace Roomy

variable (roomy : c.Roomy level)
include roomy

theorem within : level ≤ c.session.ring.capacity :=
  roomy.aligned.session.even.bounded

/-- Whatever happens, bytes come and go in whole samples. -/
theorem dvd_levelAfter (handling : Handling) :
    c.session.sampleSize ∣ c.levelAfter level handling := by
  cases handling with
  | addPackets data frames offset =>
    cases data with
    | nil => exact roomy.held
    | cons src others => exact Nat.dvd_add roomy.held (Nat.dvd_mul_left _ _)
  | tick =>
    rw [levelAfter]
    cases c.ticked with
    | none => exact roomy.held
    | some outcome =>
      rw [Option.elim_some]
      split
      · exact Nat.dvd_sub roomy.held (Nat.dvd_mul_left _ _)
      · exact roomy.held
  | stop | start => exact roomy.held
  | drain => exact Nat.dvd_zero _

theorem handle (handling : Handling) : (c.handle handling).Roomy (c.levelAfter level handling) := by
  obtain ⟨agreement, _⟩ := Prod.mk.inj (c.terms_handle handling)
  obtain ⟨_, _, sampleType, periodFrames⟩ := Agreement.mk.inj agreement
  have size : (c.handle handling).session.sampleSize = c.session.sampleSize := by
    rw [Session.sampleSize, Geometry.sampleSize, sampleType]
    rfl
  have period : (c.handle handling).session.dispatcher.periodBytes =
      c.session.dispatcher.periodBytes := by
    rw [Session.dispatcher, sampleType, periodFrames]
    rfl
  obtain ⟨aligned, _, _, capacity⟩ := roomy.aligned.handle handling
  refine ⟨aligned, ?_, ?_, ?_, ?_⟩
  · rw [size]
    exact roomy.dvd_levelAfter handling
  · rw [size, capacity]
    exact roomy.whole
  · rw [period]
    exact roomy.someBytes
  · rw [period, capacity]
    exact roomy.twoPeriods

theorem full {length frames offset : Nat} (wanted : 0 < frames)
    (some : c.session.frameBytes ≠ 0) (whole : (offset + 1) * c.session.frameBytes ≤ length)
    (nothing : c.session.takeable length frames offset = 0) :
    level = c.session.ring.capacity := by
  rw [Nat.add_mul, Nat.one_mul] at whole
  have reached : ¬(c.session.frameBytes = 0 ∨ length < offset * c.session.frameBytes) := by omega
  have there : 0 < (length - offset * c.session.frameBytes) / c.session.frameBytes :=
    Nat.div_pos (by omega) (Nat.pos_of_ne_zero some)
  rw [Session.takeable, if_neg reached, roomy.aligned.session.even.writeSize] at nothing
  apply eq_of_room_eq_zero roomy.whole roomy.held roomy.within roomy.aligned.session.sampleSize_pos
  omega

theorem served_full (full : level = c.session.ring.capacity) (half : Half) :
    (∀ plane < c.session.geometry.planes,
        (c.served half).driver.output plane half.index ++ (c.served half).session.ring.queue plane =
          c.session.ring.queue plane) ∧
      (c.served half).session.underruns = c.session.underruns ∧
      (c.served half).session.ring.readSize + c.session.dispatcher.periodBytes =
        (c.served half).session.ring.capacity := by
  have twoPeriods := roomy.twoPeriods
  have held : c.session.dispatcher.periodBytes ≤ level := by omega
  obtain ⟨aligned, stream, underruns, capacity⟩ := roomy.aligned.served_held held half
  refine ⟨stream, underruns, ?_⟩
  rw [aligned.session.even.readSize, capacity]
  omega

end Roomy

end Coupling

/-- A session that was just opened has an empty ring with room for two periods. -/
theorem Session.Engagement.roomy {thread : Bool} {chosen : SinkOptions} {format : StreamFormat}
    {profile : Profile} {agreement : Agreement}
    (engagement : Session.Engagement thread chosen.normalized format profile agreement)
    (driver : Nat) :
    Coupling.Roomy ⟨Session.fresh chosen.normalized format driver agreement,
      Session.engaged chosen.normalized format profile agreement, thread⟩ 0 := by
  have small : agreement.periodBytes ≤ Size.longest :=
    Nat.le_trans (Nat.le_max_right _ _) engagement.inMemory.block
  have someBytes : 0 < agreement.periodBytes := Nat.pos_of_ne_zero engagement.someBytes
  have twoPeriods := agreement.two_periods_le_capacity chosen format.sampleRate small
  have capacity : max (agreement.geometry chosen.normalized format.sampleRate).capacity 1 =
      (agreement.geometry chosen.normalized format.sampleRate).capacity := by omega
  refine ⟨engagement.aligned driver, Nat.dvd_zero _, ?_, someBytes, ?_⟩
  · rw [Session.fresh, PlaneRing.empty, capacity]
    exact agreement.bytes_dvd_capacity _ _
  · rw [Session.fresh, PlaneRing.empty, capacity]
    exact twoPeriods

namespace Studio

variable {studio : Studio} {line : Line} {c : Coupling} {level : Nat}

/-- Frames of a first slice are offered to a sink: how many it takes, and the studio after. -/
def offer (studio : Studio) (line : Line) (src : Slice) (others : List Slice)
    (frames offset : Nat) : Nat × Studio :=
  studio.addPackets line.sink ((src :: others).map Slice.bytes) frames offset

/-- The planes of a sink are level, in whole samples, in a ring with room for two periods. Of
the frames it is offered the sink takes as many as are asked for, are there in whole, and
have room. If it takes none of them the ring is full, and the next period its driver gets is
taken from the queues, whereafter the sink takes frames again. -/
structure Flowing (studio : Studio) (line : Line) (agreement : Agreement) (frameBytes : Nat) :
    Prop where
  wholeCapacity : agreement.sampleType.bytes ∣ studio.capacity line
  twoPeriods : 2 * (agreement.periodFrames * agreement.sampleType.bytes) ≤ studio.capacity line
  level : ∀ plane < agreement.planes, (studio.queued line plane).length = studio.backlog line
  wholeBacklog : agreement.sampleType.bytes ∣ studio.backlog line
  missing : ∀ src others frames offset, frameBytes = 0 ∨ src.bytes.length < offset * frameBytes →
    (studio.offer line src others frames offset).1 = 0
  taken : ∀ src others frames offset, frameBytes ≠ 0 → offset * frameBytes ≤ src.bytes.length →
    (studio.offer line src others frames offset).1 =
      min frames (min ((src.bytes.length - offset * frameBytes) / frameBytes)
        ((studio.capacity line - studio.backlog line) / agreement.sampleType.bytes))
  grown : ∀ src others frames offset, ∀ plane < agreement.planes, ∃ block : Bytes,
    block.length =
      (studio.offer line src others frames offset).1 * agreement.sampleType.bytes ∧
    (studio.offer line src others frames offset).2.queued line plane =
      studio.queued line plane ++ block
  full : ∀ src others frames offset, 0 < frames → frameBytes ≠ 0 →
    (offset + 1) * frameBytes ≤ src.bytes.length →
    (studio.offer line src others frames offset).1 = 0 →
    studio.backlog line = studio.capacity line
  freed : studio.backlog line = studio.capacity line → ∀ half after,
    studio.tick line.host line.driver = (some half, after) →
    (∀ plane < agreement.planes,
      after.output line plane half = (studio.queued line plane).take
        (agreement.periodFrames * agreement.sampleType.bytes) ∧
      after.queued line plane = (studio.queued line plane).drop
        (agreement.periodFrames * agreement.sampleType.bytes)) ∧
    after.underruns line = studio.underruns line ∧
    after.backlog line + agreement.periodFrames * agreement.sampleType.bytes =
      after.capacity line ∧
    ∀ src others frames offset, 0 < frames → frameBytes ≠ 0 →
      (offset + 1) * frameBytes ≤ src.bytes.length →
      0 < (after.offer line src others frames offset).1

namespace Plays

theorem capacity (plays : studio.Plays line c) :
    studio.capacity line = c.session.ring.capacity := by
  simp [Studio.capacity, plays.session?]

theorem offer (plays : studio.Plays line c) (src : Slice) (others : List Slice)
    (frames offset : Nat) :
    (studio.offer line src others frames offset).1 =
        c.session.takeable src.bytes.length frames offset ∧
      (studio.offer line src others frames offset).2.Plays line
        { c with session := (c.session.addPackets src.bytes frames offset).2 } := by
  obtain ⟨count, playing⟩ := plays.addPackets src.bytes (others.map Slice.bytes) frames offset
  exact ⟨count.trans (c.session.taken_eq src.inMemory frames offset), playing⟩

theorem full (plays : studio.Plays line c) (roomy : c.Roomy level) {src : Slice}
    {others : List Slice} {frames offset : Nat} (wanted : 0 < frames)
    (some : c.session.frameBytes ≠ 0)
    (whole : (offset + 1) * c.session.frameBytes ≤ src.bytes.length)
    (nothing : (studio.offer line src others frames offset).1 = 0) :
    studio.backlog line = studio.capacity line := by
  rw [(plays.offer src others frames offset).1] at nothing
  rw [plays.backlog, plays.capacity, roomy.aligned.session.even.readSize]
  exact roomy.full wanted some whole nothing

theorem grown (plays : studio.Plays line c) (roomy : c.Roomy level) (src : Slice)
    (others : List Slice) (frames offset : Nat) {plane : Nat}
    (there : plane < c.session.geometry.planes) :
    ∃ block : Bytes,
      block.length = (studio.offer line src others frames offset).1 * c.session.sampleSize ∧
      (studio.offer line src others frames offset).2.queued line plane =
        studio.queued line plane ++ block := by
  obtain ⟨_, playing⟩ := plays.offer src others frames offset
  have count : (studio.offer line src others frames offset).1 = _ :=
    (plays.addPackets src.bytes (others.map Slice.bytes) frames offset).1
  obtain ⟨scratch, ring, done, _, aligned, stream⟩ :=
    roomy.aligned.session.addPackets_stream src.inMemory frames offset
  obtain ⟨blocks, _, queue⟩ := stream plane there
  have before := (roomy.aligned.session.even.found (roomy.aligned.plane there).1).2
  have inside : plane < ring.planes.length := Nat.lt_of_lt_of_eq there aligned.planes.symm
  have after := (aligned.even.found inside).2
  refine ⟨blocks.flatten, ?_, ?_⟩
  · have total := congrArg List.length queue
    rw [List.length_append, before] at total
    rw [count]
    exact Nat.add_left_cancel (total.symm.trans after)
  · rw [playing.queued, plays.queued, done]
    exact queue

/-- A full ring gives its driver a period, and the sink takes frames again. -/
theorem freed (plays : studio.Plays line c) (roomy : c.Roomy level)
    (full : studio.backlog line = studio.capacity line) {half : Half} {after : Studio}
    (asked : studio.tick line.host line.driver = (some half, after)) :
    (∀ plane < c.session.geometry.planes,
        after.output line plane half =
          (studio.queued line plane).take c.session.dispatcher.periodBytes ∧
        after.queued line plane =
          (studio.queued line plane).drop c.session.dispatcher.periodBytes) ∧
      after.underruns line = studio.underruns line ∧
      after.backlog line + c.session.dispatcher.periodBytes = after.capacity line ∧
      ∀ src others frames offset, 0 < frames → c.session.frameBytes ≠ 0 →
        (offset + 1) * c.session.frameBytes ≤ src.bytes.length →
        0 < (after.offer line src others frames offset).1 := by
  rw [plays.backlog, plays.capacity, roomy.aligned.session.even.readSize] at full
  rcases plays.tick with ⟨_, done⟩ | ⟨_, next, _, delivered, done, playing⟩
  · rw [asked] at done
    simp at done
  obtain ⟨same, rfl⟩ := Prod.mk.inj (asked.symm.trans done)
  obtain rfl := Option.some.inj same
  have again := roomy.handle .tick
  rw [Coupling.handle, delivered, Option.elim_some] at again
  obtain ⟨driver, _, steady, rfl⟩ := roomy.aligned.ticked delivered
  have running : Coupling.Roomy { c with driver } level := { roomy with aligned := steady }
  obtain ⟨stream, underruns, room⟩ := running.served_full full half
  have frameBytes : (Coupling.served { c with driver } half).session.frameBytes =
      c.session.frameBytes := rfl
  refine ⟨fun plane there => ?_, ?_, ?_, fun src others frames offset wanted some whole => ?_⟩
  · obtain ⟨_, buffer, found, length⟩ := again.aligned.plane there
    have output : ((Coupling.served { c with driver } half).driver.output plane
        half.index).length = c.session.dispatcher.periodBytes := by
      rw [Simulated.output_index, found]
      exact length half
    rw [playing.output, playing.queued, plays.queued, ← stream plane there, ← output]
    exact ⟨List.take_left.symm, List.drop_left.symm⟩
  · rw [playing.underruns, plays.underruns, underruns]
  · rw [playing.backlog, playing.capacity]
    exact room
  · rw [← frameBytes] at some whole
    rw [Nat.pos_iff_ne_zero]
    intro nothing
    have still := playing.full again wanted some whole nothing
    rw [playing.backlog, playing.capacity] at still
    have someBytes := roomy.someBytes
    change _ + c.session.dispatcher.periodBytes = _ at room
    omega

/-- A sink with a roomy ring is never stuck. -/
theorem flowing (plays : studio.Plays line c) (roomy : c.Roomy level) :
    studio.Flowing line c.session.agreement c.session.frameBytes := by
  have even := roomy.aligned.session.even
  have backlog : studio.backlog line = level := by rw [plays.backlog, even.readSize]
  have capacity := plays.capacity
  have size : c.session.agreement.sampleType.bytes = c.session.sampleSize := rfl
  have period : c.session.agreement.periodFrames * c.session.agreement.sampleType.bytes =
      c.session.dispatcher.periodBytes := rfl
  refine ⟨?_, ?_, fun plane there => ?_, ?_, fun src others frames offset out => ?_,
    fun src others frames offset some reached => ?_,
    fun src others frames offset plane there => plays.grown roomy src others frames offset there,
    fun src others frames offset wanted some whole nothing =>
      plays.full roomy wanted some whole nothing,
    fun full half after asked => ?_⟩
  · rw [capacity]
    exact roomy.whole
  · rw [capacity, period]
    exact roomy.twoPeriods
  · rw [plays.queued, backlog]
    exact (even.found (roomy.aligned.plane there).1).2
  · rw [backlog]
    exact roomy.held
  · rw [(plays.offer src others frames offset).1, Session.takeable, if_pos out]
  · have inside : ¬(c.session.frameBytes = 0 ∨
        src.bytes.length < offset * c.session.frameBytes) := by omega
    rw [(plays.offer src others frames offset).1, Session.takeable, if_neg inside, even.writeSize,
      capacity, backlog, size]
  · rw [period]
    exact plays.freed roomy full asked

theorem roomy_run (plays : studio.Plays line c) (roomy : c.Roomy level)
    (handlings : List Handling) :
    ∃ next after, (studio.handleAll line handlings).Plays line next ∧ next.Roomy after ∧
      next.session.terms = c.session.terms := by
  induction handlings generalizing studio c level with
  | nil => exact ⟨c, level, plays, roomy, rfl⟩
  | cons handling rest ih =>
    obtain ⟨next, after, playing, kept, terms⟩ := ih (plays.handle handling) (roomy.handle handling)
    exact ⟨next, after, playing, kept, terms.trans (c.terms_handle handling)⟩

end Plays

/-- A connected sink never gets stuck, whatever options it was made with: it takes frames,
or its ring is full and its driver's next period makes room. -/
theorem never_stuck {sink : Nat} {format : StreamFormat} {device : String}
    (connected : (studio.connect sink format device).1.1 = .ok ()) :
    ∃ line agreement, (studio.connect sink format device).2.line? sink = some line ∧
      (studio.connect sink format device).2.Agrees line format agreement ∧
      ∀ handlings, ((studio.connect sink format device).2.handleAll line handlings).Flowing line
        agreement (format.channels * format.dataFormat.bytes) := by
  obtain ⟨line, chosen, profile, agreement, rfl, engagement, plays⟩ := plays_connect connected
  have agreed := engagement.agreed
  have roomy := engagement.roomy line.driver
  refine ⟨line, agreement, plays.line?, ?_, fun handlings => ?_⟩
  · exact ⟨⟨_, plays.driver?, agreed.planes, agreed.period, agreed.sampleType⟩, agreed.codec⟩
  obtain ⟨next, level, playing, kept, terms⟩ := plays.roomy_run roomy handlings
  obtain ⟨same, input⟩ := Prod.mk.inj terms
  have source : agreement.codec.source = format.dataFormat :=
    (Codec.resolve_cases agreed.codec).1
  have codec : next.session.codec = agreement.codec := congrArg Agreement.codec same
  have frameBytes : next.session.frameBytes = format.channels * format.dataFormat.bytes := by
    rw [Session.frameBytes, input, codec, Codec.sourceBytes, source]
    rfl
  have flowing := playing.flowing kept
  rw [frameBytes, same] at flowing
  exact flowing

theorem never_stuck_prompted :
    (prompted.connect 0 (.ofInput 48000 1 .s16le) "sim").1.1 = .ok () ∧
      ∃ line agreement, (prompted.connect 0 (.ofInput 48000 1 .s16le) "sim").2.line? 0 = some line ∧
        (prompted.connect 0 (.ofInput 48000 1 .s16le) "sim").2.Agrees line
          (.ofInput 48000 1 .s16le) agreement ∧
        ∀ handlings,
          ((prompted.connect 0 (.ofInput 48000 1 .s16le) "sim").2.handleAll line handlings).Flowing
            line agreement 2 :=
  ⟨rfl, never_stuck rfl⟩

end Studio

end PlanarSink
