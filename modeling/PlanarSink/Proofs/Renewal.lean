import PlanarSink.Proofs.Restart

/-! Sinks that were drained and started again, among everything else in a studio: from then on
the same is seen of them as of a sink that was connected just now. -/
namespace PlanarSink

/-- What a sink and a driver agree on is settled by what they are. -/
theorem Agreed.unique {options : SinkOptions} {format : StreamFormat} {driver : Simulated}
    {agreement other : Agreement} (agreed : Agreed options format driver agreement)
    (agreed' : Agreed options format driver other) : other = agreement := by
  have planes := agreed'.planes.trans agreed.planes.symm
  have period := agreed'.period.trans agreed.period.symm
  have sampleType := agreed'.sampleType.trans agreed.sampleType.symm
  have codec := agreed'.codec
  rw [sampleType, agreed.codec] at codec
  obtain ⟨_, _, _, _⟩ := agreement
  obtain ⟨_, _, _, _⟩ := other
  cases planes
  cases period
  cases sampleType
  cases codec
  rfl

namespace Session.Engagement

variable {thread : Bool} {options : SinkOptions} {format : StreamFormat} {profile : Profile}
  {agreement : Agreement}

theorem fresh (engagement : Engagement thread options format profile agreement) (driver : Nat) :
    Coupling.Fresh ⟨Session.fresh options format driver agreement,
      engaged options format profile agreement, thread⟩ :=
  ⟨engagement.aligned driver, engagement.clocked, rfl, rfl, rfl⟩

end Session.Engagement

namespace Studio

section State

variable {studio : Studio} {sink : Nat} {seated : SeatedSink}

theorem state?_setSink (found : studio.sink? sink = some seated) (next : SeatedSink) :
    (studio.setSink sink (some next)).state? sink = some next.sink.state := by
  rw [state?, sink?_setSink found, Option.map_some]

theorem state?_setDriver (studio : Studio) (host number : Nat) (driver : Simulated) (sink : Nat) :
    (studio.setDriver host number driver).state? sink = studio.state? sink := by
  cases present : studio.hosts[host]? with
  | none => rw [setDriver_of_absent present]
  | some record =>
    rw [setDriver_of_host present]
    rfl

theorem state?_deliver (studio : Studio) (half : Half) (sink : Nat) :
    (studio.deliver half).state? sink = studio.state? sink := by
  rcases studio.deliver_cases half with
    same | ⟨feed, seated, session, driver, target, found, opened, connected⟩
  · rw [same]
  rw [deliver_eq target found opened connected, state?_setDriver]
  by_cases here : sink = feed.sink
  · subst here
    rw [state?_setSink found, state?, found]
    rfl
  · rw [state?, sink?_setSink_ne here, state?]

theorem state?_tick (studio : Studio) (host number sink : Nat) :
    (studio.tick host number).2.state? sink = studio.state? sink := by
  unfold tick
  split
  · rfl
  split
  · rfl
  · rw [state?_deliver, state?_setDriver]

end State

variable {studio other : Studio} {line line' : Line} {c d : Coupling}

namespace Plays

/-- A sink is told to run once it was started, and otherwise what it was told before. -/
theorem state_start (plays : studio.Plays line c) (told : studio.state? line.sink = some c.state) :
    (studio.start line.sink).2.state? line.sink = some c.started.state := by
  obtain ⟨seated, found, home, connected⟩ := plays.seat
  obtain ⟨host, present, opened⟩ := plays.home
  have there : studio.hosts[seated.host]? = some host := by rw [home, present]
  obtain ⟨reply, started, answered⟩ := Coupling.host_started plays.number opened
  rw [start_eq found connected there, home, plays.thread, started]
  rcases reply with status | ⟨⟩
  · have refused : c.started.session.running = false := by simpa using answered
    have still : c.session.running = false := by
      cases running : c.session.running with
      | false => rfl
      | true => rwa [Coupling.started, if_pos running, running] at refused
    have now : some seated.sink.state = some c.state := by rwa [state?, found] at told
    rw [state?_setSink, Coupling.state, refused]
    · rwa [Coupling.state, still] at now
    · exact found
  · have runs : c.started.session.running = true := by simpa using answered
    rw [state?_setSink, Coupling.state, runs]
    · rfl
    · exact found

/-- The state of a sink goes on telling whether its session runs. -/
theorem state_handle (plays : studio.Plays line c)
    (told : studio.state? line.sink = some c.state) (handling : Handling) :
    (studio.handle line handling).state? line.sink = some (c.handle handling).state := by
  obtain ⟨seated, found, home, connected⟩ := plays.seat
  obtain ⟨host, present, _⟩ := plays.home
  have there : studio.hosts[seated.host]? = some host := by rw [home, present]
  cases handling with
  | addPackets data frames offset =>
    simp only [Studio.handle, Line.command, execute]
    cases data with
    | nil => rwa [List.map_nil, addPackets_nil found]
    | cons src others =>
      rw [List.map_cons, addPackets_eq found connected, state?_setSink found, Coupling.handle,
        Coupling.state, Session.running_addPackets]
      rwa [state?, found] at told
  | tick =>
    simp only [Studio.handle, Line.command, execute]
    rw [state?_tick, told, Coupling.handle]
    cases asked : c.ticked with
    | none => rfl
    | some outcome =>
      obtain ⟨_, _, rfl⟩ := Option.map_eq_some_iff.mp asked
      rfl
  | stop =>
    simp only [Studio.handle, Line.command, execute]
    rw [stop_eq found connected there, state?_setSink]
    · rfl
    · exact found
  | start => exact plays.state_start told
  | drain =>
    simp only [Studio.handle, Line.command, execute]
    rw [drain_eq found connected there, state?_setSink]
    · rfl
    · exact found

theorem taken (plays : studio.Plays line c) (handling : Handling) :
    studio.taken line handling = c.taken handling := by
  cases handling with
  | addPackets data frames offset =>
    cases data with
    | nil =>
      obtain ⟨seated, found, _⟩ := plays.seat
      rw [Studio.taken, List.map_nil, addPackets_nil found]
      rfl
    | cons src others => exact (plays.addPackets src.bytes _ frames offset).1
  | tick | stop | start | drain => rfl

theorem played (plays : studio.Plays line c) (handling : Handling) :
    studio.played line handling = c.played handling := by
  cases handling with
  | tick =>
    simp only [Studio.played, Coupling.played]
    rcases plays.tick with ⟨still, done⟩ | ⟨half, next, after, asked, done, playing⟩
    · rw [still, done]
      rfl
    · rw [asked, done]
      simp only [playing.driver?, Option.elim_some, Option.map_some]
  | addPackets | stop | start | drain => rfl

theorem room (plays : studio.Plays line c) : studio.room line = c.session.ring.writeSize := by
  simp [Studio.room, plays.session?]

theorem glimpse (plays : studio.Plays line c) (told : studio.state? line.sink = some c.state)
    (handling : Handling) : studio.glimpse line handling = c.glimpse handling := by
  have after := plays.handle handling
  rw [Studio.glimpse, Coupling.glimpse, plays.taken, plays.played, after.underruns, plays.underruns,
    after.backlog, after.room, plays.state_handle told]

/-- However it is handled, a coupling on a line stays regular and in step, its state is told, and
its terms stay. -/
theorem regular_run (plays : studio.Plays line c) (told : studio.state? line.sink = some c.state)
    (regular : c.Regular) (inStep : c.InStep) (handlings : List Handling) :
    ∃ next, (studio.handleAll line handlings).Plays line next ∧
      (studio.handleAll line handlings).state? line.sink = some next.state ∧
      next.Regular ∧ next.InStep ∧ c.Kin next := by
  induction handlings generalizing studio c with
  | nil => exact ⟨c, plays, told, regular, inStep, ⟨rfl, rfl, rfl, rfl⟩⟩
  | cons handling rest ih =>
    obtain ⟨kept, kin⟩ := regular.handle handling
    obtain ⟨next, playing, tells, steady, steps, kin'⟩ := ih (plays.handle handling)
      (plays.state_handle told handling) kept (inStep.handle handling)
    exact ⟨next, playing, tells, steady, steps, kin.trans kin'⟩

/-- Of alike couplings, each on its line, the same is seen however they are handled. -/
theorem seen_alike (plays : studio.Plays line c) (plays' : other.Plays line' d)
    (told : studio.state? line.sink = some c.state)
    (told' : other.state? line'.sink = some d.state) (regular : c.Regular) (regular' : d.Regular)
    (alike : c.Alike d) (handlings : List Handling) :
    studio.seen line (fun now handling => [now.glimpse line handling]) handlings =
      other.seen line' (fun now handling => [now.glimpse line' handling]) handlings := by
  induction handlings generalizing studio other c d with
  | nil => rfl
  | cons handling rest ih =>
    obtain ⟨after, same⟩ := alike.handle regular regular' handling
    have rests := ih (plays.handle handling) (plays'.handle handling)
      (plays.state_handle told handling) (plays'.state_handle told' handling)
      (regular.handle handling).1 (regular'.handle handling).1 after
    rw [seen, seen, plays.glimpse told, plays'.glimpse told', same, rests]

end Plays

/-- Whatever was done with a connected sink whose driver does not fail to be stopped, once it is
drained and started again it is seen as one that was connected just now, on the same options,
for the same format and to a driver of the same profile. -/
theorem restarted_as_fresh {sink sink' : Nat} {format : StreamFormat} {device device' : String}
    {options : SinkOptions} {profile : Profile}
    (connected : (studio.connect sink format device).1.1 = .ok ())
    (connected' : (other.connect sink' format device').1.1 = .ok ())
    (offered : studio.prospect sink device = some (options, profile))
    (offered' : other.prospect sink' device' = some (options, profile))
    (yields : profile.failAt ≠ some .stop) :
    ∃ line line', (studio.connect sink format device).2.line? sink = some line ∧
      (other.connect sink' format device').2.line? sink' = some line' ∧
      ∀ history continuation,
        let restarted := (studio.connect sink format device).2.handleAll line
          (history ++ [.drain, .start])
        let opened := (other.connect sink' format device').2
        restarted.state? sink = opened.state? sink' ∧
          restarted.backlog line = opened.backlog line' ∧
          restarted.room line = opened.room line' ∧
          restarted.seen line (fun now handling => [now.glimpse line handling]) continuation =
            opened.seen line' (fun now handling => [now.glimpse line' handling]) continuation := by
  obtain ⟨line, chosen, found, agreement, rfl, meant, engagement, told, plays⟩ :=
    plays_prospect connected
  obtain ⟨line', chosen', found', agreement', rfl, meant', engagement', told', plays'⟩ :=
    plays_prospect connected'
  obtain ⟨rfl, rfl⟩ := Prod.mk.inj (Option.some.inj (meant.symm.trans offered))
  obtain ⟨rfl, rfl⟩ := Prod.mk.inj (Option.some.inj (meant'.symm.trans offered'))
  obtain rfl := engagement.agreed.unique engagement'.agreed
  have fresh := engagement.fresh line.driver
  have fresh' := engagement'.fresh line'.driver
  refine ⟨line, line', plays.line?, plays'.line?, fun history continuation => ?_⟩
  obtain ⟨c, playing, tells, regular, inStep, kin⟩ :=
    plays.regular_run told fresh.regular ⟨rfl⟩ history
  have alike := fresh'.restarted ⟨kin.terms, kin.capacity, kin.profile, kin.registered⟩ regular
    inStep engagement.starts yields
  have drained := (regular.handle .drain).1
  have playing' := (playing.handle .drain).handle .start
  have tells' := (playing.handle .drain).state_handle (playing.state_handle tells .drain) .start
  intro restarted opened
  have last : restarted = (((studio.connect line.sink format device).2.handleAll line history).handle
      line .drain).handle line .start := List.foldl_append
  rw [← last] at playing' tells'
  refine ⟨?_, ?_, ?_, ?_⟩
  · rw [tells', told', Coupling.state, ← alike.session.running]
    rfl
  · rw [playing'.backlog, plays'.backlog, alike.session.ring]
  · rw [playing'.room, plays'.room, alike.session.ring]
  · exact playing'.seen_alike plays' tells' told' (drained.handle .start).1 fresh'.regular alike
      continuation

theorem restarted_as_fresh_prompted :
    (prompted.connect 0 (.ofInput 48000 1 .s16le) "sim").1.1 = .ok () ∧
      (prompted.prospect 0 "sim").map (·.2.failAt) = some none ∧
      ∀ history continuation,
        ((prompted.connect 0 (.ofInput 48000 1 .s16le) "sim").2.handleAll ⟨0, 0, 0⟩
          (history ++ [.drain, .start])).seen ⟨0, 0, 0⟩
            (fun now handling => [now.glimpse ⟨0, 0, 0⟩ handling]) continuation =
          (prompted.connect 0 (.ofInput 48000 1 .s16le) "sim").2.seen ⟨0, 0, 0⟩
            (fun now handling => [now.glimpse ⟨0, 0, 0⟩ handling]) continuation := by
  refine ⟨rfl, rfl, fun history continuation => ?_⟩
  obtain ⟨line, line', there, there', always⟩ :=
    @restarted_as_fresh prompted prompted 0 0 (.ofInput 48000 1 .s16le) "sim" "sim" _ _ rfl rfl rfl
      rfl (by decide)
  obtain rfl : line = ⟨0, 0, 0⟩ := (Option.some.inj there).symm
  obtain rfl : line' = ⟨0, 0, 0⟩ := (Option.some.inj there').symm
  exact (always history continuation).2.2.2

/-- A restarted sink asks for the first half again and counts one period of silence. -/
example : ((prompted.connect 0 (.ofInput 48000 1 .s16le) "sim").2.handleAll ⟨0, 0, 0⟩
      [.tick, .addPackets [⟨[1, 2, 3, 4], by decide⟩] 9 0, .drain, .start]).seen ⟨0, 0, 0⟩
        (fun now handling => [now.glimpse ⟨0, 0, 0⟩ handling]) [.tick] =
    [⟨0, some (.first, [[0, 0, 0, 0], [0, 0, 0, 0]]), 1, 0, 3840, some .running⟩] :=
  rfl

end Studio

end PlanarSink
