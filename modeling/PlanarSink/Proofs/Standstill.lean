import PlanarSink.Proofs.StreamFidelity

/-! Whether a sink runs and whether its driver does. Both are noted, by the session and by
the driver, and both are changed by the same calls; only a driver that refuses to be
stopped goes on while its session believes that it stands still. -/
namespace PlanarSink

namespace Simulated

/-- A driver that is made to fail when it is to be stopped. -/
def stubborn (s : Simulated) : Bool :=
  s.profile.failAt == some .stop

theorem running_tick {s next : Simulated} {announcement : Announcement}
    (asked : s.tick = some (announcement, next)) :
    next.running = s.running ∧ next.profile = s.profile := by
  unfold tick at asked
  split at asked
  · obtain ⟨_, rfl⟩ := Prod.mk.inj (Option.some.inj asked)
    exact ⟨rfl, rfl⟩
  · contradiction

end Simulated

namespace Coupling

variable {c : Coupling}

/-- The driver runs where its session has it running, or where it cannot be stopped. -/
structure InStep (c : Coupling) : Prop where
  running : c.driver.running = (c.session.running || c.driver.stubborn)

namespace InStep

theorem halted (inStep : c.InStep) : c.halted.InStep := by
  have before := inStep.running
  constructor
  unfold Coupling.halted
  cases running : c.session.running with
  | false =>
    rw [running] at before
    exact before
  | true =>
    rcases c.driver.stop_cases with ⟨fails, done⟩ | ⟨passes, done⟩
    · have stubborn : c.driver.stubborn = true := by simp [Simulated.stubborn, fails]
      rw [running] at before
      simp [done, before, stubborn]
    · simpa [done, Simulated.halt, Simulated.stubborn] using passes

theorem started (inStep : c.InStep) : c.started.InStep := by
  have before := inStep.running
  unfold Coupling.started
  split
  · exact inStep
  next still =>
  rcases c.driver.start_cases c.thread with ⟨_, done⟩ | ⟨_, _, _, done⟩ | ⟨_, _, _, done⟩
  · rw [done]
    exact inStep
  · rw [done]
    exact ⟨inStep.running⟩
  · rw [done]
    constructor
    dsimp only
    split
    · next running => simp [running]
    · rfl

theorem ticked (inStep : c.InStep) {half : Half} {next : Coupling}
    (asked : c.ticked = some (half, next)) :
    next.InStep ∧ next.session.running = c.session.running := by
  obtain ⟨⟨announcement, driver⟩, delivered, same⟩ := Option.map_eq_some_iff.mp asked
  obtain ⟨rfl, rfl⟩ := Prod.mk.inj same
  obtain ⟨running, profile⟩ := Simulated.running_tick delivered
  refine ⟨⟨?_⟩, rfl⟩
  have before := inStep.running
  simp only [Coupling.served, Simulated.stubborn, Session.fed, running, profile] at before ⊢
  exact before

theorem handle (inStep : c.InStep) (handling : Handling) : (c.handle handling).InStep := by
  cases handling with
  | addPackets data frames offset =>
    cases data with
    | nil => exact inStep
    | cons src others =>
      constructor
      rw [Coupling.handle, Session.running_addPackets]
      exact inStep.running
  | tick =>
    rw [Coupling.handle]
    cases asked : c.ticked with
    | none => exact inStep
    | some outcome => exact (inStep.ticked asked).1
  | stop => exact inStep.halted
  | start => exact inStep.started
  | drain => exact ⟨inStep.halted.running⟩

theorem ticked_eq_none (inStep : c.InStep) (still : c.session.running = false)
    (yields : c.driver.stubborn = false) : c.ticked = none := by
  have driver : c.driver.running = false := by rw [inStep.running, still, yields, Bool.or_false]
  rw [Coupling.ticked, Simulated.tick_of_still driver]
  rfl

end InStep

theorem profile_handle (c : Coupling) (handling : Handling) :
    (c.handle handling).driver.profile = c.driver.profile ∧
      (c.handle handling).driver.registered = c.driver.registered := by
  cases handling with
  | addPackets data frames offset => cases data <;> exact ⟨rfl, rfl⟩
  | tick =>
    rw [handle, ticked, Simulated.tick]
    split <;> exact ⟨rfl, rfl⟩
  | stop | drain =>
    simp only [handle]
    rcases c.driver_halted with done | done <;> rw [done] <;> exact ⟨rfl, rfl⟩
  | start =>
    simp only [handle]
    rcases c.driver_started with done | ⟨_, done⟩ <;> rw [done] <;> exact ⟨rfl, rfl⟩

theorem thread_handle (c : Coupling) (handling : Handling) :
    (c.handle handling).thread = c.thread := by
  cases handling with
  | addPackets data frames offset => cases data <;> rfl
  | tick =>
    rw [handle, ticked]
    cases c.driver.tick <;> rfl
  | stop | drain => rfl
  | start => exact c.thread_started

@[simp] theorem stubborn_handle (c : Coupling) (handling : Handling) :
    (c.handle handling).driver.stubborn = c.driver.stubborn :=
  congrArg (·.failAt == some .stop) (c.profile_handle handling).1

end Coupling

namespace Studio

variable {studio : Studio} {line : Line} {c : Coupling}

/-- Whether a sink is there and runs. -/
def running (studio : Studio) (sink : Nat) : Bool :=
  (studio.sink? sink).any fun seated => seated.sink.isRunning

/-- What a sink is answered that is to be started. -/
def answer (studio : Studio) (line : Line) : Handling → List (Except SinkError Unit)
  | .start => [(studio.start line.sink).1]
  | _ => []

namespace Plays

theorem running (plays : studio.Plays line c) :
    studio.running line.sink = c.session.running := by
  obtain ⟨seated, found, _, connected⟩ := plays.seat
  simp [Studio.running, Sink.isRunning, found, connected]

theorem start_eq_ok_iff (plays : studio.Plays line c) :
    (studio.start line.sink).1 = .ok () ↔ c.started.session.running = true := by
  obtain ⟨seated, found, home, connected⟩ := plays.seat
  obtain ⟨host, present, opened⟩ := plays.home
  have there : studio.hosts[seated.host]? = some host := by rw [home, present]
  obtain ⟨reply, started, answered⟩ := Coupling.host_started plays.number opened
  rw [start_eq found connected there, plays.thread, started, ← answered]
  rcases reply with status | ⟨⟩ <;> simp

/-- A sink that stands still goes on standing still until it is started. -/
theorem still_handle (plays : studio.Plays line c) (still : c.session.running = false)
    {handling : Handling} (unstarted : .ok () ∉ studio.answer line handling) :
    (c.handle handling).session.running = false := by
  cases handling with
  | addPackets data frames offset =>
    cases data with
    | nil => exact still
    | cons src others =>
      rw [Coupling.handle, Session.running_addPackets]
      exact still
  | tick =>
    rw [Coupling.handle]
    cases asked : c.ticked with
    | none => exact still
    | some outcome =>
      obtain ⟨_, _, rfl⟩ := Option.map_eq_some_iff.mp asked
      exact still
  | stop | drain => rfl
  | start =>
    rw [answer, List.mem_singleton, eq_comm, plays.start_eq_ok_iff] at unstarted
    exact Bool.eq_false_iff.mpr unstarted

theorem inStep_run (plays : studio.Plays line c) (inStep : c.InStep) (handlings : List Handling) :
    ∃ next, (studio.handleAll line handlings).Plays line next ∧ next.InStep ∧
      next.driver.stubborn = c.driver.stubborn := by
  induction handlings generalizing studio c with
  | nil => exact ⟨c, plays, inStep, rfl⟩
  | cons handling rest ih =>
    obtain ⟨next, playing, kept, same⟩ := ih (plays.handle handling) (inStep.handle handling)
    exact ⟨next, playing, kept, same.trans (c.stubborn_handle handling)⟩

theorem still_run (plays : studio.Plays line c) (inStep : c.InStep)
    (still : c.session.running = false) (handlings : List Handling)
    (unstarted : .ok () ∉ studio.seen line (·.answer line) handlings) :
    ∃ next, (studio.handleAll line handlings).Plays line next ∧ next.InStep ∧
      next.session.running = false ∧ next.driver.stubborn = c.driver.stubborn := by
  induction handlings generalizing studio c with
  | nil => exact ⟨c, plays, inStep, still, rfl⟩
  | cons handling rest ih =>
    rw [seen, List.mem_append, not_or] at unstarted
    obtain ⟨next, playing, kept, stands, same⟩ := ih (plays.handle handling)
      (inStep.handle handling) (plays.still_handle still unstarted.1) unstarted.2
    exact ⟨next, playing, kept, stands, same.trans (c.stubborn_handle handling)⟩

end Plays

/-- Whatever is done with a connected sink, its driver runs exactly while the sink does or where
the driver fails to be stopped. With any other driver, from the time the sink was stopped or
drained until it is started again, no period is asked for and nothing changes. -/
theorem stopped_is_silent {sink : Nat} {format : StreamFormat} {device : String}
    (connected : (studio.connect sink format device).1.1 = .ok ()) :
    ∃ line, (studio.connect sink format device).2.line? sink = some line ∧ ∀ handlings,
      let reached := (studio.connect sink format device).2.handleAll line handlings
      ∃ driver, reached.driver? line.host line.driver = some driver ∧
        driver.running = (reached.running sink || driver.stubborn) ∧
        (driver.stubborn = false → ∀ halting, halting = .stop ∨ halting = .drain → ∀ later,
          .ok () ∉ (reached.handle line halting).seen line (·.answer line) later →
          ((reached.handle line halting).handleAll line later).tick line.host line.driver =
            (none, (reached.handle line halting).handleAll line later)) := by
  obtain ⟨line, chosen, profile, agreement, rfl, _, plays⟩ := plays_connect connected
  refine ⟨line, plays.line?, fun handlings => ?_⟩
  intro reached
  obtain ⟨c, playing, inStep, _⟩ := plays.inStep_run ⟨rfl⟩ handlings
  refine ⟨c.driver, playing.driver?, ?_, fun yields halting halts later unstarted => ?_⟩
  · rw [playing.running]
    exact inStep.running
  have still : (c.handle halting).session.running = false := by rcases halts with rfl | rfl <;> rfl
  obtain ⟨next, stands, kept, quiet, same⟩ := (playing.handle halting).still_run
    (inStep.handle halting) still later unstarted
  rw [c.stubborn_handle, yields] at same
  rcases stands.tick with ⟨_, done⟩ | ⟨_, _, _, asked, _⟩
  · exact done
  · rw [kept.ticked_eq_none quiet same] at asked
    contradiction

theorem stopped_is_silent_prompted :
    let opened := (prompted.connect 0 (.ofInput 48000 1 .s16le) "sim").2
    (prompted.connect 0 (.ofInput 48000 1 .s16le) "sim").1.1 = .ok () ∧
      (opened.tick 0 0).1 = some .first ∧
      .ok () ∉ ((opened.handleAll ⟨0, 0, 0⟩ [.tick]).handle ⟨0, 0, 0⟩ .drain).seen ⟨0, 0, 0⟩
        (·.answer ⟨0, 0, 0⟩) [.tick] ∧
      (((opened.handleAll ⟨0, 0, 0⟩ [.tick]).handle ⟨0, 0, 0⟩ .drain).handleAll ⟨0, 0, 0⟩
        [.tick]).tick 0 0 =
        (none, ((opened.handleAll ⟨0, 0, 0⟩ [.tick]).handle ⟨0, 0, 0⟩ .drain).handleAll ⟨0, 0, 0⟩
          [.tick]) := by
  intro opened
  refine ⟨rfl, rfl, List.not_mem_nil, ?_⟩
  obtain ⟨line, there, always⟩ :=
    @stopped_is_silent prompted 0 (.ofInput 48000 1 .s16le) "sim" rfl
  obtain rfl : line = ⟨0, 0, 0⟩ := (Option.some.inj there).symm
  obtain ⟨driver, found, _, silent⟩ := always [.tick]
  have yields : ((opened.handleAll ⟨0, 0, 0⟩ [.tick]).driver? 0 0).map Simulated.stubborn =
      some false := rfl
  rw [found] at yields
  exact silent (Option.some.inj yields) .drain (.inr rfl) [.tick] List.not_mem_nil

def unstoppable : Studio :=
  unused [[{ Profile.standard with clock := false, failAt := some .stop }]] [(0, .standard)]

/-- A drained sink does not run, and yet its driver runs, asks for a period and is served. -/
theorem drained_is_served :
    (unstoppable.connect 0 (.ofInput 48000 2 .float) "sim").1.1 = .ok () ∧
      ((unstoppable.connect 0 (.ofInput 48000 2 .float) "sim").2.drain 0).running 0 = false ∧
      (((unstoppable.connect 0 (.ofInput 48000 2 .float) "sim").2.drain 0).driver? 0 0).map
        Simulated.running = some true ∧
      (((unstoppable.connect 0 (.ofInput 48000 2 .float) "sim").2.drain 0).tick 0 0).1 =
        some .first ∧
      (((unstoppable.connect 0 (.ofInput 48000 2 .float) "sim").2.drain 0).tick 0 0).2.underruns
        ⟨0, 0, 0⟩ = 1 :=
  ⟨rfl, rfl, rfl, rfl, rfl⟩

end Studio

end PlanarSink
