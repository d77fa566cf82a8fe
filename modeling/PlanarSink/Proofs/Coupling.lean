import PlanarSink.Proofs.Ownership
import PlanarSink.Studio.Stream

/-! A connected sink and its driver. Whatever else is in a studio, handling the sink does
to its session and to its driver what it does to the two of them alone. -/
namespace PlanarSink

/-- A session with the driver it plays on, which gets a thread for its clock or not. -/
structure Coupling where
  session : Session
  driver : Simulated
  thread : Bool

namespace Coupling

def halted (c : Coupling) : Coupling :=
  { c with
    session := { c.session with running := false }
    driver := if c.session.running then c.driver.stop.2 else c.driver }

def started (c : Coupling) : Coupling :=
  if c.session.running then c
  else match c.driver.start c.thread with
    | (.ok (), driver) => { c with session := { c.session with running := true }, driver }
    | (.error _, driver) => { c with driver }

/-- The coupling after the session served a half of the driver's buffers. -/
def served (c : Coupling) (half : Half) : Coupling :=
  let served := c.session.dispatcher.serve half c.session.ring c.driver.buffers
  { c with session := c.session.fed served, driver := { c.driver with buffers := served.buffers } }

/-- The half that the driver asks for, if it is running, and the coupling after. -/
def ticked (c : Coupling) : Option (Half × Coupling) :=
  c.driver.tick.map fun (announcement, driver) =>
    (announcement.half, { c with driver }.served announcement.half)

def handle (c : Coupling) : Handling → Coupling
  | .addPackets (src :: _) frames offset =>
    { c with session := (c.session.addPackets src.bytes frames offset).2 }
  | .addPackets [] _ _ => c
  | .tick => c.ticked.elim c Prod.snd
  | .stop => c.halted
  | .start => c.started
  | .drain => { c.halted with session := { c.halted.session with ring := c.session.ring.dump } }

def arrival (c : Coupling) (plane : Nat) : Handling → List (Except ConvertError Bytes)
  | .addPackets (src :: _) frames offset =>
    c.session.codec.rendered src.bytes c.session.input.channels offset
      (c.session.addPackets src.bytes frames offset).1 plane
  | _ => []

def departure (c : Coupling) (plane : Nat) : Handling → Bytes
  | .tick => c.ticked.elim [] fun (half, next) =>
    if c.session.dispatcher.periodBytes ≤ c.session.ring.readSize then
      next.driver.output plane half.index
    else []
  | .drain => c.session.ring.queue plane
  | _ => []

def silence (c : Coupling) : Handling → List Half
  | .tick => c.ticked.elim [] fun (half, _) =>
    if c.session.dispatcher.periodBytes ≤ c.session.ring.readSize then [] else [half]
  | _ => []

section Host

variable {c : Coupling} {host : Host} {number : Nat}

theorem host_halted (known : c.session.driver = number)
    (opened : host.driver? number = some c.driver) :
    c.session.halted host = host.setDriver number c.halted.driver := by
  subst known
  unfold Session.halted halted
  by_cases running : c.session.running
  · rw [if_pos running, if_pos running, Host.call_of_driver? opened]
    rfl
  · rw [if_neg running, if_neg running, Host.setDriver_self opened]

theorem host_started (known : c.session.driver = number)
    (opened : host.driver? number = some c.driver) :
    ∃ reply, c.session.started c.thread host =
        ((reply, c.started.session), host.setDriver number c.started.driver) ∧
      (reply = .ok () ↔ c.started.session.running = true) := by
  subst known
  unfold Session.started started
  by_cases running : c.session.running
  · rw [if_pos running, if_pos running, Host.setDriver_self opened]
    exact ⟨_, rfl, by simp [running]⟩
  · rw [if_neg running, if_neg running, Host.call_of_driver? opened, Simulated.perform]
    rcases c.driver.start c.thread with ⟨status | ⟨⟩, driver⟩
    · exact ⟨_, rfl, by simp [running]⟩
    · exact ⟨_, rfl, by simp⟩

end Host

theorem session_started (c : Coupling) :
    ∃ running, c.started.session = { c.session with running } := by
  unfold started
  split
  · exact ⟨_, rfl⟩
  split
  · exact ⟨true, rfl⟩
  · exact ⟨c.session.running, rfl⟩

theorem thread_started (c : Coupling) : c.started.thread = c.thread := by
  unfold started
  split
  · rfl
  split <;> rfl

end Coupling

namespace Studio

/-- A coupling plays on a line: it is what a sink and its driver are there, and the slot
leads from the driver back to the sink. -/
structure Plays (studio : Studio) (line : Line) (c : Coupling) : Prop where
  seat : ∃ seated, studio.sink? line.sink = some seated ∧ seated.host = line.host ∧
    seated.sink.session = some c.session
  home : ∃ host, studio.hosts[line.host]? = some host ∧ host.driver? line.driver = some c.driver
  number : c.session.driver = line.driver
  target : studio.slot.target = some ⟨line.sink, line.host, line.driver, c.session.dispatcher⟩
  thread : studio.supply.thread = c.thread

namespace Plays

variable {studio : Studio} {line : Line} {c : Coupling}

theorem session? (plays : studio.Plays line c) : studio.session? line.sink = some c.session := by
  obtain ⟨seated, found, _, connected⟩ := plays.seat
  exact session?_eq_some_iff.mpr ⟨seated, found, connected⟩

theorem line? (plays : studio.Plays line c) : studio.line? line.sink = some line := by
  obtain ⟨seated, found, home, connected⟩ := plays.seat
  simp [Studio.line?, found, connected, home, plays.number]

theorem driver? (plays : studio.Plays line c) :
    studio.driver? line.host line.driver = some c.driver := by
  obtain ⟨host, present, opened⟩ := plays.home
  simpa [Studio.driver?, present] using opened

theorem queued (plays : studio.Plays line c) (plane : Nat) :
    studio.queued line plane = c.session.ring.queue plane := by
  simp [Studio.queued, plays.session?]

theorem backlog (plays : studio.Plays line c) : studio.backlog line = c.session.ring.readSize := by
  simp [Studio.backlog, plays.session?]

theorem underruns (plays : studio.Plays line c) : studio.underruns line = c.session.underruns := by
  simp [Studio.underruns, plays.session?]

theorem output (plays : studio.Plays line c) (plane : Nat) (half : Half) :
    studio.output line plane half = c.driver.output plane half.index := by
  simp [Studio.output, plays.driver?]

theorem setSink (plays : studio.Plays line c) {seated : SeatedSink}
    (found : studio.sink? line.sink = some seated) (state : SinkState) {session : Session}
    (same : session.line = c.session.line) :
    (studio.setSink line.sink (some (seated.become state (some session)))).Plays line
      { c with session } := by
  obtain ⟨driver, dispatcher⟩ := Prod.mk.inj same
  obtain ⟨current, there, home, _⟩ := plays.seat
  obtain rfl := Option.some.inj (found.symm.trans there)
  refine ⟨⟨_, sink?_setSink found _, home, rfl⟩, plays.home, driver.trans plays.number, ?_,
    plays.thread⟩
  rw [slot_setSink, plays.target, dispatcher]

theorem setDriver (plays : studio.Plays line c) (driver : Simulated) :
    (studio.setDriver line.host line.driver driver).Plays line { c with driver } := by
  obtain ⟨host, present, opened⟩ := plays.home
  have inside := (List.getElem?_eq_some_iff.mp present).1
  obtain ⟨current, there, _⟩ := Option.map_eq_some_iff.mp opened
  have known := (List.getElem?_eq_some_iff.mp there).1
  rw [setDriver_of_host present]
  exact ⟨plays.seat, ⟨_, hosts_place inside _ _, Host.driver?_setDriver known driver⟩, plays.number,
    plays.target, plays.thread⟩

theorem change (plays : studio.Plays line c) {seated : SeatedSink} {host : Host}
    (found : studio.sink? line.sink = some seated) (present : studio.hosts[line.host]? = some host)
    (state : SinkState) (next : Coupling) (same : next.session.line = c.session.line)
    (thread : next.thread = c.thread) :
    ((studio.place line.host (host.setDriver line.driver next.driver) studio.slot).setSink line.sink
      (some (seated.become state (some next.session)))).Plays line next := by
  have placed := plays.setDriver next.driver
  rw [setDriver_of_host present] at placed
  have played := placed.setSink found state same
  rw [← thread] at played
  exact played

theorem deliver (plays : studio.Plays line c) (half : Half) :
    (studio.deliver half).Plays line (c.served half) := by
  obtain ⟨seated, found, home, connected⟩ := plays.seat
  rw [deliver_eq plays.target found plays.driver? connected]
  refine (plays.setSink found seated.sink.state ?_).setDriver _
  rfl

/-- Either nothing is asked for, or a half is, and the coupling goes on as it does alone. -/
theorem tick (plays : studio.Plays line c) :
    (c.ticked = none ∧ studio.tick line.host line.driver = (none, studio)) ∨
      ∃ half next after, c.ticked = some (half, next) ∧
        studio.tick line.host line.driver = (some half, after) ∧ after.Plays line next := by
  unfold Studio.tick Coupling.ticked
  rw [plays.driver?]
  dsimp only
  cases c.driver.tick with
  | none => exact .inl ⟨rfl, rfl⟩
  | some outcome =>
    exact .inr ⟨_, _, _, rfl, rfl, (plays.setDriver outcome.2).deliver outcome.1.half⟩

theorem addPackets (plays : studio.Plays line c) (src : Bytes) (others : List Bytes)
    (frames offset : Nat) :
    (studio.addPackets line.sink (src :: others) frames offset).1 =
        (c.session.addPackets src frames offset).1 ∧
      (studio.addPackets line.sink (src :: others) frames offset).2.Plays line
        { c with session := (c.session.addPackets src frames offset).2 } := by
  obtain ⟨seated, found, _, connected⟩ := plays.seat
  rw [addPackets_eq found connected]
  exact ⟨rfl, plays.setSink found _ (Session.line_addPackets ..)⟩

theorem handle (plays : studio.Plays line c) (handling : Handling) :
    (studio.handle line handling).Plays line (c.handle handling) := by
  obtain ⟨seated, found, home, connected⟩ := plays.seat
  obtain ⟨host, present, opened⟩ := plays.home
  have there : studio.hosts[seated.host]? = some host := by rw [home, present]
  cases handling with
  | addPackets data frames offset =>
    cases data with
    | nil =>
      have nothing := addPackets_nil found frames offset
      simpa only [Studio.handle, Line.command, execute, List.map_nil, nothing, Coupling.handle]
        using plays
    | cons src others => exact (plays.addPackets src.bytes _ frames offset).2
  | tick =>
    simp only [Studio.handle, Line.command, execute, Coupling.handle]
    rcases plays.tick with ⟨still, done⟩ | ⟨half, next, after, asked, done, playing⟩
    · rw [still, done]
      exact plays
    · rw [asked, done]
      exact playing
  | stop =>
    simp only [Studio.handle, Line.command, execute]
    rw [stop_eq found connected there, home, Coupling.host_halted plays.number opened]
    exact plays.change found present .stopped c.halted rfl rfl
  | start =>
    simp only [Studio.handle, Line.command, execute]
    obtain ⟨reply, started, _⟩ := Coupling.host_started plays.number opened
    have line : c.started.session.line = c.session.line := by
      obtain ⟨running, session⟩ := c.session_started
      rw [session]
      rfl
    rw [start_eq found connected there, home, plays.thread, started]
    rcases reply with status | ⟨⟩
    · exact plays.change found present _ c.started line c.thread_started
    · exact plays.change found present .running c.started line c.thread_started
  | drain =>
    simp only [Studio.handle, Line.command, execute]
    rw [drain_eq found connected there, home, Coupling.host_halted plays.number opened]
    exact plays.change found present .stopped (c.handle .drain) rfl rfl

theorem arrival (plays : studio.Plays line c) (plane : Nat) (handling : Handling) :
    studio.arrival line c.session.codec c.session.input.channels plane handling =
      c.arrival plane handling := by
  cases handling with
  | addPackets data frames offset =>
    cases data with
    | nil => rfl
    | cons src others =>
      simp only [Studio.arrival, Coupling.arrival, List.map_cons, plays.addPackets]
  | tick | stop | start | drain => rfl

theorem departure (plays : studio.Plays line c) (plane : Nat) (handling : Handling) :
    studio.departure line c.session.dispatcher.periodBytes plane handling =
      c.departure plane handling := by
  cases handling with
  | tick =>
    simp only [Studio.departure, Coupling.departure, plays.backlog]
    rcases plays.tick with ⟨still, done⟩ | ⟨half, next, after, asked, done, playing⟩
    · rw [still, done]
      rfl
    · rw [asked, done]
      simp only [playing.output, Option.elim_some]
  | drain => exact plays.queued plane
  | addPackets | stop | start => rfl

theorem silence (plays : studio.Plays line c) (handling : Handling) :
    studio.silence line c.session.dispatcher.periodBytes handling = c.silence handling := by
  cases handling with
  | tick =>
    simp only [Studio.silence, Coupling.silence, plays.backlog]
    rcases plays.tick with ⟨still, done⟩ | ⟨half, next, after, asked, done, _⟩
    · rw [still, done]
      rfl
    · rw [asked, done]
      rfl
  | addPackets | stop | start | drain => rfl

end Plays

/-- A sink that was just connected runs and plays, with an empty ring, on a driver of the
profile that its host has for the device, which it engaged on its options. -/
theorem plays_prospect {studio : Studio} {sink : Nat} {format : StreamFormat} {device : String}
    (connected : (studio.connect sink format device).1.1 = .ok ()) :
    ∃ line chosen profile agreement, line.sink = sink ∧
      studio.prospect sink device = some (chosen, profile) ∧
      Session.Engagement studio.supply.thread (SinkOptions.normalized chosen) format profile
        agreement ∧
      (studio.connect sink format device).2.state? sink = some .running ∧
      (studio.connect sink format device).2.Plays line
        ⟨Session.fresh chosen.normalized format line.driver agreement,
          Session.engaged chosen.normalized format profile agreement, studio.supply.thread⟩ := by
  cases found : studio.sink? sink with
  | none => simp [connect, onSink, found] at connected
  | some seated =>
    have ways := connect_cases found format device
    generalize studio.connect sink format device = outcome at connected ways ⊢
    cases ways with
    | again | homeless | interrupted => contradiction
    | @opened host session after idle present opened =>
      obtain ⟨_, _, profile, agreement, offered, engagement, rfl, rfl⟩ := opened
      have inside := (List.getElem?_eq_some_iff.mp present).1
      refine ⟨⟨sink, seated.host, host.opened.length⟩, _, profile, agreement, rfl, ?_, engagement,
        ?_, ⟨seated.become .running (some _), ?_, rfl, rfl⟩,
        ⟨_, hosts_place inside _ studio.slot, Host.driver?_withOpened _ _⟩,
        rfl, rfl, rfl⟩
      · simp [prospect, found, present, offered]
      · rw [state?, sink?_setSink]
        · rfl
        · exact found
      · apply sink?_setSink
        exact found

theorem plays_connect {studio : Studio} {sink : Nat} {format : StreamFormat} {device : String}
    (connected : (studio.connect sink format device).1.1 = .ok ()) :
    ∃ line chosen profile agreement, line.sink = sink ∧
      Session.Engagement studio.supply.thread (SinkOptions.normalized chosen) format profile
        agreement ∧
      (studio.connect sink format device).2.Plays line
        ⟨Session.fresh chosen.normalized format line.driver agreement,
          Session.engaged chosen.normalized format profile agreement, studio.supply.thread⟩ := by
  obtain ⟨line, chosen, profile, agreement, here, _, engagement, _, plays⟩ :=
    plays_prospect connected
  exact ⟨line, chosen, profile, agreement, here, engagement, plays⟩

end Studio

end PlanarSink
