import PlanarSink.Proofs.Conservation
import PlanarSink.Proofs.OneOwner

/-! Where a period goes. A driver that runs is the one the slot leads from, whatever became
of the drivers before it; so the period it delivers reaches the connected sink that owns it,
and nothing else in the studio. -/
namespace PlanarSink

namespace Host

variable {host : Host} {number other : Nat}

theorem driver?_setDriver_ne (ne : other ≠ number) (driver : Simulated) :
    (host.setDriver number driver).driver? other = host.driver? other := by
  simp [driver?, setDriver, List.getElem?_modify_ne _ _ ne.symm]

theorem driver?_call_ne (ne : other ≠ number) (thread : Bool) (c : DriverCall) :
    (host.call thread number c).2.driver? other = host.driver? other := by
  cases found : host.driver? number with
  | none => simp only [call, found]
  | some driver =>
    rw [call_of_driver? found]
    exact driver?_setDriver_ne ne _

theorem driver?_dropDriver (host : Host) (number : Nat) :
    (host.dropDriver number).driver? number = (host.driver? number).map Simulated.halt := by
  cases found : host.opened[number]? <;> simp [driver?, dropDriver, found]

theorem driver?_dropDriver_ne (ne : other ≠ number) :
    (host.dropDriver number).driver? other = host.driver? other := by
  simp [driver?, dropDriver, List.getElem?_modify_ne _ _ ne.symm]

section Append

variable {next : Host} {more : List OpenedDriver} {driver : Simulated}
  (opened : next.opened = host.opened ++ more)
include opened

theorem driver?_of_append (found : host.driver? number = some driver) :
    next.driver? number = some driver := by
  obtain ⟨record, there, rfl⟩ := Option.map_eq_some_iff.mp found
  have inside := (List.getElem?_eq_some_iff.mp there).1
  simp [driver?, opened, List.getElem?_append_left inside, there]

/-- With more drivers on a host, a driver there is an old one or one of them. -/
theorem driver?_append (found : next.driver? number = some driver) :
    host.driver? number = some driver ∨
      ∃ place record, number = host.opened.length + place ∧ more[place]? = some record ∧
        record.driver = driver := by
  unfold driver? at found ⊢
  rw [opened] at found
  rcases Nat.lt_or_ge number host.opened.length with earlier | later
  · rw [List.getElem?_append_left earlier] at found
    exact .inl found
  · rw [List.getElem?_append_right later] at found
    obtain ⟨record, there, same⟩ := Option.map_eq_some_iff.mp found
    exact .inr ⟨_, record, (Nat.add_sub_cancel' later).symm, there, same⟩

end Append

end Host

namespace Session

variable {session : Session} {host : Host} {other : Nat}

theorem driver?_halted_ne (ne : other ≠ session.driver) :
    (session.halted host).driver? other = host.driver? other := by
  unfold halted
  split
  · exact Host.driver?_call_ne ne _ .stop
  · rfl

theorem driver?_abandoned_ne (ne : other ≠ session.driver) :
    (session.abandoned host).driver? other = host.driver? other := by
  have dropped := @Host.driver?_dropDriver_ne
    ((session.halted host).call false session.driver .disposeBuffers).2 session.driver other ne
  exact dropped.trans ((Host.driver?_call_ne ne _ _).trans (driver?_halted_ne ne))

theorem still_abandoned {driver : Simulated}
    (found : (session.abandoned host).driver? session.driver = some driver) :
    driver.running = false := by
  have dropped := Host.driver?_dropDriver
    ((session.halted host).call false session.driver .disposeBuffers).2 session.driver
  obtain ⟨_, _, rfl⟩ := Option.map_eq_some_iff.mp (dropped.symm.trans found)
  rfl

end Session

namespace Studio

variable {studio : Studio} {line : Line}

theorem driver?_of_host {host : Host} {number : Nat} (present : studio.hosts[number]? = some host)
    (driver : Nat) : studio.driver? number driver = host.driver? driver := by
  simp [driver?, present]

theorem driver?_place {number : Nat} (present : number < studio.hosts.length) (host : Host)
    (slot : Slot Feed) (driver : Nat) :
    (studio.place number host slot).driver? number driver = host.driver? driver :=
  driver?_of_host (hosts_place present host slot) driver

theorem driver?_place_ne {number other : Nat} (ne : other ≠ number) (host : Host)
    (slot : Slot Feed) (driver : Nat) :
    (studio.place number host slot).driver? other driver = studio.driver? other driver := by
  simp only [driver?, hosts_place_ne ne host slot]

/-- One studio follows another with no change but to the sink and to the driver of a line. -/
structure Confined (line : Line) (before after : Studio) : Prop where
  slot : after.slot = before.slot
  supply : after.supply = before.supply
  sinks : ∀ sink, sink ≠ line.sink → after.sink? sink = before.sink? sink
  drivers : ∀ host number, ¬(host = line.host ∧ number = line.driver) →
    after.driver? host number = before.driver? host number

namespace Confined

theorem refl (line : Line) (studio : Studio) : Confined line studio studio :=
  ⟨rfl, rfl, fun _ _ => rfl, fun _ _ _ => rfl⟩

theorem trans {first second third : Studio} (before : Confined line first second)
    (after : Confined line second third) : Confined line first third :=
  ⟨after.slot.trans before.slot, after.supply.trans before.supply,
    fun sink other => (after.sinks sink other).trans (before.sinks sink other),
    fun host number other =>
      (after.drivers host number other).trans (before.drivers host number other)⟩

theorem setSink (line : Line) (studio : Studio) (seated : Option SeatedSink) :
    Confined line studio (studio.setSink line.sink seated) :=
  ⟨rfl, rfl, fun _ other => sink?_setSink_ne other seated, fun _ _ _ => rfl⟩

theorem place (line : Line) {host next : Host} (present : studio.hosts[line.host]? = some host)
    (others : ∀ number, number ≠ line.driver → next.driver? number = host.driver? number) :
    Confined line studio (studio.place line.host next studio.slot) := by
  have inside := (List.getElem?_eq_some_iff.mp present).1
  refine ⟨rfl, rfl, fun _ _ => rfl, ?_⟩
  intro number driver other
  by_cases here : number = line.host
  · subst here
    rw [driver?_place inside, driver?_of_host present]
    exact others driver fun same => other ⟨rfl, same⟩
  · exact driver?_place_ne here next studio.slot driver

theorem setDriver (line : Line) (studio : Studio) (driver : Simulated) :
    Confined line studio (studio.setDriver line.host line.driver driver) := by
  cases present : studio.hosts[line.host]? with
  | none =>
    rw [setDriver_of_absent present]
    exact refl line studio
  | some host =>
    rw [setDriver_of_host present]
    exact place line present fun _ other => Host.driver?_setDriver_ne other driver

end Confined

namespace Plays

variable {c : Coupling}

theorem confined_deliver (plays : studio.Plays line c) (half : Half) :
    Confined line studio (studio.deliver half) := by
  obtain ⟨seated, found, _, connected⟩ := plays.seat
  rw [deliver_eq plays.target found plays.driver? connected]
  exact (Confined.setSink line studio _).trans (.setDriver line _ _)

theorem confined_tick (plays : studio.Plays line c) :
    Confined line studio (studio.tick line.host line.driver).2 := by
  unfold Studio.tick
  rw [plays.driver?]
  dsimp only
  split
  · exact .refl line studio
  · next announcement driver _ =>
    exact (Confined.setDriver line studio driver).trans
      ((plays.setDriver driver).confined_deliver announcement.half)

theorem confined_addPackets (plays : studio.Plays line c) (data : List Bytes)
    (frames offset : Nat) :
    Confined line studio (studio.addPackets line.sink data frames offset).2 := by
  obtain ⟨seated, found, _, connected⟩ := plays.seat
  cases data with
  | nil =>
    rw [addPackets_nil found]
    exact .refl line studio
  | cons src others =>
    rw [addPackets_eq found connected]
    exact .setSink line studio _

theorem confined_handle (plays : studio.Plays line c) (handling : Handling) :
    Confined line studio (studio.handle line handling) := by
  obtain ⟨seated, found, home, connected⟩ := plays.seat
  obtain ⟨host, present, opened⟩ := plays.home
  have there : studio.hosts[seated.host]? = some host := by rw [home, present]
  have change (driver : Simulated) (next : Option SeatedSink) : Confined line studio
      ((studio.place line.host (host.setDriver line.driver driver) studio.slot).setSink line.sink
        next) :=
    (Confined.place line present fun _ other => Host.driver?_setDriver_ne other driver).trans
      (.setSink line _ next)
  cases handling with
  | addPackets data frames offset => exact plays.confined_addPackets _ frames offset
  | tick => exact plays.confined_tick
  | stop =>
    simp only [Studio.handle, Line.command, execute]
    rw [stop_eq found connected there, home, Coupling.host_halted plays.number opened]
    exact change _ _
  | start =>
    simp only [Studio.handle, Line.command, execute]
    obtain ⟨reply, started, _⟩ := Coupling.host_started plays.number opened
    rw [start_eq found connected there, home, plays.thread, started]
    rcases reply with status | ⟨⟩
    · exact change _ _
    · exact change _ _
  | drain =>
    simp only [Studio.handle, Line.command, execute]
    rw [drain_eq found connected there, home, Coupling.host_halted plays.number opened]
    exact change _ _

theorem keep (plays : studio.Plays line c) {next : Studio} (slot : next.slot = studio.slot)
    (supply : next.supply = studio.supply)
    (sink : next.sink? line.sink = studio.sink? line.sink)
    (driver : next.driver? line.host line.driver = studio.driver? line.host line.driver) :
    next.Plays line c := by
  obtain ⟨seated, found, home, connected⟩ := plays.seat
  refine ⟨⟨seated, sink.trans found, home, connected⟩, ?_, plays.number, slot ▸ plays.target,
    supply ▸ plays.thread⟩
  have there := driver.trans plays.driver?
  exact Option.bind_eq_some_iff.mp there

end Plays

/-- The slot leads from the one driver that may run to the sink it belongs to, and the two
are aligned. -/
structure Wired (studio : Studio) : Prop where
  orderly : studio.Orderly
  running : ∀ host number driver, studio.driver? host number = some driver →
    driver.running = true →
    ∃ feed, studio.slot.target = some feed ∧ feed.host = host ∧ feed.driver = number
  playing : ∀ feed, studio.slot.target = some feed →
    ∃ c level, studio.Plays ⟨feed.sink, feed.host, feed.driver⟩ c ∧ c.Aligned level

namespace Wired

variable {sink number : Nat} {seated : SeatedSink} {host : Host}

theorem plays (wired : studio.Wired) (found : studio.sink? sink = some seated) {session : Session}
    (connected : seated.sink.session = some session) :
    ∃ c level, studio.Plays ⟨sink, seated.host, session.driver⟩ c ∧ c.Aligned level :=
  wired.playing _ (wired.orderly.owner sink seated found session connected)

theorem confined {next : Studio} {line : Line} {c : Coupling} {level : Nat} (wired : studio.Wired)
    (confined : Confined line studio next) (orderly : next.Orderly) (plays : next.Plays line c)
    (aligned : c.Aligned level) : next.Wired := by
  refine ⟨orderly, ?_, ?_⟩
  · intro host number driver found running
    by_cases here : host = line.host ∧ number = line.driver
    · exact ⟨_, plays.target, here.1.symm, here.2.symm⟩
    · rw [confined.slot]
      exact wired.running host number driver (confined.drivers host number here ▸ found) running
  · intro feed target
    obtain rfl := Option.some.inj (plays.target.symm.trans target)
    exact ⟨c, level, plays, aligned⟩

theorem setSink (wired : studio.Wired) (idle : studio.session? sink = none)
    {next : Option SeatedSink} (orderly : (studio.setSink sink next).Orderly) :
    (studio.setSink sink next).Wired := by
  refine ⟨orderly, wired.running, ?_⟩
  intro feed target
  obtain ⟨c, level, plays, aligned⟩ := wired.playing feed target
  have elsewhere : feed.sink ≠ sink := by
    rintro rfl
    rw [plays.session?] at idle
    contradiction
  exact ⟨c, level, plays.keep rfl rfl (sink?_setSink_ne elsewhere next) rfl, aligned⟩

theorem place (wired : studio.Wired) (present : studio.hosts[number]? = some host) {next : Host}
    (steady : host.Steady next) {more : List OpenedDriver}
    (opened : next.opened = host.opened ++ more)
    (still : ∀ record ∈ more, record.driver.running = false) :
    (studio.place number next studio.slot).Wired := by
  have inside := (List.getElem?_eq_some_iff.mp present).1
  refine ⟨wired.orderly.place present steady, ?_, ?_⟩
  · intro other driver simulated found running
    by_cases here : other = number
    · subst here
      rw [driver?_place inside] at found
      rcases Host.driver?_append opened found with before | ⟨_, record, _, there, rfl⟩
      · rw [← driver?_of_host present] at before
        exact wired.running other driver simulated before running
      · rw [still record (List.mem_of_getElem? there)] at running
        contradiction
    · rw [driver?_place_ne here] at found
      exact wired.running other driver simulated found running
  · intro feed target
    obtain ⟨c, level, plays, aligned⟩ := wired.playing feed target
    refine ⟨c, level, plays.keep rfl rfl rfl ?_, aligned⟩
    by_cases here : feed.host = number
    · subst here
      have before := plays.driver?
      rw [driver?_of_host present] at before
      rw [driver?_place inside, driver?_of_host present, before]
      exact Host.driver?_of_append opened before
    · exact driver?_place_ne here next studio.slot feed.driver

theorem vacant (wired : studio.Wired) (vacant : studio.slot.target = none) {host number : Nat}
    {driver : Simulated} (found : studio.driver? host number = some driver) :
    driver.running = false := by
  apply Bool.eq_false_iff.mpr
  intro running
  obtain ⟨feed, target, _⟩ := wired.running host number driver found running
  rw [vacant] at target
  contradiction

/-- With the slot vacant, a driver that runs after one more was opened is the new one. -/
theorem newest (wired : studio.Wired) (vacant : studio.slot.target = none)
    (present : studio.hosts[number]? = some host) {next : Host} {record : OpenedDriver}
    (opened : next.opened = host.opened ++ [record]) {after : Studio}
    (hosts : after.hosts = studio.hosts.set number next) {other driver : Nat}
    {simulated : Simulated} (found : after.driver? other driver = some simulated)
    (running : simulated.running = true) : other = number ∧ driver = host.opened.length := by
  have inside := (List.getElem?_eq_some_iff.mp present).1
  have same : after.driver? = (studio.place number next studio.slot).driver? := by
    unfold Studio.driver?
    rw [hosts]
    rfl
  rw [same] at found
  by_cases here : other = number
  · subst here
    rw [driver?_place inside] at found
    rcases Host.driver?_append opened found with before | ⟨place, _, rfl, there, _⟩
    · rw [← driver?_of_host present] at before
      rw [wired.vacant vacant before] at running
      contradiction
    · obtain ⟨first, _⟩ := List.getElem?_eq_some_iff.mp there
      obtain rfl : place = 0 := Nat.lt_one_iff.mp first
      exact ⟨rfl, rfl⟩
  · rw [driver?_place_ne here] at found
    rw [wired.vacant vacant found] at running
    contradiction

theorem handle (wired : studio.Wired) {line : Line} {c : Coupling} {level : Nat}
    (plays : studio.Plays line c) (aligned : c.Aligned level) (handling : Handling) :
    (studio.handle line handling).Wired := by
  exact wired.confined (plays.confined_handle handling) (wired.orderly.execute _)
    (plays.handle handling) (aligned.handle handling).1

/-- What is done to a sink by its number is done on its line, if it is connected, and is
nothing otherwise. -/
theorem handled (wired : studio.Wired) (sink : Nat) {next : Studio} {handling : Handling}
    (idle : studio.session? sink = none → next = studio)
    (here : ∀ host driver, studio.handle ⟨sink, host, driver⟩ handling = next) : next.Wired := by
  cases has : studio.session? sink with
  | none => rwa [idle has]
  | some session =>
    obtain ⟨seated, found, connected⟩ := session?_eq_some_iff.mp has
    obtain ⟨c, level, plays, aligned⟩ := wired.plays found connected
    rw [← here seated.host session.driver]
    exact wired.handle plays aligned handling

theorem addPackets (wired : studio.Wired) (sink : Nat) (data : List Bytes) (frames offset : Nat) :
    (studio.addPackets sink data frames offset).2.Wired := by
  have orderly := wired.orderly.addPackets sink data frames offset
  cases has : studio.session? sink with
  | none => rwa [addPackets_idle has]
  | some session =>
    obtain ⟨seated, found, connected⟩ := session?_eq_some_iff.mp has
    cases data with
    | nil => rwa [addPackets_nil found]
    | cons src others =>
      obtain ⟨c, level, plays, aligned⟩ := wired.plays found connected
      obtain ⟨after, kept⟩ := aligned.addPackets src frames offset
      exact wired.confined (plays.confined_addPackets (src :: others) frames offset) orderly
        (plays.addPackets src others frames offset).2 kept

theorem owner (wired : studio.Wired) {host number : Nat} {driver : Simulated}
    (found : studio.driver? host number = some driver) {outcome : Announcement × Simulated}
    (asked : driver.tick = some outcome) :
    ∃ sink c level, studio.Plays ⟨sink, host, number⟩ c ∧ c.Aligned level := by
  have running : driver.running = true := by
    apply Bool.not_eq_false _ |>.mp
    intro still
    rw [Simulated.tick_of_still still] at asked
    contradiction
  obtain ⟨feed, target, rfl, rfl⟩ := wired.running host number driver found running
  exact ⟨feed.sink, wired.playing feed target⟩

theorem tick (wired : studio.Wired) (host number : Nat) :
    (studio.tick host number).2.Wired := by
  cases found : studio.driver? host number with
  | none => simpa only [Studio.tick, found] using wired
  | some driver =>
    cases asked : driver.tick with
    | none => simpa only [Studio.tick, found, asked] using wired
    | some outcome =>
      obtain ⟨sink, c, level, plays, aligned⟩ := wired.owner found asked
      exact wired.handle plays aligned .tick

theorem disconnect (wired : studio.Wired) (sink : Nat) : (studio.disconnect sink).Wired := by
  have orderly := wired.orderly.disconnect sink
  rcases wired.orderly.session_cases sink with
    idle | ⟨seated, session, host, found, connected, present, _⟩
  · rwa [disconnect_idle idle]
  rw [disconnect_eq found connected present] at orderly ⊢
  have target := wired.orderly.owner sink seated found session connected
  have inside := (List.getElem?_eq_some_iff.mp present).1
  have still : ∀ number driver simulated,
      (studio.place seated.host (session.abandoned host) .free).driver? number driver =
        some simulated → simulated.running = false := by
    intro number driver simulated there
    apply Bool.eq_false_iff.mpr
    intro running
    have before (same : (studio.place seated.host (session.abandoned host) .free).driver? number
        driver = studio.driver? number driver) : seated.host = number ∧ session.driver = driver := by
      obtain ⟨feed, again, home, known⟩ := wired.running number driver simulated (same ▸ there) running
      obtain rfl := Option.some.inj (target.symm.trans again)
      exact ⟨home, known⟩
    by_cases here : number = seated.host
    · subst here
      by_cases own : driver = session.driver
      · subst own
        rw [driver?_place inside] at there
        exact Bool.noConfusion (running.symm.trans (Session.still_abandoned there))
      · refine own (before ?_).2.symm
        rw [driver?_place inside, driver?_of_host present, Session.driver?_abandoned_ne own]
    · exact here (before (driver?_place_ne here _ _ driver)).1.symm
  refine ⟨orderly, ?_, nofun⟩
  intro number driver simulated there running
  exact Bool.noConfusion (running.symm.trans (still number driver simulated there))

theorem dropSink (wired : studio.Wired) (sink : Nat) : (studio.dropSink sink).Wired := by
  apply (wired.disconnect sink).setSink
  · exact wired.orderly.session?_disconnect sink
  · exact wired.orderly.dropSink sink

theorem connect (wired : studio.Wired) (sink : Nat) (format : StreamFormat) (device : String) :
    (studio.connect sink format device).2.Wired := by
  have orderly := wired.orderly.connect sink format device
  cases found : studio.sink? sink with
  | none => simpa [Studio.connect, onSink, found] using wired
  | some seated =>
    have vacant (idle : seated.sink.session = none) : studio.session? sink = none :=
      session?_eq_none_iff.mpr fun _ same => Option.some.inj (found.symm.trans same) ▸ idle
    have opening := @plays_connect studio sink format device
    have ways := connect_cases found format device
    generalize studio.connect sink format device = outcome at orderly ways opening ⊢
    cases ways with
    | again _ => exact wired
    | homeless idle _ => exact wired.setSink (vacant idle) orderly
    | interrupted idle present _ rolledBack unclaimed =>
      have steady := Host.Steady.rolledBack rolledBack
      obtain ⟨remnants, _, dropped, rfl⟩ := rolledBack
      rw [wired.orderly.slot_rolledBack unclaimed] at orderly ⊢
      refine (wired.place present steady rfl ?_).setSink (vacant idle) orderly
      exact fun opened member => (dropped opened member).still
    | @opened host session after idle present opened =>
      obtain ⟨line, chosen, profile, agreement, rfl, engagement, plays⟩ := opening rfl
      obtain ⟨_, unclaimed, _, _, _, _, rfl, rfl⟩ := opened
      refine ⟨orderly, ?_, ?_⟩
      · intro number driver simulated there running
        obtain ⟨rfl, rfl⟩ := wired.newest (wired.orderly.vacant unclaimed) present rfl rfl
          there running
        exact ⟨_, rfl, rfl, rfl⟩
      · intro feed target
        obtain rfl := Option.some.inj (plays.target.symm.trans target)
        exact ⟨_, 0, plays, engagement.aligned line.driver⟩

theorem setRefusing (wired : studio.Wired) (number : Nat) (refusing : Bool) :
    (studio.setRefusing number refusing).Wired := by
  cases present : studio.hosts[number]? with
  | none => rwa [setRefusing_of_absent present]
  | some host =>
    rw [setRefusing_of_host present]
    refine wired.place present ⟨rfl, rfl, fun _ live => live⟩ (List.append_nil _).symm ?_
    exact fun _ member => absurd member List.not_mem_nil

/-- Where threads can be had from now on matters to the driver on a line, but not that it plays. -/
theorem setSupply (wired : studio.Wired) (supply : Supply) : (studio.setSupply supply).Wired := by
  refine ⟨wired.orderly.setSupply supply, wired.running, ?_⟩
  intro feed target
  obtain ⟨c, level, plays, aligned⟩ := wired.playing feed target
  exact ⟨{ c with thread := supply.thread }, level,
    ⟨plays.seat, plays.home, plays.number, plays.target, rfl⟩, aligned.change rfl rfl rfl rfl⟩

theorem execute (wired : studio.Wired) (command : Command) : (studio.execute command).Wired := by
  cases command with
  | connect sink format device => exact wired.connect sink format device
  | disconnect sink => exact wired.disconnect sink
  | stop sink => exact @handled _ wired sink _ .stop stop_idle fun _ _ => rfl
  | start sink => exact @handled _ wired sink _ .start start_idle fun _ _ => rfl
  | drain sink => exact @handled _ wired sink _ .drain drain_idle fun _ _ => rfl
  | addPackets sink data frames offset => exact wired.addPackets sink data frames offset
  | drop sink => exact wired.dropSink sink
  | tick host driver => exact wired.tick host driver
  | refuse host refusing => exact wired.setRefusing host refusing
  | supply supply => exact wired.setSupply supply

theorem run (wired : studio.Wired) (commands : List Command) : (studio.run commands).Wired := by
  induction commands generalizing studio with
  | nil => exact wired
  | cons command commands ih => exact ih (wired.execute command)

theorem unused (hosts : List (List Profile)) (sinks : List (Nat × SinkOptions)) :
    (Studio.unused hosts sinks).Wired := by
  refine ⟨.unused hosts sinks, ?_, nofun⟩
  intro number driver simulated found _
  obtain ⟨host, present, known⟩ := Option.bind_eq_some_iff.mp found
  obtain ⟨profiles, _, rfl⟩ : ∃ profiles, hosts[number]? = some profiles ∧
      Host.ofProfiles profiles = host := by
    simpa [Studio.unused, ofHosts] using present
  contradiction

end Wired

/-- A period went over a line: from the one connected sink to its own driver, of which it
filled one half in every plane, with what every plane of the ring gave for it or, with the
ring as it was, with silence. The rest of the studio is as before. -/
structure Carried (line : Line) (half : Half) (before after : Studio) : Prop where
  owner : before.line? line.sink = some line
  only : ∀ sink, before.connected sink = true → sink = line.sink
  filled : ∃ session ring underruns driver,
    before.session? line.sink = some session ∧
    after.session? line.sink = some { session with ring, underruns } ∧
    after.driver? line.host line.driver = some driver ∧
    driver.buffers.length = session.geometry.planes ∧
    ring.capacity = session.ring.capacity ∧
    (∀ plane < session.geometry.planes, (after.output line plane half).length =
      session.geometry.periodFrames * session.sampleSize) ∧
    ((∀ plane < session.geometry.planes,
        after.output line plane half ++ ring.queue plane = session.ring.queue plane) ∨
      ring = session.ring ∧ ∀ plane < session.geometry.planes, after.output line plane half =
        Silence.bytes session.geometry.sampleType
          (session.geometry.periodFrames * session.sampleSize))
  other : ∀ plane, after.output line plane half.other = before.output line plane half.other
  rest : Confined line before after

theorem Plays.carried {c : Coupling} {level : Nat} (plays : studio.Plays line c)
    (aligned : c.Aligned level) (orderly : studio.Orderly) {half : Half} {after : Studio}
    (asked : studio.tick line.host line.driver = (some half, after)) :
    Carried line half studio after := by
  have rest := plays.confined_tick
  rw [asked] at rest
  rcases plays.tick with ⟨_, done⟩ | ⟨_, _, _, delivered, done, playing⟩
  · rw [done] at asked
    simp at asked
  obtain ⟨same, rfl⟩ := Prod.mk.inj (asked.symm.trans done)
  obtain rfl := Option.some.inj same
  obtain ⟨driver, buffers, ticked, rfl⟩ := aligned.ticked delivered
  have connected : studio.connected line.sink = true :=
    connected_eq_true_iff.mpr ⟨_, plays.session?⟩
  obtain ⟨_, served⟩ := ticked.served half
  obtain ⟨capacity, ways⟩ := ticked.served_cases half
  refine ⟨plays.line?, fun sink here => orderly.connected_unique here connected, ?_, ?_, rest⟩
  · refine ⟨c.session, _, _, _, plays.session?, playing.session?, playing.driver?, served.buffers,
      capacity, ?_, ?_⟩
    · intro plane there
      rw [playing.output]
      exact served.length_output there half
    · simp only [playing.output]
      exact ways
  · intro plane
    rw [playing.output, plays.output, ticked.served_other, Simulated.output_index,
      Simulated.output_index, buffers]

/-- Whatever was done in a studio before, a driver told to deliver a period, dropped or not,
does nothing at all, or it is the connected sink's own and the period goes to it. -/
theorem tick_confined (hosts : List (List Profile)) (sinks : List (Nat × SinkOptions))
    (commands : List Command) (host number : Nat) :
    let studio := (unused hosts sinks).run commands
    match studio.tick host number with
    | (none, after) => after = studio
    | (some half, after) => ∃ sink, Carried ⟨sink, host, number⟩ half studio after := by
  intro studio
  have wired : studio.Wired := (Wired.unused hosts sinks).run commands
  generalize studio = studio at wired ⊢
  cases found : studio.driver? host number with
  | none => simp only [Studio.tick, found]
  | some driver =>
    cases asked : driver.tick with
    | none => simp only [Studio.tick, found, asked]
    | some outcome =>
      obtain ⟨sink, c, level, plays, aligned⟩ := wired.owner found asked
      rcases delivered : studio.tick host number with ⟨_ | half, after⟩
      · simp [Studio.tick, found, asked] at delivered
      · exact ⟨sink, plays.carried aligned wired.orderly delivered⟩

/-- A host with a driver for periods of two frames, which delivers them when it is told to. -/
def awaiting : List Profile :=
  [{ Profile.standard with
    minPeriod := 1, preferredPeriod := 2, sampleType := .ofInt 16, clock := false }]

/-- Two sinks of the host are connected, one after the other; the second one gets three frames. -/
def relay : List Command :=
  [.connect 0 (.ofInput 48000 1 .s16le) "sim", .disconnect 0,
    .connect 1 (.ofInput 48000 1 .s16le) "sim", .addPackets 1 [[1, 2, 3, 4, 5, 6]] 3 0]

theorem tick_confined_relay :
    let studio := (unused [awaiting] [(0, .standard), (0, .standard)]).run relay
    studio.tick 0 0 = (none, studio) ∧ (studio.tick 0 1).1 = some .first ∧
      (∃ sink, Carried ⟨sink, 0, 1⟩ .first studio (studio.tick 0 1).2) ∧
      (studio.tick 0 1).2.output ⟨1, 0, 1⟩ 0 .first = [1, 2, 3, 4] ∧
      (studio.tick 0 1).2.queued ⟨1, 0, 1⟩ 0 = [5, 6] :=
  ⟨rfl, rfl, tick_confined [awaiting] [(0, .standard), (0, .standard)] relay 0 1, rfl, rfl⟩

end Studio

end PlanarSink
