import PlanarSink.Proofs.Attempt

/-! What the operations of a sink do to a studio: to its own record, to the record of
its host, and to the slot. -/
namespace PlanarSink

/-- The record of a sink in another state and with another session. -/
def SeatedSink.become (seated : SeatedSink) (state : SinkState) (session : Option Session) :
    SeatedSink :=
  { seated with sink := { seated.sink with state, session } }

/-- The state in which an attempt to connect leaves the sink when it is interrupted. -/
def Interruption.left : Interruption → SinkState
  | .failure _ => .uninitialized
  | .panic => .negotiating

namespace Session

variable {seat : Seat} {host : Host} {slot : Slot Feed}

/-- The record of a host after a session stopped its driver there, which takes no thread. -/
def halted (s : Session) (host : Host) : Host :=
  if s.running then (host.call false s.driver .stop).2 else host

/-- The record of a host after a session was closed. -/
def abandoned (s : Session) (host : Host) : Host :=
  (((s.halted host).call false s.driver .disposeBuffers).2.dropDriver s.driver).release

theorem discard_ask {σ : Type} [Backend σ] (request : Request) (state : σ) :
    (discard (Backend.ask request : StateM σ request.Reply)) state =
      ((), (Backend.perform request state).2) :=
  rfl

theorem stop_place (present : seat.host < seat.studio.hosts.length) (s : Session) :
    s.stop (seat.place host slot) =
      ({ s with running := false }, seat.place (s.halted host) slot) := by
  unfold stop halted
  by_cases running : s.running
  · simp only [running, if_true, bind, StateT.bind]
    rw [discard_ask, Seat.perform_place present]
    rfl
  · simp only [running, Bool.false_eq_true, if_false]
    rfl

theorem close_place (present : seat.host < seat.studio.hosts.length) (s : Session) :
    s.close (seat.place host slot) = ((), seat.place (s.abandoned host) .free) := by
  unfold close
  simp only [bind, StateT.bind]
  rw [stop_place present]
  dsimp only
  rw [discard_ask, Seat.perform_place present]
  simp only [Backend.ask, Seat.perform_place present]
  rfl

/-- The answer to a session that starts its driver, the session and the record of the
host then. -/
def started (s : Session) (thread : Bool) (host : Host) :
    (Except Status Unit × Session) × Host :=
  if s.running then ((.ok (), s), host)
  else match host.call thread s.driver .start with
    | (.ok (), after) => ((.ok (), { s with running := true }), after)
    | (.error status, after) => ((.error status, s), after)

theorem start_place (present : seat.host < seat.studio.hosts.length) (s : Session) :
    s.start (seat.place host slot) =
      ((s.started seat.studio.supply.thread host).1,
        seat.place (s.started seat.studio.supply.thread host).2 slot) := by
  unfold start started
  by_cases running : s.running
  · simp only [running, if_true]
    rfl
  · simp only [running, Bool.false_eq_true, if_false, bind, StateT.bind, Backend.ask]
    rw [Seat.perform_place present]
    simp only [Seat.effect]
    rcases host.call seat.studio.supply.thread s.driver .start with ⟨status | ⟨⟩, after⟩ <;> rfl

/-- A session after a period was taken from its ring. -/
def fed (s : Session) (served : Served) : Session :=
  { s with
    ring := served.ring
    underruns := s.underruns + if served.underrun then 1 else 0 }

/-- No more frames are taken than are asked for. -/
theorem addPackets_le (s : Session) (src : Bytes) (frames offset : Nat) :
    (s.addPackets src frames offset).1 ≤ frames := by
  unfold addPackets acceptable
  dsimp only
  split
  · exact Nat.zero_le _
  split
  · exact Nat.zero_le _
  split
  · exact Nat.zero_le _
  · exact Nat.le_trans (Nat.min_le_left _ _) (Nat.min_le_left _ _)

end Session

namespace Studio

variable {studio : Studio} {sink : Nat} {seated : SeatedSink}

@[simp] theorem slot_setSink (studio : Studio) (sink : Nat) (seated : Option SeatedSink) :
    (studio.setSink sink seated).slot = studio.slot :=
  rfl

theorem sink?_eq_some_iff :
    studio.sink? sink = some seated ↔ studio.sinks[sink]? = some (some seated) :=
  Option.join_eq_some_iff

theorem sink?_setSink (found : studio.sink? sink = some seated) (next : Option SeatedSink) :
    (studio.setSink sink next).sink? sink = next := by
  have present := (List.getElem?_eq_some_iff.mp (sink?_eq_some_iff.mp found)).1
  simp [sink?, setSink, present]

theorem sink?_setSink_ne {other : Nat} (ne : other ≠ sink) (next : Option SeatedSink) :
    (studio.setSink sink next).sink? other = studio.sink? other := by
  simp [sink?, setSink, List.getElem?_set_ne ne.symm]

theorem sink?_setSink_none (studio : Studio) (sink : Nat) :
    (studio.setSink sink none).sink? sink = none := by
  by_cases present : sink < studio.sinks.length <;> simp [sink?, setSink, present]

theorem setSink_self (found : studio.sink? sink = some seated) :
    studio.setSink sink (some seated) = studio := by
  obtain ⟨present, same⟩ := List.getElem?_eq_some_iff.mp (sink?_eq_some_iff.mp found)
  rw [setSink, ← same, List.set_getElem_self]

section Adding

variable (studio) (host : Nat) (options : SinkOptions)

theorem sink?_addSink :
    (studio.addSink host options).sink? studio.sinks.length = some ⟨host, .ofOptions options⟩ := by
  simp [addSink, sink?]

theorem sink?_addSink_of_some {seated : SeatedSink} (found : studio.sink? sink = some seated) :
    (studio.addSink host options).sink? sink = some seated := by
  have present := (List.getElem?_eq_some_iff.mp (sink?_eq_some_iff.mp found)).1
  rw [sink?_eq_some_iff] at found ⊢
  rw [← found]
  exact List.getElem?_append_left present

theorem sink?_addSink_cases {seated : SeatedSink}
    (found : (studio.addSink host options).sink? sink = some seated) :
    studio.sink? sink = some seated ∨ seated.sink = .ofOptions options := by
  rw [sink?_eq_some_iff] at found ⊢
  rcases Nat.lt_or_ge sink studio.sinks.length with earlier | later
  · exact .inl ((List.getElem?_append_left earlier).symm.trans found)
  · have added := (List.getElem?_append_right later).symm.trans found
    obtain ⟨_, same⟩ := List.getElem?_eq_some_iff.mp added
    refine .inr ?_
    simp only [List.getElem_singleton, Option.some.injEq] at same
    rw [← same]

end Adding

theorem hosts_place {number : Nat} (present : number < studio.hosts.length) (host : Host)
    (slot : Slot Feed) : (studio.place number host slot).hosts[number]? = some host := by
  simp [place, present]

theorem hosts_place_ne {number other : Nat} (ne : other ≠ number) (host : Host)
    (slot : Slot Feed) : (studio.place number host slot).hosts[other]? = studio.hosts[other]? := by
  simp [place, List.getElem?_set_ne ne.symm]

theorem seat_pure (answer : α) (seat : Seat) :
    (pure answer : StateM Seat α) seat = (answer, seat) :=
  rfl

theorem onSink_of_sink? {otherwise : α} {operation : Sink → StateM Seat (α × Sink)}
    (found : studio.sink? sink = some seated) :
    studio.onSink sink otherwise operation =
      (((operation seated.sink) ⟨sink, seated.host, studio⟩).1.1,
        ((operation seated.sink) ⟨sink, seated.host, studio⟩).2.studio.setSink sink
          (some { seated with
            sink := ((operation seated.sink) ⟨sink, seated.host, studio⟩).1.2 })) := by
  simp only [onSink, found]
  rfl

theorem setDriver_of_host {number : Nat} {host : Host} (present : studio.hosts[number]? = some host)
    (driver : Nat) (next : Simulated) :
    studio.setDriver number driver next =
      studio.place number (host.setDriver driver next) studio.slot := by
  simp [setDriver, onHost, present, place]

theorem setDriver_of_absent {number : Nat} (absent : studio.hosts[number]? = none) (driver : Nat)
    (next : Simulated) : studio.setDriver number driver next = studio := by
  simp [setDriver, onHost, absent]

section Delivery

variable {feed : Feed} {session : Session} {driver : Simulated}

theorem deliver_eq (target : studio.slot.target = some feed)
    (found : studio.sink? feed.sink = some seated)
    (opened : studio.driver? feed.host feed.driver = some driver)
    (connected : seated.sink.session = some session) (half : Half) :
    studio.deliver half =
      (studio.setSink feed.sink (some (seated.become seated.sink.state
        (some (session.fed (feed.dispatcher.serve half session.ring driver.buffers)))))).setDriver
          feed.host feed.driver
          { driver with
            buffers := (feed.dispatcher.serve half session.ring driver.buffers).buffers } := by
  simp only [deliver, target, found, opened, connected]
  rfl

/-- A period reaches a connected sink and an opened driver, or nothing. -/
theorem deliver_cases (studio : Studio) (half : Half) :
    studio.deliver half = studio ∨
      ∃ feed seated session driver, studio.slot.target = some feed ∧
        studio.sink? feed.sink = some seated ∧
        studio.driver? feed.host feed.driver = some driver ∧
        seated.sink.session = some session := by
  cases target : studio.slot.target with
  | none => exact .inl (by simp only [deliver, target])
  | some feed =>
    cases found : studio.sink? feed.sink with
    | none => exact .inl (by simp only [deliver, target, found])
    | some seated =>
      cases opened : studio.driver? feed.host feed.driver with
      | none => exact .inl (by simp only [deliver, target, found, opened])
      | some driver =>
        cases connected : seated.sink.session with
        | none => exact .inl (by simp only [deliver, target, found, opened, connected])
        | some session =>
          exact .inr ⟨feed, seated, session, driver, rfl, found, opened, connected⟩

end Delivery

theorem slot_setDriver (studio : Studio) (host number : Nat) (driver : Simulated) :
    (studio.setDriver host number driver).slot = studio.slot := by
  cases present : studio.hosts[host]? with
  | none => rw [setDriver_of_absent present]
  | some record => rw [setDriver_of_host present, slot_place]

theorem slot_deliver (studio : Studio) (half : Half) : (studio.deliver half).slot = studio.slot := by
  rcases studio.deliver_cases half with
    same | ⟨feed, seated, session, driver, target, found, opened, connected⟩
  · rw [same]
  · rw [deliver_eq target found opened connected, slot_setDriver, slot_setSink]

theorem slot_tick (studio : Studio) (host number : Nat) :
    (studio.tick host number).2.slot = studio.slot := by
  unfold tick
  split
  · rfl
  split
  · rfl
  · rw [slot_deliver, slot_setDriver]

theorem setRefusing_of_host {number : Nat} {host : Host}
    (present : studio.hosts[number]? = some host) (refusing : Bool) :
    studio.setRefusing number refusing =
      studio.place number { host with refusing } studio.slot := by
  simp [setRefusing, onHost, present, place]

theorem setRefusing_of_absent {number : Nat} (absent : studio.hosts[number]? = none)
    (refusing : Bool) : studio.setRefusing number refusing = studio := by
  simp [setRefusing, onHost, absent]

/-- The ways in which an attempt to connect a sink can end. -/
inductive Connecting (studio : Studio) (sink : Nat) (seated : SeatedSink) (format : StreamFormat)
    (device : String) : (Except Interruption Unit × StreamFormat) × Studio → Prop where
  | again {session : Session} (connected : seated.sink.session = some session) :
      Connecting studio sink seated format device
        ((.error (.failure .alreadyInitialized), format), studio)
  | homeless (idle : seated.sink.session = none) (absent : studio.hosts[seated.host]? = none) :
      Connecting studio sink seated format device
        ((.error (.failure (.driverOpen device .notPresent)), format),
          studio.setSink sink (some (seated.become .uninitialized none)))
  | interrupted {host host' : Host} {slot' : Slot Feed} {interruption : Interruption}
      {left : StreamFormat}
      (idle : seated.sink.session = none) (present : studio.hosts[seated.host]? = some host)
      (panicked : interruption = .panic → ∃ profile, host.profile? device = some profile ∧
        profile.Oversized seated.sink.options.normalized format)
      (rolledBack : host.RolledBack host') (unclaimed : studio.slot.RolledBack slot') :
      Connecting studio sink seated format device
        ((.error interruption, left),
          (studio.place seated.host host' slot').setSink sink
            (some (seated.become interruption.left none)))
  | opened {host : Host} {session : Session} {after : Opening Seat}
      (idle : seated.sink.session = none) (present : studio.hosts[seated.host]? = some host)
      (opened : session.Opened ⟨sink, seated.host, studio⟩ host studio.slot
        seated.sink.options.normalized format device after) :
      Connecting studio sink seated format device
        ((.ok (), after.format),
          after.backend.studio.setSink sink (some (seated.become .running (some session))))

theorem connect_cases (found : studio.sink? sink = some seated) (format : StreamFormat)
    (device : String) :
    Connecting studio sink seated format device (studio.connect sink format device) := by
  rw [connect, onSink_of_sink? found]
  simp only [bind, StateT.bind, seat_pure]
  cases idle : seated.sink.session with
  | some session =>
    simp only [Sink.connect, idle]
    rw [setSink_self found]
    exact .again idle
  | none =>
    simp only [Sink.connect, idle, ExceptT.run]
    cases present : studio.hosts[seated.host]? with
    | none =>
      have ends := @Session.ends_openOn_homeless ⟨sink, seated.host, studio⟩ present
        seated.sink.options.normalized device format
      unfold OpeningM.Ends at ends
      generalize (Session.openOn seated.sink.options.normalized device : OpeningM Seat Session) _ =
        outcome at ends ⊢
      rcases outcome with ⟨interruption | session, after⟩
      · obtain ⟨rfl, rfl⟩ := ends
        exact .homeless idle present
      · exact ends.elim
    | some host =>
      have ends := @Session.ends_openOn ⟨sink, seated.host, studio⟩ host studio.slot
        (List.getElem?_eq_some_iff.mp present).1 seated.sink.options.normalized device format
      rw [Seat.place, place_self present] at ends
      unfold OpeningM.Ends at ends
      generalize (Session.openOn seated.sink.options.normalized device : OpeningM Seat Session) _ =
        outcome at ends ⊢
      rcases outcome with ⟨interruption | session, after⟩
      · obtain ⟨panicked, host', slot', left, rfl, rolledBack, unclaimed⟩ := ends
        cases interruption <;> exact .interrupted idle present panicked rolledBack unclaimed
      · exact .opened idle present ends

section Connected

variable {session : Session} {host : Host}

theorem stop_eq (found : studio.sink? sink = some seated)
    (connected : seated.sink.session = some session)
    (present : studio.hosts[seated.host]? = some host) :
    studio.stop sink =
      (studio.place seated.host (session.halted host) studio.slot).setSink sink
        (some (seated.become .stopped (some { session with running := false }))) := by
  have stopped := @Session.stop_place ⟨sink, seated.host, studio⟩ host studio.slot
    (List.getElem?_eq_some_iff.mp present).1 session
  rw [Seat.place, place_self present] at stopped
  rw [stop, onSink_of_sink? found]
  simp only [Sink.stop, connected, bind, StateT.bind, stopped]
  rfl

theorem drain_eq (found : studio.sink? sink = some seated)
    (connected : seated.sink.session = some session)
    (present : studio.hosts[seated.host]? = some host) :
    studio.drain sink =
      (studio.place seated.host (session.halted host) studio.slot).setSink sink
        (some (seated.become .stopped
          (some { session with running := false, ring := session.ring.dump }))) := by
  have stopped := @Session.stop_place ⟨sink, seated.host, studio⟩ host studio.slot
    (List.getElem?_eq_some_iff.mp present).1 session
  rw [Seat.place, place_self present] at stopped
  rw [drain, onSink_of_sink? found]
  simp only [Sink.drain, connected, bind, StateT.bind, stopped]
  rfl

theorem disconnect_eq (found : studio.sink? sink = some seated)
    (connected : seated.sink.session = some session)
    (present : studio.hosts[seated.host]? = some host) :
    studio.disconnect sink =
      (studio.place seated.host (session.abandoned host) .free).setSink sink
        (some (seated.become .closed none)) := by
  have closed := @Session.close_place ⟨sink, seated.host, studio⟩ host studio.slot
    (List.getElem?_eq_some_iff.mp present).1 session
  rw [Seat.place, place_self present] at closed
  rw [disconnect, onSink_of_sink? found]
  simp only [Sink.disconnect, connected, bind, StateT.bind, closed]
  rfl

theorem start_eq (found : studio.sink? sink = some seated)
    (connected : seated.sink.session = some session)
    (present : studio.hosts[seated.host]? = some host) :
    studio.start sink = match session.started studio.supply.thread host with
      | ((.ok (), session), host) => (.ok (), (studio.place seated.host host studio.slot).setSink sink
          (some (seated.become .running (some session))))
      | ((.error status, session), host) => (.error (.negotiation .start status),
          (studio.place seated.host host studio.slot).setSink sink
            (some (seated.become seated.sink.state (some session)))) := by
  have started := @Session.start_place ⟨sink, seated.host, studio⟩ host studio.slot
    (List.getElem?_eq_some_iff.mp present).1 session
  rw [Seat.place, place_self present] at started
  rw [start, onSink_of_sink? found]
  simp only [Sink.start, connected, bind, StateT.bind, started]
  rcases session.started studio.supply.thread host with ⟨⟨status | ⟨⟩, next⟩, after⟩ <;> rfl

theorem addPackets_eq (found : studio.sink? sink = some seated)
    (connected : seated.sink.session = some session) (src : Bytes) (others : List Bytes)
    (frames offset : Nat) :
    studio.addPackets sink (src :: others) frames offset =
      ((session.addPackets src frames offset).1,
        studio.setSink sink (some (seated.become seated.sink.state
          (some (session.addPackets src frames offset).2)))) := by
  rw [addPackets, onSink_of_sink? found]
  simp only [Sink.addPackets, connected, List.head?_cons, seat_pure]
  rfl

theorem addPackets_nil (found : studio.sink? sink = some seated) (frames offset : Nat) :
    studio.addPackets sink [] frames offset = (0, studio) := by
  have nothing : seated.sink.addPackets [] frames offset = (0, seated.sink) := by
    cases connected : seated.sink.session <;> simp [Sink.addPackets, connected]
  rw [addPackets, onSink_of_sink? found]
  simp only [seat_pure, nothing]
  rw [setSink_self found]

end Connected

theorem slot_addPackets (studio : Studio) (sink : Nat) (data : List Bytes) (frames offset : Nat) :
    (studio.addPackets sink data frames offset).2.slot = studio.slot := by
  cases found : studio.sink? sink with
  | none => simp [addPackets, onSink, found]
  | some seated => simp [addPackets, onSink_of_sink? found, seat_pure]

theorem addPackets_le (studio : Studio) (sink : Nat) (src : Bytes) (frames offset : Nat) :
    (studio.addPackets sink [src] frames offset).1 ≤ frames := by
  cases found : studio.sink? sink with
  | none => simp [addPackets, onSink, found]
  | some seated =>
    cases connected : seated.sink.session with
    | none => simp [addPackets, onSink_of_sink? found, Sink.addPackets, connected, seat_pure]
    | some session =>
      rw [addPackets_eq found connected]
      exact session.addPackets_le src frames offset

theorem session?_eq_some_iff {session : Session} : studio.session? sink = some session ↔
    ∃ seated, studio.sink? sink = some seated ∧ seated.sink.session = some session :=
  Option.bind_eq_some_iff

theorem session?_eq_none_iff : studio.session? sink = none ↔
    ∀ seated, studio.sink? sink = some seated → seated.sink.session = none :=
  Option.bind_eq_none_iff

section Idle

variable (idle : studio.session? sink = none)
include idle

theorem onSink_idle {otherwise answer : α} {operation : Sink → StateM Seat (α × Sink)}
    (nothing : ∀ current : Sink, current.session = none →
      ∀ seat, operation current seat = ((answer, current), seat)) :
    (studio.onSink sink otherwise operation).2 = studio := by
  cases found : studio.sink? sink with
  | none => simp [onSink, found]
  | some seated =>
    have vacant := session?_eq_none_iff.mp idle seated found
    rw [onSink_of_sink? found, nothing _ vacant]
    exact setSink_self found

theorem stop_idle : studio.stop sink = studio :=
  onSink_idle idle fun current vacant seat => by
    simp only [Sink.stop, vacant, bind, StateT.bind]
    rfl

theorem drain_idle : studio.drain sink = studio :=
  onSink_idle idle fun current vacant seat => by
    simp only [Sink.drain, vacant, bind, StateT.bind]
    rfl

theorem disconnect_idle : studio.disconnect sink = studio :=
  onSink_idle idle fun current vacant seat => by
    simp only [Sink.disconnect, vacant, bind, StateT.bind]
    rfl

theorem start_idle : (studio.start sink).2 = studio :=
  onSink_idle idle fun current vacant seat => by
    simp only [Sink.start, vacant]
    rfl

theorem addPackets_idle (data : List Bytes) (frames offset : Nat) :
    (studio.addPackets sink data frames offset).2 = studio :=
  onSink_idle idle fun current vacant seat => by
    simp only [Sink.addPackets, vacant]
    rfl

end Idle

end Studio

end PlanarSink
