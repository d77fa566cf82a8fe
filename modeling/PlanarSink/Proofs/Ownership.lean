import PlanarSink.Proofs.Lifecycle
import PlanarSink.Studio.Command

/-! Who holds what. At most one sink is connected; the slot, the leases and the drivers
that were not dropped all belong to it. -/
namespace PlanarSink

namespace Host

/-- Whether a driver was opened with a number and not dropped since. -/
def isLive (host : Host) (number : Nat) : Bool :=
  host.opened[number]?.any OpenedDriver.live

/-- One record follows another without a lease taken or given back, and without a
driver dropped. -/
structure Steady (before after : Host) : Prop where
  held : after.held = before.held
  liveDrivers : after.liveDrivers = before.liveDrivers
  alive : ∀ number, before.isLive number = true → after.isLive number = true

namespace Steady

theorem refl (host : Host) : host.Steady host :=
  ⟨rfl, rfl, fun _ live => live⟩

theorem trans {first second third : Host} (before : first.Steady second)
    (after : second.Steady third) : first.Steady third :=
  ⟨after.held.trans before.held, after.liveDrivers.trans before.liveDrivers,
    fun number live => after.alive number (before.alive number live)⟩

theorem setDriver (host : Host) (number : Nat) (driver : Simulated) :
    host.Steady (host.setDriver number driver) := by
  refine ⟨rfl, ?_, ?_⟩
  · unfold Host.liveDrivers Host.setDriver
    induction host.opened generalizing number with
    | nil => simp
    | cons first others ih =>
      cases number with
      | zero => simp [List.countP_cons]
      | succ number => simp [List.countP_cons, ih]
  · intro other live
    by_cases here : number = other
    · subst here
      cases found : host.opened[number]? <;> simp_all [isLive, Host.setDriver]
    · simpa [isLive, Host.setDriver, List.getElem?_modify_ne _ _ here] using live

theorem call (host : Host) (thread : Bool) (number : Nat) (c : DriverCall) :
    host.Steady (host.call thread number c).2 := by
  cases found : host.driver? number with
  | none =>
    simp only [Host.call, found]
    exact refl host
  | some driver =>
    rw [Host.call_of_driver? found]
    exact setDriver host number _

theorem halted (session : Session) (host : Host) : host.Steady (session.halted host) := by
  unfold Session.halted
  split
  · exact call host false session.driver .stop
  · exact refl host

theorem rolledBack {before after : Host} (rolledBack : before.RolledBack after) :
    before.Steady after := by
  obtain ⟨remnants, _, dropped, rfl⟩ := rolledBack
  have none : remnants.countP OpenedDriver.live = 0 :=
    List.countP_eq_zero.mpr fun opened member => by simp [(dropped opened member).dropped]
  refine ⟨rfl, by simp [Host.liveDrivers, none], ?_⟩
  intro number live
  obtain ⟨opened, found, live⟩ := (Option.any_eq_true _ _).mp live
  have present := (List.getElem?_eq_some_iff.mp found).1
  simpa [isLive, List.getElem?_append_left present, found] using live

end Steady

theorem liveDrivers_dropDriver {host : Host} {number : Nat} (live : host.isLive number = true) :
    (host.dropDriver number).liveDrivers + 1 = host.liveDrivers := by
  unfold isLive at live
  unfold liveDrivers dropDriver
  generalize host.opened = opened at live ⊢
  induction opened generalizing number with
  | nil => simp at live
  | cons first others ih =>
    cases number with
    | zero =>
      have first : first.live = true := by simpa using live
      simp [first]
    | succ number =>
      have before := @ih number (by simpa using live)
      simp only [List.modify_succ_cons, List.countP_cons] at before ⊢
      omega

end Host

/-- The state of a sink tells whether it is connected, and its session's record whether
it runs. -/
def Sink.Settled (sink : Sink) : Prop :=
  match sink.session with
  | none => sink.state = .uninitialized ∨ sink.state = .negotiating ∨ sink.state = .closed
  | some session => sink.state = if session.running then .running else .stopped

/-- What makes the target of callbacks, together with a sink and its host. -/
def Session.line (session : Session) : Nat × Dispatcher :=
  (session.driver, session.dispatcher)

namespace Session

/-- Queueing changes no more than the ring and the working buffer. -/
theorem addPackets_frame (session : Session) (src : Bytes) (frames offset : Nat) :
    ∃ scratch ring, (session.addPackets src frames offset).2 = { session with scratch, ring } := by
  unfold addPackets
  dsimp only
  split
  · exact ⟨_, _, rfl⟩
  split
  · exact ⟨_, _, rfl⟩
  split <;> exact ⟨_, _, rfl⟩

@[simp] theorem line_addPackets (session : Session) (src : Bytes) (frames offset : Nat) :
    (session.addPackets src frames offset).2.line = session.line := by
  obtain ⟨scratch, ring, done⟩ := session.addPackets_frame src frames offset
  rw [done]
  rfl

@[simp] theorem running_addPackets (session : Session) (src : Bytes) (frames offset : Nat) :
    (session.addPackets src frames offset).2.running = session.running := by
  obtain ⟨scratch, ring, done⟩ := session.addPackets_frame src frames offset
  rw [done]

end Session

def Slot.targetsOn (slot : Slot Feed) (host : Nat) : Nat :=
  match slot.target with
  | none => 0
  | some feed => if feed.host = host then 1 else 0

namespace Slot

variable {slot : Slot Feed}

theorem targetsOn_of_none (vacant : slot.target = none) (host : Nat) : slot.targetsOn host = 0 := by
  simp [targetsOn, vacant]

theorem targetsOn_of_some {feed : Feed} (target : slot.target = some feed) (host : Nat) :
    slot.targetsOn host = if feed.host = host then 1 else 0 := by
  simp [targetsOn, target]

end Slot

namespace Studio

variable {studio : Studio} {sink number : Nat} {seated : SeatedSink} {host : Host}

theorem forall_setSink {holds : Nat → SeatedSink → Prop}
    (found : studio.sink? sink = some seated) {next : SeatedSink} (new : holds sink next)
    (others : ∀ other there, other ≠ sink → studio.sink? other = some there → holds other there) :
    ∀ other there, (studio.setSink sink (some next)).sink? other = some there →
      holds other there := by
  intro other there present
  by_cases here : other = sink
  · subst here
    rw [sink?_setSink found] at present
    exact Option.some.inj present ▸ new
  · exact others other there here (sink?_setSink_ne here _ ▸ present)

theorem forall_place {holds : Nat → Host → Prop} (inside : number < studio.hosts.length)
    {next : Host} (slot : Slot Feed) (new : holds number next)
    (others : ∀ other there, other ≠ number → studio.hosts[other]? = some there →
      holds other there) :
    ∀ other there, (studio.place number next slot).hosts[other]? = some there →
      holds other there := by
  intro other there present
  by_cases here : other = number
  · subst here
    rw [hosts_place inside] at present
    exact Option.some.inj present ▸ new
  · exact others other there here (hosts_place_ne here _ _ ▸ present)

/-- The slot holds the target of the one connected sink, if there is one; leases and
live drivers are those of that sink. -/
structure Orderly (studio : Studio) : Prop where
  claimed : studio.slot.claimed = studio.slot.target.isSome
  owner : ∀ sink seated, studio.sink? sink = some seated → ∀ session,
    seated.sink.session = some session →
    studio.slot.target = some ⟨sink, seated.host, session.driver, session.dispatcher⟩
  owned : ∀ feed, studio.slot.target = some feed →
    ∃ session, studio.session? feed.sink = some session
  driver : ∀ feed, studio.slot.target = some feed →
    ∃ host, studio.hosts[feed.host]? = some host ∧ host.isLive feed.driver = true
  counted : ∀ number host, studio.hosts[number]? = some host →
    host.held = studio.slot.targetsOn number ∧ host.liveDrivers = studio.slot.targetsOn number
  settled : ∀ sink seated, studio.sink? sink = some seated → seated.sink.Settled

namespace Orderly

theorem place (orderly : studio.Orderly) (present : studio.hosts[number]? = some host)
    {next : Host} (steady : host.Steady next) : (studio.place number next studio.slot).Orderly := by
  have inside := (List.getElem?_eq_some_iff.mp present).1
  refine ⟨orderly.claimed, orderly.owner, orderly.owned, ?_, ?_, orderly.settled⟩
  · intro feed target
    obtain ⟨home, found, live⟩ := orderly.driver feed target
    by_cases here : feed.host = number
    · rw [here] at found ⊢
      obtain rfl := Option.some.inj (present.symm.trans found)
      exact ⟨next, hosts_place inside _ _, steady.alive _ live⟩
    · exact ⟨home, (hosts_place_ne here _ _).trans found, live⟩
  · refine forall_place inside _ ?_ fun other there _ => orderly.counted other there
    rw [steady.held, steady.liveDrivers]
    exact orderly.counted number host present

theorem setSink (orderly : studio.Orderly) (found : studio.sink? sink = some seated)
    {state : SinkState} {session : Option Session}
    (line : session.map Session.line = seated.sink.session.map Session.line)
    (settled : (seated.become state session).sink.Settled) :
    (studio.setSink sink (some (seated.become state session))).Orderly := by
  refine ⟨orderly.claimed, ?_, ?_, orderly.driver, orderly.counted,
    forall_setSink found settled fun other there _ => orderly.settled other there⟩
  · refine forall_setSink found ?_ fun other there _ => orderly.owner other there
    rintro after rfl
    obtain ⟨before, had, same⟩ := Option.map_eq_some_iff.mp line.symm
    obtain ⟨driver, dispatcher⟩ := Prod.mk.inj same
    have target := orderly.owner sink seated found before had
    rw [driver, dispatcher] at target
    exact target
  · intro feed target
    obtain ⟨before, had⟩ := orderly.owned feed target
    by_cases here : feed.sink = sink
    · rw [here] at had ⊢
      obtain ⟨_, same, had⟩ := session?_eq_some_iff.mp had
      obtain rfl := Option.some.inj (found.symm.trans same)
      rw [had] at line
      obtain ⟨after, has, _⟩ := Option.map_eq_some_iff.mp line
      exact ⟨after, session?_eq_some_iff.mpr ⟨_, sink?_setSink found _, has⟩⟩
    · obtain ⟨there, present, had⟩ := session?_eq_some_iff.mp had
      exact ⟨before, session?_eq_some_iff.mpr
        ⟨there, (sink?_setSink_ne here _).trans present, had⟩⟩

theorem idle (orderly : studio.Orderly) (unclaimed : studio.slot.claimed = false) (sink : Nat) :
    studio.session? sink = none := by
  rw [session?_eq_none_iff]
  intro seated found
  cases connected : seated.sink.session with
  | none => rfl
  | some session =>
    have claimed := orderly.claimed
    rw [orderly.owner sink seated found session connected, unclaimed] at claimed
    contradiction

theorem vacant (orderly : studio.Orderly) (unclaimed : studio.slot.claimed = false) :
    studio.slot.target = none := by
  rw [← Option.not_isSome_iff_eq_none, ← orderly.claimed, unclaimed]
  exact Bool.false_ne_true

theorem gain (orderly : studio.Orderly) (unclaimed : studio.slot.claimed = false)
    (found : studio.sink? sink = some seated) (present : studio.hosts[seated.host]? = some host)
    {next : Host} (held : next.held = host.held + 1)
    (liveDrivers : next.liveDrivers = host.liveDrivers + 1) {session : Session}
    (live : next.isLive session.driver = true) (running : session.running = true)
    {slot : Slot Feed}
    (target : slot = ⟨true, some ⟨sink, seated.host, session.driver, session.dispatcher⟩⟩) :
    ((studio.place seated.host next slot).setSink sink
      (some (seated.become .running (some session)))).Orderly := by
  have inside := (List.getElem?_eq_some_iff.mp present).1
  have vacant := orderly.vacant unclaimed
  have there : (studio.place seated.host next slot).sink? sink = some seated := found
  have served := Slot.targetsOn_of_some (congrArg Slot.target target)
  refine ⟨by simp [target], ?owner, ?owned, ?driver, ?counted, ?settled⟩
  case owner =>
    refine forall_setSink there ?_ ?_
    · rintro _ ⟨⟩
      exact congrArg Slot.target target
    · intro other record _ found session connected
      rw [session?_eq_none_iff.mp (orderly.idle unclaimed other) record found] at connected
      contradiction
  case owned =>
    intro feed feeding
    obtain rfl := Option.some.inj ((congrArg Slot.target target).symm.trans feeding)
    exact ⟨session, session?_eq_some_iff.mpr ⟨_, sink?_setSink there _, rfl⟩⟩
  case driver =>
    intro feed feeding
    obtain rfl := Option.some.inj ((congrArg Slot.target target).symm.trans feeding)
    exact ⟨next, hosts_place inside next slot, live⟩
  case counted =>
    refine forall_place inside slot ?_ ?_
    · have before := orderly.counted _ _ present
      rw [Slot.targetsOn_of_none vacant] at before
      simp [served, held, liveDrivers, before]
    · intro other record elsewhere found
      have counts := orderly.counted other record found
      rw [Slot.targetsOn_of_none vacant] at counts
      simpa [served, Ne.symm elsewhere] using counts
  case settled =>
    refine forall_setSink there ?_ fun other record _ => orderly.settled other record
    simp [Sink.Settled, SeatedSink.become, running]

theorem lose (orderly : studio.Orderly) (found : studio.sink? sink = some seated)
    {session : Session} (connected : seated.sink.session = some session)
    (present : studio.hosts[seated.host]? = some host) {next : Host}
    (held : next.held + 1 = host.held) (liveDrivers : next.liveDrivers + 1 = host.liveDrivers) :
    ((studio.place seated.host next .free).setSink sink
      (some (seated.become .closed none))).Orderly := by
  have inside := (List.getElem?_eq_some_iff.mp present).1
  have target := orderly.owner sink seated found session connected
  have there : (studio.place seated.host next .free).sink? sink = some seated := found
  have served := Slot.targetsOn_of_some target
  have free : ∀ host, (Slot.free : Slot Feed).targetsOn host = 0 := Slot.targetsOn_of_none rfl
  have nowhere : ∀ feed, (Slot.free : Slot Feed).target ≠ some feed := by
    simp [Slot.free]
  refine ⟨rfl, ?owner, fun feed feeding => absurd feeding (nowhere feed),
    fun feed feeding => absurd feeding (nowhere feed), ?counted, ?settled⟩
  case owner =>
    have closed : ∀ session, (seated.become .closed none).sink.session ≠ some session := by
      simp [SeatedSink.become]
    refine forall_setSink there (fun session has => absurd has (closed session)) ?_
    intro other record elsewhere found session connected
    have both := target.symm.trans (orderly.owner other record found session connected)
    exact absurd (congrArg Feed.sink (Option.some.inj both)).symm elsewhere
  case counted =>
    refine forall_place inside .free ?_ ?_
    · have before := orderly.counted _ _ present
      rw [served, if_pos rfl] at before
      simp only [slot_setSink, slot_place, free]
      omega
    · intro other record elsewhere found
      have counts := orderly.counted other record found
      rw [served, if_neg (Ne.symm elsewhere)] at counts
      exact counts
  case settled =>
    exact forall_setSink there (.inr (.inr rfl)) fun other record _ => orderly.settled other record

theorem drop (orderly : studio.Orderly) (idle : studio.session? sink = none) :
    (studio.setSink sink none).Orderly := by
  have others : ∀ other there, (studio.setSink sink none).sink? other = some there →
      other ≠ sink ∧ studio.sink? other = some there := by
    intro other there present
    have elsewhere : other ≠ sink := by
      rintro rfl
      rw [sink?_setSink_none] at present
      contradiction
    exact ⟨elsewhere, sink?_setSink_ne elsewhere none ▸ present⟩
  refine ⟨orderly.claimed,
    fun other there present => orderly.owner other there (others _ _ present).2, ?_,
    orderly.driver, orderly.counted,
    fun other there present => orderly.settled other there (others _ _ present).2⟩
  intro feed target
  obtain ⟨session, had⟩ := orderly.owned feed target
  obtain ⟨there, present, connected⟩ := session?_eq_some_iff.mp had
  have elsewhere : feed.sink ≠ sink := by
    intro here
    rw [here, idle] at had
    contradiction
  exact ⟨session, session?_eq_some_iff.mpr
    ⟨there, (sink?_setSink_ne elsewhere none).trans present, connected⟩⟩

theorem host_of_session (orderly : studio.Orderly) (found : studio.sink? sink = some seated)
    {session : Session} (connected : seated.sink.session = some session) :
    ∃ host, studio.hosts[seated.host]? = some host ∧ host.isLive session.driver = true ∧
      host.held = 1 ∧ host.liveDrivers = 1 := by
  have target := orderly.owner sink seated found session connected
  obtain ⟨host, present, live⟩ := orderly.driver _ target
  have counts := orderly.counted _ _ present
  rw [Slot.targetsOn_of_some target, if_pos rfl] at counts
  exact ⟨host, present, live, counts⟩

theorem session_cases (orderly : studio.Orderly) (sink : Nat) :
    studio.session? sink = none ∨
      ∃ seated session host, studio.sink? sink = some seated ∧
        seated.sink.session = some session ∧ studio.hosts[seated.host]? = some host ∧
        host.isLive session.driver = true ∧ host.held = 1 ∧ host.liveDrivers = 1 := by
  cases has : studio.session? sink with
  | none => exact .inl rfl
  | some session =>
    obtain ⟨seated, found, connected⟩ := session?_eq_some_iff.mp has
    obtain ⟨host, present, rest⟩ := orderly.host_of_session found connected
    exact .inr ⟨seated, session, host, found, connected, present, rest⟩

theorem halted (orderly : studio.Orderly) (found : studio.sink? sink = some seated)
    {session next : Session} (connected : seated.sink.session = some session)
    (present : studio.hosts[seated.host]? = some host) (line : next.line = session.line)
    (stopped : next.running = false) :
    ((studio.place seated.host (session.halted host) studio.slot).setSink sink
      (some (seated.become .stopped (some next)))).Orderly := by
  have steady := orderly.place present (.halted session host)
  refine steady.setSink found ?_ ?_
  · rw [connected, Option.map_some, Option.map_some, line]
  · simp [Sink.Settled, SeatedSink.become, stopped]

theorem stop (orderly : studio.Orderly) (sink : Nat) : (studio.stop sink).Orderly := by
  rcases orderly.session_cases sink with
    idle | ⟨seated, session, host, found, connected, present, _⟩
  · rwa [stop_idle idle]
  · rw [stop_eq found connected present]
    exact orderly.halted found connected present rfl rfl

theorem drain (orderly : studio.Orderly) (sink : Nat) : (studio.drain sink).Orderly := by
  rcases orderly.session_cases sink with
    idle | ⟨seated, session, host, found, connected, present, _⟩
  · rwa [drain_idle idle]
  · rw [drain_eq found connected present]
    exact orderly.halted found connected present rfl rfl

theorem start (orderly : studio.Orderly) (sink : Nat) : (studio.start sink).2.Orderly := by
  rcases orderly.session_cases sink with
    idle | ⟨seated, session, host, found, connected, present, _⟩
  · rwa [start_idle idle]
  have settled := orderly.settled sink seated found
  simp only [Sink.Settled, connected] at settled
  rw [start_eq found connected present]
  unfold Session.started
  by_cases running : session.running
  · simp only [running, if_true]
    refine (orderly.place present (.refl host)).setSink found (by rw [connected]) ?_
    simp [Sink.Settled, SeatedSink.become, running]
  · simp only [running, Bool.false_eq_true, if_false]
    have steady := Host.Steady.call host studio.supply.thread session.driver .start
    generalize host.call studio.supply.thread session.driver .start = outcome at steady ⊢
    rcases outcome with ⟨status | ⟨⟩, next⟩
    · refine (orderly.place present steady).setSink found (by rw [connected]) ?_
      simp [Sink.Settled, SeatedSink.become, running, settled]
    · refine (orderly.place present steady).setSink found ?_ rfl
      rw [connected]
      rfl

theorem addPackets (orderly : studio.Orderly) (sink : Nat) (data : List Bytes)
    (frames offset : Nat) : (studio.addPackets sink data frames offset).2.Orderly := by
  cases has : studio.session? sink with
  | none => rwa [addPackets_idle has]
  | some session =>
    obtain ⟨seated, found, connected⟩ := session?_eq_some_iff.mp has
    have settled := orderly.settled sink seated found
    simp only [Sink.Settled, connected] at settled
    cases data with
    | nil => rwa [addPackets_nil found]
    | cons src others =>
      rw [addPackets_eq found connected]
      refine orderly.setSink found ?_ ?_
      · simp [connected]
      · simp [Sink.Settled, SeatedSink.become, settled]

theorem disconnect (orderly : studio.Orderly) (sink : Nat) : (studio.disconnect sink).Orderly := by
  rcases orderly.session_cases sink with
    idle | ⟨seated, session, host, found, connected, present, live, _, _⟩
  · rwa [disconnect_idle idle]
  rw [disconnect_eq found connected present]
  have kept := (Host.Steady.halted session host).trans (.call _ false session.driver .disposeBuffers)
  apply orderly.lose found connected present
  · have same := kept.held
    simp only [Session.abandoned, Host.release, Host.dropDriver]
    omega
  · have fewer := Host.liveDrivers_dropDriver (kept.alive _ live)
    rw [kept.liveDrivers] at fewer
    exact fewer

theorem session?_disconnect (orderly : studio.Orderly) (sink : Nat) :
    (studio.disconnect sink).session? sink = none := by
  rcases orderly.session_cases sink with
    idle | ⟨seated, session, host, found, connected, present, _⟩
  · rwa [disconnect_idle idle]
  · have stored := @sink?_setSink
      (studio.place seated.host (session.abandoned host) .free) sink seated found
    rw [disconnect_eq found connected present, session?, stored]
    rfl

theorem dropSink (orderly : studio.Orderly) (sink : Nat) : (studio.dropSink sink).Orderly :=
  (orderly.disconnect sink).drop (orderly.session?_disconnect sink)

theorem slot_dropSink (orderly : studio.Orderly) {session : Session}
    (connected : studio.session? sink = some session) : (studio.dropSink sink).slot = .free := by
  rcases orderly.session_cases sink with idle | ⟨seated, session, host, found, has, present, _⟩
  · rw [connected] at idle
    contradiction
  · rw [Studio.dropSink, disconnect_eq found has present]
    rfl

/-- In order, a slot that was not claimed is free, so giving up a claim restores it. -/
theorem slot_rolledBack (orderly : studio.Orderly) {slot : Slot Feed}
    (rolledBack : studio.slot.RolledBack slot) : slot = studio.slot := by
  rcases rolledBack with rfl | ⟨unclaimed, rfl⟩
  · rfl
  · have vacant := orderly.vacant unclaimed
    rcases same : studio.slot with ⟨claimed, target⟩
    simp_all [Slot.free]

theorem connect (orderly : studio.Orderly) (sink : Nat) (format : StreamFormat)
    (device : String) : (studio.connect sink format device).2.Orderly := by
  cases found : studio.sink? sink with
  | none => simpa [Studio.connect, onSink, found] using orderly
  | some seated =>
    have ways := connect_cases found format device
    generalize studio.connect sink format device = outcome at ways ⊢
    cases ways with
    | again _ => exact orderly
    | homeless idle _ => exact orderly.setSink found (by rw [idle]) (.inl rfl)
    | @interrupted host host' slot' interruption left idle present _ rolledBack unclaimed =>
      rw [orderly.slot_rolledBack unclaimed]
      apply (orderly.place present (.rolledBack rolledBack)).setSink found (by rw [idle])
      cases interruption with
      | failure => exact .inl rfl
      | panic => exact .inr (.inl rfl)
    | @opened host session after idle present opened =>
      obtain ⟨_, unclaimed, profile, agreement, _, _, rfl, rfl⟩ := opened
      apply orderly.gain unclaimed found present
      · rfl
      · simp [Host.liveDrivers, Host.withOpened]
      · simp [Host.isLive, Host.withOpened, Session.fresh]
      · rfl
      · rfl

theorem addSink (orderly : studio.Orderly) (host : Nat) (options : SinkOptions) :
    (studio.addSink host options).Orderly := by
  refine ⟨orderly.claimed, ?owner, ?owned, orderly.driver, orderly.counted, ?settled⟩
  case owner =>
    intro sink seated found session connected
    rcases studio.sink?_addSink_cases host options found with before | new
    · exact orderly.owner sink seated before session connected
    · rw [new] at connected
      contradiction
  case owned =>
    intro feed target
    obtain ⟨session, has⟩ := orderly.owned feed target
    obtain ⟨seated, found, connected⟩ := session?_eq_some_iff.mp has
    exact ⟨session, session?_eq_some_iff.mpr
      ⟨seated, studio.sink?_addSink_of_some host options found, connected⟩⟩
  case settled =>
    intro sink seated found
    rcases studio.sink?_addSink_cases host options found with before | new
    · exact orderly.settled sink seated before
    · rw [new]
      exact .inl rfl

theorem setDriver (orderly : studio.Orderly) (number driver : Nat) (next : Simulated) :
    (studio.setDriver number driver next).Orderly := by
  cases present : studio.hosts[number]? with
  | none => rwa [setDriver_of_absent present]
  | some host =>
    rw [setDriver_of_host present]
    exact orderly.place present (.setDriver host driver next)

theorem deliver (orderly : studio.Orderly) (half : Half) : (studio.deliver half).Orderly := by
  rcases studio.deliver_cases half with
    same | ⟨feed, seated, session, driver, target, found, opened, connected⟩
  · rwa [same]
  · have settled := orderly.settled _ _ found
    simp only [Sink.Settled, connected] at settled
    rw [deliver_eq target found opened connected]
    apply Orderly.setDriver
    exact orderly.setSink found (by rw [connected]; rfl) settled

theorem tick (orderly : studio.Orderly) (host number : Nat) :
    (studio.tick host number).2.Orderly := by
  unfold Studio.tick
  split
  · exact orderly
  split
  · exact orderly
  · exact (orderly.setDriver host number _).deliver _

theorem setRefusing (orderly : studio.Orderly) (number : Nat) (refusing : Bool) :
    (studio.setRefusing number refusing).Orderly := by
  cases present : studio.hosts[number]? with
  | none => rwa [setRefusing_of_absent present]
  | some host =>
    rw [setRefusing_of_host present]
    exact orderly.place present ⟨rfl, rfl, fun _ live => live⟩

theorem setSupply (orderly : studio.Orderly) (supply : Supply) :
    (studio.setSupply supply).Orderly :=
  ⟨orderly.claimed, orderly.owner, orderly.owned, orderly.driver, orderly.counted,
    orderly.settled⟩

theorem execute (orderly : studio.Orderly) (command : Command) :
    (studio.execute command).Orderly := by
  cases command with
  | connect sink format device => exact orderly.connect sink format device
  | disconnect sink => exact orderly.disconnect sink
  | stop sink => exact orderly.stop sink
  | start sink => exact orderly.start sink
  | drain sink => exact orderly.drain sink
  | addPackets sink data frames offset => exact orderly.addPackets sink data frames offset
  | drop sink => exact orderly.dropSink sink
  | tick host driver => exact orderly.tick host driver
  | refuse host refusing => exact orderly.setRefusing host refusing
  | supply supply => exact orderly.setSupply supply

theorem run (orderly : studio.Orderly) (commands : List Command) :
    (studio.run commands).Orderly := by
  induction commands generalizing studio with
  | nil => exact orderly
  | cons command commands ih => exact ih (orderly.execute command)

theorem unused (hosts : List (List Profile)) (sinks : List (Nat × SinkOptions)) :
    (Studio.unused hosts sinks).Orderly := by
  have fresh : ∀ sink seated, (Studio.unused hosts sinks).sink? sink = some seated →
      seated.sink.session = none ∧ seated.sink.state = .uninitialized := by
    intro sink seated found
    obtain ⟨_, _, rfl⟩ : ∃ pair, sinks[sink]? = some pair ∧
        (⟨pair.1, .ofOptions pair.2⟩ : SeatedSink) = seated := by
      simpa [Studio.unused, ofHosts, sink?_eq_some_iff] using found
    exact ⟨rfl, rfl⟩
  refine ⟨rfl, ?_, nofun, nofun, ?_, ?_⟩
  · intro sink seated found session connected
    rw [(fresh sink seated found).1] at connected
    contradiction
  · intro number host found
    obtain ⟨profiles, _, rfl⟩ : ∃ profiles, hosts[number]? = some profiles ∧
        Host.ofProfiles profiles = host := by
      simpa [Studio.unused, ofHosts] using found
    exact ⟨rfl, rfl⟩
  · intro sink seated found
    obtain ⟨idle, state⟩ := fresh sink seated found
    simp [Sink.Settled, idle, state]

end Orderly

end Studio

end PlanarSink
