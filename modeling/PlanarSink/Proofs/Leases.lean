import PlanarSink.Proofs.Ownership

/-! Counting leases. A sink asks for one lease when it is connected and for none in any
other operation, and every lease is either held or was given back. -/
namespace PlanarSink

variable {σ α β : Type}

namespace Journal

def granted (journal : Journal σ) : Nat :=
  journal.exchanges.countP Exchange.grantsLease

variable [Backend σ]

theorem granted_acquireHost (journal : Journal σ) :
    (Backend.perform .acquireHost journal).2.granted =
      journal.granted + if (Backend.perform .acquireHost journal.backend).1.isOk then 1 else 0 := by
  simp only [granted, Backend.perform, List.countP_append, List.countP_singleton]
  rfl

theorem granted_perform {request : Request} (other : request ≠ .acquireHost)
    (journal : Journal σ) : (Backend.perform request journal).2.granted = journal.granted := by
  have none (reply : request.Reply) : Exchange.grantsLease ⟨request, reply⟩ = false := by
    cases request with
    | acquireHost => contradiction
    | releaseHost | claimSlot | vacateSlot | install | openDriver | dropDriver | allocateRing
    | reserve | call => rfl
  simp only [granted, Backend.perform, List.countP_append, List.countP_singleton, none]
  simp

end Journal

/-- The program is granted no lease. -/
def Quiet (program : StateM (Journal σ) α) : Prop :=
  ∀ journal, (program journal).2.granted = journal.granted

namespace Quiet

theorem pure (value : α) : Quiet (σ := σ) (Pure.pure value) :=
  fun _ => rfl

theorem bind {program : StateM (Journal σ) α} {next : α → StateM (Journal σ) β}
    (first : Quiet program) (rest : ∀ value, Quiet (next value)) : Quiet (program >>= next) :=
  fun journal => (rest _ _).trans (first journal)

variable [Backend σ] {request : Request}

theorem ask (other : request ≠ .acquireHost) :
    Quiet (Backend.ask request : StateM (Journal σ) request.Reply) :=
  Journal.granted_perform other

theorem discard (other : request ≠ .acquireHost) :
    Quiet (discard (Backend.ask request : StateM (Journal σ) request.Reply)) :=
  Journal.granted_perform other

end Quiet

namespace OpeningM

/-- The program is granted no lease. -/
def Leaseless (program : OpeningM (Journal σ) α) : Prop :=
  ∀ opening, (program opening).2.backend.granted = opening.backend.granted

namespace Leaseless

theorem expect {ε : Type} (meaning : ε → Interruption) (reply : Except ε α) :
    Leaseless (OpeningM.expect meaning reply : OpeningM (Journal σ) α) := by
  cases reply <;> exact fun _ => rfl

theorem require (condition : Bool) (interruption : Interruption) :
    Leaseless (OpeningM.require condition interruption : OpeningM (Journal σ) Unit) := by
  cases condition <;> exact fun _ => rfl

theorem bind {program : OpeningM (Journal σ) α} {next : α → OpeningM (Journal σ) β}
    (first : program.Leaseless) (rest : ∀ value, (next value).Leaseless) :
    (program >>= next).Leaseless := by
  intro opening
  have before := first opening
  simp only [Bind.bind, ExceptT.bind, ExceptT.mk, StateT.bind, ExceptT.bindCont]
  generalize program opening = outcome at before ⊢
  rcases outcome with ⟨failure | value, after⟩
  · exact before
  · exact (rest value after).trans before

variable [Backend σ]

theorem ask {request : Request} (other : request ≠ .acquireHost) :
    Leaseless (OpeningM.ask request : OpeningM (Journal σ) request.Reply) :=
  fun opening => Journal.granted_perform other opening.backend

theorem call (driver : Nat) (cause : Status → SinkError) (c : DriverCall) :
    Leaseless (OpeningM.call driver cause c : OpeningM (Journal σ) c.Answer) :=
  (ask (by simp)).bind fun reply => expect (c.interruption cause) reply

theorem undoing {undo : Request} (other : undo ≠ .acquireHost)
    {body : OpeningM (Journal σ) α} (leaseless : body.Leaseless) :
    (OpeningM.undoing undo body).Leaseless := by
  intro opening
  have before := leaseless opening
  unfold OpeningM.undoing
  generalize body opening = outcome at before ⊢
  rcases outcome with ⟨failure | value, after⟩
  · exact (Journal.granted_perform other after.backend).trans before
  · exact before

end Leaseless

/-- A program that starts with asking for a lease is granted that one or none. -/
theorem granted_acquireHost_bind [Backend σ]
    {next : Except Status Unit → OpeningM (Journal σ) α} (rest : ∀ reply, (next reply).Leaseless)
    (journal : Journal σ) (format : StreamFormat) :
    ((OpeningM.ask .acquireHost >>= next) ⟨journal, format⟩).2.backend.granted =
      journal.granted + if (Backend.perform .acquireHost journal.backend).1.isOk then 1 else 0 :=
  (rest _ _).trans (Journal.granted_acquireHost journal)

end OpeningM

namespace Session

open OpeningM

variable [Backend σ]

theorem leaseless_negotiate (options : SinkOptions) (format : StreamFormat) (driver : Nat) :
    (negotiate options format driver : OpeningM (Journal σ) Agreement).Leaseless := by
  unfold negotiate
  refine .bind ?_ fun _ => .bind (.call _ _ _) fun _ => .bind (.call _ _ _) fun _ =>
    .bind (.call _ _ _) fun counts => .bind (.require _ _) fun _ => .bind (.call _ _ _) fun sizes =>
    .bind (.require _ _) fun _ => .bind (.call _ _ _) fun info => ?_
  · unfold enterMode
    split
    · exact .call _ _ _
    · exact fun _ => rfl
  · split <;> exact fun _ => rfl

theorem leaseless_provide (options : SinkOptions) (rate : UInt32) (agreement : Agreement) :
    (provide options rate agreement : OpeningM (Journal σ) Unit).Leaseless := by
  unfold provide
  exact .bind (.ask (by simp)) fun _ => .bind (.require _ _) fun _ => .bind (.ask (by simp)) fun _ =>
    .require _ _

theorem leaseless_begin (options : SinkOptions) (driver : Nat) (agreement : Agreement)
    (infos : List BufferInfo) :
    (begin options driver agreement infos : OpeningM (Journal σ) Session).Leaseless := by
  unfold begin
  exact .bind (.require _ _) fun _ => .bind (fun _ => rfl) fun opening => .bind (.require _ _) fun _ =>
    .bind (fun _ => rfl) fun _ => .bind (.require _ _) fun _ =>
    .bind (leaseless_provide _ _ _) fun _ => .bind (fun _ => rfl) fun settled =>
    .bind (.ask (by simp)) fun _ => .bind (.call _ _ _) fun _ _ => rfl

theorem leaseless_engage (options : SinkOptions) (driver : Nat) :
    (engage options driver : OpeningM (Journal σ) Session).Leaseless := by
  unfold engage
  exact .bind (fun _ => rfl) fun opening => .bind (leaseless_negotiate _ _ _) fun agreement =>
    .bind (.require _ _) fun _ => .bind (.call _ _ _) fun infos =>
    .undoing (by simp) (leaseless_begin _ _ _ _)

/-- An attempt is granted a lease with its first request, or never. -/
theorem granted_openOn (options : SinkOptions) (device : String) (journal : Journal σ)
    (format : StreamFormat) :
    (openOn options device ⟨journal, format⟩).2.backend.granted =
      journal.granted + if (Backend.perform .acquireHost journal.backend).1.isOk then 1 else 0 := by
  unfold openOn
  refine granted_acquireHost_bind (fun reply => .bind (.expect _ _) fun _ => ?_) journal format
  refine .undoing (by simp) (.bind (.ask (by simp)) fun _ => .bind (.require _ _) fun _ => ?_)
  refine .undoing (by simp) (.bind (.ask (by simp)) fun _ => .bind (.expect _ _) fun driver => ?_)
  exact .undoing (by simp) (leaseless_engage _ _)

theorem quiet_stop (s : Session) : Quiet (s.stop : StateM (Journal σ) Session) := by
  unfold stop
  split
  · exact .bind (.discard (by simp)) fun _ => .pure _
  · exact .pure _

theorem quiet_start (s : Session) :
    Quiet (s.start : StateM (Journal σ) (Except Status Unit × Session)) := by
  unfold start
  split
  · exact .pure _
  · refine .bind (.ask (by simp)) fun reply => ?_
    split <;> exact .pure _

theorem quiet_close (s : Session) : Quiet (s.close : StateM (Journal σ) Unit) := by
  unfold close
  exact .bind (quiet_stop s) fun s => .bind (.discard (by simp)) fun _ => .bind (.ask (by simp))
    fun _ => .bind (.ask (by simp)) fun _ => .ask (by simp)

end Session

namespace Sink

variable [Backend σ]

theorem quiet_disconnect (sink : Sink) : Quiet (sink.disconnect : StateM (Journal σ) Sink) := by
  unfold disconnect
  split
  · exact .pure _
  · next session _ => exact .bind session.quiet_close fun _ => .pure _

theorem quiet_stop (sink : Sink) : Quiet (sink.stop : StateM (Journal σ) Sink) := by
  unfold stop
  split
  · exact .pure _
  · next session _ => exact .bind session.quiet_stop fun _ => .pure _

theorem quiet_drain (sink : Sink) : Quiet (sink.drain : StateM (Journal σ) Sink) := by
  unfold drain
  split
  · exact .pure _
  · next session _ => exact .bind session.quiet_stop fun _ => .pure _

theorem quiet_start (sink : Sink) :
    Quiet (sink.start : StateM (Journal σ) (Except SinkError Unit × Sink)) := by
  unfold start
  split
  · exact .pure _
  · next session _ =>
    refine .bind session.quiet_start fun reply => ?_
    split <;> exact .pure _

theorem granted_connect {sink : Sink} (idle : sink.session = none) (format : StreamFormat)
    (device : String) (journal : Journal σ) :
    (sink.connect format device journal).2.granted = journal.granted +
      if (Backend.perform .acquireHost journal.backend).1.isOk then 1 else 0 := by
  rw [← Session.granted_openOn sink.options.normalized device journal format]
  simp only [connect, idle, ExceptT.run]
  rcases Session.openOn sink.options.normalized device ⟨journal, format⟩ with
    ⟨failure | session, after⟩ <;> rfl

end Sink

namespace Studio

variable {studio : Studio} {sink : Nat} {seated : SeatedSink}

theorem leases_asked (found : studio.sink? sink = some seated)
    (operation : Sink → StateM (Journal Seat) α) (number : Nat) :
    ((studio.asked sink operation).countP fun (asked, exchange) =>
        asked == number && exchange.grantsLease) =
      if seated.host = number then
        (operation seated.sink ⟨⟨sink, seated.host, studio⟩, []⟩).2.granted else 0 := by
  simp only [asked, found, StateT.run]
  generalize operation seated.sink _ = outcome
  obtain ⟨_, journal⟩ := outcome
  by_cases here : seated.host = number
  · simp [here, Journal.granted, List.countP_map, Function.comp_def]
  · simp [here, List.countP_map, Function.comp_def]

theorem leases_of_quiet (studio : Studio) (sink : Nat)
    {operation : Sink → StateM (Journal Seat) α} (quiet : ∀ current, Quiet (operation current))
    (number : Nat) :
    ((studio.asked sink operation).countP fun (asked, exchange) =>
        asked == number && exchange.grantsLease) = 0 := by
  cases found : studio.sink? sink with
  | none => simp [asked, found]
  | some seated =>
    rw [leases_asked found, quiet]
    simp [Journal.granted]

theorem leases_eq_zero (studio : Studio) (number : Nat) {command : Command}
    (other : ∀ sink format device, command ≠ .connect sink format device) :
    studio.leases number command = 0 := by
  cases command with
  | connect sink format device => exact absurd rfl (other sink format device)
  | disconnect sink | drop sink =>
    exact leases_of_quiet studio sink Sink.quiet_disconnect number
  | stop sink => exact leases_of_quiet studio sink Sink.quiet_stop number
  | start sink => exact leases_of_quiet studio sink Sink.quiet_start number
  | drain sink => exact leases_of_quiet studio sink Sink.quiet_drain number
  | addPackets | tick | refuse | supply => rfl

theorem leases_connect_again {session : Session}
    (connected : studio.session? sink = some session) (format : StreamFormat) (device : String)
    (number : Nat) : studio.leases number (.connect sink format device) = 0 := by
  obtain ⟨seated, found, has⟩ := session?_eq_some_iff.mp connected
  rw [leases, exchanges, leases_asked found]
  simp [Sink.connect, has, Journal.granted]

theorem leases_connect (found : studio.sink? sink = some seated)
    (idle : seated.sink.session = none) (format : StreamFormat) (device : String) (number : Nat) :
    studio.leases number (.connect sink format device) =
      if seated.host = number ∧ (studio.hosts[number]?.any fun host => !host.refusing) then 1
      else 0 := by
  rw [leases, exchanges, leases_asked found, Sink.granted_connect idle]
  by_cases here : seated.host = number
  · subst here
    cases present : studio.hosts[seated.host]? with
    | none =>
      simp [Journal.granted, Backend.perform, Seat.perform, Seat.onHost, onHost, present,
        Except.isOk, Except.toBool]
    | some host =>
      cases refusing : host.refusing <;>
        simp [Journal.granted, Backend.perform, Seat.perform, Seat.onHost, onHost, present,
          Host.acquire, refusing, Except.isOk, Except.toBool]
  · simp [here]

/-- The hosts stay with their profiles, and some leases were granted on each, which are held or
were given back. -/
structure Accounts (before after : Studio) (leases : Nat → Nat) : Prop where
  hosts : after.hosts.length = before.hosts.length
  counted : ∀ number next, after.hosts[number]? = some next →
    ∃ host, before.hosts[number]? = some host ∧ next.profiles = host.profiles ∧
      next.held + next.releases = host.held + host.releases + leases number

namespace Accounts

theorem refl (studio : Studio) : Accounts studio studio fun _ => 0 :=
  ⟨rfl, fun _ host present => ⟨host, present, rfl, rfl⟩⟩

theorem setSink {before after : Studio} {leases : Nat → Nat}
    (accounts : Accounts before after leases) (sink : Nat) (seated : Option SeatedSink) :
    Accounts before (after.setSink sink seated) leases :=
  ⟨accounts.hosts, accounts.counted⟩

theorem trans {first second third : Studio} {before after : Nat → Nat}
    (one : Accounts first second before) (two : Accounts second third after) :
    Accounts first third fun number => before number + after number := by
  refine ⟨two.hosts.trans one.hosts, ?_⟩
  intro number last present
  obtain ⟨middle, present, same, last⟩ := two.counted number last present
  obtain ⟨host, present, profiles, middle⟩ := one.counted number middle present
  exact ⟨host, present, same.trans profiles, by rw [last, middle, Nat.add_assoc]⟩

theorem place {number : Nat} {host next : Host} (present : studio.hosts[number]? = some host)
    {leases : Nat → Nat} (profiles : next.profiles = host.profiles)
    (counted : next.held + next.releases = host.held + host.releases + leases number)
    (others : ∀ other, other ≠ number → leases other = 0) (slot : Slot Feed) :
    Accounts studio (studio.place number next slot) leases := by
  have inside := (List.getElem?_eq_some_iff.mp present).1
  refine ⟨by simp [Studio.place], forall_place inside slot ⟨host, present, profiles, counted⟩ ?_⟩
  intro other there elsewhere found
  exact ⟨there, found, rfl, by rw [others other elsewhere, Nat.add_zero]⟩

end Accounts

end Studio

namespace Host

theorem leases_call (host : Host) (thread : Bool) (number : Nat) (c : DriverCall) :
    (host.call thread number c).2.profiles = host.profiles ∧
      (host.call thread number c).2.held = host.held ∧
      (host.call thread number c).2.releases = host.releases := by
  unfold call
  split <;> exact ⟨rfl, rfl, rfl⟩

theorem leases_halted (host : Host) (session : Session) :
    (session.halted host).profiles = host.profiles ∧ (session.halted host).held = host.held ∧
      (session.halted host).releases = host.releases := by
  unfold Session.halted
  split
  · exact leases_call host false session.driver .stop
  · exact ⟨rfl, rfl, rfl⟩

theorem leases_abandoned {host : Host} (leased : 0 < host.held) (session : Session) :
    (session.abandoned host).profiles = host.profiles ∧
      (session.abandoned host).held + (session.abandoned host).releases =
        host.held + host.releases := by
  obtain ⟨profiles, held, releases⟩ := leases_halted host session
  obtain ⟨offered, kept, same⟩ :=
    leases_call (session.halted host) false session.driver .disposeBuffers
  refine ⟨offered.trans profiles, ?_⟩
  simp only [Session.abandoned, release, dropDriver, kept, same, held, releases]
  omega

end Host

namespace Studio

variable {studio : Studio}

namespace Accounts

theorem halted {sink : Nat} {seated : SeatedSink} {host : Host}
    (present : studio.hosts[seated.host]? = some host) (session : Session)
    (next : Option SeatedSink) :
    Accounts studio
      ((studio.place seated.host (session.halted host) studio.slot).setSink sink next)
      fun _ => 0 := by
  obtain ⟨profiles, held, releases⟩ := host.leases_halted session
  refine .setSink (.place present profiles ?_ (fun _ _ => rfl) _) sink _
  rw [held, releases, Nat.add_zero]

theorem stop (orderly : studio.Orderly) (sink : Nat) :
    Accounts studio (studio.stop sink) fun _ => 0 := by
  rcases orderly.session_cases sink with
    idle | ⟨seated, session, host, found, connected, present, _⟩
  · rw [stop_idle idle]
    exact .refl studio
  · rw [stop_eq found connected present]
    exact .halted present session _

theorem drain (orderly : studio.Orderly) (sink : Nat) :
    Accounts studio (studio.drain sink) fun _ => 0 := by
  rcases orderly.session_cases sink with
    idle | ⟨seated, session, host, found, connected, present, _⟩
  · rw [drain_idle idle]
    exact .refl studio
  · rw [drain_eq found connected present]
    exact .halted present session _

theorem start (orderly : studio.Orderly) (sink : Nat) :
    Accounts studio (studio.start sink).2 fun _ => 0 := by
  rcases orderly.session_cases sink with
    idle | ⟨seated, session, host, found, connected, present, _⟩
  · rw [start_idle idle]
    exact .refl studio
  rw [start_eq found connected present]
  unfold Session.started
  by_cases running : session.running
  · simp only [running, if_true]
    exact .setSink (.place present (by rfl) rfl (fun _ _ => rfl) _) sink _
  · simp only [running, Bool.false_eq_true, if_false]
    obtain ⟨profiles, held, releases⟩ := host.leases_call studio.supply.thread session.driver .start
    generalize host.call studio.supply.thread session.driver .start = outcome
      at profiles held releases ⊢
    have counted : outcome.2.held + outcome.2.releases = host.held + host.releases + 0 := by
      rw [held, releases, Nat.add_zero]
    rcases outcome with ⟨status | ⟨⟩, next⟩
    · exact .setSink (.place present profiles counted (fun _ _ => rfl) _) sink _
    · exact .setSink (.place present profiles counted (fun _ _ => rfl) _) sink _

theorem disconnect (orderly : studio.Orderly) (sink : Nat) :
    Accounts studio (studio.disconnect sink) fun _ => 0 := by
  rcases orderly.session_cases sink with
    idle | ⟨seated, session, host, found, connected, present, _, held, _⟩
  · rw [disconnect_idle idle]
    exact .refl studio
  · obtain ⟨profiles, given⟩ := Host.leases_abandoned (by omega : 0 < host.held) session
    rw [disconnect_eq found connected present]
    exact .setSink (.place present profiles given (fun _ _ => rfl) _) sink _

theorem of_quiet {command : Command}
    (other : ∀ sink format device, command ≠ .connect sink format device)
    (kept : Accounts studio (studio.execute command) fun _ => 0) :
    Accounts studio (studio.execute command) fun number => studio.leases number command := by
  simpa only [leases_eq_zero studio _ other] using kept

theorem addPackets (studio : Studio) (sink : Nat) (data : List Bytes)
    (frames offset : Nat) :
    Accounts studio (studio.addPackets sink data frames offset).2 fun _ => 0 := by
  cases has : studio.session? sink with
  | none => rw [addPackets_idle has]; exact .refl studio
  | some session =>
    obtain ⟨seated, found, connected⟩ := session?_eq_some_iff.mp has
    cases data with
    | nil => rw [addPackets_nil found]; exact .refl studio
    | cons src others =>
      rw [addPackets_eq found connected]
      exact (refl studio).setSink sink _

theorem setDriver (studio : Studio) (number driver : Nat) (next : Simulated) :
    Accounts studio (studio.setDriver number driver next) fun _ => 0 := by
  cases present : studio.hosts[number]? with
  | none => rw [setDriver_of_absent present]; exact .refl studio
  | some host =>
    rw [setDriver_of_host present]
    exact .place present (by rfl) rfl (fun _ _ => rfl) studio.slot

theorem tick (studio : Studio) (host number : Nat) :
    Accounts studio (studio.tick host number).2 fun _ => 0 := by
  unfold Studio.tick
  split
  · exact .refl studio
  split
  · exact .refl studio
  · next driver _ _ announcement next _ =>
    have ticked := setDriver studio host number next
    rcases (studio.setDriver host number next).deliver_cases announcement.half with
      same | ⟨feed, seated, session, driver, target, found, opened, connected⟩
    · dsimp only
      rwa [same]
    · dsimp only
      rw [deliver_eq target found opened connected]
      exact (ticked.setSink feed.sink _).trans (setDriver _ feed.host feed.driver _)

theorem setRefusing (studio : Studio) (number : Nat) (refusing : Bool) :
    Accounts studio (studio.setRefusing number refusing) fun _ => 0 := by
  cases present : studio.hosts[number]? with
  | none => rw [setRefusing_of_absent present]; exact .refl studio
  | some host =>
    rw [setRefusing_of_host present]
    exact .place present (by rfl) rfl (fun _ _ => rfl) studio.slot

theorem setSupply (studio : Studio) (supply : Supply) :
    Accounts studio (studio.setSupply supply) fun _ => 0 :=
  ⟨rfl, fun _ host present => ⟨host, present, rfl, rfl⟩⟩

theorem connect (studio : Studio) (sink : Nat) (format : StreamFormat)
    (device : String) : Accounts studio (studio.connect sink format device).2 fun number =>
      studio.leases number (.connect sink format device) := by
  cases found : studio.sink? sink with
  | none =>
    simp only [leases, exchanges, asked, Studio.connect, onSink, found, List.countP_nil]
    exact .refl studio
  | some seated =>
    have ways := connect_cases found format device
    generalize studio.connect sink format device = outcome at ways ⊢
    cases ways with
    | again connected =>
      simp only [leases_connect_again (session?_eq_some_iff.mpr ⟨seated, found, connected⟩)]
      exact .refl studio
    | homeless idle absent =>
      have none (number : Nat) : studio.leases number (.connect sink format device) = 0 := by
        rw [leases_connect found idle, if_neg]
        rintro ⟨rfl, here⟩
        simp [absent] at here
      simp only [none]
      exact (refl studio).setSink sink _
    | @interrupted host host' slot' interruption left idle present _ rolledBack unclaimed =>
      simp only [leases_connect found idle]
      obtain ⟨remnants, _, _, rfl⟩ := rolledBack
      refine .setSink (.place present (by rfl) ?_ ?_ slot') sink _
      · cases refusing : host.refusing <;> simp [present, refusing, Nat.add_assoc]
      · intro other elsewhere
        simp [Ne.symm elsewhere]
    | @opened host session after idle present opened =>
      simp only [leases_connect found idle]
      obtain ⟨granted, _, profile, agreement, _, _, rfl, rfl⟩ := opened
      refine .setSink (.place present (by rfl) ?_ ?_ _) sink _
      · simp [present, granted, Host.withOpened]
        omega
      · intro other elsewhere
        simp [Ne.symm elsewhere]

end Accounts

namespace Orderly

theorem accounts (orderly : studio.Orderly) (command : Command) :
    Accounts studio (studio.execute command) fun number => studio.leases number command := by
  cases command with
  | connect sink format device => exact .connect studio sink format device
  | disconnect sink =>
    refine Accounts.of_quiet (by simp) ?_
    exact .disconnect orderly sink
  | drop sink =>
    refine Accounts.of_quiet (by simp) ?_
    exact (Accounts.disconnect orderly sink).setSink sink none
  | stop sink =>
    refine Accounts.of_quiet (by simp) ?_
    exact .stop orderly sink
  | start sink =>
    refine Accounts.of_quiet (by simp) ?_
    exact .start orderly sink
  | drain sink =>
    refine Accounts.of_quiet (by simp) ?_
    exact .drain orderly sink
  | addPackets sink data frames offset => exact .addPackets studio sink data frames offset
  | tick host driver => exact .tick studio host driver
  | refuse host refusing => exact .setRefusing studio host refusing
  | supply supply => exact .setSupply studio supply

/-- The leases granted during a run are held or were given back. -/
theorem accounts_run (orderly : studio.Orderly) (commands : List Command) :
    Accounts studio (studio.run commands) fun number => studio.leasesOver number commands := by
  induction commands generalizing studio with
  | nil => exact .refl studio
  | cons command commands ih =>
    exact (orderly.accounts command).trans (ih (orderly.execute command))

end Orderly

end Studio

end PlanarSink
