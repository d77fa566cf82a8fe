import PlanarSink.Sink.Conduct
import PlanarSink.Studio.Command

/-! The order in which a sink asks its surroundings for things. A driver goes through a few
stages from call to call, and its sink through a few standings from exchange to exchange;
from these it follows what happens once, what comes before what, and what is given back. -/
namespace PlanarSink

/-- Steps with labels, one after the other. -/
inductive Path {α β : Type} (step : α → β → α → Prop) : α → List β → α → Prop where
  | nil (s : α) : Path step s [] s
  | cons {s t u : α} {label : β} {labels : List β} (first : step s label t)
      (rest : Path step t labels u) : Path step s (label :: labels) u

namespace Path

variable {α β : Type} {step : α → β → α → Prop} {s t u : α} {label : β}
  {labels before after : List β}

theorem snoc (path : Path step s labels t) (last : step t label u) :
    Path step s (labels ++ [label]) u := by
  induction path with
  | nil => exact .cons last (.nil _)
  | cons first _ ih => exact .cons first (ih last)

theorem split (path : Path step s (before ++ label :: after) u) :
    ∃ middle next, Path step s before middle ∧ step middle label next ∧
      Path step next after u := by
  induction before generalizing s with
  | nil =>
    cases path with
    | cons first rest => exact ⟨s, _, .nil s, first, rest⟩
  | cons head others ih =>
    cases path with
    | cons first rest =>
      obtain ⟨middle, next, earlier, here, later⟩ := ih rest
      exact ⟨middle, next, .cons first earlier, here, later⟩

theorem unsnoc (path : Path step s labels u) :
    labels = [] ∧ s = u ∨
      ∃ earlier label middle, labels = earlier ++ [label] ∧ Path step s earlier middle ∧
        step middle label u := by
  rcases List.eq_nil_or_concat labels with rfl | ⟨earlier, label, rfl⟩
  · cases path
    exact .inl ⟨rfl, rfl⟩
  · rw [List.concat_eq_append] at path
    obtain ⟨middle, next, first, here, rest⟩ := path.split
    cases rest
    exact .inr ⟨earlier, label, middle, List.concat_eq_append, first, here⟩

end Path

/-- What can be done with a driver next. -/
inductive Stage where
  | opened
  /-- Its buffers were refused. -/
  | refused
  | furnished
  | playing
  | disposed
deriving DecidableEq, Repr

/-- A call that neither creates nor disposes of buffers, nor starts or stops the driver. -/
def DriverCall.asks : DriverCall → Bool
  | createBuffers .. | disposeBuffers | start | stop => false
  | _ => true

namespace Stage

/-- The calls that are made at a stage, and what their answers lead to. -/
inductive Step : Stage → Called → Stage → Prop where
  | ask (c : DriverCall) (reply : c.Reply) (asks : c.asks = true) : Step opened ⟨c, reply⟩ opened
  | create (infos : List BufferInfo) (period : Nat) (answer : List BufferInfo) :
      Step opened ⟨.createBuffers infos period, .ok answer⟩ furnished
  | refuse (infos : List BufferInfo) (period : Nat) (fault : CreationFault) :
      Step opened ⟨.createBuffers infos period, .error fault⟩ refused
  | start : Step furnished ⟨.start, .ok ()⟩ playing
  | stall (status : Status) : Step furnished ⟨.start, .error status⟩ furnished
  | stop (reply : DriverCall.Reply .stop) : Step playing ⟨.stop, reply⟩ furnished
  | dispose (reply : DriverCall.Reply .disposeBuffers) :
      Step furnished ⟨.disposeBuffers, reply⟩ disposed

/-- The driver was given buffers. -/
def created : Stage → Bool
  | furnished | playing | disposed => true
  | opened | refused => false

/-- The driver has neither buffers nor periods to deliver, and can be dropped. -/
def bare : Stage → Bool
  | opened | refused | disposed => true
  | furnished | playing => false

abbrev Run := Path Step

variable {s t : Stage} {called : Called} {calls : List Called}

theorem Step.created (step : Step s called t) : t.created = (s.created || called.created) := by
  cases step with
  | ask c reply asks => cases c <;> first | contradiction | rfl
  | create | refuse | start | stall | stop | dispose => rfl

theorem created_of_run (run : Run s calls t) : t.created = (s.created || calls.any Called.created) := by
  induction run with
  | nil => simp
  | cons first _ ih => rw [ih, first.created, List.any_cons, Bool.or_assoc]

/-- Buffers are asked for at the first stage only, which is left then. -/
theorem countP_creates (run : Run s calls t) :
    calls.countP Called.creates ≤ if s = opened then 1 else 0 := by
  induction run with
  | nil => exact Nat.zero_le _
  | cons first _ ih =>
    cases first with
    | ask c reply asks => cases c <;> first | contradiction | exact ih
    | create | refuse =>
      rw [List.countP_cons_of_pos rfl]
      exact Nat.succ_le_succ ih
    | start | stall | stop | dispose => exact ih

theorem countP_disposes (run : Run s calls t) :
    calls.countP Called.disposes + (if s = disposed then 1 else 0) =
      if t = disposed then 1 else 0 := by
  induction run with
  | nil => simp
  | cons first _ ih =>
    rw [← ih]
    cases first with
    | ask c reply asks => cases c <;> first | contradiction | rfl
    | create | refuse | start | stall | stop => rfl
    | dispose =>
      rw [List.countP_cons_of_pos rfl]
      rfl

theorem stopped_next (run : Run playing calls t) :
    calls = [] ∧ t = playing ∨ ∃ reply later, calls = ⟨.stop, reply⟩ :: later := by
  cases run with
  | nil => exact .inl ⟨rfl, rfl⟩
  | cons first rest =>
    cases first with
    | stop reply => exact .inr ⟨reply, _, rfl⟩

theorem started_last (run : Run opened calls playing) :
    ∃ earlier, calls = earlier ++ [⟨.start, .ok ()⟩] := by
  rcases run.unsnoc with ⟨_, same⟩ | ⟨earlier, called, middle, rfl, _, last⟩
  · contradiction
  · cases last with
    | start => exact ⟨earlier, rfl⟩

end Stage

/-- What is right in the life of a driver. Buffers are created once at most, and before the
driver is started. A start that succeeds is followed by a stop, and a stop follows such a
start, each with nothing in between. Created buffers are disposed of once, before the driver
is dropped and after all other calls. -/
structure Life.Proper (life : Life) : Prop where
  createdOnce : life.calls.countP Called.creates ≤ 1
  createdFirst : ∀ before reply after, life.calls = before ++ ⟨.start, reply⟩ :: after →
    before.any Called.created = true
  stopped : ∀ before after, life.calls = before ++ ⟨.start, .ok ()⟩ :: after →
    (∃ reply later, after = ⟨.stop, reply⟩ :: later) ∨ after = [] ∧ life.dropped = false
  started : ∀ before reply after, life.calls = before ++ ⟨.stop, reply⟩ :: after →
    ∃ earlier, before = earlier ++ [⟨.start, .ok ()⟩]
  disposedOnce : life.calls.countP Called.disposes =
    if life.dropped && life.calls.any Called.created then 1 else 0
  disposedLast : ∀ before reply after, life.calls = before ++ ⟨.disposeBuffers, reply⟩ :: after →
    after = []

/-- A life that leads through the stages is proper, if it ends with a driver that can be
dropped, or goes on with one that has its buffers. -/
theorem Life.proper_of_run {life : Life} {last : Stage} (run : Stage.Run .opened life.calls last)
    (ended : if life.dropped then last.bare = true else last = .furnished ∨ last = .playing) :
    life.Proper where
  createdOnce := Stage.countP_creates run
  createdFirst before reply after same := by
    rw [same] at run
    obtain ⟨_, _, earlier, here, _⟩ := run.split
    have created := Stage.created_of_run earlier
    cases here with
    | ask _ _ asks => contradiction
    | start | stall => exact created.symm
  stopped before after same := by
    rw [same] at run
    obtain ⟨_, _, _, here, later⟩ := run.split
    cases here with
    | ask _ _ asks => contradiction
    | start =>
      rcases Stage.stopped_next later with ⟨none, rfl⟩ | stop
      · refine .inr ⟨none, ?_⟩
        cases dropped : life.dropped with
        | false => rfl
        | true =>
          rw [dropped] at ended
          contradiction
      · exact .inl stop
  started before reply after same := by
    rw [same] at run
    obtain ⟨_, _, earlier, here, _⟩ := run.split
    cases here with
    | ask _ _ asks => contradiction
    | stop => exact Stage.started_last earlier
  disposedOnce := by
    have disposed := Stage.countP_disposes run
    have created := Stage.created_of_run run
    rw [Stage.created, Bool.false_or] at created
    rw [← created]
    cases dropped : life.dropped with
    | false =>
      rw [dropped] at ended
      rcases ended with rfl | rfl <;> exact disposed
    | true =>
      rw [dropped] at ended
      cases last with
      | opened | refused | disposed => exact disposed
      | furnished | playing => contradiction
  disposedLast before reply after same := by
    rw [same] at run
    obtain ⟨_, _, _, here, later⟩ := run.split
    cases here with
    | ask _ _ asks => contradiction
    | dispose =>
      cases later with
      | nil => rfl
      | cons first _ => contradiction

/-- What a sink holds. -/
inductive Standing where
  | idle
  | leased
  | claimed
  | holding (driver : Nat) (stage : Stage)
deriving DecidableEq, Repr

namespace Standing

/-- What a sink asks for in a standing, and what the replies lead to. -/
inductive Step : Standing → Exchange → Standing → Prop where
  | lease : Step idle ⟨.acquireHost, .ok ()⟩ leased
  | unleased (status : Status) : Step idle ⟨.acquireHost, .error status⟩ idle
  | claim : Step leased ⟨.claimSlot, true⟩ claimed
  | unclaimed : Step leased ⟨.claimSlot, false⟩ leased
  | engage (device : String) (driver : Nat) :
      Step claimed ⟨.openDriver device, .ok driver⟩ (holding driver .opened)
  | unopened (device : String) (status : Status) :
      Step claimed ⟨.openDriver device, .error status⟩ claimed
  | call (driver : Nat) {stage next : Stage} {c : DriverCall} {reply : c.Reply}
      (step : Stage.Step stage ⟨c, reply⟩ next) :
      Step (holding driver stage) ⟨.call driver c, reply⟩ (holding driver next)
  | allocate (driver capacity planes : Nat) (reply : Bool) :
      Step (holding driver .furnished) ⟨.allocateRing capacity planes, reply⟩
        (holding driver .furnished)
  | reserve (driver bytes : Nat) (reply : Bool) :
      Step (holding driver .furnished) ⟨.reserve bytes, reply⟩ (holding driver .furnished)
  | install (driver : Nat) (dispatcher : Dispatcher) :
      Step (holding driver .furnished) ⟨.install driver dispatcher, ()⟩ (holding driver .furnished)
  | drop (driver : Nat) {stage : Stage} (bare : stage.bare = true) :
      Step (holding driver stage) ⟨.dropDriver driver, ()⟩ claimed
  | vacate : Step claimed ⟨.vacateSlot, ()⟩ leased
  | release : Step leased ⟨.releaseHost, ()⟩ idle

def granted : Except Status Unit → Standing
  | .ok () => leased
  | .error _ => idle

def won : Bool → Standing
  | true => claimed
  | false => leased

def given : Except Status Nat → Standing
  | .ok driver => holding driver .opened
  | .error _ => claimed

def answered {α ε : Type} (driver : Nat) (done : α → Stage) (refused : ε → Stage) :
    Except ε α → Standing
  | .ok answer => holding driver (done answer)
  | .error fault => holding driver (refused fault)

namespace Step

theorem acquireHost : (reply : Except Status Unit) → Step idle ⟨.acquireHost, reply⟩ (granted reply)
  | .ok () => lease
  | .error status => unleased status

theorem claimSlot : (reply : Bool) → Step leased ⟨.claimSlot, reply⟩ (won reply)
  | true => claim
  | false => unclaimed

theorem openDriver (device : String) :
    (reply : Except Status Nat) → Step claimed ⟨.openDriver device, reply⟩ (given reply)
  | .ok driver => engage device driver
  | .error status => unopened device status

theorem callDriver (driver : Nat) {c : DriverCall} {stage : Stage} {done : c.Answer → Stage}
    {refused : c.Fault → Stage} (step : ∀ answer, stage.Step ⟨c, .ok answer⟩ (done answer))
    (refusal : ∀ fault, stage.Step ⟨c, .error fault⟩ (refused fault)) :
    (reply : c.Reply) →
      Step (holding driver stage) ⟨.call driver c, reply⟩ (answered driver done refused reply)
  | .ok answer => call driver (step answer)
  | .error fault => call driver (refusal fault)

end Step

abbrev Run := Path Step

variable {s t : Standing} {exchanges : List Exchange} {driver : Nat} {stage : Stage}

/-- While a sink holds a driver, the driver goes from stage to stage; afterwards it is
dropped, or still held. -/
theorem run_life (run : Run (holding driver stage) exchanges t) :
    ∃ last, Stage.Run stage (Life.ofExchanges driver exchanges).calls last ∧
      if (Life.ofExchanges driver exchanges).dropped then last.bare = true
      else t = holding driver last := by
  generalize before : holding driver stage = s at run
  induction run generalizing stage with
  | nil => exact ⟨stage, .nil stage, before.symm⟩
  | cons first _ ih =>
    subst before
    cases first with
    | call _ step =>
      obtain ⟨last, calls, ended⟩ := ih rfl
      refine ⟨last, ?_, ended⟩
      simpa [Life.ofExchanges, Exchange.drops, Exchange.call?] using Path.cons step calls
    | allocate | reserve | install => exact ih rfl
    | drop _ bare =>
      refine ⟨stage, ?_, ?_⟩
      · simpa [Life.ofExchanges, Exchange.drops] using Path.nil stage
      · simpa [Life.ofExchanges, Exchange.drops] using bare

theorem opened_of_run (run : Run s exchanges (holding driver stage)) :
    (∃ before, s = holding driver before ∧ (Life.ofExchanges driver exchanges).dropped = false) ∨
      ∃ earlier device later, exchanges = earlier ++ ⟨.openDriver device, .ok driver⟩ :: later ∧
        (Life.ofExchanges driver later).dropped = false := by
  generalize final : holding driver stage = t at run
  induction run with
  | nil => exact .inl ⟨stage, final.symm, rfl⟩
  | cons first _ ih =>
    rcases ih final with ⟨before, rfl, live⟩ | ⟨earlier, device, later, rfl, live⟩
    · cases first with
      | engage device => exact .inr ⟨[], device, _, rfl, live⟩
      | call | allocate | reserve | install => exact .inl ⟨_, rfl, live⟩
    · exact .inr ⟨_ :: earlier, device, later, rfl, live⟩

def leases : Standing → Nat
  | idle => 0
  | leased | claimed | holding _ _ => 1

/-- Leases are granted where none is held, and returned where one is. -/
theorem leases_run (run : Run s exchanges t) :
    exchanges.countP Exchange.grantsLease + s.leases =
      exchanges.countP Exchange.returnsLease + t.leases := by
  induction run with
  | nil => rfl
  | cons first _ ih =>
    cases first with
    | lease =>
      rw [List.countP_cons_of_pos rfl, Nat.add_right_comm]
      exact ih
    | release =>
      have returned : Exchange.returnsLease ⟨.releaseHost, ()⟩ = true := rfl
      rw [List.countP_cons_of_pos returned, Nat.add_right_comm]
      exact congrArg (· + 1) ih
    | unleased | claim | unclaimed | engage | unopened | call | allocate | reserve | install
    | drop | vacate => exact ih

theorem vacated_of_run (run : Run s exchanges leased) (claiming : s ≠ idle ∧ s ≠ leased) :
    ⟨.vacateSlot, ()⟩ ∈ exchanges := by
  generalize final : leased = t at run
  induction run with
  | nil => exact absurd final.symm claiming.2
  | cons first _ ih =>
    cases first with
    | lease | unleased => exact absurd rfl claiming.1
    | claim | unclaimed | release => exact absurd rfl claiming.2
    | vacate => exact List.mem_cons_self
    | engage | unopened | call | allocate | reserve | install | drop =>
      exact List.mem_cons_of_mem _ (ih ⟨nofun, nofun⟩ final)

end Standing

/-- What is right in all that a sink asked for. Each driver it opened has a proper life, and
has been dropped unless the sink is connected; calls are made on a driver between its
opening and its being dropped. A lease is given back once for each that was granted, after
all drivers were dropped and all claims given up. -/
structure Protocol (exchanges : List Exchange) (connected : Bool) : Prop where
  proper : ∀ before device driver after,
    exchanges = before ++ ⟨.openDriver device, .ok driver⟩ :: after →
    (Life.ofExchanges driver after).Proper ∧
      ((Life.ofExchanges driver after).dropped = false → connected = true)
  opened : ∀ before driver c reply after, exchanges = before ++ ⟨.call driver c, reply⟩ :: after →
    ∃ earlier device later, before = earlier ++ ⟨.openDriver device, .ok driver⟩ :: later ∧
      (Life.ofExchanges driver later).dropped = false
  released : ∀ before reply after, exchanges = before ++ ⟨.releaseHost, reply⟩ :: after →
    before.countP Exchange.grantsLease = before.countP Exchange.returnsLease + 1 ∧
    (∀ earlier device driver later,
      before = earlier ++ ⟨.openDriver device, .ok driver⟩ :: later →
      (Life.ofExchanges driver later).dropped = true) ∧
    ∀ earlier later, before = earlier ++ ⟨.claimSlot, true⟩ :: later → ⟨.vacateSlot, ()⟩ ∈ later
  balanced : exchanges.countP Exchange.grantsLease =
    exchanges.countP Exchange.returnsLease + if connected then 1 else 0

namespace Standing

def ofSession : Option Session → Standing
  | none => idle
  | some session => holding session.driver (if session.running then .playing else .furnished)

theorem ofSession_running {session : Session} (running : session.running = true) :
    ofSession (some session) = holding session.driver .playing := by
  rw [ofSession, if_pos running]

theorem ofSession_stopped {session : Session} (stopped : session.running = false) :
    ofSession (some session) = holding session.driver .furnished := by
  rw [ofSession, if_neg (Bool.eq_false_iff.mp stopped)]

variable {exchanges : List Exchange}

/-- A sink that goes from standing to standing keeps the protocol. -/
theorem protocol_of_run {session : Option Session} (run : Run idle exchanges (ofSession session)) :
    Protocol exchanges session.isSome where
  proper before device driver after same := by
    rw [same] at run
    obtain ⟨_, _, _, here, later⟩ := run.split
    cases here with
    | engage =>
      obtain ⟨last, calls, ended⟩ := run_life later
      cases dropped : (Life.ofExchanges driver after).dropped with
      | true =>
        rw [dropped] at ended
        exact ⟨Life.proper_of_run calls (by rw [dropped]; exact ended), nofun⟩
      | false =>
        rw [dropped] at ended
        cases session with
        | none => contradiction
        | some session =>
          obtain ⟨_, rfl⟩ := holding.inj ended
          refine ⟨Life.proper_of_run calls ?_, fun _ => rfl⟩
          rw [dropped]
          cases session.running with
          | true => exact .inr rfl
          | false => exact .inl rfl
  opened before driver c reply after same := by
    rw [same] at run
    obtain ⟨_, _, earlier, here, _⟩ := run.split
    cases here with
    | call =>
      rcases opened_of_run earlier with ⟨_, held, _⟩ | opening
      · contradiction
      · exact opening
  released before reply after same := by
    rw [same] at run
    obtain ⟨_, _, earlier, here, _⟩ := run.split
    cases here with
    | release =>
      refine ⟨leases_run earlier, fun first device driver later same => ?_,
        fun first later same => ?_⟩
      · rw [same] at earlier
        obtain ⟨_, _, _, opened, rest⟩ := earlier.split
        cases opened with
        | engage =>
          obtain ⟨_, _, ended⟩ := run_life rest
          cases dropped : (Life.ofExchanges driver later).dropped with
          | true => rfl
          | false =>
            rw [dropped] at ended
            contradiction
      · rw [same] at earlier
        obtain ⟨_, _, _, claimed, rest⟩ := earlier.split
        cases claimed with
        | claim => exact vacated_of_run rest ⟨nofun, nofun⟩
  balanced := by
    have leases := leases_run run
    cases session <;> exact leases

end Standing

end PlanarSink
