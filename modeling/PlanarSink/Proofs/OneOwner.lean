import PlanarSink.Proofs.Leases

/-! Exclusive ownership over whole runs: whatever is done to the sinks and hosts of a
studio, one sink at most is connected, and slot, leases and drivers are its own. -/
namespace PlanarSink

theorem Sink.Settled.not_negotiating {sink : Sink} (settled : sink.Settled) {session : Session}
    (connected : sink.session = some session) : sink.state ≠ .negotiating := by
  rw [Sink.Settled, connected] at settled
  dsimp only at settled
  rw [settled]
  split <;> decide

namespace Studio

theorem connected_eq_true_iff {studio : Studio} {sink : Nat} :
    studio.connected sink = true ↔ ∃ session, studio.session? sink = some session := by
  unfold connected session? Sink.isInitialized
  cases studio.sink? sink with
  | none => simp
  | some seated => simp [Option.isSome_iff_exists]

namespace Orderly

variable {studio : Studio}

theorem connected_unique (orderly : studio.Orderly) {sink other : Nat}
    (one : studio.connected sink = true) (two : studio.connected other = true) :
    sink = other := by
  obtain ⟨session, has⟩ := connected_eq_true_iff.mp one
  obtain ⟨seated, found, connected⟩ := session?_eq_some_iff.mp has
  obtain ⟨session', has'⟩ := connected_eq_true_iff.mp two
  obtain ⟨seated', found', connected'⟩ := session?_eq_some_iff.mp has'
  have target := orderly.owner sink seated found session connected
  rw [orderly.owner other seated' found' session' connected'] at target
  exact (congrArg Feed.sink (Option.some.inj target)).symm

end Orderly

/-- Only marked sinks are left negotiating. -/
def Negotiates (studio : Studio) (marked : Nat → Prop) : Prop :=
  ∀ sink seated, studio.sink? sink = some seated → seated.sink.state = .negotiating → marked sink

namespace Negotiates

variable {studio : Studio} {sink : Nat} {seated : SeatedSink} {marked : Nat → Prop}
  (negotiates : studio.Negotiates marked)
include negotiates

theorem imp {marked' : Nat → Prop} (more : ∀ sink, marked sink → marked' sink) :
    studio.Negotiates marked' :=
  fun sink seated found negotiating => more sink (negotiates sink seated found negotiating)

theorem setSink (found : studio.sink? sink = some seated) {next : SeatedSink}
    (excused : next.sink.state = .negotiating → marked sink) :
    (studio.setSink sink (some next)).Negotiates marked :=
  forall_setSink found excused fun other there _ => negotiates other there

theorem drop (sink : Nat) : (studio.setSink sink none).Negotiates marked := by
  intro other seated found
  by_cases here : other = sink
  · subst here
    rw [sink?_setSink_none] at found
    contradiction
  · rw [sink?_setSink_ne here] at found
    exact negotiates other seated found

theorem setDriver (host number : Nat) (driver : Simulated) :
    (studio.setDriver host number driver).Negotiates marked := by
  cases present : studio.hosts[host]? with
  | none => rwa [setDriver_of_absent present]
  | some record =>
    rw [setDriver_of_host present]
    exact negotiates

theorem connect (sink : Nat) (format : StreamFormat) (device : String) :
    (studio.connect sink format device).2.Negotiates fun other =>
      marked other ∨ studio.panics other (.connect sink format device) = true := by
  have kept : studio.Negotiates fun other =>
      marked other ∨ studio.panics other (.connect sink format device) = true :=
    negotiates.imp fun _ => .inl
  cases found : studio.sink? sink with
  | none => simpa [Studio.connect, onSink, found] using kept
  | some seated =>
    have ways := connect_cases found format device
    simp only [panics] at kept ⊢
    generalize studio.connect sink format device = outcome at ways kept ⊢
    cases ways with
    | again => exact kept
    | homeless => exact kept.setSink found fun negotiating => by contradiction
    | @interrupted _ _ _ interruption =>
      refine Negotiates.setSink ?_ found fun negotiating => .inr ?_
      · exact kept
      · cases interruption with
        | failure => contradiction
        | panic => simp
    | opened _ _ opened =>
      obtain ⟨_, _, _, _, _, _, rfl, rfl⟩ := opened
      refine Negotiates.setSink ?_ found fun negotiating => by contradiction
      exact kept

variable (orderly : studio.Orderly)
include orderly

theorem disconnect (sink : Nat) : (studio.disconnect sink).Negotiates marked := by
  rcases orderly.session_cases sink with
    idle | ⟨seated, session, host, found, connected, present, _⟩
  · rwa [disconnect_idle idle]
  · rw [disconnect_eq found connected present]
    refine Negotiates.setSink ?_ found nofun
    exact negotiates

theorem stop (sink : Nat) : (studio.stop sink).Negotiates marked := by
  rcases orderly.session_cases sink with
    idle | ⟨seated, session, host, found, connected, present, _⟩
  · rwa [stop_idle idle]
  · rw [stop_eq found connected present]
    refine Negotiates.setSink ?_ found nofun
    exact negotiates

theorem drain (sink : Nat) : (studio.drain sink).Negotiates marked := by
  rcases orderly.session_cases sink with
    idle | ⟨seated, session, host, found, connected, present, _⟩
  · rwa [drain_idle idle]
  · rw [drain_eq found connected present]
    refine Negotiates.setSink ?_ found nofun
    exact negotiates

theorem start (sink : Nat) : (studio.start sink).2.Negotiates marked := by
  rcases orderly.session_cases sink with
    idle | ⟨seated, session, host, found, connected, present, _⟩
  · rwa [start_idle idle]
  have settled := (orderly.settled sink seated found).not_negotiating connected
  rw [start_eq found connected present]
  rcases session.started studio.supply.thread host with ⟨⟨status | ⟨⟩, next⟩, after⟩
  · refine Negotiates.setSink ?_ found fun negotiating => absurd negotiating settled
    exact negotiates
  · refine Negotiates.setSink ?_ found nofun
    exact negotiates

theorem addPackets (sink : Nat) (data : List Bytes) (frames offset : Nat) :
    (studio.addPackets sink data frames offset).2.Negotiates marked := by
  cases has : studio.session? sink with
  | none => rwa [addPackets_idle has]
  | some session =>
    obtain ⟨seated, found, connected⟩ := session?_eq_some_iff.mp has
    have settled := (orderly.settled sink seated found).not_negotiating connected
    cases data with
    | nil => rwa [addPackets_nil found]
    | cons src others =>
      rw [addPackets_eq found connected]
      exact negotiates.setSink found fun negotiating => absurd negotiating settled

theorem deliver (half : Half) : (studio.deliver half).Negotiates marked := by
  rcases studio.deliver_cases half with
    same | ⟨feed, seated, session, driver, target, found, opened, connected⟩
  · rwa [same]
  · have settled := (orderly.settled _ _ found).not_negotiating connected
    rw [deliver_eq target found opened connected]
    refine Negotiates.setDriver ?_ _ _ _
    exact negotiates.setSink found fun negotiating => absurd negotiating settled

theorem tick (host number : Nat) : (studio.tick host number).2.Negotiates marked := by
  unfold Studio.tick
  split
  · exact negotiates
  split
  · exact negotiates
  · exact (negotiates.setDriver host number _).deliver (orderly.setDriver host number _) _

theorem execute (command : Command) : (studio.execute command).Negotiates fun sink =>
    marked sink ∨ studio.panics sink command = true := by
  have quiet {next : Studio} (kept : next.Negotiates marked) :
      next.Negotiates fun sink => marked sink ∨ studio.panics sink command = true :=
    kept.imp fun _ => .inl
  cases command with
  | connect sink format device => exact negotiates.connect sink format device
  | disconnect sink => exact quiet (negotiates.disconnect orderly sink)
  | stop sink => exact quiet (negotiates.stop orderly sink)
  | start sink => exact quiet (negotiates.start orderly sink)
  | drain sink => exact quiet (negotiates.drain orderly sink)
  | addPackets sink data frames offset =>
    exact quiet (negotiates.addPackets orderly sink data frames offset)
  | drop sink => exact quiet ((negotiates.disconnect orderly sink).drop sink)
  | tick host driver => exact quiet (negotiates.tick orderly host driver)
  | refuse host refusing =>
    refine quiet ?_
    rw [Studio.execute]
    cases present : studio.hosts[host]? with
    | none => rwa [setRefusing_of_absent present]
    | some record =>
      rw [setRefusing_of_host present]
      exact negotiates
  | supply supply => exact quiet negotiates

theorem run (commands : List Command) : (studio.run commands).Negotiates fun sink =>
    marked sink ∨ studio.panicsOver sink commands = true := by
  induction commands generalizing studio marked with
  | nil => exact negotiates.imp fun _ => .inl
  | cons command commands ih =>
    refine (ih (negotiates.execute orderly command) (orderly.execute command)).imp fun sink => ?_
    rw [panicsOver, Bool.or_eq_true]
    exact or_assoc.mp

end Negotiates

end Studio

end PlanarSink
