import PlanarSink.Proofs.Ownership
import PlanarSink.Proofs.Standing

/-! A sink keeps to the protocol whatever its surroundings reply: each of its operations leads
from the standing of the session it finds to that of the session it leaves. -/
namespace PlanarSink

variable {σ α β : Type}

def Journal.Stands (journal : Journal σ) (standing : Standing) : Prop :=
  Standing.Run .idle journal.exchanges standing

theorem Journal.Stands.perform [Backend σ] {journal : Journal σ} {standing : Standing}
    (stands : journal.Stands standing) {request : Request} {next : request.Reply → Standing}
    (step : ∀ reply, standing.Step ⟨request, reply⟩ (next reply)) :
    (Backend.perform request journal).2.Stands (next (Backend.perform request journal).1) :=
  Path.snoc stands (step _)

namespace OpeningM

/-- From a standing the program leads to a value and a standing as in `ok`, or it is interrupted in
a standing as in `failed`. -/
def Leads (program : OpeningM (Journal σ) α) (standing : Standing) (ok : α → Standing → Prop)
    (failed : Standing → Prop) : Prop :=
  ∀ opening, opening.backend.Stands standing → program.Ends opening
    (fun value after => ∃ next, after.backend.Stands next ∧ ok value next)
    (fun _ after => ∃ next, after.backend.Stands next ∧ failed next)

namespace Leads

variable {standing : Standing} {ok : α → Standing → Prop} {failed : Standing → Prop}

theorem pure {value : α} (right : ok value standing) :
    (Pure.pure value : OpeningM (Journal σ) α).Leads standing ok failed :=
  fun _ stands => ⟨standing, stands, right⟩

theorem throw {interruption : Interruption} (right : failed standing) :
    (MonadExcept.throw interruption : OpeningM (Journal σ) α).Leads standing ok failed :=
  fun _ stands => ⟨standing, stands, right⟩

theorem weaken {earlier : Standing → Prop} {program : OpeningM (Journal σ) α}
    (leads : program.Leads standing ok earlier) (wrong : ∀ there, earlier there → failed there) :
    program.Leads standing ok failed := by
  intro opening stands
  apply (leads opening stands).imp
  case value => exact fun _ _ ends => ends
  case failure =>
    rintro _ _ ⟨there, stands, right⟩
    exact ⟨there, stands, wrong there right⟩

theorem bind {program : OpeningM (Journal σ) β} {next : β → OpeningM (Journal σ) α}
    {middle : β → Standing → Prop} (first : program.Leads standing middle failed)
    (rest : ∀ value after, middle value after → (next value).Leads after ok failed) :
    (program >>= next).Leads standing ok failed := by
  intro opening stands
  rw [ends_bind]
  apply (first opening stands).imp
  case value =>
    rintro value after ⟨there, stands, right⟩
    exact rest value there right after stands
  case failure => exact fun _ _ ends => ends

theorem require {condition : Bool} {interruption : Interruption}
    (wrong : condition = false → failed standing) :
    (OpeningM.require condition interruption : OpeningM (Journal σ) Unit).Leads standing
      (fun _ after => condition = true ∧ after = standing) failed := by
  cases condition with
  | true => exact .pure ⟨rfl, rfl⟩
  | false => exact .throw (wrong rfl)

theorem expect {ε : Type} {meaning : ε → Interruption} {reply : Except ε α}
    (wrong : ∀ fault, reply = .error fault → failed standing) :
    (OpeningM.expect meaning reply : OpeningM (Journal σ) α).Leads standing
      (fun value after => reply = .ok value ∧ after = standing) failed := by
  cases reply with
  | ok value => exact .pure ⟨rfl, rfl⟩
  | error fault => exact .throw (wrong fault rfl)

theorem get : (MonadState.get : OpeningM (Journal σ) _).Leads standing
    (fun _ after => after = standing) failed :=
  fun _ stands => ⟨standing, stands, rfl⟩

theorem setFormat {frameSize frames : Nat} :
    (OpeningM.setFormat frameSize frames : OpeningM (Journal σ) Unit).Leads standing
      (fun _ after => after = standing) failed :=
  fun _ stands => ⟨standing, stands, rfl⟩

variable [Backend σ]

theorem ask {request : Request} {next : request.Reply → Standing}
    (step : ∀ reply, standing.Step ⟨request, reply⟩ (next reply)) :
    (OpeningM.ask request : OpeningM (Journal σ) request.Reply).Leads standing
      (fun reply after => after = next reply) failed :=
  fun _ stands => ⟨_, stands.perform step, rfl⟩

theorem call {driver : Nat} {cause : Status → SinkError} {c : DriverCall} {stage : Stage}
    {answered : c.Answer → Stage} {refused : c.Fault → Stage} {ok : c.Answer → Standing → Prop}
    (step : ∀ answer, stage.Step ⟨c, .ok answer⟩ (answered answer))
    (refusal : ∀ fault, stage.Step ⟨c, .error fault⟩ (refused fault))
    (right : ∀ answer, ok answer (.holding driver (answered answer)))
    (wrong : ∀ fault, failed (.holding driver (refused fault))) :
    (OpeningM.call driver cause c : OpeningM (Journal σ) c.Answer).Leads
      (.holding driver stage) ok failed := by
  refine .bind (.ask (.callDriver driver step refusal)) ?_
  rintro reply _ rfl
  cases reply with
  | ok answer => exact .pure (right answer)
  | error fault => exact .throw (wrong fault)

/-- What is undone after an interruption leads on from there. -/
theorem undoing {undo : Request} {body : OpeningM (Journal σ) α} (halfway : Standing → Prop)
    (leads : body.Leads standing ok halfway)
    (step : ∀ there, halfway there → ∃ next, failed next ∧ ∀ reply, there.Step ⟨undo, reply⟩ next) :
    (OpeningM.undoing undo body).Leads standing ok failed := by
  intro opening stands
  rw [ends_undoing]
  apply (leads opening stands).imp
  case value => exact fun _ _ ends => ends
  case failure =>
    rintro _ after ⟨there, stands, right⟩
    obtain ⟨next, wrong, back⟩ := step there right
    exact ⟨next, stands.perform back, wrong⟩

end Leads

end OpeningM

namespace Session

open OpeningM

variable [Backend σ] {driver : Nat}

theorem leads_asks {cause : Status → SinkError} {c : DriverCall} (asks : c.asks = true) :
    (OpeningM.call driver cause c : OpeningM (Journal σ) c.Answer).Leads (.holding driver .opened)
      (fun _ after => after = .holding driver .opened) (· = .holding driver .opened) :=
  .call (fun _ => .ask c _ asks) (fun _ => .ask c _ asks) (fun _ => rfl) (fun _ => rfl)

theorem leads_enterMode (options : SinkOptions) (rate : UInt32) :
    (enterMode options rate driver : OpeningM (Journal σ) Unit).Leads (.holding driver .opened)
      (fun _ after => after = .holding driver .opened) (· = .holding driver .opened) := by
  unfold enterMode
  split
  · exact leads_asks rfl
  · exact .pure rfl

theorem leads_negotiate (options : SinkOptions) (format : StreamFormat) :
    (negotiate options format driver : OpeningM (Journal σ) Agreement).Leads
      (.holding driver .opened) (fun _ after => after = .holding driver .opened)
      (· = .holding driver .opened) := by
  unfold negotiate
  refine .bind (leads_enterMode options format.sampleRate) ?_
  rintro _ _ rfl
  refine .bind (leads_asks rfl) ?_
  rintro _ _ rfl
  refine .bind (leads_asks rfl) ?_
  rintro _ _ rfl
  refine .bind (leads_asks rfl) ?_
  rintro counts _ rfl
  refine .bind (.require fun _ => rfl) ?_
  rintro _ _ ⟨_, rfl⟩
  refine .bind (leads_asks rfl) ?_
  rintro sizes _ rfl
  refine .bind (.require fun _ => rfl) ?_
  rintro _ _ ⟨_, rfl⟩
  refine .bind (leads_asks rfl) ?_
  rintro info _ rfl
  split
  · exact .throw rfl
  · exact .pure rfl

theorem leads_provide (options : SinkOptions) (rate : UInt32) (agreement : Agreement) :
    (provide options rate agreement : OpeningM (Journal σ) Unit).Leads
      (.holding driver .furnished) (fun _ after => after = .holding driver .furnished)
      (· = .holding driver .furnished) := by
  unfold provide
  refine .bind (.ask (.allocate driver _ _)) ?_
  rintro room _ rfl
  refine .bind (.require fun _ => rfl) ?_
  rintro _ _ ⟨_, rfl⟩
  refine .bind (.ask (.reserve driver _)) ?_
  rintro reserved _ rfl
  unfold OpeningM.require
  split
  · exact .pure rfl
  · exact .throw rfl

/-- A session begins with its driver started, or leaves it with its buffers. -/
theorem leads_begin (options : SinkOptions) (agreement : Agreement) (infos : List BufferInfo) :
    (begin options driver agreement infos : OpeningM (Journal σ) Session).Leads
      (.holding driver .furnished) (fun session after => after = .ofSession (some session))
      (· = .holding driver .furnished) := by
  unfold begin
  refine .bind (.require fun _ => rfl) ?_
  rintro _ _ ⟨_, rfl⟩
  refine .bind .get ?_
  rintro opening _ rfl
  refine .bind (.require fun _ => rfl) ?_
  rintro _ _ ⟨_, rfl⟩
  refine .bind .setFormat ?_
  rintro _ _ rfl
  refine .bind (.require fun _ => rfl) ?_
  rintro _ _ ⟨_, rfl⟩
  refine .bind (leads_provide options _ agreement) ?_
  rintro _ _ rfl
  refine .bind .get ?_
  rintro opening _ rfl
  refine .bind (.ask fun _ => .install driver _) ?_
  rintro _ _ rfl
  refine .bind (.call (fun _ => .start) .stall (fun _ => rfl) (fun _ => rfl)) ?_
  rintro _ _ rfl
  exact .pure rfl

theorem leads_engage (options : SinkOptions) :
    (engage options driver : OpeningM (Journal σ) Session).Leads (.holding driver .opened)
      (fun session after => after = .ofSession (some session))
      (fun after => ∃ stage : Stage, stage.bare = true ∧ after = .holding driver stage) := by
  unfold engage
  refine .bind .get ?_
  rintro opening _ rfl
  refine .bind ((leads_negotiate options _).weaken fun _ same => ⟨.opened, rfl, same⟩) ?_
  rintro agreement _ rfl
  refine .bind (.require fun _ => ⟨.opened, rfl, rfl⟩) ?_
  rintro _ _ ⟨_, rfl⟩
  refine .bind (.call (.create _ _) (.refuse _ _) (fun _ => rfl) fun _ => ⟨.refused, rfl, rfl⟩) ?_
  rintro infos _ rfl
  refine .undoing (· = .holding driver .furnished) (leads_begin options agreement infos) ?_
  rintro _ rfl
  exact ⟨_, ⟨.disposed, rfl, rfl⟩, fun reply => .call driver (.dispose reply)⟩

/-- An attempt leads to a session that stands as it should, or back to where it began. -/
theorem leads_openOn (options : SinkOptions) (device : String) :
    (openOn options device : OpeningM (Journal σ) Session).Leads .idle
      (fun session after => after = .ofSession (some session)) (· = .idle) := by
  unfold openOn
  refine .bind (.ask .acquireHost) ?_
  rintro reply _ rfl
  refine .bind (.expect fun status failed => by rw [failed, Standing.granted]) ?_
  rintro ⟨⟩ _ ⟨rfl, rfl⟩
  refine .undoing (· = .leased) ?_ ?_
  case refine_2 =>
    rintro _ rfl
    exact ⟨_, rfl, fun _ => .release⟩
  refine .bind (.ask .claimSlot) ?_
  rintro reply _ rfl
  refine .bind (.require fun lost => by rw [lost, Standing.won]) ?_
  rintro _ _ ⟨rfl, rfl⟩
  refine .undoing (· = .claimed) ?_ ?_
  case refine_2 =>
    rintro _ rfl
    exact ⟨_, rfl, fun _ => .vacate⟩
  refine .bind (.ask (.openDriver device)) ?_
  rintro reply _ rfl
  refine .bind (.expect fun status failed => by rw [failed, Standing.given]) ?_
  rintro driver _ ⟨rfl, rfl⟩
  refine .undoing _ (leads_engage options) ?_
  rintro _ ⟨stage, bare, rfl⟩
  exact ⟨_, rfl, fun _ => .drop driver bare⟩

variable {session : Session} {journal : Journal σ}

theorem stands_stop (stands : journal.Stands (.ofSession (some session))) :
    (session.stop journal).1.running = false ∧
      (session.stop journal).2.Stands (.ofSession (some (session.stop journal).1)) := by
  unfold stop
  cases running : session.running with
  | false =>
    rw [Standing.ofSession_stopped running] at stands
    exact ⟨rfl, stands⟩
  | true =>
    rw [Standing.ofSession_running running] at stands
    exact ⟨rfl, stands.perform fun reply => .call session.driver (.stop reply)⟩

theorem stands_start (stands : journal.Stands (.ofSession (some session))) :
    (session.start journal).2.Stands (.ofSession (some (session.start journal).1.2)) := by
  unfold start
  cases running : session.running with
  | true => exact stands
  | false =>
    rw [Standing.ofSession_stopped running] at stands
    have step (reply : Request.Reply (.call session.driver .start)) :=
      Standing.Step.callDriver session.driver (fun _ => .start) .stall reply
    have started := stands.perform step
    simp only [Bool.false_eq_true, if_false, bind, StateT.bind, Backend.ask]
    generalize Backend.perform (.call session.driver .start) journal = answered at started ⊢
    obtain ⟨status | ⟨⟩, after⟩ := answered
    · show after.Stands (.ofSession (some session))
      rw [Standing.ofSession_stopped running]
      exact started
    · exact started

theorem stands_close (stands : journal.Stands (.ofSession (some session))) :
    (session.close journal).2.Stands .idle := by
  obtain ⟨stopped, left⟩ := stands_stop stands
  rw [Standing.ofSession_stopped stopped] at left
  have disposed := left.perform fun reply => .call _ (.dispose reply)
  have dropped := disposed.perform fun _ => .drop _ rfl
  have vacated := dropped.perform fun _ => .vacate
  have released := vacated.perform fun _ => .release
  exact released

end Session

namespace Sink

variable {sink : Sink} {journal : Journal σ}

theorem stands_addPackets (data : List Bytes) (frames offset : Nat)
    (stands : journal.Stands (.ofSession sink.session)) :
    journal.Stands (.ofSession (sink.addPackets data frames offset).2.session) := by
  unfold addPackets
  split
  · next session src found _ =>
    obtain ⟨scratch, ring, queued⟩ := session.addPackets_frame src frames offset
    rw [found] at stands
    dsimp only
    rw [queued]
    exact stands
  · exact stands

variable [Backend σ]

/-- An attempt to connect leads to the session it opened, or changes nothing. -/
theorem stands_connect (format : StreamFormat) (device : String)
    (stands : journal.Stands (.ofSession sink.session)) :
    (sink.connect format device journal).2.Stands
      (.ofSession (sink.connect format device journal).1.sink.session) := by
  cases found : sink.session with
  | some session =>
    rw [found] at stands
    simp only [connect, found]
    exact stands
  | none =>
    rw [found] at stands
    have ends := Session.leads_openOn sink.options.normalized device ⟨journal, format⟩ stands
    unfold OpeningM.Ends at ends
    simp only [connect, found, ExceptT.run]
    generalize Session.openOn sink.options.normalized device ⟨journal, format⟩ = ending at ends ⊢
    obtain ⟨interruption | session, opening⟩ := ending
    · obtain ⟨_, stands, rfl⟩ := ends
      cases interruption <;> exact stands
    · obtain ⟨_, stands, rfl⟩ := ends
      exact stands

theorem stands_disconnect (stands : journal.Stands (.ofSession sink.session)) :
    (sink.disconnect journal).1.session = none ∧ (sink.disconnect journal).2.Stands .idle := by
  unfold disconnect
  cases found : sink.session with
  | none =>
    rw [found] at stands
    exact ⟨found, stands⟩
  | some session =>
    rw [found] at stands
    exact ⟨rfl, Session.stands_close stands⟩

theorem stands_stop (stands : journal.Stands (.ofSession sink.session)) :
    (sink.stop journal).2.Stands (.ofSession (sink.stop journal).1.session) := by
  unfold stop
  cases found : sink.session with
  | none =>
    dsimp only [pure, StateT.pure]
    exact stands
  | some session =>
    rw [found] at stands
    exact (Session.stands_stop stands).2

theorem stands_start (stands : journal.Stands (.ofSession sink.session)) :
    (sink.start journal).2.Stands (.ofSession (sink.start journal).1.2.session) := by
  unfold start
  cases found : sink.session with
  | none =>
    dsimp only [pure, StateT.pure]
    exact stands
  | some session =>
    rw [found] at stands
    have left := Session.stands_start stands
    simp only [bind, StateT.bind]
    generalize session.start journal = answered at left ⊢
    obtain ⟨⟨status | ⟨⟩, session⟩, after⟩ := answered <;> exact left

theorem stands_drain (stands : journal.Stands (.ofSession sink.session)) :
    (sink.drain journal).2.Stands (.ofSession (sink.drain journal).1.session) := by
  unfold drain
  cases found : sink.session with
  | none =>
    dsimp only [pure, StateT.pure]
    exact stands
  | some session =>
    rw [found] at stands
    exact (Session.stands_stop stands).2

/-- What is done with a sink leads to the session it has afterwards, if any. -/
theorem stands_act (action : Action) (stands : journal.Stands (.ofSession sink.session)) :
    (sink.act action journal).2.Stands
      (.ofSession ((sink.act action journal).1.bind Sink.session)) := by
  cases action with
  | connect format device => exact stands_connect format device stands
  | disconnect =>
    obtain ⟨vacant, left⟩ := stands_disconnect stands
    show (sink.disconnect journal).2.Stands (.ofSession (sink.disconnect journal).1.session)
    rw [vacant]
    exact left
  | stop => exact stands_stop stands
  | start => exact stands_start stands
  | drain => exact stands_drain stands
  | addPackets data frames offset => exact stands_addPackets data frames offset stands
  | drop => exact (stands_disconnect stands).2

/-- Every run of actions leads to the session that is left. -/
theorem stands_actAll (actions : List Action) {sink : Option Sink}
    (stands : journal.Stands (.ofSession (sink.bind Sink.session))) :
    (actAll sink actions journal).2.Stands
      (.ofSession ((actAll sink actions journal).1.bind Sink.session)) := by
  induction actions generalizing sink journal with
  | nil => exact stands
  | cons action actions ih =>
    cases sink with
    | none => exact stands
    | some sink => exact ih (stands_act action stands)

/-- Whatever is done with a sink and whatever its surroundings reply, it keeps the protocol:
every driver it opens is called in order, each start is matched by a stop, buffers are
disposed of once if they were created, and each lease is returned after all else. -/
theorem keeps_protocol (options : SinkOptions) (surroundings : σ) (actions : List Action) :
    Protocol (conduct options surroundings actions).2
      ((conduct options surroundings actions).1.any isInitialized) := by
  let journal : Journal σ := ⟨surroundings, []⟩
  have begins : journal.Stands (.ofSession ((some (ofOptions options)).bind Sink.session)) :=
    .nil Standing.idle
  have ends := stands_actAll actions begins
  have kept := Standing.protocol_of_run ends
  rw [Option.isSome_bind] at kept
  exact kept

end Sink

end PlanarSink
