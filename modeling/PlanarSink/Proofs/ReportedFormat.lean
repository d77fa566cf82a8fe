import PlanarSink.Proofs.FailedConnect

/-! What an attempt to connect tells its caller about the stream, whatever the surroundings
reply. The caller's format is set in the midst of an attempt: it stays as it was where the
attempt fails before the sizes of the ring are known, and is changed where it fails later. -/
namespace PlanarSink

/-- A failure that comes when the sizes of the stream are settled. -/
def SinkError.late : SinkError → Bool
  | .allocation _ => true
  | .negotiation .start _ => true
  | _ => false

/-- Nothing tells when a panic came. -/
def Interruption.Early : Interruption → Prop
  | .failure error => error.late = false
  | .panic => True

theorem DriverCall.early_interruption {cause : Status → SinkError}
    (early : ∀ status, (cause status).late = false) (c : DriverCall) (fault : c.Fault) :
    (c.interruption cause fault).Early := by
  cases c with
  | createBuffers =>
    cases fault with
    | status status => exact early status
    | panic => trivial
  | _ => exact early fault

variable {σ α β : Type} {format : StreamFormat}

namespace OpeningM

/-- The program leaves the caller's format alone. It comes to a value as in `ok`, or is
interrupted early. -/
def Spares (format : StreamFormat) (program : OpeningM σ α) (ok : α → Prop) : Prop :=
  ∀ surroundings, program.Ends ⟨surroundings, format⟩
    (fun value after => ok value ∧ after.format = format)
    (fun interruption after => interruption.Early ∧ after.format = format)

namespace Spares

variable {ok : α → Prop}

theorem pure {value : α} (right : ok value) :
    Spares format (Pure.pure value : OpeningM σ α) ok :=
  fun _ => ⟨right, rfl⟩

theorem throw {interruption : Interruption} (early : interruption.Early) :
    Spares format (MonadExcept.throw interruption : OpeningM σ α) ok :=
  fun _ => ⟨early, rfl⟩

theorem bind {program : OpeningM σ β} {next : β → OpeningM σ α} {middle : β → Prop}
    (first : Spares format program middle)
    (rest : ∀ value, middle value → Spares format (next value) ok) :
    Spares format (program >>= next) ok := by
  intro surroundings
  rw [ends_bind]
  apply (first surroundings).imp
  case value =>
    rintro value ⟨surroundings, _⟩ ⟨right, rfl⟩
    exact rest value right surroundings
  case failure => exact fun _ _ ends => ends

theorem require {condition : Bool} {interruption : Interruption} (early : interruption.Early) :
    Spares format (OpeningM.require condition interruption : OpeningM σ Unit)
      fun _ => condition = true := by
  cases condition with
  | true => exact .pure rfl
  | false => exact .throw early

theorem expect {ε : Type} {meaning : ε → Interruption} (early : ∀ fault, (meaning fault).Early)
    (reply : Except ε α) :
    Spares format (OpeningM.expect meaning reply : OpeningM σ α) fun _ => True := by
  cases reply with
  | ok value => exact .pure trivial
  | error fault => exact .throw (early fault)

variable [Backend σ]

theorem ask (request : Request) :
    Spares format (OpeningM.ask request : OpeningM σ request.Reply) fun _ => True :=
  fun _ => ⟨trivial, rfl⟩

theorem call {cause : Status → SinkError} (early : ∀ status, (cause status).late = false)
    (driver : Nat) (c : DriverCall) :
    Spares format (OpeningM.call driver cause c : OpeningM σ c.Answer) fun _ => True :=
  .bind (.ask _) fun reply _ => .expect (c.early_interruption early) reply

end Spares

end OpeningM

namespace Session

open OpeningM

/-- What a session rests on that was just opened: a codec for its samples, and sizes agreed on
for which there can be a ring. -/
def Founded (options : SinkOptions) (format : StreamFormat) (session : Session) : Prop :=
  ∃ driver agreement,
    Codec.resolve format.dataFormat agreement.sampleType = .ok agreement.codec ∧
    agreement.planes ≠ 0 ∧ agreement.InMemory options format ∧
    session = fresh options format driver agreement

def Left (options : SinkOptions) (format : StreamFormat) : Interruption → StreamFormat → Prop
  | .failure error, left => left = if error.late then settled options format else format
  | .panic, left => left = format ∨ left = settled options format

theorem left_of_early {options : SinkOptions} {interruption : Interruption}
    (early : interruption.Early) : Left options format interruption format := by
  cases interruption with
  | failure error => exact (if_neg (Bool.eq_false_iff.mp early)).symm
  | panic => exact .inl rfl

/-- The program opens a session and settles the caller's format, or it leaves the format as it
should be after the interruption. -/
def Settles (options : SinkOptions) (format : StreamFormat) (program : OpeningM σ Session) : Prop :=
  ∀ surroundings, program.Ends ⟨surroundings, format⟩
    (fun session after => Founded options format session ∧ after.format = settled options format)
    (fun interruption after => Left options format interruption after.format)

namespace Settles

variable {options : SinkOptions}

theorem bind {program : OpeningM σ β} {next : β → OpeningM σ Session} {middle : β → Prop}
    (first : Spares format program middle)
    (rest : ∀ value, middle value → Settles options format (next value)) :
    Settles options format (program >>= next) := by
  intro surroundings
  rw [ends_bind]
  apply (first surroundings).imp
  case value =>
    rintro value ⟨surroundings, _⟩ ⟨right, rfl⟩
    exact rest value right surroundings
  case failure =>
    rintro interruption after ⟨early, same⟩
    rw [same]
    exact left_of_early early

theorem get {next : Opening σ → OpeningM σ Session}
    (rest : ∀ surroundings, Settles options format (next ⟨surroundings, format⟩)) :
    Settles options format (MonadState.get >>= next) :=
  fun surroundings => rest surroundings surroundings

/-- Whatever is given back after a failure, the format stays as it is then. -/
theorem undoing [Backend σ] {undo : Request} {body : OpeningM σ Session}
    (settles : Settles options format body) :
    Settles options format (OpeningM.undoing undo body) := by
  intro surroundings
  rw [ends_undoing]
  exact settles surroundings

end Settles

variable [Backend σ] (options : SinkOptions)

theorem spares_enterMode (rate : UInt32) (driver : Nat) :
    Spares format (enterMode options rate driver : OpeningM σ Unit) fun _ => True := by
  unfold enterMode
  split
  · exact .call (fun _ => rfl) driver _
  · exact .pure trivial

theorem spares_negotiate (driver : Nat) :
    Spares format (negotiate options format driver : OpeningM σ Agreement) fun agreement =>
      Codec.resolve format.dataFormat agreement.sampleType = .ok agreement.codec ∧
        agreement.planes ≠ 0 := by
  unfold negotiate
  refine .bind (spares_enterMode options format.sampleRate driver) fun _ _ => ?_
  refine .bind (.call (fun _ => rfl) driver _) fun _ _ => ?_
  refine .bind (.call (fun _ => rfl) driver _) fun _ _ => ?_
  refine .bind (.call (fun _ => rfl) driver _) fun counts _ => ?_
  refine .bind (.require rfl) fun _ somePlanes => ?_
  refine .bind (.call (fun _ => rfl) driver _) fun sizes _ => ?_
  refine .bind (.require rfl) fun _ _ => ?_
  refine .bind (.call (fun _ => rfl) driver _) fun info _ => ?_
  split
  · exact .throw rfl
  · next codec resolved => exact .pure ⟨resolved, bne_iff_ne.mp somePlanes⟩

/-- The format is settled in the midst of a beginning: the memory and the start of the driver,
which come after, can be refused. -/
theorem settles_begin (driver : Nat) {agreement : Agreement} (infos : List BufferInfo)
    (resolved : Codec.resolve format.dataFormat agreement.sampleType = .ok agreement.codec)
    (somePlanes : agreement.planes ≠ 0) :
    Settles options format (begin options driver agreement infos : OpeningM σ Session) := by
  unfold begin provide
  refine .bind (.require rfl) fun _ _ => .get fun _ => .bind (.require trivial) ?_
  intro _ frame surroundings
  rw [ends_bind, ends_setFormat, ends_bind, ends_require]
  refine ⟨fun _ => ?_, fun _ => .inr rfl⟩
  rw [ends_bind, ends_bind, ends_ask, ends_bind, ends_require]
  refine ⟨fun ring => ?_, fun _ => rfl⟩
  rw [ends_bind, ends_ask, ends_require]
  refine ⟨fun block => ?_, fun _ => rfl⟩
  rw [ends_bind, ends_get, ends_bind, ends_ask, ends_bind, OpeningM.call, ends_bind, ends_ask,
    ends_expect]
  have inMemory : agreement.InMemory options format :=
    ⟨of_decide_eq_true frame, of_decide_eq_true (Bool.and_eq_true_iff.mp ring).1,
      of_decide_eq_true (Bool.and_eq_true_iff.mp block).1⟩
  split
  · exact ⟨⟨driver, agreement, resolved, somePlanes, inMemory, rfl⟩, rfl⟩
  · rfl

theorem settles_engage (driver : Nat) :
    Settles options format (engage options driver : OpeningM σ Session) := by
  unfold engage
  refine .get fun _ => .bind (spares_negotiate options driver) fun agreement agreed => ?_
  refine .bind (.require trivial) fun _ _ => ?_
  refine .bind (.call (fun _ => rfl) driver _) fun infos _ => ?_
  exact .undoing (settles_begin options driver infos agreed.1 agreed.2)

theorem settles_openOn (device : String) :
    Settles options format (openOn options device : OpeningM σ Session) := by
  have refused (status : Status) : Interruption.Early (.failure (.driverOpen device status)) := rfl
  unfold openOn
  refine .bind (.ask .acquireHost) fun reply _ => .bind (.expect refused reply) fun _ _ => ?_
  refine .undoing (.bind (.ask .claimSlot) fun won _ => .bind (.require rfl) fun _ _ => ?_)
  refine .undoing (.bind (.ask (.openDriver device)) fun reply _ => ?_)
  refine .bind (.expect refused reply) fun driver _ => ?_
  exact .undoing (settles_engage options driver)

end Session

namespace Sink

variable [Backend σ]

/-- A sink that was connected has a session, and its caller the settled format; after an
interruption the format is one that may be left then. -/
theorem connect_ends (sink : Sink) (format : StreamFormat) (device : String) (surroundings : σ) :
    let result := (sink.connect format device surroundings).1
    (∃ session, result.outcome = .ok () ∧ Session.Founded sink.options.normalized format session ∧
        result.sink = { sink with state := .running, session := some session } ∧
        result.format = Session.settled sink.options.normalized format) ∨
      ∃ interruption, result.outcome = .error interruption ∧
        Session.Left sink.options.normalized format interruption result.format := by
  cases found : sink.session with
  | some session =>
    simp only [connect, found]
    exact .inr ⟨_, rfl, rfl⟩
  | none =>
    have settles : Session.Settles sink.options.normalized format
        (Session.openOn sink.options.normalized device : OpeningM σ Session) :=
      Session.settles_openOn sink.options.normalized device
    have ends := settles surroundings
    unfold OpeningM.Ends at ends
    simp only [connect, found, ExceptT.run]
    generalize Session.openOn sink.options.normalized device ⟨surroundings, format⟩ = ending
      at ends ⊢
    obtain ⟨interruption | session, opening⟩ := ending
    · exact .inr ⟨interruption, rfl, ends⟩
    · exact .inl ⟨session, rfl, ends.1, rfl, ends.2⟩

/-- Whatever the surroundings reply, an attempt to connect changes nothing of the caller's
format but the size of a frame and the frames of a chunk. It changes them where it succeeds, and
where there is no memory for the ring or for the working buffer or the driver is not started;
after every other failure the format is as it was. A panic leaves it in one of the two ways. -/
theorem format_after_connect (sink : Sink) (format : StreamFormat) (device : String)
    (surroundings : σ) :
    let result := (sink.connect format device surroundings).1
    let settled := { format with
      frameSize := format.channels * format.dataFormat.bits / 8
      frames := Agreement.chunkFrames sink.options.normalized format.sampleRate }
    match result.outcome with
    | .ok () => result.format = settled
    | .error (.failure error) => result.format = if error.late then settled else format
    | .error .panic => result.format = format ∨ result.format = settled := by
  intro result settled
  rcases sink.connect_ends format device surroundings with
    ⟨session, done, _, _, left⟩ | ⟨failure | _, done, left⟩
  · rw [done]
    exact left
  · rw [done]
    exact left
  · rw [done]
    exact left

end Sink

namespace Studio

/-- An attempt that fails when the driver is started has told the caller of frames, and so has
one for which there is no memory. -/
theorem stalled_format_changed :
    (stalling.connect 0 (.ofInput 48000 2 .float) "sim").1 =
        (.error (.failure (.negotiation .start .hardwareMalfunction)), ⟨48000, 2, .float, 8, 640⟩) ∧
      ((stalling.setSupply ⟨0, 0, true⟩).connect 0 (.ofInput 48000 2 .float) "sim").1 =
        (.error (.failure (.allocation 15360)), ⟨48000, 2, .float, 8, 640⟩) ∧
      StreamFormat.ofInput 48000 2 .float = ⟨48000, 2, .float, 8, 0⟩ :=
  ⟨rfl, rfl, rfl⟩

end Studio

end PlanarSink
