import PlanarSink.Studio.Worksheet

/-! Programs that keep a worksheet, beside the programs that do without. Both end alike, and what
the first noted by then is told along its steps. -/
namespace PlanarSink

open Size (Calculation)

def Opening.onSheet (opening : Opening Seat) (calculations : List Calculation) :
    Opening Worksheet :=
  ⟨⟨opening.backend, calculations⟩, opening.format⟩

namespace OpeningM

variable {α β : Type}

/-- The program ends like the plain one, and it has then added calculations to its worksheet
which are as in `noted` for that ending. -/
def Retraces (opening : Opening Seat) (program : OpeningM Worksheet α) (plain : OpeningM Seat α)
    (noted : Except Interruption α → List Calculation → Prop) : Prop :=
  ∀ earlier, ∃ later, noted (plain opening).1 later ∧
    program (opening.onSheet earlier) =
      ((plain opening).1, (plain opening).2.onSheet (earlier ++ later))

def nothing (_ : Except Interruption α) (later : List Calculation) : Prop :=
  later = []

namespace Retraces

variable {opening : Opening Seat} {noted : Except Interruption α → List Calculation → Prop}

theorem pure {value : α} (right : noted (.ok value) []) :
    Retraces opening (Pure.pure value) (Pure.pure value) noted :=
  fun earlier => ⟨[], right, by rw [List.append_nil]; rfl⟩

theorem throw {interruption : Interruption} (right : noted (.error interruption) []) :
    Retraces opening (MonadExcept.throw interruption) (MonadExcept.throw interruption) noted :=
  fun earlier => ⟨[], right, by rw [List.append_nil]; rfl⟩

theorem imp {program : OpeningM Worksheet α} {plain : OpeningM Seat α}
    {noted' : Except Interruption α → List Calculation → Prop}
    (retraces : Retraces opening program plain noted)
    (implies : ∀ ending later, noted ending later → noted' ending later) :
    Retraces opening program plain noted' := by
  intro earlier
  obtain ⟨later, right, same⟩ := retraces earlier
  exact ⟨later, implies _ later right, same⟩

theorem bind {noted' : Except Interruption β → List Calculation → Prop}
    {program : OpeningM Worksheet β} {plain : OpeningM Seat β}
    {next : β → OpeningM Worksheet α} {plainNext : β → OpeningM Seat α}
    (first : Retraces opening program plain noted')
    (failed : ∀ interruption later, noted' (.error interruption) later →
      noted (.error interruption) later)
    (rest : ∀ value after earlier, plain opening = (.ok value, after) →
      noted' (.ok value) earlier → Retraces after (next value) (plainNext value)
        fun ending later => noted ending (earlier ++ later)) :
    Retraces opening (program >>= next) (plain >>= plainNext) noted := by
  intro earlier
  obtain ⟨later, right, same⟩ := first earlier
  simp only [Bind.bind, ExceptT.bind, ExceptT.mk, StateT.bind, ExceptT.bindCont, same]
  rcases found : plain opening with ⟨interruption | value, after⟩
  · rw [found] at right
    exact ⟨later, failed interruption later right, rfl⟩
  · rw [found] at right
    obtain ⟨more, further, same⟩ := rest value after later found right (earlier ++ later)
    rw [List.append_assoc] at same
    exact ⟨later ++ more, further, same⟩

theorem reckon_bind {reckoned : Reckoned β} {value : β} {next : β → OpeningM Worksheet α}
    {plain : OpeningM Seat α} (found : reckoned.value? = some value)
    (rest : Retraces opening (next value) plain fun ending later =>
      noted ending (reckoned.calculations ++ later)) :
    Retraces opening (Worksheet.reckon reckoned >>= next) plain noted := by
  intro earlier
  obtain ⟨later, right, same⟩ := rest (earlier ++ reckoned.calculations)
  rw [List.append_assoc] at same
  refine ⟨reckoned.calculations ++ later, right, ?_⟩
  simp only [Bind.bind, ExceptT.bind, ExceptT.mk, StateT.bind, Worksheet.reckon, found]
  exact same

theorem reckon_panic {reckoned : Reckoned β} {condition : Bool}
    {next : β → OpeningM Worksheet α} {plainNext : Unit → OpeningM Seat α}
    (nothing : reckoned.value? = none) (fails : condition = false)
    (right : noted (.error .panic) reckoned.calculations) :
    Retraces opening (Worksheet.reckon reckoned >>= next)
      (OpeningM.require condition .panic >>= plainNext) noted := by
  subst fails
  intro earlier
  refine ⟨reckoned.calculations, right, ?_⟩
  simp only [Bind.bind, ExceptT.bind, ExceptT.mk, StateT.bind, Worksheet.reckon, nothing]
  rfl

theorem refused {condition : Bool} {interruption : Interruption}
    {plainNext : Unit → OpeningM Seat α} (fails : condition = false)
    (right : noted (.error interruption) []) :
    Retraces opening (MonadExcept.throw interruption)
      (OpeningM.require condition interruption >>= plainNext) noted := by
  subst fails
  exact .throw right

/-- What holds is required in vain. -/
theorem required {condition : Bool} {interruption : Interruption} {program : OpeningM Worksheet α}
    {plainNext : Unit → OpeningM Seat α} (holds : condition = true)
    (rest : Retraces opening program (plainNext ()) noted) :
    Retraces opening program (OpeningM.require condition interruption >>= plainNext) noted := by
  subst holds
  exact rest

/-- A worksheet is left out of sight by those who look at the format only. -/
theorem get_bind {next : Opening Worksheet → OpeningM Worksheet α}
    {plainNext : Opening Seat → OpeningM Seat α}
    (rest : ∀ earlier,
      Retraces opening (next (opening.onSheet earlier)) (plainNext opening) noted) :
    Retraces opening (MonadState.get >>= next) (MonadState.get >>= plainNext) noted :=
  fun earlier => rest earlier earlier

theorem setFormat_bind {frameSize frames : Nat} {next : Unit → OpeningM Worksheet α}
    {plainNext : Unit → OpeningM Seat α}
    (rest : Retraces { opening with format := { opening.format with frameSize, frames } }
      (next ()) (plainNext ()) noted) :
    Retraces opening (OpeningM.setFormat frameSize frames >>= next)
      (OpeningM.setFormat frameSize frames >>= plainNext) noted :=
  rest

theorem require {condition : Bool} {interruption : Interruption}
    {noted : Except Interruption Unit → List Calculation → Prop}
    (silent : ∀ ending, noted ending []) :
    Retraces opening (OpeningM.require condition interruption)
      (OpeningM.require condition interruption) noted := by
  cases condition with
  | true => exact .pure (silent _)
  | false => exact .throw (silent _)

theorem require_bind {condition : Bool} {interruption : Interruption}
    {next : Unit → OpeningM Worksheet α} {plainNext : Unit → OpeningM Seat α}
    (failed : noted (.error interruption) [])
    (rest : condition = true → Retraces opening (next ()) (plainNext ()) noted) :
    Retraces opening (OpeningM.require condition interruption >>= next)
      (OpeningM.require condition interruption >>= plainNext) noted := by
  cases condition with
  | true => exact rest rfl
  | false => exact .throw failed

theorem expect_bind {ε : Type} {meaning : ε → Interruption} {reply : Except ε β}
    {next : β → OpeningM Worksheet α} {plainNext : β → OpeningM Seat α}
    (failed : ∀ fault, reply = .error fault → noted (.error (meaning fault)) [])
    (rest : ∀ value, reply = .ok value → Retraces opening (next value) (plainNext value) noted) :
    Retraces opening (OpeningM.expect meaning reply >>= next)
      (OpeningM.expect meaning reply >>= plainNext) noted := by
  cases reply with
  | ok value => exact rest value rfl
  | error fault => exact .throw (failed fault rfl)

theorem ask_bind {request : Request} {next : request.Reply → OpeningM Worksheet α}
    {plainNext : request.Reply → OpeningM Seat α}
    (rest : Retraces { opening with backend := (Backend.perform request opening.backend).2 }
      (next (Backend.perform request opening.backend).1)
      (plainNext (Backend.perform request opening.backend).1) fun ending later =>
        noted ending (opening.backend.calculations request ++ later)) :
    Retraces opening (OpeningM.ask request >>= next) (OpeningM.ask request >>= plainNext)
      noted := by
  intro earlier
  obtain ⟨later, right, same⟩ := rest (earlier ++ opening.backend.calculations request)
  rw [List.append_assoc] at same
  exact ⟨_, right, same⟩

theorem call_bind {driver : Nat} {cause : Status → SinkError} {c : DriverCall}
    {next : c.Answer → OpeningM Worksheet α} {plainNext : c.Answer → OpeningM Seat α}
    (failed : ∀ fault, (Backend.perform (.call driver c) opening.backend).1 = .error fault →
      noted (.error (c.interruption cause fault)) (opening.backend.calculations (.call driver c)))
    (rest : ∀ answer, (Backend.perform (.call driver c) opening.backend).1 = .ok answer →
      Retraces { opening with backend := (Backend.perform (.call driver c) opening.backend).2 }
        (next answer) (plainNext answer) fun ending later =>
          noted ending (opening.backend.calculations (.call driver c) ++ later)) :
    Retraces opening (OpeningM.call driver cause c >>= next)
      (OpeningM.call driver cause c >>= plainNext) noted := by
  unfold OpeningM.call
  rw [bind_assoc, bind_assoc]
  refine .ask_bind (.expect_bind (fun fault refused => ?_) rest)
  rw [List.append_nil]
  exact failed fault refused

theorem call {driver : Nat} {cause : Status → SinkError} {c : DriverCall}
    (silent : opening.backend.calculations (.call driver c) = []) :
    Retraces opening (OpeningM.call driver cause c) (OpeningM.call driver cause c) nothing := by
  rw [← bind_pure (OpeningM.call driver cause c : OpeningM Worksheet c.Answer),
    ← bind_pure (OpeningM.call driver cause c : OpeningM Seat c.Answer)]
  refine .call_bind (fun _ _ => silent) fun answer _ => ?_
  rw [silent]
  exact .pure rfl

theorem undoing {undo : Request} (silent : ∀ seat : Seat, seat.calculations undo = [])
    {program : OpeningM Worksheet α} {plain : OpeningM Seat α}
    (retraces : Retraces opening program plain noted) :
    Retraces opening (OpeningM.undoing undo program) (OpeningM.undoing undo plain) noted := by
  intro earlier
  obtain ⟨later, right, same⟩ := retraces earlier
  unfold OpeningM.undoing
  rw [same]
  generalize plain opening = ending at right ⊢
  obtain ⟨interruption | value, after⟩ := ending
  · refine ⟨later, right, ?_⟩
    simp only [Opening.onSheet, Backend.perform, silent, List.append_nil]
  · exact ⟨later, right, rfl⟩

end Retraces

end OpeningM

end PlanarSink
