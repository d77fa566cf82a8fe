import PlanarSink.Sink.Connection

/-! How the opening of a session ends. A statement about a program is taken apart
along its steps, each of which has one rule for both of its endings. -/
namespace PlanarSink.OpeningM

variable {σ α β : Type}

/-- The program ends with a value and surroundings as in `ok`, or is interrupted with surroundings
as in `failed`. -/
def Ends (program : OpeningM σ α) (opening : Opening σ) (ok : α → Opening σ → Prop)
    (failed : Interruption → Opening σ → Prop) : Prop :=
  match program opening with
  | (.ok value, after) => ok value after
  | (.error failure, after) => failed failure after

variable {opening : Opening σ} {ok ok' : α → Opening σ → Prop}
  {failed failed' : Interruption → Opening σ → Prop}

theorem Ends.imp {program : OpeningM σ α} (ends : program.Ends opening ok failed)
    (value : ∀ a after, ok a after → ok' a after)
    (failure : ∀ e after, failed e after → failed' e after) :
    program.Ends opening ok' failed' := by
  unfold Ends at ends ⊢
  split
  · next found => exact value _ _ (by simpa [found] using ends)
  · next found => exact failure _ _ (by simpa [found] using ends)

@[simp] theorem ends_pure (value : α) :
    Ends (pure value) opening ok failed ↔ ok value opening :=
  Iff.rfl

@[simp] theorem ends_throw (interruption : Interruption) :
    Ends (throw interruption : OpeningM σ α) opening ok failed ↔ failed interruption opening :=
  Iff.rfl

@[simp] theorem ends_bind (program : OpeningM σ β) (next : β → OpeningM σ α) :
    Ends (program >>= next) opening ok failed ↔
      Ends program opening (fun b after => Ends (next b) after ok failed) failed := by
  unfold Ends
  simp only [bind, ExceptT.bind, ExceptT.mk, StateT.bind, ExceptT.bindCont]
  rcases program opening with ⟨b | failure, after⟩ <;> rfl

@[simp] theorem ends_get {ok : Opening σ → Opening σ → Prop} :
    Ends (get : OpeningM σ (Opening σ)) opening ok failed ↔ ok opening opening :=
  Iff.rfl

@[simp] theorem ends_setFormat [Backend σ] (frameSize frames : Nat)
    {ok : Unit → Opening σ → Prop} :
    Ends (setFormat frameSize frames) opening ok failed ↔
      ok () { opening with format := { opening.format with frameSize, frames } } :=
  Iff.rfl

@[simp] theorem ends_expect {ε : Type} (meaning : ε → Interruption)
    (reply : Except ε α) :
    Ends (expect meaning reply) opening ok failed ↔
      match reply with
      | .ok value => ok value opening
      | .error fault => failed (meaning fault) opening := by
  cases reply <;> rfl

@[simp] theorem ends_require (condition : Bool) (interruption : Interruption)
    {ok : Unit → Opening σ → Prop} :
    Ends (require condition interruption) opening ok failed ↔
      (condition = true → ok () opening) ∧ (condition = false → failed interruption opening) := by
  cases condition with
  | true => exact ⟨fun ends => ⟨fun _ => ends, nofun⟩, fun ends => ends.1 rfl⟩
  | false => exact ⟨fun ends => ⟨nofun, fun _ => ends⟩, fun ends => ends.2 rfl⟩

variable [Backend σ]

@[simp] theorem ends_ask (request : Request) {ok : request.Reply → Opening σ → Prop} :
    Ends (ask request) opening ok failed ↔
      ok (Backend.perform request opening.backend).1
        { opening with backend := (Backend.perform request opening.backend).2 } :=
  Iff.rfl

/-- What is undone is undone after an interruption only, and after all else. -/
@[simp] theorem ends_undoing (undo : Request) (body : OpeningM σ α) :
    Ends (undoing undo body) opening ok failed ↔
      Ends body opening ok fun failure after => failed failure
        { after with backend := (Backend.perform undo after.backend).2 } := by
  unfold Ends undoing
  rcases body opening with ⟨value | failure, after⟩ <;> rfl

end PlanarSink.OpeningM
