import PlanarSink.Proofs.Alignment

/-! What a sink takes in and what its driver gets. In every plane, what came in is what
left and what is still queued, after each handling and so after any number of them. -/
namespace PlanarSink

/-- All conversions succeeded, and their results after what was queued before are what
left and what is queued after. -/
def Balanced (arrived : List (Except ConvertError Bytes)) (left before after : Bytes) : Prop :=
  ∃ blocks : List Bytes, arrived = blocks.map .ok ∧ left ++ after = before ++ blocks.flatten

namespace Balanced

theorem still (queued : Bytes) : Balanced [] [] queued queued :=
  ⟨[], rfl, by simp⟩

theorem outgoing {left before after : Bytes} (whole : left ++ after = before) :
    Balanced [] left before after :=
  ⟨[], rfl, by simp [whole]⟩

theorem trans {arrived arrived' : List (Except ConvertError Bytes)}
    {left left' before middle after : Bytes} (first : Balanced arrived left before middle)
    (second : Balanced arrived' left' middle after) :
    Balanced (arrived ++ arrived') (left ++ left') before after := by
  obtain ⟨blocks, rfl, whole⟩ := first
  obtain ⟨others, rfl, rest⟩ := second
  refine ⟨blocks ++ others, List.map_append.symm, ?_⟩
  rw [List.append_assoc, rest, ← List.append_assoc, whole, List.flatten_append, List.append_assoc]

end Balanced

namespace Session

/-- What was agreed on when a session was opened. -/
def agreement (s : Session) : Agreement :=
  ⟨s.codec, s.geometry.planes, s.geometry.sampleType, s.geometry.periodFrames⟩

def terms (s : Session) : Agreement × StreamFormat :=
  (s.agreement, s.input)

theorem terms_addPackets (s : Session) (src : Bytes) (frames offset : Nat) :
    (s.addPackets src frames offset).2.terms = s.terms := by
  obtain ⟨scratch, ring, done⟩ := s.addPackets_frame src frames offset
  rw [done]
  rfl

end Session

namespace Coupling

variable {c : Coupling} {level : Nat}

/-- Handling changes no terms. -/
@[simp] theorem terms_handle (c : Coupling) (handling : Handling) :
    (c.handle handling).session.terms = c.session.terms := by
  cases handling with
  | addPackets data frames offset =>
    cases data with
    | nil => rfl
    | cons src others => exact Session.terms_addPackets ..
  | tick =>
    simp only [handle, ticked]
    cases c.driver.tick <;> rfl
  | stop | drain => rfl
  | start =>
    obtain ⟨running, session⟩ := c.session_started
    rw [handle, session]
    rfl

/-- What is left in each plane: as many bytes more as frames are taken samples of, or a period
or everything less. -/
def levelAfter (c : Coupling) (level : Nat) : Handling → Nat
  | .addPackets (src :: _) frames offset =>
    level + (c.session.addPackets src.bytes frames offset).1 * c.session.sampleSize
  | .tick => c.ticked.elim level fun _ =>
    if c.session.dispatcher.periodBytes ≤ level then level - c.session.dispatcher.periodBytes
    else level
  | .drain => 0
  | _ => level

/-- Every plane stays balanced, and a period of silence is counted. -/
theorem Aligned.handle (aligned : c.Aligned level) (handling : Handling) :
    (c.handle handling).Aligned (c.levelAfter level handling) ∧
      (∀ plane < c.session.geometry.planes,
        Balanced (c.arrival plane handling) (c.departure plane handling)
          (c.session.ring.queue plane) ((c.handle handling).session.ring.queue plane)) ∧
      (c.handle handling).session.underruns =
        c.session.underruns + (c.silence handling).length ∧
      (c.handle handling).session.ring.capacity = c.session.ring.capacity := by
  cases handling with
  | addPackets data frames offset =>
    cases data with
    | nil => exact ⟨aligned, fun _ _ => .still _, rfl, rfl⟩
    | cons src others =>
      obtain ⟨scratch, ring, done, capacity, session, stream⟩ :=
        aligned.session.addPackets_stream src.inMemory frames offset
      simp only [Coupling.handle, done]
      exact ⟨⟨session, aligned.buffers, aligned.halves, aligned.period⟩, stream, rfl, capacity⟩
  | tick =>
    cases asked : c.ticked with
    | none =>
      simp only [Coupling.handle, levelAfter, arrival, departure, silence, asked, Option.elim_none]
      exact ⟨aligned, fun _ _ => .still _, rfl, trivial⟩
    | some outcome =>
      obtain ⟨half, next⟩ := outcome
      obtain ⟨driver, _, playing, rfl⟩ := aligned.ticked asked
      simp only [Coupling.handle, levelAfter, arrival, departure, silence, asked, Option.elim_some,
        aligned.session.even.readSize]
      split
      · next held =>
        obtain ⟨after, stream, underruns, capacity⟩ := playing.served_held held half
        exact ⟨after, fun plane there => .outgoing (stream plane there), underruns, capacity⟩
      · next starved =>
        obtain ⟨after, ring, _, underruns⟩ := playing.served_starved (Nat.not_le.mp starved) half
        refine ⟨after, fun plane _ => ?_, underruns, congrArg PlaneRing.capacity ring⟩
        rw [ring]
        exact .still _
  | stop => exact ⟨aligned.halted, fun _ _ => .still _, rfl, rfl⟩
  | start =>
    obtain ⟨running, session⟩ := c.session_started
    have ring : c.started.session.ring = c.session.ring := by rw [session]
    have underruns : c.started.session.underruns = c.session.underruns := by rw [session]
    refine ⟨aligned.started, fun plane _ => ?_, underruns, congrArg PlaneRing.capacity ring⟩
    simp only [Coupling.handle, ring]
    exact .still _
  | drain =>
    refine ⟨aligned.drained, fun plane _ => .outgoing ?_, rfl, rfl⟩
    simp [Coupling.handle, departure]

end Coupling

end PlanarSink
