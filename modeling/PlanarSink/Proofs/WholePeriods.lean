import Mathlib.Logic.Relation
import PlanarSink.Proofs.TrafficInvariant

/-! No period is torn while one side writes and the other reads: nothing is ever
refused, and what the reader gets is the writer's stream, one period after the
other, in all planes alike. -/
namespace PlanarSink.Traffic

/-- Pieces of one size follow each other at the multiples of that size. -/
theorem slice_flatten {size : Nat} {pieces : List Bytes}
    (whole : ∀ piece ∈ pieces, piece.length = size) {index : Nat} {piece : Bytes}
    (found : pieces[index]? = some piece) (rest : Bytes) :
    (index + 1) * size ≤ pieces.flatten.length ∧
      ((pieces.flatten ++ rest).drop (index * size)).take size = piece := by
  induction pieces generalizing index with
  | nil => contradiction
  | cons first others ih =>
    have length : first.length = size := whole first (by simp)
    cases index with
    | zero =>
      obtain rfl : first = piece := by simpa using found
      simp [← length]
    | succ index =>
      obtain ⟨within, same⟩ := ih (fun piece member => whole piece (by simp [member])) found
      constructor
      · rw [List.flatten_cons, List.length_append, length, Nat.succ_mul]
        omega
      · rw [List.flatten_cons, List.append_assoc, Nat.succ_mul, Nat.add_comm, ← List.drop_drop,
          ← length, List.drop_left, length]
        exact same

theorem Step.ofWriter {period : Nat} {s : State} {batch : Batch} {plane : Nat} {phase : Phase}
    (busy : s.writer = .busy batch plane phase) :
    ∃ t, Step period s t ∧
      match phase with
      | .first =>
        if (batch.block plane).length ≤ s.ring.writeSize then
          t.writer = .busy batch plane .second ∧ t.ring = s.ring ∧ t.refused = s.refused
        else t.ring = s.ring ∧ t.refused = true
      | .second =>
        if (s.queue plane).length + (batch.block plane).length ≤ s.ring.capacity then
          t.writer = .busy batch plane .third ∧ t.ring = s.ring ∧ t.refused = s.refused
        else t.ring = s.ring ∧ t.refused = true
      | .third =>
        (s.queue plane).length + (batch.block plane).length ≤ s.ring.capacity →
          t.ring = (s.setQueue plane (s.queue plane ++ batch.block plane)).ring ∧
            t.refused = s.refused := by
  cases phase with
  | first =>
    refine ⟨_, .lookAtRoom batch plane busy, ?_⟩
    dsimp only
    split
    · next room => simp [State.continueWrite, room]
    · next room => simp [State.continueWrite, State.nextWrite, room]
  | second =>
    refine ⟨_, .lookAtPlaneRoom batch plane busy, ?_⟩
    dsimp only
    split
    · next fits => simp [State.continueWrite, fits]
    · next fits => simp [State.continueWrite, State.nextWrite, fits]
  | third =>
    refine ⟨_, .append batch plane busy, ?_⟩
    intro fits
    simp [State.append_of_fits fits]

theorem Step.ofReader {period : Nat} {s : State} {plane : Nat} {phase : Phase}
    (busy : s.reader = .busy plane phase) :
    ∃ t, Step period s t ∧
      match phase with
      | .first =>
        if period ≤ s.ring.readSize then
          t.reader = .busy plane .second ∧ t.ring = s.ring ∧ t.obtained = s.obtained ∧
            t.refused = s.refused
        else t.ring = s.ring ∧ t.obtained = s.obtained ∧ t.refused = true
      | .second =>
        if period ≤ (s.queue plane).length then
          t.reader = .busy plane .third ∧ t.ring = s.ring ∧ t.obtained = s.obtained ∧
            t.refused = s.refused
        else t.ring = s.ring ∧ t.obtained = s.obtained ∧ t.refused = true
      | .third =>
        period ≤ (s.queue plane).length →
          t.ring = (s.setQueue plane ((s.queue plane).drop period)).ring ∧
            t.obtained plane = s.obtained plane ++ [(s.queue plane).take period] ∧
            t.refused = s.refused := by
  cases phase with
  | first =>
    refine ⟨_, .lookAtData plane busy, ?_⟩
    dsimp only
    split
    · next held => simp [State.continueRead, held]
    · next held => simp [State.continueRead, State.nextRead, held]
  | second =>
    refine ⟨_, .lookAtPlaneData plane busy, ?_⟩
    dsimp only
    split
    · next there => simp [State.continueRead, there]
    · next there => simp [State.continueRead, State.nextRead, there]
  | third =>
    refine ⟨_, .remove plane busy, ?_⟩
    intro there
    simp [State.remove_of_there there]

/-- The steps of a write, with nothing in between, are the ring's own write. -/
theorem write_alone {period : Nat} {s : State} {batch : Batch} {plane : Nat}
    (busy : s.writer = .busy batch plane .first) (present : plane < s.ring.planes.length) :
    ∃ t, Relation.ReflTransGen (Step period) s t ∧
      t.ring = (s.ring.write (batch.block plane) plane).2 ∧
      t.refused = (s.refused || !(s.ring.write (batch.block plane) plane).1) := by
  have found : s.ring.planes[plane]? = some (s.queue plane) := by
    simp [State.queue, present]
  obtain ⟨t, look, seen⟩ := @Step.ofWriter period _ _ _ _ busy
  by_cases room : (batch.block plane).length ≤ s.ring.writeSize
  · obtain ⟨again, ring, refused⟩ := (if_pos room).mp seen
    have queue : t.queue plane = s.queue plane := by rw [State.queue, ring]; rfl
    obtain ⟨u, second, seen⟩ := @Step.ofWriter period _ _ _ _ again
    simp only [queue, ring, refused] at seen
    by_cases fits : (s.queue plane).length + (batch.block plane).length ≤ s.ring.capacity
    · obtain ⟨change, same, kept⟩ := (if_pos fits).mp seen
      have queue : u.queue plane = s.queue plane := by rw [State.queue, same]; rfl
      obtain ⟨v, third, done⟩ := @Step.ofWriter period _ _ _ _ change
      simp only [State.setQueue, queue, same, kept] at done
      obtain ⟨appended, unrefused⟩ := done fits
      refine ⟨v, ((Relation.ReflTransGen.single look).tail second).tail third, ?_⟩
      simp [appended, unrefused, PlaneRing.write, PlaneRing.write?, found, fits,
        Nat.not_lt.mpr room]
    · obtain ⟨same, missed⟩ := (if_neg fits).mp seen
      refine ⟨u, (Relation.ReflTransGen.single look).tail second, ?_⟩
      simp [same, missed, PlaneRing.write, PlaneRing.write?, found, fits]
  · obtain ⟨ring, refused⟩ := (if_neg room).mp seen
    refine ⟨t, .single look, ?_⟩
    simp [ring, refused, PlaneRing.write, PlaneRing.write?, Nat.lt_of_not_le room]

/-- The steps of a read, with nothing in between, are the ring's own read. -/
theorem read_alone {period : Nat} {s : State} {plane : Nat}
    (busy : s.reader = .busy plane .first) (present : plane < s.ring.planes.length) :
    ∃ t, Relation.ReflTransGen (Step period) s t ∧
      match s.ring.read? period plane with
      | some (taken, rest) =>
        t.ring = rest ∧ t.obtained plane = s.obtained plane ++ [taken] ∧ t.refused = s.refused
      | none => t.ring = s.ring ∧ t.obtained = s.obtained ∧ t.refused = true := by
  have found : s.ring.planes[plane]? = some (s.queue plane) := by
    simp [State.queue, present]
  obtain ⟨t, look, seen⟩ := @Step.ofReader period _ _ _ busy
  by_cases held : period ≤ s.ring.readSize
  · obtain ⟨again, ring, obtained, refused⟩ := (if_pos held).mp seen
    have queue : t.queue plane = s.queue plane := by rw [State.queue, ring]; rfl
    obtain ⟨u, second, seen⟩ := @Step.ofReader period _ _ _ again
    simp only [queue, ring, obtained, refused] at seen
    by_cases there : period ≤ (s.queue plane).length
    · obtain ⟨change, same, before, kept⟩ := (if_pos there).mp seen
      have queue : u.queue plane = s.queue plane := by rw [State.queue, same]; rfl
      obtain ⟨v, third, done⟩ := @Step.ofReader period _ _ _ change
      simp only [State.setQueue, queue, same, before, kept] at done
      obtain ⟨removed, more, unrefused⟩ := done there
      refine ⟨v, ((Relation.ReflTransGen.single look).tail second).tail third, ?_⟩
      simp [removed, more, unrefused, PlaneRing.read?, found, there, Nat.not_lt.mpr held]
    · obtain ⟨same, before, missed⟩ := (if_neg there).mp seen
      refine ⟨u, (Relation.ReflTransGen.single look).tail second, ?_⟩
      simp [same, before, missed, PlaneRing.read?, found, there]
  · obtain ⟨ring, obtained, refused⟩ := (if_neg held).mp seen
    refine ⟨t, .single look, ?_⟩
    simp [ring, obtained, refused, PlaneRing.read?, Nat.lt_of_not_le held]

/-- However the steps of the two sides follow each other, no write and no read is
refused and no plane overflows; each plane is appended what the writer's batches
hold for it, what was read from it and what waits in it make up what was appended,
and the periods read from it are, one after the other, the periods of that stream.
Between two turns of the reader all planes have given as many. -/
theorem periods_never_torn {capacity planes period : Nat} {s : State}
    (reached : Reachable capacity planes period s) :
    s.refused = false ∧
      (∀ queue ∈ s.ring.planes, queue.length ≤ max capacity 1) ∧
      (∀ plane < planes, s.written plane <+: stream s.batches plane ∧
        (s.writer = .resting → s.written plane = stream s.batches plane)) ∧
      (∀ plane < planes, s.written plane = (s.obtained plane).flatten ++ s.queue plane) ∧
      (∀ plane < planes, ∀ index block, (s.obtained plane)[index]? = some block →
        (index + 1) * period ≤ (s.written plane).length ∧
          block = ((stream s.batches plane).drop (index * period)).take period) ∧
      (s.reader = .resting → ∀ plane < planes, ∀ other < planes,
        (s.obtained plane).length = (s.obtained other).length) := by
  have inv := InStep.of_reachable reached
  refine ⟨inv.accepted, ?bounded, ?sent, inv.flow, ?slices, ?together⟩
  case bounded =>
    intro queue member
    obtain ⟨plane, present, rfl⟩ := State.mem_planes_iff.mp member
    rw [← inv.room]
    exact inv.bounded plane (by rwa [← inv.width])
  case sent =>
    intro plane present
    refine ⟨inv.written_isPrefix present, ?_⟩
    intro resting
    simpa [resting, WriterStage.passed, present] using inv.sent plane present
  case slices =>
    intro plane present index block found
    obtain ⟨more, split⟩ := inv.written_isPrefix present
    have flow := inv.flow plane present
    obtain ⟨within, same⟩ := slice_flatten (inv.whole plane) found (s.queue plane ++ more)
    constructor
    · rw [flow, List.length_append]
      exact Nat.le_add_right_of_le within
    · rw [← split, flow, List.append_assoc, same]
  case together =>
    intro resting plane present other here
    obtain ⟨rounds, counted⟩ := inv.rounds
    have one := counted plane present
    have two := counted other here
    simp only [resting, ReaderStage.passed, present, here, if_true] at one two
    omega

def Batch.pair (left right : Bytes) (even : right.length = left.length) : Batch where
  length := left.length
  block plane := if plane = 0 then left else right
  even plane := by split <;> simp [even]

/-- The reader has a period of the first plane and none of the second, while the
writer has brought its second batch to the first plane only. -/
theorem exists_overlapping : ∃ s, Reachable 4 2 2 s ∧
    s.ring.planes = [[3, 7], [4, 5, 6]] ∧ s.obtained 0 = [[1, 2]] := by
  let older := Batch.pair [1, 2, 3] [4, 5, 6] rfl
  let newer := Batch.pair [7] [8] rfl
  obtain ⟨⟨_, _, _, _, _, _, _⟩, half, rfl, rfl, rfl, rfl⟩ : ∃ s, Reachable 4 2 2 s ∧
      s.ring = ⟨4, [[1, 2, 3], []]⟩ ∧ s.writer = .busy older 1 .first ∧ s.reader = .resting ∧
      s.obtained = fun _ => [] := by
    have begun : Reachable 4 2 2 _ :=
      Reachable.start.step (.startWrite older rfl (by decide) (by decide))
    have first := ((begun.step (.lookAtRoom older 0 rfl)).step
      (.lookAtPlaneRoom older 0 rfl)).step (.append older 0 rfl)
    exact ⟨_, first, rfl, rfl, rfl, rfl⟩
  obtain ⟨⟨_, _, _, _, _, _, _⟩, full, rfl, rfl, rfl, rfl⟩ : ∃ s, Reachable 4 2 2 s ∧
      s.ring = ⟨4, [[1, 2, 3], [4, 5, 6]]⟩ ∧ s.writer = .resting ∧ s.reader = .resting ∧
      s.obtained = fun _ => [] := by
    have second := ((half.step (.lookAtRoom older 1 rfl)).step
      (.lookAtPlaneRoom older 1 rfl)).step (.append older 1 rfl)
    exact ⟨_, second, rfl, rfl, rfl, rfl⟩
  obtain ⟨⟨_, _, _, _, _, _, _⟩, read, rfl, rfl, obtained⟩ : ∃ s, Reachable 4 2 2 s ∧
      s.ring = ⟨4, [[3], [4, 5, 6]]⟩ ∧ s.writer = .resting ∧ s.obtained 0 = [[1, 2]] := by
    have reading := full.step (.startRead rfl (show 2 ≤ 3 by decide) (show 0 < 2 by decide))
    have first := ((reading.step (.lookAtData 0 rfl)).step (.lookAtPlaneData 0 rfl)).step
      (.remove 0 rfl)
    exact ⟨_, first, rfl, rfl, rfl⟩
  have again := read.step
    (.startWrite newer rfl (show 1 ≤ 4 - 3 by decide) (show 0 < 2 by decide))
  have first := ((again.step (.lookAtRoom newer 0 rfl)).step (.lookAtPlaneRoom newer 0 rfl)).step
    (.append newer 0 rfl)
  exact ⟨_, first, rfl, obtained⟩

theorem periods_never_torn_overlapping : ∃ s, Reachable 4 2 2 s ∧
    s.ring.planes = [[3, 7], [4, 5, 6]] ∧ s.refused = false ∧ s.obtained 0 = [[1, 2]] ∧
    s.written 0 = [1, 2, 3, 7] ∧ [1, 2] = ((stream s.batches 0).drop (0 * 2)).take 2 := by
  obtain ⟨s, reached, planes, obtained⟩ := exists_overlapping
  obtain ⟨accepted, _, _, flow, slices, _⟩ := periods_never_torn reached
  have waiting : s.queue 0 = [3, 7] := by rw [State.queue, planes]; rfl
  have sent := flow 0 (by decide)
  rw [obtained, waiting] at sent
  have period := (slices 0 (by decide) 0 [1, 2] (by rw [obtained]; rfl)).2
  exact ⟨s, reached, planes, accepted, obtained, sent, period⟩

end PlanarSink.Traffic
