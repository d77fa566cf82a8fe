import PlanarSink.Ring.Traffic

/-! What holds of a ring while one side writes and the other reads. Both sides go
through the planes in order, so the last plane is the one furthest behind: what
either side saw there still holds in the plane it has reached. -/
namespace PlanarSink.Traffic

/-- The planes, counted from the first, that hold the latest batch. -/
def WriterStage.passed (planes : Nat) : WriterStage → Nat
  | .resting => planes
  | .busy _ plane _ => plane

/-- The planes, counted from the first, that the latest period was read from. -/
def ReaderStage.passed (planes : Nat) : ReaderStage → Nat
  | .resting => planes
  | .busy plane _ => plane

theorem stream_append (older newer : List Batch) (plane : Nat) :
    stream (older ++ newer) plane = stream older plane ++ stream newer plane :=
  List.flatMap_append ..

/-- Batches hold as much for one plane as for another. -/
theorem length_stream (batches : List Batch) (plane other : Nat) :
    (stream batches plane).length = (stream batches other).length := by
  simp only [stream, List.length_flatMap, Batch.even]

theorem stream_dropLast_isPrefix (batches : List Batch) (plane : Nat) :
    stream batches.dropLast plane <+: stream batches plane := by
  obtain ⟨newer, split⟩ := List.dropLast_prefix batches
  refine ⟨stream newer plane, ?_⟩
  rw [← stream_append, split]

theorem stream_of_getLast? {batches : List Batch} {batch : Batch}
    (last : batches.getLast? = some batch) (plane : Nat) :
    stream batches plane = stream batches.dropLast plane ++ batch.block plane := by
  obtain ⟨older, rfl⟩ := List.getLast?_eq_some_iff.mp last
  rw [stream_append, List.dropLast_concat]
  simp [stream]

theorem State.queue_setQueue {s : State} {plane : Nat} (present : plane < s.ring.planes.length)
    (bytes : Bytes) (other : Nat) :
    (s.setQueue plane bytes).queue other = if other = plane then bytes else s.queue other := by
  unfold State.queue State.setQueue
  split
  · next same => subst same; simp [present]
  · next differs => rw [List.getElem?_set_ne (Ne.symm differs)]

theorem State.mem_planes_iff {s : State} {bytes : Bytes} :
    bytes ∈ s.ring.planes ↔ ∃ plane < s.ring.planes.length, s.queue plane = bytes := by
  constructor
  · intro member
    obtain ⟨plane, present, rfl⟩ := List.mem_iff_getElem.mp member
    exact ⟨plane, present, by simp [State.queue, present]⟩
  · rintro ⟨plane, present, rfl⟩
    simp [State.queue, present]

theorem State.append_of_fits {s : State} {batch : Batch} {plane : Nat}
    (fits : (s.queue plane).length + (batch.block plane).length ≤ s.ring.capacity) :
    (s.append plane (batch.block plane)).nextWrite batch plane = { s with
      ring := (s.setQueue plane (s.queue plane ++ batch.block plane)).ring
      writer := if plane + 1 < s.ring.planes.length then .busy batch (plane + 1) .first
        else .resting
      written := fun other =>
        if other = plane then s.written plane ++ batch.block plane else s.written other } := by
  have all : (batch.block plane).take (s.ring.capacity - (s.queue plane).length) =
      batch.block plane := List.take_of_length_le (by omega)
  simp [State.append, State.nextWrite, State.setQueue, PlaneRing.planeCount, all]

theorem State.remove_of_there {s : State} {plane period : Nat}
    (there : period ≤ (s.queue plane).length) :
    (s.remove plane period).nextRead plane = { s with
      ring := (s.setQueue plane ((s.queue plane).drop period)).ring
      reader := if plane + 1 < s.ring.planes.length then .busy (plane + 1) .first else .resting
      obtained := fun other =>
        if other = plane then s.obtained plane ++ [(s.queue plane).take period]
        else s.obtained other } := by
  simp [State.remove, State.nextRead, State.setQueue, PlaneRing.planeCount,
    Nat.min_eq_left there]

/-- What holds of a ring and its two users at any time: nothing was refused, each
plane has what the writer sent it less what the reader took, and what either side
saw in the last plane is still there. -/
structure InStep (capacity planes period : Nat) (s : State) : Prop where
  width : s.ring.planes.length = planes
  room : s.ring.capacity = max capacity 1
  bounded : ∀ plane < planes, (s.queue plane).length ≤ s.ring.capacity
  accepted : s.refused = false
  flow : ∀ plane < planes, s.written plane = (s.obtained plane).flatten ++ s.queue plane
  whole : ∀ plane, ∀ block ∈ s.obtained plane, block.length = period
  sent : ∀ plane < planes, s.written plane =
    stream (if plane < s.writer.passed planes then s.batches else s.batches.dropLast) plane
  rounds : ∃ rounds, ∀ plane < planes,
    (s.obtained plane).length + (if plane < s.reader.passed planes then 0 else 1) = rounds
  writer : ∀ batch plane phase, s.writer = .busy batch plane phase → plane < planes ∧
    s.batches.getLast? = some batch ∧
      (s.queue (planes - 1)).length + batch.length ≤ s.ring.capacity
  reader : ∀ plane phase, s.reader = .busy plane phase → plane < planes ∧
    period ≤ (s.queue (planes - 1)).length

namespace InStep

variable {capacity planes period : Nat} {s : State}

theorem readSize_eq (inv : InStep capacity planes period s) (nonempty : 0 < planes) :
    s.ring.readSize = (s.queue (planes - 1)).length := by
  have present : planes - 1 < s.ring.planes.length := by rw [inv.width]; omega
  rw [PlaneRing.readSize, State.queue, List.getLast?_eq_getElem?, inv.width,
    List.getElem?_eq_getElem present]
  rfl

theorem writeSize_eq (inv : InStep capacity planes period s) (nonempty : 0 < planes) :
    s.ring.writeSize = s.ring.capacity - (s.queue (planes - 1)).length := by
  have present : planes - 1 < s.ring.planes.length := by rw [inv.width]; omega
  rw [PlaneRing.writeSize, State.queue, List.getLast?_eq_getElem?, inv.width,
    List.getElem?_eq_getElem present]
  rfl

theorem length_written (inv : InStep capacity planes period s) {plane : Nat}
    (present : plane < planes) : (s.written plane).length =
      (s.obtained plane).length * period + (s.queue plane).length := by
  have taken : ((s.obtained plane).map List.length).sum = (s.obtained plane).length * period := by
    rw [List.map_congr_left (inv.whole plane), List.map_const', List.sum_replicate_nat]
  rw [inv.flow plane present, List.length_append, List.length_flatten, taken]

/-- No plane has been sent less than the last one, and none the writer has yet to
reach has been sent more. -/
theorem last_written (inv : InStep capacity planes period s) {plane : Nat}
    (present : plane < planes) :
    (s.written (planes - 1)).length ≤ (s.written plane).length ∧
      (s.writer.passed planes ≤ plane →
        (s.written plane).length = (s.written (planes - 1)).length) := by
  have shorter := (stream_dropLast_isPrefix s.batches plane).length_le
  rw [inv.sent plane present, inv.sent (planes - 1) (by omega)]
  have even := length_stream s.batches plane (planes - 1)
  have evenBefore := length_stream s.batches.dropLast plane (planes - 1)
  by_cases done : planes - 1 < s.writer.passed planes
  · have also : plane < s.writer.passed planes := by omega
    rw [if_pos done, if_pos also]
    exact ⟨Nat.le_of_eq even.symm, fun _ => even⟩
  · constructor
    · rw [if_neg done, ← evenBefore]
      split
      · exact shorter
      · exact Nat.le_refl _
    · intro ahead
      rw [if_neg done, if_neg (Nat.not_lt.mpr ahead)]
      exact evenBefore

/-- Periods were read as often from each plane as from the last one, or once more
where the reader has already passed it. -/
theorem last_obtained (inv : InStep capacity planes period s) {plane : Nat}
    (present : plane < planes) :
    (s.obtained (planes - 1)).length ≤ (s.obtained plane).length ∧
      (s.reader.passed planes ≤ plane →
        (s.obtained plane).length = (s.obtained (planes - 1)).length) := by
  obtain ⟨rounds, counted⟩ := inv.rounds
  have here := counted plane present
  have last := counted (planes - 1) (by omega)
  split at here <;> split at last <;> omega

theorem block_fits (inv : InStep capacity planes period s) {batch : Batch} {plane : Nat}
    {phase : Phase} (busy : s.writer = .busy batch plane phase) :
    (s.queue plane).length + batch.length ≤ s.ring.capacity := by
  obtain ⟨present, -, fits⟩ := inv.writer batch plane phase busy
  have sent := (inv.last_written present).2 (by simp [busy, WriterStage.passed])
  have taken := Nat.mul_le_mul_right period (inv.last_obtained present).1
  have here := inv.length_written present
  have last := inv.length_written (show planes - 1 < planes by omega)
  omega

theorem period_there (inv : InStep capacity planes period s) {plane : Nat} {phase : Phase}
    (busy : s.reader = .busy plane phase) : period ≤ (s.queue plane).length := by
  obtain ⟨present, there⟩ := inv.reader plane phase busy
  have sent := (inv.last_written present).1
  have taken := (inv.last_obtained present).2 (by simp [busy, ReaderStage.passed])
  have here := inv.length_written present
  have last := inv.length_written (show planes - 1 < planes by omega)
  rw [taken] at here
  omega

theorem initial : InStep capacity planes period (initial capacity planes) where
  width := List.length_replicate ..
  room := rfl
  bounded plane present := by simp [State.queue, Traffic.initial, PlaneRing.empty, present]
  accepted := rfl
  flow plane present := by simp [State.queue, Traffic.initial, PlaneRing.empty, present]
  whole plane block member := nomatch member
  sent plane present := by simp [Traffic.initial, stream]
  rounds := ⟨0, fun plane present => by simp [Traffic.initial, ReaderStage.passed, present]⟩
  writer _ _ _ busy := nomatch busy
  reader _ _ busy := nomatch busy

theorem startWrite (inv : InStep capacity planes period s) (batch : Batch)
    (resting : s.writer = .resting) (fits : batch.length ≤ s.ring.writeSize)
    (nonempty : 0 < s.ring.planeCount) :
    InStep capacity planes period
      { s with writer := .busy batch 0 .first, batches := s.batches ++ [batch] } where
  width := inv.width
  room := inv.room
  bounded := inv.bounded
  accepted := inv.accepted
  flow := inv.flow
  whole := inv.whole
  sent plane present := by
    have before := inv.sent plane present
    simp only [resting, WriterStage.passed, present, if_true] at before
    simpa [WriterStage.passed] using before
  rounds := inv.rounds
  writer other plane phase busy := by
    obtain ⟨rfl, rfl, rfl⟩ := WriterStage.busy.inj busy
    have some : 0 < planes := by rw [← inv.width]; exact nonempty
    have bounded := inv.bounded (planes - 1) (by omega)
    rw [inv.writeSize_eq some] at fits
    refine ⟨some, List.getLast?_concat .., ?_⟩
    simp only [State.queue] at fits bounded ⊢
    omega
  reader := inv.reader

theorem writerPhase (inv : InStep capacity planes period s) {batch : Batch} {plane : Nat}
    {before : Phase} (busy : s.writer = .busy batch plane before) (after : Phase) :
    InStep capacity planes period { s with writer := .busy batch plane after } where
  width := inv.width
  room := inv.room
  bounded := inv.bounded
  accepted := inv.accepted
  flow := inv.flow
  whole := inv.whole
  sent other present := by
    have before := inv.sent other present
    rw [busy] at before
    exact before
  rounds := inv.rounds
  writer other here phase same := by
    obtain ⟨rfl, rfl, rfl⟩ := WriterStage.busy.inj same
    exact inv.writer _ _ _ busy
  reader := inv.reader

theorem continueWrite (inv : InStep capacity planes period s) {batch : Batch} {plane : Nat}
    {before after : Phase} (busy : s.writer = .busy batch plane before) {fits : Bool}
    (found : fits = true) :
    InStep capacity planes period (s.continueWrite batch plane after fits) := by
  rw [State.continueWrite, if_pos found]
  exact inv.writerPhase busy after

theorem append (inv : InStep capacity planes period s) {batch : Batch} {plane : Nat}
    {phase : Phase} (busy : s.writer = .busy batch plane phase) :
    InStep capacity planes period ((s.append plane (batch.block plane)).nextWrite batch plane) := by
  obtain ⟨present, last, room⟩ := inv.writer batch plane phase busy
  have fits : (s.queue plane).length + (batch.block plane).length ≤ s.ring.capacity := by
    rw [batch.even]
    exact inv.block_fits busy
  have queues := State.queue_setQueue (show plane < s.ring.planes.length by rwa [inv.width])
    (s.queue plane ++ batch.block plane)
  rw [State.append_of_fits fits]
  refine ⟨?width, inv.room, ?bounded, inv.accepted, ?flow, inv.whole, ?sent, inv.rounds,
    ?writer, ?reader⟩
  case width => simpa [State.setQueue] using inv.width
  case bounded =>
    intro other here
    refine Nat.le_trans (Nat.le_of_eq (congrArg List.length (queues other))) ?_
    split
    · rw [List.length_append]
      exact fits
    · exact inv.bounded other here
  case flow =>
    intro other here
    refine Eq.trans ?_ (congrArg ((s.obtained other).flatten ++ ·) (queues other).symm)
    have before := inv.flow other here
    dsimp only
    split
    · next same => subst same; rw [before, List.append_assoc]
    · exact before
  case sent =>
    intro other here
    have before := inv.sent other here
    have reached : WriterStage.passed planes (if plane + 1 < s.ring.planes.length then
        .busy batch (plane + 1) .first else .resting) = plane + 1 := by
      rw [inv.width]
      split
      · rfl
      · simp only [WriterStage.passed]; omega
    simp only [reached]
    rw [busy] at before
    simp only [WriterStage.passed] at before
    rcases Nat.lt_trichotomy other plane with less | same | greater
    · simpa [less, Nat.ne_of_lt less, Nat.lt_succ_of_lt less] using before
    · subst same
      simp only [Nat.lt_irrefl, if_false] at before
      simp [before, stream_of_getLast? last]
    · have not_less : ¬other < plane := by omega
      have not_reached : ¬other < plane + 1 := by omega
      simpa [not_less, not_reached, Nat.ne_of_gt greater] using before
  case writer =>
    intro next place phase same
    dsimp only at same
    split at same
    · next more =>
      obtain ⟨rfl, rfl, rfl⟩ := WriterStage.busy.inj same
      rw [inv.width] at more
      have unwritten : planes - 1 ≠ plane := by omega
      refine ⟨more, last, ?_⟩
      refine Nat.le_trans (Nat.le_of_eq ?_) room
      exact congrArg (·.length + batch.length) ((queues _).trans (if_neg unwritten))
    · contradiction
  case reader =>
    intro place phase same
    obtain ⟨here, there⟩ := inv.reader place phase same
    refine ⟨here, Nat.le_trans there ?_⟩
    refine Nat.le_trans ?_ (Nat.le_of_eq (congrArg List.length (queues _).symm))
    split
    · next same => rw [← same, List.length_append]; exact Nat.le_add_right ..
    · exact Nat.le_refl _

theorem startRead (inv : InStep capacity planes period s) (resting : s.reader = .resting)
    (there : period ≤ s.ring.readSize) (nonempty : 0 < s.ring.planeCount) :
    InStep capacity planes period { s with reader := .busy 0 .first } := by
  have some : 0 < planes := by rw [← inv.width]; exact nonempty
  refine { inv with rounds := ?_, reader := ?_ }
  · obtain ⟨rounds, counted⟩ := inv.rounds
    refine ⟨rounds + 1, ?_⟩
    intro plane present
    have before := counted plane present
    simp only [resting, ReaderStage.passed, present, if_true] at before
    simpa [ReaderStage.passed] using before
  · intro plane phase same
    obtain ⟨rfl, rfl⟩ := ReaderStage.busy.inj same
    exact ⟨some, by rwa [inv.readSize_eq some] at there⟩

theorem readerPhase (inv : InStep capacity planes period s) {plane : Nat} {before : Phase}
    (busy : s.reader = .busy plane before) (after : Phase) :
    InStep capacity planes period { s with reader := .busy plane after } := by
  refine { inv with rounds := ?_, reader := ?_ }
  · obtain ⟨rounds, counted⟩ := inv.rounds
    rw [busy] at counted
    exact ⟨rounds, counted⟩
  · intro place phase same
    obtain ⟨rfl, rfl⟩ := ReaderStage.busy.inj same
    exact inv.reader _ _ busy

theorem continueRead (inv : InStep capacity planes period s) {plane : Nat}
    {before after : Phase} (busy : s.reader = .busy plane before) {there : Bool}
    (found : there = true) :
    InStep capacity planes period (s.continueRead plane after there) := by
  rw [State.continueRead, if_pos found]
  exact inv.readerPhase busy after

theorem remove (inv : InStep capacity planes period s) {plane : Nat} {phase : Phase}
    (busy : s.reader = .busy plane phase) :
    InStep capacity planes period ((s.remove plane period).nextRead plane) := by
  obtain ⟨present, -⟩ := inv.reader plane phase busy
  have there := inv.period_there busy
  have queues := State.queue_setQueue (show plane < s.ring.planes.length by rwa [inv.width])
    ((s.queue plane).drop period)
  have shorter (other : Nat) :
      ((s.setQueue plane ((s.queue plane).drop period)).queue other).length ≤
        (s.queue other).length := by
    rw [queues other]
    split
    · next same => rw [same, List.length_drop]; exact Nat.sub_le ..
    · exact Nat.le_refl _
  rw [State.remove_of_there there]
  refine ⟨?width, inv.room, ?bounded, inv.accepted, ?flow, ?whole, inv.sent, ?rounds,
    ?writer, ?reader⟩
  case width => simpa [State.setQueue] using inv.width
  case bounded =>
    intro other here
    exact Nat.le_trans (shorter other) (inv.bounded other here)
  case flow =>
    intro other here
    refine Eq.trans (inv.flow other here) ?_
    refine Eq.trans ?_ (congrArg (_ ++ ·) (queues other).symm)
    dsimp only
    split
    · next same => subst same; simp
    · rfl
  case whole =>
    intro other block member
    dsimp only at member
    split at member
    · rcases List.mem_append.mp member with old | new
      · exact inv.whole plane block old
      · rw [List.mem_singleton.mp new, List.length_take, Nat.min_eq_left there]
    · exact inv.whole other block member
  case rounds =>
    obtain ⟨rounds, counted⟩ := inv.rounds
    refine ⟨rounds, ?_⟩
    intro other here
    have before := counted other here
    have reached : ReaderStage.passed planes (if plane + 1 < s.ring.planes.length then
        .busy (plane + 1) .first else .resting) = plane + 1 := by
      rw [inv.width]
      split
      · rfl
      · simp only [ReaderStage.passed]; omega
    simp only [reached]
    simp only [busy, ReaderStage.passed] at before
    rcases Nat.lt_trichotomy other plane with less | same | greater
    · simpa [less, Nat.ne_of_lt less, Nat.lt_succ_of_lt less] using before
    · subst same
      simpa using before
    · have not_less : ¬other < plane := by omega
      have not_reached : ¬other < plane + 1 := by omega
      simpa [not_less, not_reached, Nat.ne_of_gt greater] using before
  case writer =>
    intro batch place phase same
    obtain ⟨here, last, room⟩ := inv.writer batch place phase same
    exact ⟨here, last, Nat.le_trans (Nat.add_le_add_right (shorter _) _) room⟩
  case reader =>
    intro place phase same
    dsimp only at same
    split at same
    · next more =>
      obtain ⟨rfl, rfl⟩ := ReaderStage.busy.inj same
      rw [inv.width] at more
      have unread : planes - 1 ≠ plane := by omega
      refine ⟨more, Nat.le_trans (inv.reader plane _ busy).2 (Nat.le_of_eq ?_)⟩
      exact congrArg List.length ((queues _).trans (if_neg unread)).symm
    · contradiction

theorem step {t : State} (inv : InStep capacity planes period s) (step : Step period s t) :
    InStep capacity planes period t := by
  cases step with
  | startWrite batch resting fits nonempty => exact inv.startWrite batch resting fits nonempty
  | lookAtRoom batch plane busy =>
    refine inv.continueWrite busy (decide_eq_true ?_)
    obtain ⟨present, -, room⟩ := inv.writer batch plane _ busy
    rw [batch.even, inv.writeSize_eq (by omega)]
    omega
  | lookAtPlaneRoom batch plane busy =>
    refine inv.continueWrite busy (decide_eq_true ?_)
    rw [batch.even]
    exact inv.block_fits busy
  | append batch plane busy => exact inv.append busy
  | startRead resting there nonempty => exact inv.startRead resting there nonempty
  | lookAtData plane busy =>
    refine inv.continueRead busy (decide_eq_true ?_)
    obtain ⟨present, there⟩ := inv.reader plane _ busy
    rwa [inv.readSize_eq (by omega)]
  | lookAtPlaneData plane busy =>
    exact inv.continueRead busy (decide_eq_true (inv.period_there busy))
  | remove plane busy => exact inv.remove busy

theorem of_reachable (reached : Reachable capacity planes period s) :
    InStep capacity planes period s := by
  induction reached with
  | start => exact InStep.initial
  | step _ next ih => exact ih.step next

theorem written_isPrefix (inv : InStep capacity planes period s) {plane : Nat}
    (present : plane < planes) : s.written plane <+: stream s.batches plane := by
  rw [inv.sent plane present]
  split
  · exact List.prefix_rfl
  · exact stream_dropLast_isPrefix ..

end InStep

end PlanarSink.Traffic
