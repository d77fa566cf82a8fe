import PlanarSink.Proofs.EvenRing
import PlanarSink.Ring.Call

/-! The planes of a ring as queues of their own, however unevenly they are filled. A call is
granted by what two planes hold, its own and the last one, and changes what one of them
holds. -/
namespace PlanarSink

namespace PlaneRing

variable {ring : PlaneRing} {src dst : Bytes} {plane : Nat}

/-- A ring is another one but for what waits in a plane. -/
structure Replaced (ring : PlaneRing) (plane : Nat) (queue : Bytes) (next : PlaneRing) :
    Prop where
  capacity : next.capacity = ring.capacity
  planeCount : next.planeCount = ring.planeCount
  here : next.queue plane = queue
  elsewhere : ∀ other, other ≠ plane → next.queue other = ring.queue other

theorem replaced_set (there : plane < ring.planeCount) (queue : Bytes) :
    ring.Replaced plane queue { ring with planes := ring.planes.set plane queue } where
  capacity := rfl
  planeCount := List.length_set
  here := by
    have there : plane < ring.planes.length := there
    simp [PlaneRing.queue, there]
  elsewhere other different := by
    simp [PlaneRing.queue, List.getElem?_set_ne (Ne.symm different)]

theorem getElem?_planes_eq_some_iff {queue : Bytes} :
    ring.planes[plane]? = some queue ↔ plane < ring.planeCount ∧ ring.queue plane = queue := by
  by_cases there : plane < ring.planes.length
  · simp [PlaneRing.queue, planeCount, there]
  · simp [planeCount, there]

theorem Bounded.queue (bounded : ring.Bounded) (plane : Nat) :
    (ring.queue plane).length ≤ ring.capacity := by
  cases found : ring.planes[plane]? with
  | none => simp [PlaneRing.queue, found]
  | some queue =>
    rw [(getElem?_planes_eq_some_iff.mp found).2]
    exact bounded queue (List.mem_of_getElem? found)

theorem readSize_eq (ring : PlaneRing) :
    ring.readSize = (ring.queue (ring.planeCount - 1)).length := by
  rw [readSize, List.getLast?_eq_getElem?, PlaneRing.queue, planeCount]
  cases ring.planes[ring.planes.length - 1]? <;> rfl

theorem length_le_writeSize_iff (bounded : ring.Bounded) (somePlanes : 0 < ring.planeCount) :
    src.length ≤ ring.writeSize ↔
      (ring.queue (ring.planeCount - 1)).length + src.length ≤ ring.capacity := by
  have sizes := readSize_add_writeSize bounded (List.ne_nil_of_length_pos somePlanes)
  rw [← readSize_eq]
  omega

section Write

theorem write_eq_true_iff :
    (ring.write src plane).1 = true ↔ ∃ next, ring.write? src plane = some next := by
  cases given : ring.write? src plane <;> simp [write, given]

/-- A write is granted by what its own plane and the last one hold. -/
theorem write_granted_iff (bounded : ring.Bounded) :
    (ring.write src plane).1 = true ↔
      plane < ring.planeCount ∧ (ring.queue plane).length + src.length ≤ ring.capacity ∧
        (ring.queue (ring.planeCount - 1)).length + src.length ≤ ring.capacity := by
  simp only [write_eq_true_iff, write?_eq_some_iff, getElem?_planes_eq_some_iff]
  constructor
  · rintro ⟨_, _, ⟨there, rfl⟩, last, fits, rfl⟩
    exact ⟨there, fits, (length_le_writeSize_iff bounded (Nat.zero_lt_of_lt there)).mp last⟩
  · rintro ⟨there, fits, last⟩
    exact ⟨_, _, ⟨there, rfl⟩,
      (length_le_writeSize_iff bounded (Nat.zero_lt_of_lt there)).mpr last, fits, rfl⟩

theorem write_replaced (granted : (ring.write src plane).1 = true) :
    ring.Replaced plane (ring.queue plane ++ src) (ring.write src plane).2 := by
  obtain ⟨next, given⟩ := write_eq_true_iff.mp granted
  obtain ⟨queue, found, _, _, rfl⟩ := write?_eq_some_iff.mp given
  obtain ⟨there, rfl⟩ := getElem?_planes_eq_some_iff.mp found
  rw [write, given]
  exact replaced_set there _

theorem write_refused (refused : (ring.write src plane).1 = false) :
    (ring.write src plane).2 = ring := by
  cases given : ring.write? src plane with
  | none => rw [write, given]
  | some next => simp [write, given] at refused

theorem Bounded.write (bounded : ring.Bounded) (src : Bytes) (plane : Nat) :
    (ring.write src plane).2.Bounded := by
  cases given : ring.write? src plane with
  | none => simpa [PlaneRing.write, given] using bounded
  | some next => simpa [PlaneRing.write, given] using bounded.write? given

end Write

section Read

theorem read_eq_true_iff :
    (ring.read dst plane).1 = true ↔ ∃ taken, ring.read? dst.length plane = some taken := by
  cases given : ring.read? dst.length plane <;> simp [read, given]

/-- A read is granted by what its own plane and the last one hold. -/
theorem read_granted_iff :
    (ring.read dst plane).1 = true ↔
      plane < ring.planeCount ∧ dst.length ≤ (ring.queue plane).length ∧
        dst.length ≤ (ring.queue (ring.planeCount - 1)).length := by
  simp only [read_eq_true_iff, Prod.exists, read?_eq_some_iff, getElem?_planes_eq_some_iff,
    readSize_eq]
  constructor
  · rintro ⟨_, _, _, ⟨there, rfl⟩, last, held, rfl, rfl⟩
    exact ⟨there, held, last⟩
  · rintro ⟨there, held, last⟩
    exact ⟨_, _, _, ⟨there, rfl⟩, last, held, rfl, rfl⟩

theorem read_replaced (granted : (ring.read dst plane).1 = true) :
    (ring.read dst plane).2.1 = (ring.queue plane).take dst.length ∧
      ring.Replaced plane ((ring.queue plane).drop dst.length) (ring.read dst plane).2.2 := by
  obtain ⟨⟨taken, rest⟩, given⟩ := read_eq_true_iff.mp granted
  obtain ⟨queue, found, _, _, rfl, rfl⟩ := read?_eq_some_iff.mp given
  obtain ⟨there, rfl⟩ := getElem?_planes_eq_some_iff.mp found
  rw [read, given]
  exact ⟨rfl, replaced_set there _⟩

theorem read_refused (refused : (ring.read dst plane).1 = false) :
    (ring.read dst plane).2 = (dst, ring) := by
  cases given : ring.read? dst.length plane with
  | none => rw [read, given]
  | some taken => simp [read, given] at refused

theorem Bounded.read (bounded : ring.Bounded) (dst : Bytes) (plane : Nat) :
    (ring.read dst plane).2.2.Bounded := by
  cases given : ring.read? dst.length plane with
  | none => simpa [PlaneRing.read, given] using bounded
  | some taken => simpa [PlaneRing.read, given] using bounded.read? given

end Read

section WriteAll

/-- A write to all planes is the writes to single planes that it comes to, and is granted
where none of them is refused. -/
theorem performAll_attempts (ring : PlaneRing) (src : Bytes) (planes : List Nat) :
    (ring.performAll (ring.attempts src planes)).2 = (ring.writeEach src planes).2 ∧
      ((ring.writeEach src planes).1 = true ↔
        ∀ reply ∈ (ring.performAll (ring.attempts src planes)).1, reply.accepted = true) := by
  induction planes generalizing ring with
  | nil => simp [attempts, performAll, writeEach]
  | cons plane rest ih =>
    cases given : ring.write? src plane with
    | none =>
      simp [attempts, performAll, perform, write, writeEach, given, RingReply.accepted]
    | some written =>
      obtain ⟨last, granted⟩ := ih written
      simp [attempts, performAll, perform, write, writeEach, given, RingReply.accepted, last,
        granted]

/-- The look at the last plane that comes before the first write is one that the write makes
itself. -/
theorem writeAll_eq (somePlanes : 0 < ring.planeCount) (src : Bytes) :
    ring.writeAll src = ring.writeEach src (List.range ring.planeCount) := by
  by_cases room : ring.writeSize < src.length
  · obtain ⟨rest, first⟩ : ∃ rest, List.range ring.planeCount = 0 :: rest := by
      obtain ⟨count, same⟩ := Nat.exists_eq_add_of_lt somePlanes
      exact ⟨_, by rw [same, Nat.zero_add, List.range_succ_eq_map]⟩
    have refused : ring.write? src 0 = none := by rw [write?, if_pos room]
    rw [writeAll, if_pos room, first, writeEach, refused]
  · rw [writeAll, if_neg room]

theorem mem_attempts {call : RingCall} {planes : List Nat}
    (member : call ∈ ring.attempts src planes) : ∃ plane, call = .write src plane := by
  induction planes generalizing ring with
  | nil => contradiction
  | cons plane rest ih =>
    rcases List.mem_cons.mp member with rfl | later
    · exact ⟨plane, rfl⟩
    · cases given : ring.write? src plane with
      | none => simp [given] at later
      | some written =>
        rw [given] at later
        exact ih later

end WriteAll

structure Shaped (ring : PlaneRing) (planes limit : Nat) : Prop where
  planeCount : ring.planeCount = planes
  capacity : ring.capacity = limit
  bounded : ring.Bounded

namespace Shaped

variable {planes limit : Nat}

theorem empty (bytes planes : Nat) : (PlaneRing.empty bytes planes).Shaped planes (max bytes 1) where
  planeCount := List.length_replicate
  capacity := rfl
  bounded := bounded_empty bytes planes

theorem replaced (shaped : ring.Shaped planes limit) {queue : Bytes} {next : PlaneRing}
    (replaced : ring.Replaced plane queue next) (bounded : next.Bounded) :
    next.Shaped planes limit :=
  ⟨replaced.planeCount.trans shaped.planeCount, replaced.capacity.trans shaped.capacity, bounded⟩

theorem write (shaped : ring.Shaped planes limit) (src : Bytes) (plane : Nat) :
    (ring.write src plane).2.Shaped planes limit := by
  cases granted : (ring.write src plane).1 with
  | true => exact shaped.replaced (write_replaced granted) (shaped.bounded.write src plane)
  | false =>
    rw [write_refused granted]
    exact shaped

theorem read (shaped : ring.Shaped planes limit) (dst : Bytes) (plane : Nat) :
    (ring.read dst plane).2.2.Shaped planes limit := by
  cases granted : (ring.read dst plane).1 with
  | true => exact shaped.replaced (read_replaced granted).2 (shaped.bounded.read dst plane)
  | false =>
    rw [read_refused granted]
    exact shaped

theorem writeEach (shaped : ring.Shaped planes limit) (src : Bytes) (order : List Nat) :
    (ring.writeEach src order).2.Shaped planes limit := by
  induction order generalizing ring with
  | nil => exact shaped
  | cons plane rest ih =>
    have step := shaped.write src plane
    cases given : ring.write? src plane with
    | none => simpa [PlaneRing.writeEach, given] using shaped
    | some written =>
      rw [PlaneRing.write, given] at step
      simpa [PlaneRing.writeEach, given] using ih step

theorem perform (shaped : ring.Shaped planes limit) (call : RingCall) :
    (ring.perform call).2.Shaped planes limit := by
  cases call with
  | write src plane => exact shaped.write src plane
  | writeAll src =>
    by_cases room : ring.writeSize < src.length
    · simpa [PlaneRing.perform, writeAll, room] using shaped
    · simpa [PlaneRing.perform, writeAll, room] using shaped.writeEach src _
  | read dst plane => exact shaped.read dst plane
  | dump =>
    exact ⟨by simpa [PlaneRing.perform, PlaneRing.dump, PlaneRing.planeCount] using shaped.planeCount,
      shaped.capacity, Bounded.dump⟩

theorem performAll (shaped : ring.Shaped planes limit) (calls : List RingCall) :
    (ring.performAll calls).2.Shaped planes limit := by
  induction calls generalizing ring with
  | nil => exact shaped
  | cons call rest ih => exact ih (shaped.perform call)

end Shaped

/-- A ring of so many planes keeps to these rules: a plane holds no more than the limit, a call
is granted by what its own plane and the last one hold, and changes that plane alone. -/
structure QueueRules (ring : PlaneRing) (planes limit : Nat) : Prop where
  planeCount : ring.planeCount = planes
  capacity : ring.capacity = limit
  bounded : ∀ plane, (ring.queue plane).length ≤ limit
  readSize : ring.readSize = (ring.queue (planes - 1)).length
  sizes : ring.readSize + ring.writeSize = limit
  writeGranted : ∀ src plane, (ring.write src plane).1 = true ↔
    plane < planes ∧ (ring.queue plane).length + src.length ≤ limit ∧
      (ring.queue (planes - 1)).length + src.length ≤ limit
  written : ∀ src plane, (ring.write src plane).1 = true →
    ring.Replaced plane (ring.queue plane ++ src) (ring.write src plane).2
  writeRefused : ∀ src plane, (ring.write src plane).1 = false →
    (ring.write src plane).2 = ring
  /-- A write to all planes is the writes to each of them, up to the first that is refused. -/
  writeAll : ∀ src,
    (ring.writeAll src).2 = (ring.performAll (ring.attempts src (List.range planes))).2 ∧
      ((ring.writeAll src).1 = true ↔
        ∀ reply ∈ (ring.performAll (ring.attempts src (List.range planes))).1,
          reply.accepted = true)
  readGranted : ∀ dst plane, (ring.read dst plane).1 = true ↔
    plane < planes ∧ dst.length ≤ (ring.queue plane).length ∧
      dst.length ≤ (ring.queue (planes - 1)).length
  readTaken : ∀ dst plane, (ring.read dst plane).1 = true →
    (ring.read dst plane).2.1 = (ring.queue plane).take dst.length ∧
      ring.Replaced plane ((ring.queue plane).drop dst.length) (ring.read dst plane).2.2
  readRefused : ∀ dst plane, (ring.read dst plane).1 = false →
    (ring.read dst plane).2 = (dst, ring)

theorem Shaped.queueRules {planes limit : Nat} (shaped : ring.Shaped planes limit)
    (somePlanes : 0 < planes) : ring.QueueRules planes limit := by
  obtain ⟨rfl, rfl, bounded⟩ := shaped
  exact {
    planeCount := rfl
    capacity := rfl
    bounded := bounded.queue
    readSize := readSize_eq ring
    sizes := readSize_add_writeSize bounded (List.ne_nil_of_length_pos somePlanes)
    writeGranted := fun _ _ => write_granted_iff bounded
    written := fun _ _ => write_replaced
    writeRefused := fun _ _ => write_refused
    writeAll := fun src => by
      obtain ⟨last, granted⟩ := performAll_attempts ring src (List.range ring.planeCount)
      rw [writeAll_eq somePlanes]
      exact ⟨last.symm, granted⟩
    readGranted := fun _ _ => read_granted_iff
    readTaken := fun _ _ => read_replaced
    readRefused := fun _ _ => read_refused }

end PlaneRing

end PlanarSink
