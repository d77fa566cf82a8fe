import Mathlib.Data.List.TakeWhile
import PlanarSink.Proofs.PlaneQueues

/-! Writes to all planes at once. The look that comes before them is at the last plane alone,
and the planes before it may have less room: then the first of them gets the bytes, up to the
one that refuses, and the write is refused as a whole. -/
namespace PlanarSink

namespace PlaneRing

variable {ring : PlaneRing} {src : Bytes}

/-- The planes before the first one without room for `src`; none of them where the last one
has no room. -/
def reached (ring : PlaneRing) (src : Bytes) : Nat :=
  if ring.writeSize < src.length then 0
  else (ring.planes.takeWhile fun queue => queue.length + src.length ≤ ring.capacity).length

/-- The ring after `src` is appended to each of its first planes. -/
def appended (ring : PlaneRing) (src : Bytes) (count : Nat) : PlaneRing :=
  ring.upTo (fun _ queue => queue ++ src) count

/-- Every plane has room for `src`, as has the last one by its own count. -/
def Takes (ring : PlaneRing) (src : Bytes) : Prop :=
  src.length ≤ ring.writeSize ∧
    ∀ queue ∈ ring.planes, queue.length + src.length ≤ ring.capacity

theorem write?_appended {plane : Nat} {queue : Bytes} (found : ring.planes[plane]? = some queue)
    (last : src.length ≤ ring.writeSize) :
    (ring.appended src plane).write? src plane =
      if queue.length + src.length ≤ ring.capacity then some (ring.appended src (plane + 1))
      else none := by
  split
  · next fits => exact write?_upTo found last fits
  · next full =>
    rw [Option.eq_none_iff_forall_ne_some]
    intro written accepted
    obtain ⟨other, same, _, fits, _⟩ := write?_eq_some_iff.mp accepted
    have kept : (ring.appended src plane).planes[plane]? = some queue := by
      simp [appended, getElem?_upTo, found]
    obtain rfl : queue = other := Option.some.inj (kept.symm.trans same)
    exact full fits

theorem writeEach_appended (last : src.length ≤ ring.writeSize) {rest : List Bytes} {plane : Nat}
    (here : ring.planes.drop plane = rest) :
    (ring.appended src plane).writeEach src (List.range' plane rest.length) =
      (rest.all fun queue => queue.length + src.length ≤ ring.capacity,
        ring.appended src (plane +
          (rest.takeWhile fun queue => queue.length + src.length ≤ ring.capacity).length)) := by
  induction rest generalizing plane with
  | nil => rfl
  | cons queue rest ih =>
    have found : ring.planes[plane]? = some queue := by
      rw [← List.head?_drop, here]
      rfl
    have later : ring.planes.drop (plane + 1) = rest := by
      rw [← List.tail_drop, here]
      rfl
    rw [List.length_cons, List.range'_succ, writeEach, write?_appended found last]
    by_cases fits : queue.length + src.length ≤ ring.capacity
    · simp [fits, ih later, Nat.add_assoc, Nat.add_comm 1]
    · simp [fits]

/-- A write to all planes is granted where each has room, and gets as far as there is. -/
theorem writeAll_appended (ring : PlaneRing) (src : Bytes) :
    ((ring.writeAll src).1 = true ↔ ring.Takes src) ∧
      (ring.writeAll src).2 = ring.appended src (ring.reached src) := by
  by_cases room : ring.writeSize < src.length
  · have none : ¬ ring.Takes src := fun takes => Nat.not_lt.mpr takes.1 room
    simp [writeAll, reached, appended, room, none]
  · have last := Nat.le_of_not_lt room
    have all := writeEach_appended last (@List.drop_zero _ ring.planes)
    have start : ring.appended src 0 = ring := upTo_zero ring _
    rw [start, ← List.range_eq_range', Nat.zero_add] at all
    simp [writeAll, reached, room, planeCount, all, Takes, last]

theorem reached_le (ring : PlaneRing) (src : Bytes) : ring.reached src ≤ ring.planeCount := by
  unfold reached
  split
  · exact Nat.zero_le _
  · exact (List.takeWhile_sublist _).length_le

theorem Takes.reached (takes : ring.Takes src) : ring.reached src = ring.planeCount := by
  have all : ring.planes.takeWhile (fun queue => queue.length + src.length ≤ ring.capacity) =
      ring.planes := List.takeWhile_eq_self_iff.mpr (by simpa using takes.2)
  rw [PlaneRing.reached, if_neg (Nat.not_lt.mpr takes.1), all]
  rfl

theorem reached_eq_zero_iff :
    ring.reached src = 0 ↔
      ring.writeSize < src.length ∨
        ∀ queue, ring.planes.head? = some queue → ring.capacity < queue.length + src.length := by
  unfold reached
  by_cases room : ring.writeSize < src.length
  · simp [room]
  · cases ring.planes with
    | nil => simp
    | cons first rest =>
      by_cases fits : first.length + src.length ≤ ring.capacity
      · simp [room, fits]
      · simp [room, fits, Nat.lt_of_not_le fits]

theorem appended_eq_self_iff {count : Nat} (some : src ≠ []) (within : count ≤ ring.planeCount) :
    ring.appended src count = ring ↔ count = 0 := by
  constructor
  · intro same
    cases count with
    | zero => rfl
    | succ count =>
      have longer : (ring.appended src (count + 1)).queue 0 = ring.queue 0 ++ src :=
        queue_upTo (Nat.lt_of_lt_of_le (Nat.succ_pos count) within) (Nat.succ_pos count)
      rw [same] at longer
      exact absurd (List.self_eq_append_right.mp longer) some
  · rintro rfl
    exact upTo_zero ring _

theorem Bounded.takes_nil (bounded : ring.Bounded) : ring.Takes [] :=
  ⟨Nat.zero_le _, bounded⟩

/-- Where no plane holds more than the last one, the look at the last one is enough. -/
theorem takes_of_level (somePlanes : 0 < ring.planeCount) (bounded : ring.Bounded)
    (level : ∀ queue ∈ ring.planes, queue.length ≤ ring.readSize)
    (last : src.length ≤ ring.writeSize) : ring.Takes src := by
  refine ⟨last, fun queue member => ?_⟩
  have sizes := readSize_add_writeSize bounded (List.ne_nil_of_length_pos somePlanes)
  have less := level queue member
  omega

/-- With two planes at most there is none between the first and the last one. -/
theorem takes_of_few (bounded : ring.Bounded) (few : ring.planeCount ≤ 2)
    (last : src.length ≤ ring.writeSize) {first : Bytes} (head : ring.planes.head? = some first)
    (fits : first.length + src.length ≤ ring.capacity) : ring.Takes src := by
  refine ⟨last, fun queue member => ?_⟩
  obtain ⟨plane, found⟩ := List.getElem?_of_mem member
  obtain ⟨there, held⟩ := getElem?_planes_eq_some_iff.mp found
  by_cases final : plane = ring.planeCount - 1
  · have sizes := readSize_add_writeSize bounded (List.ne_nil_of_mem member)
    rw [readSize_eq, ← final, held] at sizes
    omega
  · obtain rfl : plane = 0 := by omega
    rw [List.head?_eq_getElem?, found] at head
    obtain rfl := Option.some.inj head
    exact fits

/-- What comes of a write of `src` to all planes. -/
structure WholeWrite (ring : PlaneRing) (src : Bytes) : Prop where
  granted : (ring.writeAll src).1 = true ↔ ring.Takes src
  /-- Whether granted or not, the planes before the first without room get the bytes. -/
  after : (ring.writeAll src).2 = ring.appended src (ring.reached src)
  whole : ring.Takes src → ring.reached src = ring.planeCount
  /-- A write that is refused leaves the ring as it was where the last plane or the first one has
  no room, and only there. -/
  refused : ¬ ring.Takes src → ((ring.writeAll src).2 = ring ↔
    ring.writeSize < src.length ∨
      ∀ queue, ring.planes.head? = some queue → ring.capacity < queue.length + src.length)
  /-- All or nothing where no plane holds more than the last one, or there are two at most. -/
  level : ¬ ring.Takes src →
    (∀ queue ∈ ring.planes, queue.length ≤ ring.readSize) ∨ ring.planeCount ≤ 2 →
      (ring.writeAll src).2 = ring

theorem Bounded.wholeWrite (bounded : ring.Bounded) (src : Bytes) : ring.WholeWrite src := by
  obtain ⟨granted, after⟩ := writeAll_appended ring src
  have refused : ¬ ring.Takes src → ((ring.writeAll src).2 = ring ↔ ring.writeSize < src.length ∨
      ∀ queue, ring.planes.head? = some queue → ring.capacity < queue.length + src.length) := by
    intro short
    have some : src ≠ [] := fun none => short (none ▸ bounded.takes_nil)
    rw [after, appended_eq_self_iff some (reached_le ring src), reached_eq_zero_iff]
  refine ⟨granted, after, Takes.reached, refused, fun short even => (refused short).mpr ?_⟩
  rcases Nat.lt_or_ge ring.writeSize src.length with room | last
  · exact .inl room
  · refine .inr fun first head => Nat.lt_of_not_le fun fits => short ?_
    rcases even with level | few
    · have somePlanes : ring.planes ≠ [] := List.ne_nil_of_mem (List.mem_of_mem_head? head)
      exact takes_of_level (List.length_pos_iff.mpr somePlanes) bounded level last
    · exact takes_of_few bounded few last head fits

/-- Every write to all planes of a ring in use is granted where each plane has room, and is
all or nothing but for a plane between the first and the last one that has none. -/
theorem writeAll_in_use (bytes planes : Nat) (calls : List RingCall) (src : Bytes) :
    ((empty bytes planes).performAll calls).2.WholeWrite src :=
  ((Shaped.empty bytes planes).performAll calls).bounded.wholeWrite src

/-- A plane in the middle of three has no room, and the first one keeps the bytes of a write
that is refused. -/
theorem writeAll_cut_short :
    let ring := ((empty 4 3).performAll
      [.writeAll [1, 2], .write [3, 4] 0, .write [3, 4] 1, .read [0, 0] 0]).2
    (ring.writeAll [5, 6]).1 = false ∧ (ring.writeAll [5, 6]).2 ≠ ring ∧
      (ring.writeAll [5, 6]).2.queue 0 = ring.queue 0 ++ [5, 6] := by
  decide

end PlaneRing

end PlanarSink
