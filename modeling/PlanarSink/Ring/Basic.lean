import PlanarSink.Bytes

/-! A byte ring with one bounded queue for each plane. Planes are written and
read in order, so the last plane is the one furthest behind: its occupancy is
what both sides go by, and a block counts once the last plane holds it. -/
namespace PlanarSink

/-- The queued bytes of every plane, oldest first, and the bytes a plane holds
at most. -/
structure PlaneRing where
  capacity : Nat
  planes : List Bytes
deriving DecidableEq, Repr

namespace PlaneRing

def empty (capacity planes : Nat) : PlaneRing :=
  ⟨max capacity 1, List.replicate planes []⟩

def planeCount (ring : PlaneRing) : Nat := ring.planes.length

def queue (ring : PlaneRing) (plane : Nat) : Bytes :=
  ring.planes[plane]?.getD []

def readSize (ring : PlaneRing) : Nat :=
  (ring.planes.getLast?.map List.length).getD 0

def writeSize (ring : PlaneRing) : Nat :=
  (ring.planes.getLast?.map fun queue => ring.capacity - queue.length).getD 0

/-- `plane` with `src` appended, where both it and the last plane have room. -/
def write? (ring : PlaneRing) (src : Bytes) (plane : Nat) : Option PlaneRing :=
  if ring.writeSize < src.length then none
  else match ring.planes[plane]? with
    | some queue =>
      if queue.length + src.length ≤ ring.capacity then
        some { ring with planes := ring.planes.set plane (queue ++ src) }
      else none
    | none => none

def write (ring : PlaneRing) (src : Bytes) (plane : Nat) : Bool × PlaneRing :=
  match ring.write? src plane with
  | some written => (true, written)
  | none => (false, ring)

def writeEach (ring : PlaneRing) (src : Bytes) : (planes : List Nat) → Bool × PlaneRing
  | [] => (true, ring)
  | plane :: rest =>
    match ring.write? src plane with
    | some written => writeEach written src rest
    | none => (false, ring)

/-- Writes `src` into every plane in order, where the last plane has room. -/
def writeAll (ring : PlaneRing) (src : Bytes) : Bool × PlaneRing :=
  if ring.writeSize < src.length then (false, ring)
  else ring.writeEach src (List.range ring.planeCount)

def dump (ring : PlaneRing) : PlaneRing :=
  { ring with planes := ring.planes.map fun _ => [] }

/-- The oldest `length` bytes of `plane`, where it and the last plane hold as
many. -/
def read? (ring : PlaneRing) (length plane : Nat) : Option (Bytes × PlaneRing) :=
  if ring.readSize < length then none
  else match ring.planes[plane]? with
    | some queue =>
      if length ≤ queue.length then
        some (queue.take length, { ring with planes := ring.planes.set plane (queue.drop length) })
      else none
    | none => none

def Bounded (ring : PlaneRing) : Prop :=
  ∀ queue ∈ ring.planes, queue.length ≤ ring.capacity

theorem bounded_empty (capacity planes : Nat) : (empty capacity planes).Bounded := by
  intro queue member
  have none : queue = [] := (List.mem_replicate.mp member).2
  simp [none]

theorem readSize_add_writeSize {ring : PlaneRing} (bounded : ring.Bounded)
    (planes : ring.planes ≠ []) : ring.readSize + ring.writeSize = ring.capacity := by
  have last := List.getLast?_eq_some_getLast planes
  have fits := bounded _ (List.getLast_mem planes)
  simp only [readSize, writeSize, last, Option.map_some, Option.getD_some]
  omega

theorem write?_eq_some_iff {ring written : PlaneRing} {src : Bytes} {plane : Nat} :
    ring.write? src plane = some written ↔
      ∃ queue, ring.planes[plane]? = some queue ∧ src.length ≤ ring.writeSize ∧
        queue.length + src.length ≤ ring.capacity ∧
        written = { ring with planes := ring.planes.set plane (queue ++ src) } := by
  unfold write?
  constructor
  · intro accepted
    split at accepted
    · contradiction
    · next room =>
      split at accepted
      · next queue found =>
        split at accepted
        · next fits =>
          exact ⟨queue, found, Nat.le_of_not_lt room, fits, (Option.some.inj accepted).symm⟩
        · contradiction
      · contradiction
  · rintro ⟨queue, found, room, fits, rfl⟩
    simp [found, Nat.not_lt.mpr room, fits]

theorem read?_eq_some_iff {ring rest : PlaneRing} {taken : Bytes} {length plane : Nat} :
    ring.read? length plane = some (taken, rest) ↔
      ∃ queue, ring.planes[plane]? = some queue ∧ length ≤ ring.readSize ∧
        length ≤ queue.length ∧ taken = queue.take length ∧
        rest = { ring with planes := ring.planes.set plane (queue.drop length) } := by
  unfold read?
  constructor
  · intro accepted
    split at accepted
    · contradiction
    · next held =>
      split at accepted
      · next queue found =>
        split at accepted
        · next fits =>
          obtain ⟨rfl, rfl⟩ := Prod.mk.inj (Option.some.inj accepted)
          exact ⟨queue, found, Nat.le_of_not_lt held, fits, rfl, rfl⟩
        · contradiction
      · contradiction
  · rintro ⟨queue, found, held, fits, rfl, rfl⟩
    simp [found, Nat.not_lt.mpr held, fits]

theorem Bounded.write? {ring written : PlaneRing} {src : Bytes} {plane : Nat}
    (bounded : ring.Bounded) (accepted : ring.write? src plane = some written) :
    written.Bounded := by
  obtain ⟨queue, _, _, fits, rfl⟩ := write?_eq_some_iff.mp accepted
  intro other member
  rcases List.mem_or_eq_of_mem_set member with old | rfl
  · exact bounded other old
  · simpa using fits

theorem Bounded.read? {ring rest : PlaneRing} {taken : Bytes} {length plane : Nat}
    (bounded : ring.Bounded) (accepted : ring.read? length plane = some (taken, rest)) :
    rest.Bounded := by
  obtain ⟨queue, found, _, _, _, rfl⟩ := read?_eq_some_iff.mp accepted
  intro other member
  rcases List.mem_or_eq_of_mem_set member with old | rfl
  · exact bounded other old
  · have fits := bounded queue (List.mem_of_getElem? found)
    simp only [List.length_drop]
    omega

theorem Bounded.dump {ring : PlaneRing} : ring.dump.Bounded := by
  intro queue member
  obtain ⟨_, _, rfl⟩ := List.mem_map.mp member
  exact Nat.zero_le _

end PlaneRing

end PlanarSink
