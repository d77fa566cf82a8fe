import PlanarSink.Callback.Dispatcher

/-! Rings whose planes all hold as much. Operations that go through the planes in order
find them so again: nothing is refused on the way, and each plane is a queue of its own. -/
namespace PlanarSink

namespace PlaneRing

/-- Every plane holds as many bytes, no more than the capacity. -/
structure Even (ring : PlaneRing) (level : Nat) : Prop where
  somePlanes : ring.planes ≠ []
  same : ∀ queue ∈ ring.planes, queue.length = level
  bounded : level ≤ ring.capacity

/-- The ring after a change to each of its first planes. -/
def upTo (ring : PlaneRing) (change : Nat → Bytes → Bytes) (count : Nat) : PlaneRing :=
  { ring with
    planes := ring.planes.mapIdx fun plane queue =>
      if plane < count then change plane queue else queue }

variable {ring : PlaneRing} {level : Nat}

theorem even_empty {capacity planes : Nat} (somePlanes : planes ≠ 0) :
    (empty capacity planes).Even 0 where
  somePlanes := by simpa [empty] using somePlanes
  same queue member := by simp [(List.mem_replicate.mp member).2]
  bounded := Nat.zero_le _

theorem Even.dump (even : ring.Even level) : ring.dump.Even 0 where
  somePlanes := by simpa [PlaneRing.dump] using even.somePlanes
  same queue member := by
    obtain ⟨_, _, rfl⟩ := List.mem_map.mp member
    rfl
  bounded := Nat.zero_le _

@[simp] theorem queue_dump (ring : PlaneRing) (plane : Nat) : ring.dump.queue plane = [] := by
  simp only [queue, PlaneRing.dump, List.getElem?_map]
  cases ring.planes[plane]? <;> rfl

theorem Even.last (even : ring.Even level) :
    ∃ queue, ring.planes.getLast? = some queue ∧ queue.length = level :=
  ⟨_, List.getLast?_eq_some_getLast even.somePlanes, even.same _ (List.getLast_mem even.somePlanes)⟩

theorem Even.found (even : ring.Even level) {plane : Nat} (there : plane < ring.planes.length) :
    ring.planes[plane]? = some (ring.queue plane) ∧ (ring.queue plane).length = level := by
  have found : ring.planes[plane]? = some (ring.queue plane) := by simp [queue, there]
  exact ⟨found, even.same _ (List.mem_of_getElem? found)⟩

theorem Even.eq_of_empty {other : PlaneRing} (even : ring.Even 0) (even' : other.Even 0)
    (capacity : other.capacity = ring.capacity) (planes : other.planeCount = ring.planeCount) :
    other = ring := by
  have vacant : ∀ {r : PlaneRing}, r.Even 0 → r.planes = List.replicate r.planeCount [] :=
    fun even => List.eq_replicate_of_mem fun queue member =>
      List.length_eq_zero_iff.mp (even.same queue member)
  have same : other.planes = ring.planes := by rw [vacant even', vacant even, planes]
  obtain ⟨_, _⟩ := ring
  obtain ⟨_, _⟩ := other
  exact congr (congrArg PlaneRing.mk capacity) same

theorem Even.readSize (even : ring.Even level) : ring.readSize = level := by
  obtain ⟨queue, last, length⟩ := even.last
  simp [PlaneRing.readSize, last, length]

theorem Even.writeSize (even : ring.Even level) : ring.writeSize = ring.capacity - level := by
  obtain ⟨queue, last, length⟩ := even.last
  simp [PlaneRing.writeSize, last, length]

section UpTo

variable {change : Nat → Bytes → Bytes} {count : Nat}

@[simp] theorem upTo_zero (ring : PlaneRing) (change : Nat → Bytes → Bytes) :
    ring.upTo change 0 = ring := by
  have kept : ring.planes.mapIdx (fun _ queue => queue) = ring.planes := by
    apply List.ext_getElem?
    simp
  simp [upTo, kept]

theorem getElem?_upTo (plane : Nat) :
    (ring.upTo change count).planes[plane]? =
      ring.planes[plane]?.map fun queue => if plane < count then change plane queue else queue := by
  simp [upTo, List.getElem?_mapIdx]

theorem queue_upTo {plane : Nat} (there : plane < ring.planes.length) (below : plane < count) :
    (ring.upTo change count).queue plane = change plane (ring.queue plane) := by
  simp [queue, getElem?_upTo, there, below]

@[simp] theorem length_upTo : (ring.upTo change count).planes.length = ring.planes.length := by
  simp [upTo]

theorem getLast?_upTo (before : count < ring.planes.length) :
    (ring.upTo change count).planes.getLast? = ring.planes.getLast? := by
  rw [List.getLast?_eq_getElem?, List.getLast?_eq_getElem?, getElem?_upTo, length_upTo]
  have last : ¬ ring.planes.length - 1 < count := by omega
  simp only [last, if_false, Option.map_id']

theorem upTo_succ {queue : Bytes} (found : ring.planes[count]? = some queue) :
    { ring.upTo change count with
      planes := (ring.upTo change count).planes.set count (change count queue) } =
        ring.upTo change (count + 1) := by
  have planes : (ring.upTo change count).planes.set count (change count queue) =
      (ring.upTo change (count + 1)).planes := by
    apply List.ext_getElem?
    intro plane
    obtain ⟨there, rfl⟩ := List.getElem?_eq_some_iff.mp found
    rw [List.getElem?_set, getElem?_upTo, getElem?_upTo]
    by_cases here : count = plane
    · subst here
      simp [there]
    · have kept : plane < count + 1 ↔ plane < count := by omega
      simp [here, kept]
  rw [planes]
  rfl

theorem Even.upTo (even : ring.Even level) {next : Nat} (fits : next ≤ ring.capacity)
    (changed : ∀ plane queue, ring.planes[plane]? = some queue →
      (change plane queue).length = next) :
    (ring.upTo change ring.planeCount).Even next where
  somePlanes := by simpa [PlaneRing.upTo] using even.somePlanes
  same queue member := by
    obtain ⟨plane, found⟩ := List.getElem?_of_mem member
    rw [getElem?_upTo] at found
    obtain ⟨old, there, rfl⟩ := Option.map_eq_some_iff.mp found
    have below : plane < ring.planeCount := (List.getElem?_eq_some_iff.mp there).1
    rw [if_pos below]
    exact changed plane old there
  bounded := fits

end UpTo

theorem writeSize_upTo {change : Nat → Bytes → Bytes} {count : Nat}
    (before : count < ring.planes.length) : (ring.upTo change count).writeSize = ring.writeSize := by
  rw [PlaneRing.writeSize, getLast?_upTo before]
  rfl

theorem write?_upTo {block : Nat → Bytes} {plane : Nat} {queue : Bytes}
    (found : ring.planes[plane]? = some queue) (last : (block plane).length ≤ ring.writeSize)
    (fits : queue.length + (block plane).length ≤ ring.capacity) :
    (ring.upTo (fun plane queue => queue ++ block plane) plane).write? (block plane) plane =
      some (ring.upTo (fun plane queue => queue ++ block plane) (plane + 1)) := by
  have there := (List.getElem?_eq_some_iff.mp found).1
  refine write?_eq_some_iff.mpr ⟨queue, ?_, ?_, fits, (upTo_succ found).symm⟩
  · simp [getElem?_upTo, found]
  · rw [writeSize_upTo there]
    exact last

theorem Even.write (even : ring.Even level) {block : Nat → Bytes} {plane : Nat}
    (there : plane < ring.planes.length) (room : level + (block plane).length ≤ ring.capacity) :
    (ring.upTo (fun plane queue => queue ++ block plane) plane).write (block plane) plane =
      (true, ring.upTo (fun plane queue => queue ++ block plane) (plane + 1)) := by
  obtain ⟨found, length⟩ := even.found there
  have last : (block plane).length ≤ ring.writeSize := by
    rw [even.writeSize]
    omega
  rw [PlaneRing.write, write?_upTo found last (length ▸ room)]

theorem Even.read? (even : ring.Even level) {size plane : Nat} (there : plane < ring.planes.length)
    (held : size ≤ level) :
    (ring.upTo (fun _ queue => queue.drop size) plane).read? size plane =
      some ((ring.queue plane).take size, ring.upTo (fun _ queue => queue.drop size) (plane + 1)) := by
  obtain ⟨found, length⟩ := even.found there
  have readSize : (ring.upTo (fun _ queue => queue.drop size) plane).readSize = level := by
    rw [PlaneRing.readSize, getLast?_upTo there]
    exact even.readSize
  refine read?_eq_some_iff.mpr ⟨ring.queue plane, ?_, ?_, ?_, rfl, (upTo_succ found).symm⟩
  · simp [getElem?_upTo, found]
  · rw [readSize]
    exact held
  · rw [length]
    exact held

end PlaneRing

namespace Dispatcher

variable {d : Dispatcher} {ring : PlaneRing} {level : Nat}

/-- With a period in every plane each buffer gets the period of its own plane. -/
theorem copy_even (even : ring.Even level) (held : d.periodBytes ≤ level) (half : Half)
    {plane : Nat} (buffers : List DoubleBuffer) (there : plane + buffers.length ≤ ring.planes.length) :
    d.copy half (ring.upTo (fun _ queue => queue.drop d.periodBytes) plane) plane buffers =
      (ring.upTo (fun _ queue => queue.drop d.periodBytes) (plane + buffers.length),
        buffers.mapIdx fun index buffer =>
          buffer.set half ((ring.queue (plane + index)).take d.periodBytes)) := by
  induction buffers generalizing plane with
  | nil => rfl
  | cons buffer rest ih =>
    rw [List.length_cons] at there
    have taken := @PlaneRing.Even.read? _ _ even d.periodBytes plane (by omega) held
    rw [copy, taken]
    dsimp only
    rw [ih (by omega), List.length_cons, List.mapIdx_cons]
    simp only [Nat.add_assoc, Nat.add_comm 1]
    rfl

theorem serve_held (even : ring.Even level) (held : d.periodBytes ≤ level) (half : Half)
    {buffers : List DoubleBuffer} (counted : buffers.length = ring.planeCount) :
    d.serve half ring buffers =
      ⟨ring.upTo (fun _ queue => queue.drop d.periodBytes) ring.planeCount,
        buffers.mapIdx fun plane buffer =>
          buffer.set half ((ring.queue plane).take d.periodBytes), false⟩ := by
  have copied := @copy_even d ring level even held half 0 buffers
    (by rw [counted, Nat.zero_add]; exact Nat.le_refl _)
  rw [PlaneRing.upTo_zero] at copied
  rw [serve, if_pos (by rw [even.readSize]; exact held), copied]
  simp only [counted, Nat.zero_add]

theorem serve_starved (starved : ring.readSize < d.periodBytes) (half : Half)
    (buffers : List DoubleBuffer) :
    d.serve half ring buffers = ⟨ring, buffers.map (d.silence half), true⟩ := by
  rw [serve, if_neg (Nat.not_le.mpr starved)]

end Dispatcher

end PlanarSink
