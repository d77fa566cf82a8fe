import PlanarSink.Proofs.Ledgers
import PlanarSink.Ring.Backing

/-! Queues of any make under a ring. Where they are first in, first out, the ring answers
every call like the ring of what they hold, and stands for it after the call. -/
namespace PlanarSink

namespace BackedRing

variable {Queue : Type} {held : Queue → Bytes} {room : Queue → Nat}

structure Stands (held : Queue → Bytes) (room : Queue → Nat) (backed : BackedRing Queue)
    (ring : PlaneRing) : Prop where
  contents : backed.contents held = ring
  room : ∀ queue ∈ backed.planes, room queue = backed.capacity

theorem Stands.set {backed : BackedRing Queue} {ring : PlaneRing}
    (stands : backed.Stands held room ring) (plane : Nat) {queue : Queue}
    (same : room queue = backed.capacity) :
    Stands held room { backed with planes := backed.planes.set plane queue }
      { ring with planes := ring.planes.set plane (held queue) } where
  contents := by
    obtain ⟨rfl, _⟩ := stands
    simp [BackedRing.contents, List.map_set]
  room other member := by
    rcases List.mem_or_eq_of_mem_set member with old | rfl
    · exact stands.room other old
    · exact same

end BackedRing

namespace QueueOps.Fifo

variable {Queue : Type} {ops : QueueOps Queue} {held : Queue → Bytes} {room : Queue → Nat}
  {backed : BackedRing Queue} {ring : PlaneRing}

theorem vacant_eq (fifo : ops.Fifo held room) (queue : Queue) :
    ops.vacant queue = room queue - (held queue).length := by
  have sizes := fifo.vacant queue
  rw [fifo.occupied] at sizes
  omega

theorem held_le (fifo : ops.Fifo held room) (queue : Queue) :
    (held queue).length ≤ room queue := by
  have sizes := fifo.vacant queue
  rw [fifo.occupied] at sizes
  omega

theorem readSize (fifo : ops.Fifo held room) (stands : backed.Stands held room ring) :
    ops.readSize backed = ring.readSize := by
  obtain ⟨rfl, _⟩ := stands
  rw [QueueOps.readSize, PlaneRing.readSize, BackedRing.contents, List.getLast?_map]
  cases backed.planes.getLast? with
  | none => rfl
  | some queue => exact fifo.occupied queue

theorem writeSize (fifo : ops.Fifo held room) (stands : backed.Stands held room ring) :
    ops.writeSize backed = ring.writeSize := by
  obtain ⟨rfl, same⟩ := stands
  rw [QueueOps.writeSize, PlaneRing.writeSize, BackedRing.contents, List.getLast?_map]
  cases last : backed.planes.getLast? with
  | none => rfl
  | some queue =>
    have full := same queue (List.mem_of_getLast? last)
    simp [fifo.vacant_eq, full]

theorem write (fifo : ops.Fifo held room) (stands : backed.Stands held room ring) (src : Bytes)
    (plane : Nat) :
    (ops.write backed src plane).1 = (ring.write src plane).1 ∧
      (ops.write backed src plane).2.Stands held room (ring.write src plane).2 := by
  have size := fifo.writeSize stands
  have found : ring.planes[plane]? = backed.planes[plane]?.map held := by
    obtain ⟨rfl, _⟩ := stands
    exact List.getElem?_map
  have capacity : ring.capacity = backed.capacity := by rw [← stands.contents]; rfl
  rw [QueueOps.write, PlaneRing.write, PlaneRing.write?, size, found]
  by_cases last : ring.writeSize < src.length
  · simpa [last] using stands
  · cases there : backed.planes[plane]? with
    | none => simpa [last] using stands
    | some queue =>
      have full := stands.room queue (List.mem_of_getElem? there)
      have most := fifo.held_le queue
      have vacant := fifo.vacant_eq queue
      by_cases fits : src.length ≤ ops.vacant queue
      · obtain ⟨count, after, kept⟩ := fifo.pushed queue src
        have room : (held queue).length + src.length ≤ ring.capacity := by omega
        rw [List.take_of_length_le fits] at after
        have next := stands.set plane (kept.trans full)
        rw [after] at next
        simpa [last, fits, room, count] using next
      · have room : ¬ (held queue).length + src.length ≤ ring.capacity := by omega
        simpa [last, fits, room] using stands

theorem read (fifo : ops.Fifo held room) (stands : backed.Stands held room ring) (dst : Bytes)
    (plane : Nat) :
    (ops.read backed dst plane).1 = (ring.read dst plane).1 ∧
      (ops.read backed dst plane).2.1 = (ring.read dst plane).2.1 ∧
      (ops.read backed dst plane).2.2.Stands held room (ring.read dst plane).2.2 := by
  have size := fifo.readSize stands
  have found : ring.planes[plane]? = backed.planes[plane]?.map held := by
    obtain ⟨rfl, _⟩ := stands
    exact List.getElem?_map
  rw [QueueOps.read, PlaneRing.read, PlaneRing.read?, size, found]
  by_cases last : ring.readSize < dst.length
  · simpa [last] using stands
  · cases there : backed.planes[plane]? with
    | none => simpa [last] using stands
    | some queue =>
      have full := stands.room queue (List.mem_of_getElem? there)
      have occupied := fifo.occupied queue
      by_cases enough : dst.length ≤ (held queue).length
      · obtain ⟨count, filled, after, kept⟩ := fifo.popped queue dst
        rw [occupied, List.drop_eq_nil_of_le enough, List.append_nil] at filled
        have next := stands.set plane (kept.trans full)
        rw [after] at next
        simpa [last, enough, occupied, count, filled] using next
      · simpa [last, enough, occupied] using stands

theorem writeEach (fifo : ops.Fifo held room) (stands : backed.Stands held room ring)
    (src : Bytes) (planes : List Nat) :
    (ops.writeEach backed src planes).1 = (ring.writeEach src planes).1 ∧
      (ops.writeEach backed src planes).2.Stands held room (ring.writeEach src planes).2 := by
  induction planes generalizing backed ring with
  | nil => exact ⟨rfl, stands⟩
  | cons plane rest ih =>
    obtain ⟨same, next⟩ := fifo.write stands src plane
    rw [QueueOps.writeEach, PlaneRing.writeEach]
    generalize ops.write backed src plane = outcome at same next
    obtain ⟨granted, written⟩ := outcome
    cases given : ring.write? src plane with
    | none =>
      rw [PlaneRing.write, given] at same next
      obtain rfl : granted = false := same
      exact ⟨rfl, next⟩
    | some after =>
      rw [PlaneRing.write, given] at same next
      obtain rfl : granted = true := same
      exact ih next

theorem writeAll (fifo : ops.Fifo held room) (stands : backed.Stands held room ring)
    (src : Bytes) :
    (ops.writeAll backed src).1 = (ring.writeAll src).1 ∧
      (ops.writeAll backed src).2.Stands held room (ring.writeAll src).2 := by
  have count : ring.planeCount = backed.planes.length := by
    rw [← stands.contents]
    exact List.length_map held
  rw [QueueOps.writeAll, PlaneRing.writeAll, fifo.writeSize stands, count]
  by_cases last : ring.writeSize < src.length
  · simpa [last] using stands
  · simpa [last] using fifo.writeEach stands src _

theorem dump (fifo : ops.Fifo held room) (stands : backed.Stands held room ring) :
    (ops.dump backed).Stands held room ring.dump where
  contents := by
    obtain ⟨rfl, _⟩ := stands
    simp [QueueOps.dump, PlaneRing.dump, BackedRing.contents, fifo.forgotten]
  room queue member := by
    obtain ⟨old, there, rfl⟩ := List.mem_map.mp member
    exact (fifo.forgotten old).2.trans (stands.room old there)

theorem perform (fifo : ops.Fifo held room) (stands : backed.Stands held room ring)
    (call : RingCall) :
    (ops.perform backed call).1 = (ring.perform call).1 ∧
      (ops.perform backed call).2.Stands held room (ring.perform call).2 := by
  cases call with
  | write src plane =>
    obtain ⟨granted, next⟩ := fifo.write stands src plane
    exact ⟨congrArg RingReply.told granted, next⟩
  | writeAll src =>
    obtain ⟨granted, next⟩ := fifo.writeAll stands src
    exact ⟨congrArg RingReply.told granted, next⟩
  | read dst plane =>
    obtain ⟨granted, filled, next⟩ := fifo.read stands dst plane
    exact ⟨congr (congrArg RingReply.filled granted) filled, next⟩
  | dump => exact ⟨rfl, fifo.dump stands⟩

theorem performAll (fifo : ops.Fifo held room) (stands : backed.Stands held room ring)
    (calls : List RingCall) :
    (ops.performAll backed calls).1 = (ring.performAll calls).1 ∧
      (ops.performAll backed calls).2.Stands held room (ring.performAll calls).2 := by
  induction calls generalizing backed ring with
  | nil => exact ⟨rfl, stands⟩
  | cons call rest ih =>
    obtain ⟨reply, next⟩ := fifo.perform stands call
    obtain ⟨replies, last⟩ := ih next
    exact ⟨congr (congrArg List.cons reply) replies, last⟩

theorem allocated (fifo : ops.Fifo held room) {bytes planes : Nat}
    (allocated : ops.allocate? bytes planes = some backed) :
    backed.Stands held room (.empty bytes planes) := by
  obtain ⟨queues, created, rfl⟩ := Option.map_eq_some_iff.mp allocated
  suffices new : queues.map held = List.replicate planes [] ∧
      ∀ queue ∈ queues, room queue = max bytes 1 from
    ⟨congrArg (PlaneRing.mk _) new.1, new.2⟩
  clear allocated
  induction planes generalizing queues with
  | zero =>
    obtain rfl : [] = queues := by simpa using created
    simp
  | succ planes ih =>
    rw [List.replicate_succ, List.mapM_cons] at created
    obtain ⟨first, one, created⟩ := Option.bind_eq_some_iff.mp created
    obtain ⟨others, more, rest⟩ := Option.bind_eq_some_iff.mp created
    obtain rfl : first :: others = queues := Option.some.inj rest
    obtain ⟨vacant, roomy⟩ := fifo.created _ first one
    obtain ⟨vacants, roomies⟩ := ih others more
    exact ⟨by rw [List.map_cons, vacant, vacants, List.replicate_succ],
      List.forall_mem_cons.mpr ⟨roomy, roomies⟩⟩

end QueueOps.Fifo

/-- The queues under a ring, the ring of what they hold and the books agree. -/
structure Usage.Account {Queue : Type} (usage : Usage) (ops : QueueOps Queue)
    (held : Queue → Bytes) (planes limit : Nat) (backed : BackedRing Queue) : Prop where
  contents : backed.contents held = usage.ring
  readSize : ops.readSize backed = usage.ring.readSize
  writeSize : ops.writeSize backed = usage.ring.writeSize
  balanced : usage.Balanced
  rules : usage.ring.QueueRules planes limit

/-- A ring over queues that are first in, first out, refines the queues of its planes, each on
its own, whatever is asked of it. -/
theorem ring_refines_queues {Queue : Type} {ops : QueueOps Queue} {held : Queue → Bytes}
    {room : Queue → Nat} (fifo : ops.Fifo held room) {bytes planes : Nat} (somePlanes : 1 ≤ planes)
    {backed : BackedRing Queue} (allocated : ops.allocate? bytes planes = some backed)
    (calls : List RingCall) :
    (ops.performAll backed calls).1 = ((PlaneRing.empty bytes planes).performAll calls).1 ∧
      (Usage.afterAll ⟨.empty bytes planes, .blank⟩ calls).Account ops held planes (max bytes 1)
        (ops.performAll backed calls).2 := by
  obtain ⟨replies, stands⟩ := fifo.performAll (fifo.allocated allocated) calls
  have shaped := PlaneRing.Shaped.empty bytes planes
  have balanced := (Usage.balanced_blank bytes planes).afterAll shaped somePlanes calls
  have rules := (shaped.performAll calls).queueRules somePlanes
  refine ⟨replies, ?_⟩
  rw [← Usage.ring_afterAll ⟨.empty bytes planes, .blank⟩] at stands rules
  exact ⟨stands.contents, fifo.readSize stands, fifo.writeSize stands, balanced, rules⟩

structure ListQueue where
  room : Nat
  bytes : Bytes
  fits : bytes.length ≤ room

namespace ListQueue

def ops : QueueOps ListQueue where
  create size := some ⟨size, [], Nat.zero_le size⟩
  occupied queue := queue.bytes.length
  vacant queue := queue.room - queue.bytes.length
  push queue src :=
    let taken := src.take (queue.room - queue.bytes.length)
    (taken.length, ⟨queue.room, queue.bytes ++ taken, by
      have fits := queue.fits
      simp only [taken, List.length_append, List.length_take]
      omega⟩)
  pop queue dst :=
    let taken := queue.bytes.take dst.length
    (taken.length, taken ++ dst.drop taken.length, ⟨queue.room, queue.bytes.drop dst.length, by
      have fits := queue.fits
      rw [List.length_drop]
      omega⟩)
  forget queue := ⟨queue.room, [], Nat.zero_le _⟩

theorem fifo : ops.Fifo bytes room where
  created size queue given := by
    obtain rfl := Option.some.inj given
    exact ⟨rfl, rfl⟩
  occupied _ := rfl
  vacant queue := Nat.add_sub_cancel' queue.fits
  pushed queue src := by simp [ops, Nat.min_comm]
  popped queue dst := by
    have rest : dst.drop (min dst.length queue.bytes.length) = dst.drop queue.bytes.length := by
      rcases Nat.le_total dst.length queue.bytes.length with less | more
      · rw [Nat.min_eq_left less, List.drop_length, List.drop_eq_nil_of_le less]
      · rw [Nat.min_eq_right more]
    exact ⟨List.length_take, by simp [ops, rest], rfl, rfl⟩
  forgotten _ := ⟨rfl, rfl⟩

end ListQueue

/-- Three planes over lists, filled unevenly: a write to all of them gets no further than the
first, and a read is refused for the bytes that the last one does not hold. -/
theorem ring_refines_queues_list :
    ListQueue.ops.Fifo ListQueue.bytes ListQueue.room ∧ 1 ≤ 3 ∧
      ∃ backed, ListQueue.ops.allocate? 4 3 = some backed ∧
        let calls := [.writeAll [4], .dump, .write [1, 2, 3] 1, .write [9] 2, .writeAll [5, 6],
          .read [0] 0, .read [0, 0] 1]
        (ListQueue.ops.performAll backed calls).1 =
            ((PlaneRing.empty 4 3).performAll calls).1 ∧
          (Usage.afterAll ⟨.empty 4 3, .blank⟩ calls).Account ListQueue.ops ListQueue.bytes 3 4
            (ListQueue.ops.performAll backed calls).2 :=
  ⟨ListQueue.fifo, by decide, _, rfl, ring_refines_queues ListQueue.fifo (by decide) rfl _⟩

end PlanarSink
