import PlanarSink.Proofs.Coupling
import PlanarSink.Proofs.Queueing

/-! Planes that keep step. Whatever a connected sink is fed and however its driver is told to
go on, all planes of the ring hold as much, and each has a double buffer of a period on the
driver; so a period fills the same half of every plane and no other. -/
namespace PlanarSink

namespace Simulated

theorem output_index (s : Simulated) (plane : Nat) (half : Half) :
    s.output plane half.index = (s.buffers[plane]?.map (·.get half)).getD [] := by
  rw [output, Half.ofIndex?_index]
  cases s.buffers[plane]? <;> rfl

theorem tick_of_still {s : Simulated} (still : s.running = false) : s.tick = none := by
  simp [tick, still]

theorem buffers_tick {s next : Simulated} {announcement : Announcement}
    (asked : s.tick = some (announcement, next)) : next.buffers = s.buffers := by
  unfold tick at asked
  split at asked
  · obtain ⟨_, rfl⟩ := Prod.mk.inj (Option.some.inj asked)
    rfl
  · contradiction

end Simulated

namespace Coupling

variable {c : Coupling} {level : Nat}

/-- The driver after its session stopped it, or left it alone as it stood still. -/
theorem driver_halted (c : Coupling) :
    c.halted.driver = c.driver ∨ c.halted.driver = c.driver.halt := by
  unfold halted
  split
  · rcases c.driver.stop_cases with ⟨_, done⟩ | ⟨_, done⟩ <;> simp [done]
  · exact .inl rfl

/-- Whether its session started it or was refused to, the driver stays as it was or starts over
at the first half. -/
theorem driver_started (c : Coupling) :
    c.started.driver = c.driver ∨
      ∃ running, c.started.driver = { c.driver with running, nextHalf := .first } := by
  unfold started
  split
  · exact .inl rfl
  rcases c.driver.start_cases c.thread with ⟨_, done⟩ | ⟨_, _, _, done⟩ | ⟨_, _, _, done⟩
  · rw [done]
    exact .inl rfl
  · rw [done]
    exact .inr ⟨c.driver.running, rfl⟩
  · rw [done]
    dsimp only
    split
    · exact .inl rfl
    · exact .inr ⟨true, rfl⟩

theorem buffers_halted (c : Coupling) : c.halted.driver.buffers = c.driver.buffers := by
  rcases c.driver_halted with done | done <;> rw [done]
  rfl

theorem buffers_started (c : Coupling) : c.started.driver.buffers = c.driver.buffers := by
  rcases c.driver_started with done | ⟨_, done⟩ <;> rw [done]

/-- A session with level planes on a driver that has a double buffer of a period for each. -/
structure Aligned (c : Coupling) (level : Nat) : Prop where
  session : c.session.Aligned level
  buffers : c.driver.buffers.length = c.session.geometry.planes
  halves : ∀ buffer ∈ c.driver.buffers, ∀ half,
    (buffer.get half).length = c.session.dispatcher.periodBytes
  period : c.session.dispatcher.periodBytes < Size.bound

namespace Aligned

theorem plane (aligned : c.Aligned level) {plane : Nat}
    (there : plane < c.session.geometry.planes) :
    plane < c.session.ring.planes.length ∧
      ∃ buffer, c.driver.buffers[plane]? = some buffer ∧
        ∀ half, (buffer.get half).length = c.session.dispatcher.periodBytes := by
  have queues := aligned.session.planes
  have buffers := aligned.buffers
  refine ⟨Nat.lt_of_lt_of_eq there queues.symm, c.driver.buffers[plane],
    List.getElem?_eq_getElem _, ?_⟩
  exact aligned.halves _ (List.getElem_mem _)

theorem length_output (aligned : c.Aligned level) {plane : Nat}
    (there : plane < c.session.geometry.planes) (half : Half) :
    (c.driver.output plane half.index).length = c.session.dispatcher.periodBytes := by
  obtain ⟨_, buffer, found, length⟩ := aligned.plane there
  rw [Simulated.output_index, found]
  exact length half

theorem change (aligned : c.Aligned level) {next : Coupling}
    (codec : next.session.codec = c.session.codec)
    (geometry : next.session.geometry = c.session.geometry)
    (ring : next.session.ring = c.session.ring)
    (buffers : next.driver.buffers = c.driver.buffers) : next.Aligned level := by
  refine ⟨⟨?_, ?_, ?_, ?_⟩, ?_, ?_, ?_⟩
  · rw [codec, geometry]
    exact aligned.session.resolved
  · rw [ring]
    exact aligned.session.even
  · rw [ring, geometry]
    exact aligned.session.planes
  · rw [ring]
    exact aligned.session.addressable
  · rw [buffers, geometry]
    exact aligned.buffers
  · rw [buffers, Session.dispatcher, geometry]
    exact aligned.halves
  · rw [Session.dispatcher, geometry]
    exact aligned.period

/-- With a period in the ring each plane's half gets the oldest one of its queue. -/
theorem served_held (aligned : c.Aligned level) (held : c.session.dispatcher.periodBytes ≤ level)
    (half : Half) :
    (c.served half).Aligned (level - c.session.dispatcher.periodBytes) ∧
      (∀ plane < c.session.geometry.planes,
        (c.served half).driver.output plane half.index ++ (c.served half).session.ring.queue plane =
          c.session.ring.queue plane) ∧
      (c.served half).session.underruns = c.session.underruns ∧
      (c.served half).session.ring.capacity = c.session.ring.capacity := by
  have even := aligned.session.even
  have served := Dispatcher.serve_held even held half
    (aligned.buffers.trans aligned.session.planes.symm)
  simp only [Coupling.served, served]
  refine ⟨⟨⟨aligned.session.resolved, even.upTo ?_ ?_,
    PlaneRing.length_upTo.trans aligned.session.planes, aligned.session.addressable⟩, ?_, ?_,
    aligned.period⟩, ?_, rfl, rfl⟩
  · exact Nat.le_trans (Nat.sub_le _ _) even.bounded
  · intro plane queue found
    rw [List.length_drop, even.same queue (List.mem_of_getElem? found)]
  · rw [List.length_mapIdx]
    exact aligned.buffers
  · intro buffer member
    obtain ⟨plane, there, rfl⟩ := List.mem_mapIdx.mp member
    apply DoubleBuffer.length_get_set
    · exact aligned.halves _ (List.getElem_mem there)
    · rw [aligned.buffers] at there
      rw [List.length_take, (even.found (aligned.plane there).1).2]
      exact Nat.min_eq_left held
  · intro plane there
    obtain ⟨inside, buffer, found, _⟩ := aligned.plane there
    have rest : (c.session.ring.upTo (fun _ queue => queue.drop c.session.dispatcher.periodBytes)
        c.session.ring.planeCount).queue plane =
          (c.session.ring.queue plane).drop c.session.dispatcher.periodBytes :=
      PlaneRing.queue_upTo inside inside
    rw [Simulated.output_index, List.getElem?_mapIdx, found, Session.fed, rest]
    simp

/-- With less in the ring each plane's half gets a period of silence. -/
theorem served_starved (aligned : c.Aligned level)
    (starved : level < c.session.dispatcher.periodBytes) (half : Half) :
    (c.served half).Aligned level ∧ (c.served half).session.ring = c.session.ring ∧
      (∀ plane < c.session.geometry.planes,
        (c.served half).driver.output plane half.index =
          Silence.bytes c.session.geometry.sampleType c.session.dispatcher.periodBytes) ∧
      (c.served half).session.underruns = c.session.underruns + 1 := by
  have even := aligned.session.even
  rw [← even.readSize] at starved
  simp only [Coupling.served, Dispatcher.serve_starved starved]
  refine ⟨⟨⟨aligned.session.resolved, even, aligned.session.planes, aligned.session.addressable⟩,
    ?_, ?_, aligned.period⟩, rfl, ?_, rfl⟩
  · rw [List.length_map]
    exact aligned.buffers
  · intro buffer member
    obtain ⟨old, there, rfl⟩ := List.mem_map.mp member
    apply DoubleBuffer.length_get_set (aligned.halves old there)
    rw [Silence.length_fill]
    exact aligned.halves old there half
  · intro plane there
    obtain ⟨_, buffer, found, length⟩ := aligned.plane there
    have reach : (buffer.get half).length ≤ Size.saturatingMul c.session.dispatcher.periodFrames
        c.session.dispatcher.sampleType.bytes := by
      rw [length half]
      exact Size.le_saturatingMul aligned.period
    simp only [Simulated.output_index, List.getElem?_map, found, Option.map_some, Option.getD_some,
      Dispatcher.silence, DoubleBuffer.get_set]
    rw [Silence.fill_eq reach, length half]
    rfl

theorem served_other (aligned : c.Aligned level) (half : Half) (plane : Nat) :
    (c.served half).driver.output plane half.other.index =
      c.driver.output plane half.other.index := by
  simp only [Simulated.output_index, Coupling.served]
  rcases Nat.lt_or_ge level c.session.dispatcher.periodBytes with starved | held
  · rw [← aligned.session.even.readSize] at starved
    rw [Dispatcher.serve_starved starved]
    cases found : c.driver.buffers[plane]? <;> simp [found, Dispatcher.silence]
  · rw [Dispatcher.serve_held aligned.session.even held half
      (aligned.buffers.trans aligned.session.planes.symm)]
    cases found : c.driver.buffers[plane]? <;> simp [found]

/-- A period is served, whatever is queued, and the planes keep step. -/
theorem served (aligned : c.Aligned level) (half : Half) :
    ∃ after, (c.served half).Aligned after := by
  rcases Nat.lt_or_ge level c.session.dispatcher.periodBytes with starved | held
  · exact ⟨_, (aligned.served_starved starved half).1⟩
  · exact ⟨_, (aligned.served_held held half).1⟩

/-- A period is what every plane has queued for it, or silence for which nothing is taken. -/
theorem served_cases (aligned : c.Aligned level) (half : Half) :
    (c.served half).session.ring.capacity = c.session.ring.capacity ∧
      ((∀ plane < c.session.geometry.planes,
        (c.served half).driver.output plane half.index ++ (c.served half).session.ring.queue plane =
          c.session.ring.queue plane) ∨
      (c.served half).session.ring = c.session.ring ∧
        ∀ plane < c.session.geometry.planes, (c.served half).driver.output plane half.index =
          Silence.bytes c.session.geometry.sampleType c.session.dispatcher.periodBytes) := by
  rcases Nat.lt_or_ge level c.session.dispatcher.periodBytes with starved | held
  · obtain ⟨_, ring, silent, _⟩ := aligned.served_starved starved half
    exact ⟨by rw [ring], .inr ⟨ring, silent⟩⟩
  · obtain ⟨_, taken, _, capacity⟩ := aligned.served_held held half
    exact ⟨capacity, .inl taken⟩

theorem ticked (aligned : c.Aligned level) {half : Half} {next : Coupling}
    (asked : c.ticked = some (half, next)) :
    ∃ driver, driver.buffers = c.driver.buffers ∧ Aligned { c with driver } level ∧
      next = { c with driver }.served half := by
  obtain ⟨⟨announcement, driver⟩, delivered, same⟩ := Option.map_eq_some_iff.mp asked
  obtain ⟨rfl, rfl⟩ := Prod.mk.inj same
  have buffers := Simulated.buffers_tick delivered
  exact ⟨driver, buffers, aligned.change rfl rfl rfl buffers, rfl⟩

theorem addPackets (aligned : c.Aligned level) (src : Bytes) (frames offset : Nat) :
    ∃ after, Aligned { c with session := (c.session.addPackets src frames offset).2 } after := by
  obtain ⟨scratch, ring, after, done, _, session⟩ := aligned.session.addPackets src frames offset
  rw [done]
  exact ⟨after, session, aligned.buffers, aligned.halves, aligned.period⟩

theorem halted (aligned : c.Aligned level) : c.halted.Aligned level :=
  aligned.change rfl rfl rfl c.buffers_halted

theorem drained (aligned : c.Aligned level) : (c.handle .drain).Aligned 0 := by
  refine ⟨⟨aligned.session.resolved, aligned.session.even.dump, ?_, aligned.session.addressable⟩,
    aligned.halted.buffers, aligned.halted.halves, aligned.period⟩
  exact (List.length_map _).trans aligned.session.planes

theorem started (aligned : c.Aligned level) : c.started.Aligned level := by
  obtain ⟨running, session⟩ := c.session_started
  apply aligned.change
  · rw [session]
  · rw [session]
  · rw [session]
  · exact c.buffers_started

end Aligned

end Coupling

theorem Session.Engagement.aligned {thread : Bool} {options : SinkOptions} {format : StreamFormat}
    {profile : Profile} {agreement : Agreement}
    (engagement : Session.Engagement thread options format profile agreement) (driver : Nat) :
    Coupling.Aligned ⟨Session.fresh options format driver agreement,
      Session.engaged options format profile agreement, thread⟩ 0 := by
  have agreed := engagement.agreed
  have periodBytes : agreement.periodBytes ≤ Size.longest :=
    Nat.le_trans (Nat.le_max_right _ _) engagement.inMemory.block
  refine ⟨⟨⟨_, agreed.codec⟩, PlaneRing.even_empty agreed.somePlanes, ?_, ?_⟩, ?_, ?_, ?_⟩
  · exact List.length_replicate
  · exact Nat.max_lt.mpr ⟨Nat.lt_of_le_of_lt engagement.inMemory.ring (by decide), by decide⟩
  · exact List.length_replicate
  · intro buffer member half
    rw [(List.mem_replicate.mp member).2]
    cases half <;> exact List.length_replicate
  · exact Nat.lt_of_le_of_lt periodBytes (by decide)

end PlanarSink
