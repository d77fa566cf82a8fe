import PlanarSink.Proofs.Standstill
import PlanarSink.Proofs.WorkingBuffer

/-! A sink that was drained and started again, whatever was done with it before. What is left
of that shows in nothing: it goes on as one that was just connected on the same terms. -/
namespace PlanarSink

/-- What a period leaves is told by the ring alone, whatever the buffers held. -/
theorem Dispatcher.serve_determined (d : Dispatcher) (fits : d.periodBytes < Size.bound)
    {ring : PlaneRing} {level : Nat} (even : ring.Even level) (half : Half) :
    ∃ rest silent heard, ∀ buffers : List DoubleBuffer, buffers.length = ring.planeCount →
      (∀ buffer ∈ buffers, (buffer.get half).length = d.periodBytes) →
      (d.serve half ring buffers).ring = rest ∧ (d.serve half ring buffers).underrun = silent ∧
        (d.serve half ring buffers).buffers.map (·.get half) = heard := by
  rcases Nat.lt_or_ge level d.periodBytes with starved | held
  · refine ⟨ring, true, List.replicate ring.planeCount (Silence.bytes d.sampleType d.periodBytes),
      fun buffers counted whole => ?_⟩
    rw [← even.readSize] at starved
    rw [serve_starved starved]
    refine ⟨rfl, rfl, ?_⟩
    rw [List.map_map, ← counted, List.eq_replicate_iff]
    refine ⟨List.length_map _, fun bytes member => ?_⟩
    obtain ⟨buffer, there, rfl⟩ := List.mem_map.mp member
    have length := whole buffer there
    rw [Function.comp_apply, silence, DoubleBuffer.get_set, Silence.fill_eq, length]
    rw [length]
    exact Size.le_saturatingMul fits
  · refine ⟨ring.upTo (fun _ queue => queue.drop d.periodBytes) ring.planeCount, false,
      ring.planes.map (·.take d.periodBytes), fun buffers counted _ => ?_⟩
    rw [serve_held even held half counted]
    refine ⟨rfl, rfl, ?_⟩
    rw [PlaneRing.planeCount] at counted
    apply List.ext_getElem
    · simp [counted]
    · intro plane inside _
      simp only [List.length_map, List.length_mapIdx, counted] at inside
      simp [PlaneRing.queue, inside]

namespace Simulated

variable {s : Simulated}

theorem start_of_furnished (furnished : s.buffers ≠ []) {thread : Bool}
    (clocked : s.profile.clock = true → thread = true) :
    s.start thread = if s.profile.failAt = some .start then (.error FailPoint.start.status, s)
      else (.ok (), if s.running then s else { s with running := true, nextHalf := .first }) := by
  have served : ¬(s.profile.clock && !thread) = true := by simpa using clocked
  rw [start, guarded_eq, if_neg furnished, if_neg served]
  cases s.running <;> rfl

end Simulated

namespace Coupling

variable {c d : Coupling} {level : Nat}

/-- A coupling whose planes keep step, and whose driver gets a thread for its clock. -/
structure Regular (c : Coupling) : Prop where
  aligned : ∃ level, c.Aligned level
  clocked : c.driver.profile.clock = true → c.thread = true

/-- Couplings that differ in no more than what does not show. -/
structure Alike (c d : Coupling) : Prop where
  session : c.session.Alike d.session
  profile : d.driver.profile = c.driver.profile
  registered : d.driver.registered = c.driver.registered
  running : d.driver.running = c.driver.running
  nextHalf : d.driver.nextHalf = c.driver.nextHalf

/-- What stays of a coupling while it is handled. -/
structure Kin (c d : Coupling) : Prop where
  terms : d.session.terms = c.session.terms
  capacity : d.session.ring.capacity = c.session.ring.capacity
  profile : d.driver.profile = c.driver.profile
  registered : d.driver.registered = c.driver.registered

theorem Kin.trans {e : Coupling} (kin : c.Kin d) (kin' : d.Kin e) : c.Kin e :=
  ⟨kin'.terms.trans kin.terms, kin'.capacity.trans kin.capacity, kin'.profile.trans kin.profile,
    kin'.registered.trans kin.registered⟩

theorem Regular.handle (regular : c.Regular) (handling : Handling) :
    (c.handle handling).Regular ∧ c.Kin (c.handle handling) := by
  obtain ⟨level, aligned⟩ := regular.aligned
  obtain ⟨after, _, _, capacity⟩ := aligned.handle handling
  obtain ⟨profile, registered⟩ := c.profile_handle handling
  refine ⟨⟨⟨_, after⟩, fun clock => ?_⟩, ⟨c.terms_handle handling, capacity, profile, registered⟩⟩
  rw [c.thread_handle handling]
  exact regular.clocked (profile ▸ clock)

def taken (c : Coupling) : Handling → Nat
  | .addPackets (src :: _) frames offset => (c.session.addPackets src.bytes frames offset).1
  | _ => 0

/-- The half that is asked for, and what each plane has there then. -/
def played (c : Coupling) : Handling → Option (Half × List Bytes)
  | .tick => c.ticked.map fun (half, next) =>
    (half, next.driver.buffers.map fun buffer => buffer.get half)
  | _ => none

def state (c : Coupling) : SinkState :=
  if c.session.running then .running else .stopped

def glimpse (c : Coupling) (handling : Handling) : Glimpse :=
  let next := c.handle handling
  { taken := c.taken handling
    played := c.played handling
    underruns := next.session.underruns - c.session.underruns
    readSize := next.session.ring.readSize
    writeSize := next.session.ring.writeSize
    state := some next.state }

theorem ticked_of_running (c : Coupling) (asked : (c.driver.running && c.driver.registered) = true) :
    ∃ switches position, c.ticked = some (c.driver.nextHalf, Coupling.served
      { c with driver := { c.driver with
        nextHalf := c.driver.nextHalf.other, switches, position } } c.driver.nextHalf) := by
  rw [ticked, Simulated.tick, if_pos asked]
  exact ⟨_, _, rfl⟩

theorem handle_tick {half : Half} {next : Coupling} (asked : c.ticked = some (half, next)) :
    c.handle .tick = next := by
  rw [handle, asked, Option.elim_some]

theorem underruns_handle (c : Coupling) {handling : Handling} (idle : handling ≠ .tick) :
    (c.handle handling).session.underruns = c.session.underruns := by
  cases handling with
  | addPackets data frames offset =>
    cases data with
    | nil => rfl
    | cons src others =>
      obtain ⟨scratch, ring, done⟩ := c.session.addPackets_frame src.bytes frames offset
      rw [handle, done]
  | tick => exact absurd rfl idle
  | stop | drain => rfl
  | start =>
    obtain ⟨running, session⟩ := c.session_started
    rw [handle, session]

/-- Alike couplings that count as many periods of silence, take as much and play the same
are seen alike. -/
theorem Alike.glimpse_eq {handling : Handling} (alike : (c.handle handling).Alike (d.handle handling))
    (taken : d.taken handling = c.taken handling) (played : d.played handling = c.played handling)
    (counted : (d.handle handling).session.underruns - d.session.underruns =
      (c.handle handling).session.underruns - c.session.underruns) :
    d.glimpse handling = c.glimpse handling := by
  rw [glimpse, glimpse, taken, played, counted, state, state, alike.session.ring,
    alike.session.running]

theorem Alike.glimpse_idle {handling : Handling} (idle : handling ≠ .tick)
    (alike : (c.handle handling).Alike (d.handle handling))
    (taken : d.taken handling = c.taken handling) : d.glimpse handling = c.glimpse handling := by
  refine alike.glimpse_eq taken ?_ ?_
  · cases handling with
    | tick => exact absurd rfl idle
    | addPackets | stop | start | drain => rfl
  · rw [c.underruns_handle idle, d.underruns_handle idle, Nat.sub_self, Nat.sub_self]

theorem Alike.served (alike : c.Alike d) (aligned : c.Aligned level) {other : Nat}
    (aligned' : d.Aligned other) (half : Half) :
    (c.served half).Alike (d.served half) ∧
      (d.served half).driver.buffers.map (·.get half) =
        (c.served half).driver.buffers.map (·.get half) ∧
      (d.served half).session.underruns - d.session.underruns =
        (c.served half).session.underruns - c.session.underruns := by
  obtain ⟨rest, silent, heard, determined⟩ :=
    c.session.dispatcher.serve_determined aligned.period aligned.session.even half
  obtain ⟨ring, underrun, played⟩ := determined c.driver.buffers
    (aligned.buffers.trans aligned.session.planes.symm) fun buffer there =>
      aligned.halves buffer there half
  obtain ⟨ring', underrun', played'⟩ := determined d.driver.buffers
    ((aligned'.buffers.trans alike.session.planes).trans aligned.session.planes.symm)
    fun buffer there => by
      rw [← alike.session.dispatcher]
      exact aligned'.halves buffer there half
  simp only [Coupling.served, alike.session.dispatcher, alike.session.ring]
  refine ⟨⟨⟨alike.session.running, ring'.trans ring.symm, alike.session.terms⟩, alike.profile,
    alike.registered, alike.running, alike.nextHalf⟩, played'.trans played.symm, ?_⟩
  simp only [Session.fed, underrun, underrun', Nat.add_sub_cancel_left]

theorem Alike.ticked (alike : c.Alike d) (aligned : c.Aligned level) {other : Nat}
    (aligned' : d.Aligned other) :
    (c.handle .tick).Alike (d.handle .tick) ∧ d.glimpse .tick = c.glimpse .tick := by
  have same : (d.driver.running && d.driver.registered) =
      (c.driver.running && c.driver.registered) := by rw [alike.running, alike.registered]
  cases asked : c.driver.running && c.driver.registered with
  | false =>
    rw [asked] at same
    have still : c.ticked = none := by simp [Coupling.ticked, Simulated.tick, asked]
    have still' : d.ticked = none := by simp [Coupling.ticked, Simulated.tick, same]
    have after : (c.handle .tick).Alike (d.handle .tick) := by
      rw [Coupling.handle, Coupling.handle, still, still']
      exact alike
    refine ⟨after, after.glimpse_eq rfl ?_ ?_⟩
    · rw [played, played, still, still']
    · simp [Coupling.handle, still, still']
  | true =>
    obtain ⟨switches, position, done⟩ := c.ticked_of_running asked
    obtain ⟨switches', position', done'⟩ := d.ticked_of_running (same.trans asked)
    rw [alike.nextHalf] at done'
    have before : Alike
        { c with driver := { c.driver with
          nextHalf := c.driver.nextHalf.other, switches, position } }
        { d with driver := { d.driver with
          nextHalf := c.driver.nextHalf.other, switches := switches', position := position' } } :=
      ⟨alike.session, alike.profile, alike.registered, alike.running, rfl⟩
    obtain ⟨after, heard, counted⟩ := before.served (aligned.change rfl rfl rfl rfl)
      (aligned'.change rfl rfl rfl rfl) c.driver.nextHalf
    rw [← handle_tick done, ← handle_tick done'] at after counted
    refine ⟨after, after.glimpse_eq rfl ?_ counted⟩
    rw [played, played, done, done', Option.map_some, Option.map_some]
    exact congrArg (fun heard => some (c.driver.nextHalf, heard)) heard

theorem Alike.halted (alike : c.Alike d) : c.halted.Alike d.halted := by
  obtain ⟨⟨noted, ring, terms⟩, profile, registered, running, nextHalf⟩ := alike
  unfold Coupling.halted
  rw [noted]
  cases c.session.running with
  | false => exact ⟨⟨rfl, ring, terms⟩, profile, registered, running, nextHalf⟩
  | true =>
    simp only [if_true, Simulated.stop, Simulated.guarded_eq, profile]
    split
    · exact ⟨⟨rfl, ring, terms⟩, profile, registered, running, nextHalf⟩
    · exact ⟨⟨rfl, ring, terms⟩, profile, registered, rfl, nextHalf⟩

theorem Aligned.furnished (aligned : c.Aligned level) : c.driver.buffers ≠ [] := by
  intro none
  have planes := aligned.session.planes
  rw [← aligned.buffers, none, List.length_nil] at planes
  exact aligned.session.even.somePlanes (List.length_eq_zero_iff.mp planes)

theorem Alike.started (alike : c.Alike d) (regular : c.Regular) (regular' : d.Regular) :
    c.started.Alike d.started := by
  have whole := alike
  obtain ⟨_, aligned⟩ := regular.aligned
  obtain ⟨_, aligned'⟩ := regular'.aligned
  obtain ⟨⟨noted, ring, terms⟩, profile, registered, running, nextHalf⟩ := alike
  unfold Coupling.started
  rw [noted, Simulated.start_of_furnished aligned.furnished regular.clocked,
    Simulated.start_of_furnished aligned'.furnished regular'.clocked, profile, running]
  split
  · exact whole
  by_cases fails : c.driver.profile.failAt = some .start
  · simpa only [if_pos fails] using whole
  simp only [if_neg fails]
  split
  · exact ⟨⟨rfl, ring, terms⟩, profile, registered, running, nextHalf⟩
  · exact ⟨⟨rfl, ring, terms⟩, rfl, registered, rfl, rfl⟩

theorem Alike.handle (alike : c.Alike d) (regular : c.Regular) (regular' : d.Regular)
    (handling : Handling) :
    (c.handle handling).Alike (d.handle handling) ∧ d.glimpse handling = c.glimpse handling := by
  obtain ⟨level, aligned⟩ := regular.aligned
  obtain ⟨other, aligned'⟩ := regular'.aligned
  cases handling with
  | addPackets data frames offset =>
    cases data with
    | nil =>
      have after : (c.handle (.addPackets [] frames offset)).Alike
          (d.handle (.addPackets [] frames offset)) := alike
      exact ⟨after, after.glimpse_idle Handling.noConfusion rfl⟩
    | cons src others =>
      obtain ⟨taken, session⟩ := alike.session.addPackets aligned.session src.bytes frames
        offset
      have after : (c.handle (.addPackets (src :: others) frames offset)).Alike
          (d.handle (.addPackets (src :: others) frames offset)) :=
        ⟨session, alike.profile, alike.registered, alike.running, alike.nextHalf⟩
      exact ⟨after, after.glimpse_idle Handling.noConfusion taken⟩
  | tick => exact alike.ticked aligned aligned'
  | stop =>
    have after : (c.handle .stop).Alike (d.handle .stop) := alike.halted
    exact ⟨after, after.glimpse_idle Handling.noConfusion rfl⟩
  | start =>
    have after : (c.handle .start).Alike (d.handle .start) := alike.started regular regular'
    exact ⟨after, after.glimpse_idle Handling.noConfusion rfl⟩
  | drain =>
    have stopped := alike.halted
    have after : (c.handle .drain).Alike (d.handle .drain) :=
      ⟨⟨stopped.session.running, congrArg PlaneRing.dump alike.session.ring, stopped.session.terms⟩,
        stopped.profile, stopped.registered, stopped.running, stopped.nextHalf⟩
    exact ⟨after, after.glimpse_idle Handling.noConfusion rfl⟩

/-- A coupling as connecting leaves it: with nothing queued it runs and starts at the first
half. -/
structure Fresh (d : Coupling) : Prop where
  aligned : d.Aligned 0
  clocked : d.driver.profile.clock = true → d.thread = true
  running : d.session.running = true
  delivers : d.driver.running = true
  nextHalf : d.driver.nextHalf = .first

theorem Fresh.regular (fresh : d.Fresh) : d.Regular :=
  ⟨⟨0, fresh.aligned⟩, fresh.clocked⟩

theorem Fresh.ring_dump (fresh : d.Fresh) (kin : d.Kin c) (aligned : c.Aligned level) :
    d.session.ring = c.session.ring.dump := by
  have drained := aligned.drained
  have planes : c.session.geometry.planes = d.session.geometry.planes :=
    congrArg (·.1.planes) kin.terms
  have counted : d.session.ring.planeCount = c.session.ring.dump.planeCount :=
    fresh.aligned.session.planes.trans (planes.symm.trans drained.session.planes.symm)
  exact drained.session.even.eq_of_empty fresh.aligned.session.even kin.capacity.symm counted

theorem InStep.drained (inStep : c.InStep) (yields : c.driver.stubborn = false) :
    (c.handle .drain).driver.running = false := by
  rw [(inStep.handle .drain).running, c.stubborn_handle, yields]
  rfl

theorem Regular.started_eq (regular : c.Regular) (still : c.session.running = false)
    (halted : c.driver.running = false) (starts : c.driver.profile.failAt ≠ some .start) :
    c.started =
      { c with
        session := { c.session with running := true }
        driver := { c.driver with running := true, nextHalf := .first } } := by
  obtain ⟨_, aligned⟩ := regular.aligned
  rw [Coupling.started, still,
    Simulated.start_of_furnished aligned.furnished regular.clocked, if_neg starts, halted]
  rfl

/-- Drained and started again, a coupling is like a fresh one on the same terms, whatever was
done with it, as long as its driver does not fail to be stopped or started. -/
theorem Fresh.restarted (fresh : d.Fresh) (kin : d.Kin c) (regular : c.Regular)
    (inStep : c.InStep) (starts : d.driver.profile.failAt ≠ some .start)
    (yields : d.driver.profile.failAt ≠ some .stop) :
    ((c.handle .drain).handle .start).Alike d := by
  obtain ⟨level, aligned⟩ := regular.aligned
  obtain ⟨drained, kin'⟩ := regular.handle .drain
  obtain ⟨terms, _, profile, registered⟩ := kin.trans kin'
  have halted : (c.handle .drain).driver.running = false := by
    refine inStep.drained ?_
    rw [Simulated.stubborn, kin.profile]
    simpa using yields
  rw [← profile] at starts
  have restarted : (c.handle .drain).handle .start = _ :=
    drained.started_eq rfl halted starts
  rw [restarted]
  exact ⟨⟨fresh.running, fresh.ring_dump kin aligned, terms.symm⟩, profile.symm, registered.symm,
    fresh.delivers, fresh.nextHalf⟩

end Coupling

end PlanarSink
