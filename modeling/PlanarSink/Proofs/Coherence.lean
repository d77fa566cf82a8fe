import PlanarSink.Driver.Event
import PlanarSink.Driver.Lending
import PlanarSink.Proofs.DriverCalls

/-! A simulated driver is coherent whatever happens to it, and a call that it refuses leaves it
as it was, but for a start that fails for want of a thread. The one call that stops the driver
before it looks for buffers depends on the first for the second: a driver without buffers is not
running. -/
namespace PlanarSink.Simulated

/-- A running driver has buffers, a driver with buffers has callbacks, and the halves of its
buffers are as long as a period of the samples it has now. -/
structure Coherent (s : Simulated) : Prop where
  furnished : s.running = true → s.buffers ≠ []
  registered : s.buffers ≠ [] → s.registered = true
  halves : ∀ buffer ∈ s.buffers, ∀ half, (buffer.get half).length = s.halfBytes s.period

variable {s : Simulated}

theorem coherent_boot (profile : Profile) : (boot profile).Coherent where
  furnished running := Bool.noConfusion running
  registered some := absurd rfl some
  halves _ member := absurd member List.not_mem_nil

structure Unclocked (s : Simulated) (thread : Bool) (c : DriverCall) (after : Simulated) : Prop where
  start : c = .start
  clock : s.profile.clock = true
  noThread : thread = false
  rewound : after = { s with nextHalf := .first }

/-- A refused call leaves the driver as it was, has stopped it and found no buffers, or could not
start its clock. -/
theorem after_refused {thread : Bool} {c : DriverCall} {fault : c.Fault}
    (refused : (s.perform thread c).1 = .error fault) :
    (s.perform thread c).2 = s ∨ (s.buffers = [] ∧ (s.perform thread c).2 = s.halt) ∨
      s.Unclocked thread c (s.perform thread c).2 := by
  cases c with
  | setIoMode mode =>
    rw [perform] at refused ⊢
    rcases s.setIoMode_cases mode with ⟨_, done⟩ | ⟨done, _⟩ <;> rw [done] at refused ⊢
    · exact .inl rfl
    · contradiction
  | setRate rate =>
    rw [perform] at refused ⊢
    rcases s.setRate_cases rate with ⟨_, done⟩ | ⟨done, _⟩ <;> rw [done] at refused ⊢
    · exact .inl rfl
    · contradiction
  | createBuffers infos period =>
    rw [perform] at refused ⊢
    rcases s.createBuffers_cases infos period with ⟨_, done, _⟩ | ⟨done, _⟩ <;>
      rw [done] at refused ⊢
    · exact .inl rfl
    · contradiction
  | disposeBuffers =>
    rw [perform] at refused ⊢
    rcases s.disposeBuffers_cases with ⟨_, done⟩ | ⟨_, none, done⟩ | ⟨_, _, done⟩ <;>
      rw [done] at refused ⊢
    · exact .inl rfl
    · exact .inr (.inl ⟨none, rfl⟩)
    · contradiction
  | start =>
    rw [perform] at refused ⊢
    rcases s.start_cases thread with ⟨_, done⟩ | ⟨clock, noThread, _, done⟩ | ⟨_, _, _, done⟩ <;>
      rw [done] at refused ⊢
    · exact .inl rfl
    · exact .inr (.inr ⟨rfl, clock, noThread, rfl⟩)
    · contradiction
  | stop =>
    rw [perform] at refused ⊢
    rcases s.stop_cases with ⟨_, done⟩ | ⟨_, done⟩ <;> rw [done] at refused ⊢
    · exact .inl rfl
    · contradiction
  | canRate | channelCounts | bufferSizes | channelInfo => exact .inl rfl

namespace Coherent

variable (coherent : s.Coherent)
include coherent

theorem halt : s.halt.Coherent where
  furnished running := Bool.noConfusion running
  registered := coherent.registered
  halves := coherent.halves

theorem halt_eq (none : s.buffers = []) : s.halt = s := by
  have idle : s.running = false :=
    Bool.eq_false_iff.mpr fun running => coherent.furnished running none
  rw [Simulated.halt, ← idle]

/-- Only a call that has found no buffers changes the mode, on which the length of the halves
depends. -/
theorem perform (thread : Bool) (c : DriverCall) : (s.perform thread c).2.Coherent := by
  cases c with
  | setIoMode mode =>
    rw [Simulated.perform]
    rcases s.setIoMode_cases mode with ⟨_, done⟩ | ⟨done, _, _, none⟩ <;> rw [done]
    · exact coherent
    · refine ⟨coherent.furnished, coherent.registered, fun buffer member => ?_⟩
      rw [none] at member
      exact absurd member List.not_mem_nil
  | setRate rate =>
    rw [Simulated.perform]
    rcases s.setRate_cases rate with ⟨_, done⟩ | ⟨done, _⟩ <;> rw [done]
    · exact coherent
    · exact ⟨coherent.furnished, coherent.registered, coherent.halves⟩
  | createBuffers infos period =>
    rw [Simulated.perform]
    rcases s.createBuffers_cases infos period with ⟨_, done, _⟩ | ⟨done, _, _, _, _, none, _⟩ <;>
      rw [done]
    · exact coherent
    · refine ⟨fun running => absurd none (coherent.furnished running), fun _ => rfl, ?_⟩
      intro buffer member half
      obtain ⟨_, _, rfl⟩ := List.mem_map.mp member
      cases half <;> exact List.length_replicate
  | disposeBuffers =>
    rw [Simulated.perform]
    rcases s.disposeBuffers_cases with ⟨_, done⟩ | ⟨_, _, done⟩ | ⟨_, _, done⟩ <;> rw [done]
    · exact coherent
    · exact coherent.halt
    · exact ⟨fun running => Bool.noConfusion running, fun some => absurd rfl some,
        fun _ member => absurd member List.not_mem_nil⟩
  | start =>
    rw [Simulated.perform]
    rcases s.start_cases thread with ⟨_, done⟩ | ⟨_, _, _, done⟩ | ⟨_, some, _, done⟩ <;> rw [done]
    · exact coherent
    · exact ⟨coherent.furnished, coherent.registered, coherent.halves⟩
    · dsimp only
      split
      · exact coherent
      · exact ⟨fun _ => some, coherent.registered, coherent.halves⟩
  | stop =>
    rw [Simulated.perform]
    rcases s.stop_cases with ⟨_, done⟩ | ⟨_, done⟩ <;> rw [done]
    · exact coherent
    · exact coherent.halt
  | canRate | channelCounts | bufferSizes | channelInfo => exact coherent

theorem tick {announcement : Announcement} {next : Simulated}
    (delivered : s.tick = some (announcement, next)) : next.Coherent := by
  unfold Simulated.tick at delivered
  split at delivered
  · obtain ⟨_, rfl⟩ := Prod.mk.inj (Option.some.inj delivered)
    exact ⟨coherent.furnished, coherent.registered, coherent.halves⟩
  · contradiction

theorem writeHalf (plane : Nat) (half : Half) (start : Nat) (src : Bytes) :
    (s.writeHalf plane half start src).Coherent := by
  have bare : (s.writeHalf plane half start src).buffers = [] ↔ s.buffers = [] := by
    rw [← List.length_eq_zero_iff, ← List.length_eq_zero_iff, Simulated.writeHalf,
      List.length_modify]
  refine ⟨fun running => mt bare.mp (coherent.furnished running),
    fun some => coherent.registered (mt bare.mpr some), fun buffer member played => ?_⟩
  obtain ⟨place, found⟩ := List.mem_iff_getElem?.mp member
  rw [Simulated.writeHalf, List.getElem?_modify] at found
  obtain ⟨old, there, rfl⟩ := Option.map_eq_some_iff.mp found
  have even := coherent.halves old (List.mem_of_getElem? there)
  split
  · exact DoubleBuffer.length_get_set even ((Bytes.length_splice ..).trans (even half)) played
  · exact even played

theorem after (event : DriverEvent) : (s.after event).Coherent := by
  cases event with
  | call c thread => exact coherent.perform thread c
  | tick =>
    rw [Simulated.after]
    cases delivered : s.tick with
    | none => exact coherent
    | some outcome => exact coherent.tick delivered
  | write plane half start src => exact coherent.writeHalf plane half start src
  | drop => exact coherent.halt

theorem afterAll (events : List DriverEvent) : (s.afterAll events).Coherent := by
  induction events generalizing s with
  | nil => exact coherent
  | cons event rest ih => exact ih (coherent.after event)

theorem unchanged {thread : Bool} {c : DriverCall} {fault : c.Fault}
    (refused : (s.perform thread c).1 = .error fault) :
    (s.perform thread c).2 = s ∨ s.Unclocked thread c (s.perform thread c).2 := by
  rcases after_refused refused with same | ⟨none, halted⟩ | unclocked
  · exact .inl same
  · exact .inl (halted.trans (coherent.halt_eq none))
  · exact .inr unclocked

end Coherent

@[simp] theorem profile_after (s : Simulated) (event : DriverEvent) :
    (s.after event).profile = s.profile := by
  cases event with
  | call c thread => exact s.profile_perform thread c
  | tick =>
    rw [after, tick]
    split <;> rfl
  | write | drop => rfl

@[simp] theorem profile_afterAll (s : Simulated) (events : List DriverEvent) :
    (s.afterAll events).profile = s.profile := by
  induction events generalizing s with
  | nil => rfl
  | cons event rest ih => exact (ih (s.after event)).trans (s.profile_after event)

/-- Buffers are created in a list that is lent as they are where a list is answered. -/
theorem createBuffers_lending (s : Simulated) (infos : List BufferInfo) (period : Nat) :
    LendingM.createBuffers period ⟨s, infos⟩ =
      Lending.ofAnswer infos (s.createBuffers infos period) := by
  unfold LendingM.createBuffers createBuffers
  rw [LendingM.check_bind, LendingM.get_bind]
  dsimp only
  rw [LendingM.refuse_bind, LendingM.refuse_bind, LendingM.refuse_bind, LendingM.refuse_bind,
    LendingM.refuse_bind, LendingM.refuse_bind, LendingM.modify_bind, LendingM.modify_bind]
  unfold check
  by_cases fails : s.profile.failAt = some .createBuffers
  · simp only [fails, if_true]
    rfl
  · simp only [fails, if_false, apply_ite (Lending.ofAnswer infos)]
    rfl

/-- After whatever happened to a driver of whatever profile, it runs only with buffers and
callbacks, its halves are as long as a period of the samples it has now, and a call that ends
with an error changes neither the driver nor the list that its caller lent. Only one that has a
clock goes back to its first half when it gets no thread for it. -/
theorem atomic_throughout (profile : Profile) (events : List DriverEvent) :
    let s := (boot profile).afterAll events
    (s.running = true → s.buffers ≠ [] ∧ s.registered = true) ∧
      (∀ buffer ∈ s.buffers, ∀ half,
        (buffer.get half).length = s.period * s.sampleType.bytes) ∧
      (∀ thread c fault, (s.perform thread c).1 = .error fault → (s.perform thread c).2 = s ∨
        profile.clock = true ∧ thread = false ∧ c = .start ∧
          (s.perform thread c).2 = { s with nextHalf := .first }) ∧
      ∀ infos period fault after,
        LendingM.createBuffers period ⟨s, infos⟩ = (.error fault, after) → after = ⟨s, infos⟩ := by
  intro s
  have coherent : s.Coherent := (coherent_boot profile).afterAll events
  refine ⟨fun running => ?_, coherent.halves, fun thread c fault refused => ?_,
    fun infos period fault after refused => ?_⟩
  · have some := coherent.furnished running
    exact ⟨some, coherent.registered some⟩
  · rcases coherent.unchanged refused with same | ⟨start, clock, noThread, rewound⟩
    · exact .inl same
    · rw [show s.profile = profile from profile_afterAll _ events] at clock
      exact .inr ⟨clock, noThread, start, rewound⟩
  · rw [createBuffers_lending] at refused
    rcases s.createBuffers_cases infos period with ⟨_, done, _⟩ | ⟨done, _⟩ <;> rw [done] at refused
    · exact (congrArg Prod.snd refused).symm
    · exact absurd (congrArg Prod.fst refused) nofun

end PlanarSink.Simulated
