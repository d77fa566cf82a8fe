import PlanarSink.Proofs.Leases

/-! A failed attempt to connect leaves no trace but a lease given back and a driver that
was dropped. One that panics leaves the sink negotiating besides. -/
namespace PlanarSink.Studio

variable {studio : Studio} {sink : Nat} {seated : SeatedSink}

/-- An attempt that is interrupted is rolled back, or never got a host to try. -/
theorem connect_interrupted (found : studio.sink? sink = some seated)
    (idle : seated.sink.session = none) {format : StreamFormat} {device : String}
    {interruption : Interruption}
    (interrupted : (studio.connect sink format device).1.1 = .error interruption) :
    (studio.hosts[seated.host]? = none ∧ (studio.connect sink format device).2 =
        studio.setSink sink (some (seated.become interruption.left none))) ∨
      ∃ host next slot, studio.hosts[seated.host]? = some host ∧ host.RolledBack next ∧
        studio.slot.RolledBack slot ∧ (studio.connect sink format device).2 =
          (studio.place seated.host next slot).setSink sink
            (some (seated.become interruption.left none)) := by
  have ways := connect_cases found format device
  generalize studio.connect sink format device = outcome at ways interrupted ⊢
  cases ways with
  | again connected => rw [idle] at connected; contradiction
  | homeless _ absent =>
    obtain rfl := Except.error.inj interrupted
    exact .inl ⟨absent, rfl⟩
  | @interrupted host next slot _ _ _ present _ rolledBack unclaimed =>
    obtain rfl := Except.error.inj interrupted
    exact .inr ⟨host, next, slot, present, rolledBack, unclaimed, rfl⟩
  | opened => contradiction

/-- Whatever was done in a studio before, and whatever its process can give, an interrupted attempt
to connect a sink that is not connected leaves it uninitialized, or negotiating where it panicked,
and the slot, all other sinks and all other hosts as they were. On its own host leases held and
live drivers are as before, one lease more was given back if one was granted, and the driver opened
meanwhile, if any, is dropped and does not run; its buffers are gone unless the driver refuses to
dispose of them. -/
theorem failed_connect_restores {hosts : List (List Profile)} {sinks : List (Nat × SinkOptions)}
    {commands : List Command} {studio : Studio}
    (reached : studio = (unused hosts sinks).run commands) {sink : Nat} {seated : SeatedSink}
    (found : studio.sink? sink = some seated) (idle : seated.sink.isInitialized = false)
    {format : StreamFormat} {device : String} {interruption : Interruption}
    (failed : (studio.connect sink format device).1.1 = .error interruption) :
    let after := (studio.connect sink format device).2
    (∃ vacant, after.sink? sink = some ⟨seated.host, vacant⟩ ∧
      vacant.options = seated.sink.options ∧ vacant.isInitialized = false ∧
      vacant.state = match interruption with
        | .failure _ => .uninitialized
        | .panic => .negotiating) ∧
    after.slot = studio.slot ∧
    (∀ other, other ≠ sink → after.sink? other = studio.sink? other) ∧
    (∀ number, number ≠ seated.host → after.hosts[number]? = studio.hosts[number]?) ∧
    ∀ host, studio.hosts[seated.host]? = some host →
      ∃ next, after.hosts[seated.host]? = some next ∧ next.held = host.held ∧
        next.liveDrivers = host.liveDrivers ∧ next.profiles = host.profiles ∧
        next.refusing = host.refusing ∧
        next.releases = host.releases + (if host.acquire.1.isOk then 1 else 0) ∧
        studio.leases seated.host (.connect sink format device) =
          (if host.acquire.1.isOk then 1 else 0) ∧
        ∃ remnants, next.opened = host.opened ++ remnants ∧ remnants.length ≤ 1 ∧
          ∀ opened ∈ remnants, opened.live = false ∧ opened.driver.running = false ∧
            (opened.driver.buffers = [] ∨
              opened.driver.profile.failAt = some .disposeBuffers) := by
  have orderly : studio.Orderly := reached ▸ (Orderly.unused hosts sinks).run commands
  have vacant : seated.sink.session = none := by simpa [Sink.isInitialized] using idle
  have ways := connect_interrupted found vacant failed
  generalize (studio.connect sink format device).2 = left at ways ⊢
  intro after
  rcases ways with ⟨absent, rfl⟩ | ⟨host, next, slot, present, rolledBack, unclaimed, rfl⟩
  · refine ⟨⟨_, sink?_setSink found _, rfl, rfl, by cases interruption <;> rfl⟩, rfl,
      fun other elsewhere => sink?_setSink_ne elsewhere _, fun _ _ => rfl, ?_⟩
    intro host present
    rw [absent] at present
    contradiction
  · have inside := (List.getElem?_eq_some_iff.mp present).1
    have kept := Host.Steady.rolledBack rolledBack
    have stored := @sink?_setSink (studio.place seated.host next slot) sink seated found
    refine ⟨⟨_, stored _, rfl, rfl, by cases interruption <;> rfl⟩,
      orderly.slot_rolledBack unclaimed, fun other elsewhere => sink?_setSink_ne elsewhere _,
      fun number elsewhere => hosts_place_ne elsewhere next slot, ?_⟩
    intro same again
    obtain rfl := Option.some.inj (present.symm.trans again)
    refine ⟨next, hosts_place inside next slot, kept.held, kept.liveDrivers, ?_⟩
    obtain ⟨remnants, few, dropped, rfl⟩ := rolledBack
    refine ⟨rfl, rfl, ?_, ?_, remnants, rfl, few, fun opened member => ?_⟩
    · cases refusing : host.refusing <;> simp [Host.acquire, refusing, Except.isOk, Except.toBool]
    · rw [leases_connect found vacant]
      cases refusing : host.refusing <;>
        simp [present, Host.acquire, refusing, Except.isOk, Except.toBool]
    · exact ⟨(dropped opened member).dropped, (dropped opened member).still,
        (dropped opened member).bare⟩

def stalling : Studio :=
  unused [[{ Profile.standard with failAt := some .start }]] [(0, .standard)]

theorem failed_connect_restores_stalling :
    (stalling.connect 0 (.ofInput 48000 2 .float) "sim").1.1 =
        .error (.failure (.negotiation .start .hardwareMalfunction)) ∧
      (stalling.connect 0 (.ofInput 48000 2 .float) "sim").2.slot = .free ∧
      ∃ host, (stalling.connect 0 (.ofInput 48000 2 .float) "sim").2.hosts[0]? = some host ∧
        host.held = 0 ∧ host.releases = 1 := by
  have failed : (stalling.connect 0 (.ofInput 48000 2 .float) "sim").1.1 =
      .error (.failure (.negotiation .start .hardwareMalfunction)) := rfl
  have reached : stalling = (unused [[{ Profile.standard with failAt := some .start }]]
    [(0, .standard)]).run [] := rfl
  have found : stalling.sink? 0 = some ⟨0, .ofOptions .standard⟩ := rfl
  obtain ⟨_, slot, _, _, home⟩ := failed_connect_restores reached found rfl failed
  obtain ⟨host, there, held, _, _, _, releases, _⟩ := home _ rfl
  exact ⟨failed, slot, host, there, held, releases⟩

/-- Neither is there a trace of an attempt that gets no memory for its ring or for its working
buffer, or no thread for the clock of its driver. -/
example :
    let attempt (supply : Supply) :=
      ((unused [[.standard]] [(0, .standard)]).setSupply supply).connect 0
        (.ofInput 48000 2 .float) "sim"
    (attempt ⟨15359, 0x10000, true⟩).1.1 = .error (.failure (.allocation 15360)) ∧
      (attempt ⟨0x10000, 2559, true⟩).1.1 = .error (.failure (.allocation 2560)) ∧
      (attempt ⟨0x10000, 0x10000, false⟩).1.1 = .error (.failure (.negotiation .start .noClock)) ∧
      (attempt ⟨15360, 2560, true⟩).1.1 = .ok () :=
  ⟨rfl, rfl, rfl, rfl⟩

end PlanarSink.Studio
