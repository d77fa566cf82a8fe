import PlanarSink.Catalogue
import PlanarSink.Proofs.Admission
import PlanarSink.Studio.Command

/-! What the catalogue shows of a driver, and what a sink can do with it. Both switch the driver
to the same mode for a rate and ask it for the rate there, and each mode adds a format to the
catalogue that its samples are made from. -/
namespace PlanarSink

theorem InputFormat.ofStorage_leveled {storage : Storage} (leveled : storage.leveled = true) :
    ofStorage storage ≠ .u8 ∧ ofStorage storage ≠ .raw := by
  unfold ofStorage
  split
  · split <;> exact ⟨nofun, nofun⟩
  · split <;> exact ⟨nofun, nofun⟩
  · split <;> exact ⟨nofun, nofun⟩
  · split <;> exact ⟨nofun, nofun⟩
  · contradiction
  · contradiction

namespace Codec

/-- The native format of a sample type converts to it; only one-bit samples that are spelled
out are made from another. -/
theorem resolve_ofStorage {t : SampleType} {storage : Storage} (stored : t.storage? = some storage)
    (unspelled : storage ≠ .unpacked) : ∃ codec, resolve (.ofStorage storage) t = .ok codec := by
  by_cases leveled : storage.leveled = true
  · obtain ⟨u8, raw⟩ := InputFormat.ofStorage_leveled leveled
    generalize InputFormat.ofStorage storage = source at u8 raw
    unfold resolve
    rw [stored]
    cases storage <;> cases source <;> first | contradiction | exact ⟨_, rfl⟩
  · cases storage with
    | packed highFirst =>
      unfold resolve
      rw [stored]
      exact ⟨_, rfl⟩
    | integer | float | unpacked => contradiction

theorem resolve_u8 {t : SampleType} (stored : t.storage? = some .unpacked) :
    ∃ codec, resolve .u8 t = .ok codec := by
  unfold resolve
  rw [stored]
  exact ⟨_, rfl⟩

end Codec

namespace Catalogue

theorem mem_insertNew [DecidableEq α] {values : List α} {value other : α} :
    other ∈ insertNew values value ↔ other ∈ values ∨ other = value := by
  unfold insertNew
  split
  · next present =>
    constructor
    · exact .inl
    · rintro (member | rfl)
      · exact member
      · exact present
  · simp

theorem mem_foldl_insertNew [DecidableEq α] {values more : List α} {other : α} :
    other ∈ more.foldl insertNew values ↔ other ∈ values ∨ other ∈ more := by
  induction more generalizing values with
  | nil => simp
  | cons first rest ih =>
    rw [List.foldl_cons, ih, mem_insertNew, List.mem_cons, or_assoc]

theorem pcm_probeRates : ∀ rate ∈ probeRates 1, Agreement.isDsd .standard rate = false := by
  have each : (probeRates 1).all (fun rate => Agreement.isDsd .standard rate == false) = true := by
    decide
  exact fun rate member => beq_iff_eq.mp (List.all_eq_true.mp each rate member)

theorem dsd_probeRates :
    ∀ rate ∈ probeRates dsdRateFactor, Agreement.isDsd .standard rate = true := by
  have each : (probeRates dsdRateFactor).all (Agreement.isDsd .standard) = true := by
    decide
  exact List.all_eq_true.mp each

section Willing

variable {driver : Simulated} (willing : driver.profile.failAt = none)
include willing

theorem mem_rates_inspect {factor : UInt32} {info : DeviceInfo} {rate : UInt32} :
    rate ∈ (inspect driver factor info).sampleRates ↔
      rate ∈ info.sampleRates ∨
        rate ∈ probeRates factor ∧ driver.supports (.ofNat rate.toNat) = true := by
  have accepted : (driver.canRate (.ofNat rate.toNat)).isOk = driver.supports (.ofNat rate.toNat) := by
    rw [Simulated.canRate_of_willing willing]
    cases driver.supports (.ofNat rate.toNat) <;> rfl
  simp only [inspect, acceptedRates, mem_foldl_insertNew, List.mem_filter, accepted]

theorem mem_formats_inspect (someOutputs : 0 < driver.profile.outputChannels) {factor : UInt32}
    {info : DeviceInfo} {format : InputFormat} :
    format ∈ (inspect driver factor info).dataFormats ↔
      format ∈ info.dataFormats ∨ InputFormat.nativeTo driver.sampleType = some format := by
  obtain ⟨shown, informed, sampleType⟩ := Simulated.channelInfo_of_willing willing someOutputs
  simp only [inspect, addNative, informed, sampleType]
  cases InputFormat.nativeTo driver.sampleType with
  | none => simp
  | some native => simp [mem_insertNew, eq_comm]

end Willing

section Probe

variable {profile : Profile} (willing : profile.failAt = none)
include willing

/-- A driver that was just opened is inspected in plain mode, and then in one-bit mode if its
profile knows of it. -/
theorem probe_cases (info : DeviceInfo) :
    ∃ channels,
      (profile.dsdSampleType = none ∧ (probe (.boot profile) info).1 =
        inspect (.boot profile) 1 { info with channels }) ∨
      (profile.dsdSampleType.isSome = true ∧ ∃ both : DeviceInfo,
        both = inspect { Simulated.boot profile with mode := .dsd } dsdRateFactor
          (inspect (.boot profile) 1 { info with channels }) ∧
        (probe (.boot profile) info).1 =
          { both with dataFormats := insertNew both.dataFormats .u8 }) := by
  have booted : (Simulated.boot profile).profile.failAt = none := willing
  refine ⟨speakers (.boot profile), ?_⟩
  unfold probe
  rw [Simulated.setIoMode_of_willing booted rfl]
  cases known : profile.dsdSampleType with
  | none => exact .inl ⟨rfl, by simp [Simulated.boot, known]⟩
  | some t => exact .inr ⟨rfl, _, rfl, by simp [Simulated.boot, known]⟩

variable {info : DeviceInfo}

theorem mem_rates_probe (unprobed : info.sampleRates = []) {rate : UInt32} :
    rate ∈ (probe (.boot profile) info).1.sampleRates ↔
      rate ∈ probeRates 1 ++ probeRates dsdRateFactor ∧
        (Simulated.boot profile).plays .standard rate = true := by
  have booted : (Simulated.boot profile).profile.failAt = none := willing
  have switched : { Simulated.boot profile with mode := .dsd }.profile.failAt = none := willing
  have pcm (asked : rate ∈ probeRates 1) : (Simulated.boot profile).plays .standard rate =
      (Simulated.boot profile).supports (.ofNat rate.toNat) := by
    have plain := pcm_probeRates rate asked
    rw [Simulated.plays, Simulated.hasMode, Simulated.switched_pcm plain, plain]
    rfl
  have dsd (asked : rate ∈ probeRates dsdRateFactor) : (Simulated.boot profile).plays .standard rate =
      (profile.dsdSampleType.isSome &&
        { Simulated.boot profile with mode := .dsd }.supports (.ofNat rate.toNat)) := by
    have oneBit := dsd_probeRates rate asked
    rw [Simulated.plays, Simulated.hasMode, Simulated.switched_dsd oneBit, oneBit]
    rfl
  obtain ⟨channels, ⟨unknown, done⟩ | ⟨known, both, rfl, done⟩⟩ := probe_cases willing info
  · rw [done, mem_rates_inspect booted, unprobed]
    constructor
    · rintro (none | ⟨asked, offered⟩)
      · contradiction
      · exact ⟨List.mem_append_left _ asked, (pcm asked).trans offered⟩
    · rintro ⟨probed, played⟩
      rcases List.mem_append.mp probed with asked | asked
      · exact .inr ⟨asked, (pcm asked).symm.trans played⟩
      · rw [dsd asked, unknown] at played
        contradiction
  · rw [done, mem_rates_inspect switched, mem_rates_inspect booted, unprobed]
    constructor
    · rintro ((none | ⟨asked, offered⟩) | ⟨asked, offered⟩)
      · contradiction
      · exact ⟨List.mem_append_left _ asked, (pcm asked).trans offered⟩
      · exact ⟨List.mem_append_right _ asked, (dsd asked).trans (by rw [known, offered]; rfl)⟩
    · rintro ⟨probed, played⟩
      rcases List.mem_append.mp probed with asked | asked
      · exact .inl (.inr ⟨asked, (pcm asked).symm.trans played⟩)
      · rw [dsd asked, known, Bool.true_and] at played
        exact .inr ⟨asked, played⟩

/-- For each rate it shows, the catalogue shows a format that the driver's samples are made
from. -/
theorem formats_probe (someOutputs : 0 < profile.outputChannels) (unprobed : info.sampleRates = [])
    (known : ∃ storage, profile.sampleType.storage? = some storage ∧ storage ≠ .unpacked)
    (dsdKnown : ∀ t, profile.dsdSampleType = some t → t.storage?.isSome = true) {rate : UInt32}
    (shown : rate ∈ (probe (.boot profile) info).1.sampleRates) :
    ∃ format ∈ (probe (.boot profile) info).1.dataFormats, ∃ codec,
      Codec.resolve format ((Simulated.boot profile).switched .standard rate).sampleType =
        .ok codec := by
  have booted : (Simulated.boot profile).profile.failAt = none := willing
  have switched : { Simulated.boot profile with mode := .dsd }.profile.failAt = none := willing
  obtain ⟨_, played⟩ := (mem_rates_probe willing unprobed).mp shown
  obtain ⟨channels, ways⟩ := probe_cases willing info
  cases dsd : Agreement.isDsd .standard rate with
  | false =>
    obtain ⟨storage, stored, unspelled⟩ := known
    obtain ⟨codec, resolved⟩ := Codec.resolve_ofStorage stored unspelled
    rw [Simulated.switched_pcm dsd]
    refine ⟨.ofStorage storage, ?_, codec, resolved⟩
    have native : InputFormat.nativeTo (Simulated.boot profile).sampleType =
        some (.ofStorage storage) := congrArg (Option.map _) stored
    rcases ways with ⟨_, done⟩ | ⟨_, both, rfl, done⟩
    · rw [done, mem_formats_inspect booted someOutputs]
      exact .inr native
    · rw [done, mem_insertNew, mem_formats_inspect switched someOutputs,
        mem_formats_inspect booted someOutputs]
      exact .inl (.inl (.inr native))
  | true =>
    rw [Simulated.switched_dsd dsd]
    rw [Simulated.plays, Simulated.hasMode, dsd] at played
    have hasMode : profile.dsdSampleType.isSome = true := (Bool.and_eq_true_iff.mp played).1
    obtain ⟨t, oneBit⟩ := Option.isSome_iff_exists.mp hasMode
    obtain ⟨storage, stored⟩ := Option.isSome_iff_exists.mp (dsdKnown t oneBit)
    have sampleType : { Simulated.boot profile with mode := .dsd }.sampleType = t := by
      simp [Simulated.sampleType, Profile.sampleTypeIn, Simulated.boot, oneBit]
    rcases ways with ⟨unknown, _⟩ | ⟨_, both, rfl, done⟩
    · rw [unknown] at oneBit
      contradiction
    rw [done, sampleType]
    by_cases spelled : storage = .unpacked
    · obtain ⟨codec, resolved⟩ := Codec.resolve_u8 (spelled ▸ stored)
      exact ⟨.u8, mem_insertNew.mpr (.inr rfl), codec, resolved⟩
    · obtain ⟨codec, resolved⟩ := Codec.resolve_ofStorage stored spelled
      refine ⟨.ofStorage storage, mem_insertNew.mpr (.inl ?_), codec, resolved⟩
      rw [mem_formats_inspect switched someOutputs, sampleType]
      exact .inr (congrArg (Option.map _) stored)

end Probe

theorem probeProfile_congr {host other : Host} (same : host.profiles = other.profiles)
    (profile : Profile) :
    (probeProfile host profile).1 = (probeProfile other profile).1 ∧
      (probeProfile host profile).2.profiles = host.profiles := by
  have found : host.profile? profile.id = other.profile? profile.id := by
    rw [Host.profile?, Host.profile?, same]
  unfold probeProfile Host.openDriver
  rw [found]
  cases other.profile? profile.id with
  | none => exact ⟨rfl, rfl⟩
  | some first =>
    by_cases fails : first.failAt = some .openDriver
    · simp [fails]
    · simp [fails, Host.driver?, Host.setDriver, Host.dropDriver]

theorem probeAll_eq {host current : Host} (same : current.profiles = host.profiles)
    (profiles : List Profile) :
    (probeAll current profiles).1 = profiles.map fun profile => (probeProfile host profile).1 := by
  induction profiles generalizing current with
  | nil => rfl
  | cons profile rest ih =>
    obtain ⟨first, kept⟩ := probeProfile_congr same profile
    rw [List.map_cons, ← first, ← ih (kept.trans same)]
    rfl

theorem devices_eq {host : Host} (granted : host.refusing = false) :
    (devices host).1 = host.profiles.map fun profile => (probeProfile host profile).1 := by
  unfold devices
  rw [Host.acquire_of_granted granted]
  exact @probeAll_eq host { host with held := host.held + 1 } rfl host.profiles

/-- The first profile with its id is shown as its own driver is. -/
theorem probeProfile_first {host : Host} {profile : Profile}
    (first : host.profile? profile.id = some profile) (willing : profile.failAt = none) :
    (probeProfile host profile).1 =
      (probe (.boot profile) (.named profile.id profile.name)).1 := by
  unfold probeProfile Host.openDriver
  rw [first]
  simp [willing, Host.driver?]

theorem id_probe (driver : Simulated) (info : DeviceInfo) : (probe driver info).1.id = info.id := by
  unfold probe
  dsimp only
  split <;> rfl

theorem id_probeProfile (host : Host) (profile : Profile) :
    (probeProfile host profile).1.id = profile.id := by
  unfold probeProfile
  dsimp only
  split
  · rfl
  · split
    · rfl
    · exact id_probe ..

end Catalogue

namespace Studio

/-- A sink with the standard options can be connected at each rate that the catalogue shows for
its driver, with one of the formats shown and as many channels as a size can count the bits of;
at any other rate of the probe it is turned away for the rate or the mode, whatever the
format. -/
theorem probing_agrees {studio : Studio} {sink : Nat} {seated : SeatedSink}
    (found : studio.sink? sink = some seated) (idle : seated.sink.isInitialized = false)
    (standard : seated.sink.options = .standard) (unclaimed : studio.slot.claimed = false)
    {host : Host} (present : studio.hosts[seated.host]? = some host)
    (granted : host.refusing = false) {profile : Profile} (listed : profile ∈ host.profiles)
    (unique : ∀ other ∈ host.profiles, other.id = profile.id → other = profile)
    (workable : profile.Workable) (serves : studio.supply.Serves profile)
    (known : ∃ storage, profile.sampleType.storage? = some storage ∧ storage ≠ .unpacked)
    (dsdKnown : ∀ t, profile.dsdSampleType = some t → t.storage?.isSome = true)
    {enumerated : Host} (same : enumerated.profiles = host.profiles)
    (leased : enumerated.refusing = false) :
    (∃ info ∈ (Catalogue.devices enumerated).1, info.id = profile.id) ∧
      ∀ info ∈ (Catalogue.devices enumerated).1, info.id = profile.id →
        (∀ rate ∈ info.sampleRates, ∃ format ∈ info.dataFormats, ∀ channels,
          channels * format.bits < Size.bound →
          (studio.connect sink (.ofInput rate channels format) profile.id).1.1 = .ok ()) ∧
        ∀ rate ∈ Catalogue.probeRates 1 ++ Catalogue.probeRates Catalogue.dsdRateFactor,
          rate ∉ info.sampleRates → ∀ format : StreamFormat, format.sampleRate = rate →
          ∃ status,
            (studio.connect sink format profile.id).1.1 =
              .error (.failure (.unsupportedRate rate status)) ∨
            (studio.connect sink format profile.id).1.1 =
              .error (.failure (.modeUnsupported status)) := by
  have vacant : seated.sink.session = none := by simpa [Sink.isInitialized] using idle
  have first : host.profile? profile.id = some profile := by
    have some : (host.profile? profile.id).isSome = true :=
      List.find?_isSome.mpr ⟨profile, listed, by simp⟩
    obtain ⟨other, here⟩ := Option.isSome_iff_exists.mp some
    have named : other.id = profile.id := by
      have selected := List.find?_some here
      exact beq_iff_eq.mp selected
    rw [unique other (List.mem_of_find?_eq_some here) named] at here
    exact here
  have shown : ∀ info ∈ (Catalogue.devices enumerated).1, info.id = profile.id →
      info = (Catalogue.probe (.boot profile) (.named profile.id profile.name)).1 := by
    intro info member named
    rw [Catalogue.devices_eq leased, same] at member
    obtain ⟨other, offered, rfl⟩ := List.mem_map.mp member
    rw [Catalogue.id_probeProfile] at named
    obtain rfl := unique other offered named
    rw [(Catalogue.probeProfile_congr same other).1]
    exact Catalogue.probeProfile_first first workable.willing
  refine ⟨?_, fun info member named => ?_⟩
  · refine ⟨(Catalogue.probeProfile enumerated profile).1, ?_, Catalogue.id_probeProfile _ _⟩
    rw [Catalogue.devices_eq leased, same]
    exact List.mem_map_of_mem listed
  obtain rfl := shown info member named
  refine ⟨fun rate reported => ?_, fun rate probed unreported format asked => ?_⟩
  · obtain ⟨format, offered, codec, resolved⟩ :=
      Catalogue.formats_probe workable.willing workable.someOutputs rfl known dsdKnown reported
    obtain ⟨_, played⟩ := (Catalogue.mem_rates_probe workable.willing rfl).mp reported
    refine ⟨format, offered, fun channels few => ?_⟩
    exact connect_of_plays found vacant standard unclaimed present granted first workable serves few
      played resolved
  · subst asked
    have unplayed : (Simulated.boot profile).plays .standard format.sampleRate = false := by
      apply Bool.eq_false_iff.mpr
      intro played
      exact unreported ((Catalogue.mem_rates_probe workable.willing rfl).mpr ⟨probed, played⟩)
    exact connect_of_not_plays found vacant standard unclaimed present granted first
      workable.willing unplayed

/-- A driver that plays two rates of the probe and, in one-bit mode, another. -/
def twoModes : Profile :=
  { Profile.standard with
    sampleRates := [48000, 96000], dsdSampleType := some (.ofInt 40), dsdSampleRates := [2822400] }

theorem workable_twoModes : twoModes.Workable :=
  ⟨rfl, by decide, by decide, by decide, by decide, by decide, by decide⟩

theorem probing_agrees_twoModes :
    (unused [[twoModes]] [(0, .standard)]).sink? 0 = some ⟨0, .ofOptions .standard⟩ ∧
      (Host.ofProfiles [twoModes]).refusing = false ∧ twoModes.Workable ∧
      Supply.ample.Serves twoModes ∧
      (∀ other ∈ [twoModes], other.id = twoModes.id → other = twoModes) ∧
      (∃ storage, twoModes.sampleType.storage? = some storage ∧ storage ≠ .unpacked) ∧
      (∀ t, twoModes.dsdSampleType = some t → t.storage?.isSome = true) ∧
      ∃ info ∈ (Catalogue.devices (.ofProfiles [twoModes])).1,
        info.sampleRates = [48000, 96000, 2822400] ∧
        ∃ format ∈ info.dataFormats, ∀ channels ≤ 0x100000000,
          ((unused [[twoModes]] [(0, .standard)]).connect 0
            (.ofInput 2822400 channels format) "sim").1.1 = .ok () := by
  have serves : Supply.ample.Serves twoModes :=
    workable_twoModes.served (by decide) (by decide) fun _ => rfl
  have unique : ∀ other ∈ [twoModes], other.id = twoModes.id → other = twoModes :=
    fun other member _ => List.mem_singleton.mp member
  have known : ∃ storage, twoModes.sampleType.storage? = some storage ∧ storage ≠ .unpacked :=
    ⟨_, rfl, nofun⟩
  have dsdKnown : ∀ t, twoModes.dsdSampleType = some t → t.storage?.isSome = true := by
    rintro _ ⟨⟩
    rfl
  obtain ⟨⟨info, member, named⟩, agrees⟩ := @probing_agrees (unused [[twoModes]] [(0, .standard)]) 0 _
    rfl rfl rfl rfl (.ofProfiles [twoModes]) rfl rfl twoModes (List.mem_singleton_self _) unique
    workable_twoModes serves known dsdKnown (.ofProfiles [twoModes]) rfl rfl
  have rates : info.sampleRates = [48000, 96000, 2822400] := by
    obtain rfl := List.mem_singleton.mp member
    decide
  obtain ⟨format, offered, connects⟩ := (agrees info member named).1 2822400 (by simp [rates])
  refine ⟨rfl, rfl, workable_twoModes, serves, unique, known, dsdKnown, info, member, rates, format,
    offered, fun channels few => connects channels ?_⟩
  exact Nat.lt_of_le_of_lt (Nat.mul_le_mul few format.bits_le) (by decide)

end Studio

end PlanarSink
