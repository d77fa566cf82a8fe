import Mathlib.Data.List.Forall2
import PlanarSink.Proofs.Exactness
import PlanarSink.Proofs.Probing

/-! What enumerating the drivers of a host tells, and what it leaves behind. What is told of a
driver is known from its profile, whatever calls fail, and every driver is left as it booted. -/
namespace PlanarSink

namespace Profile

def accepts (p : Profile) (mode : IoMode) (rate : UInt32) : Bool :=
  p.failAt != some .canSampleRate && (p.ratesIn mode).contains rate

def acceptsDsd (p : Profile) : Bool :=
  p.failAt != some .setIoFormat && p.dsdSampleType.isSome

def nativeIn (p : Profile) (mode : IoMode) : List InputFormat :=
  if p.failAt ≠ some .channelInfo ∧ 0 < p.outputChannels then
    (InputFormat.nativeTo (p.sampleTypeIn mode)).toList
  else []

/-- The rates of the probe that a driver accepts in plain mode, then those in one-bit mode. -/
def shownRates (p : Profile) : List UInt32 :=
  (Catalogue.probeRates 1).filter (p.accepts .pcm) ++
    if p.acceptsDsd then (Catalogue.probeRates Catalogue.dsdRateFactor).filter (p.accepts .dsd)
    else []

/-- The native formats of the modes of a driver; packed bits come with one-bit mode. -/
def shownFormats (p : Profile) : List InputFormat :=
  p.nativeIn .pcm ++ if p.acceptsDsd then p.nativeIn .dsd ++ [.u8] else []

def shownChannels (p : Profile) : List Speaker :=
  if p.failAt = some .channels then []
  else Speaker.order.take (max 2 (min p.outputChannels 8))

end Profile

namespace Simulated

theorem supports_ofNat (s : Simulated) (rate : UInt32) :
    s.supports (.ofNat rate.toNat) = (s.profile.ratesIn s.mode).contains rate := by
  have narrow : rate.toNat < 2 ^ 53 := rate.toNat_lt.trans (by decide)
  rw [Bool.eq_iff_iff, supports, List.any_eq_true, List.contains_iff_mem]
  simp only [Binary.Double.isNat_ofNat narrow, UInt32.toNat_inj, exists_eq_right']

theorem isOk_canRate (s : Simulated) (rate : UInt32) :
    (s.canRate (.ofNat rate.toNat)).isOk = s.profile.accepts s.mode rate := by
  rw [canRate, bind_check, supports_ofNat, Profile.accepts]
  split
  · next fails => rw [fails]; rfl
  · next passes =>
    rw [bne_iff_ne.mpr passes, Bool.true_and]
    cases (s.profile.ratesIn s.mode).contains rate <;> rfl

/-- A driver that can be switched to one-bit mode can be switched back. -/
theorem setIoMode_of_acceptsDsd {s : Simulated} (bare : s.buffers = [])
    (accepts : s.profile.acceptsDsd = true) (mode : IoMode) :
    s.setIoMode mode = (.ok (), { s with mode }) := by
  obtain ⟨passes, known⟩ := Bool.and_eq_true_iff.mp accepts
  rw [setIoMode, guarded_eq, if_neg (by simpa using passes), if_neg, if_neg (by simp [bare])]
  rintro ⟨-, missing⟩
  simp [missing] at known

theorem setIoMode_of_not_acceptsDsd {s : Simulated} (refuses : s.profile.acceptsDsd = false) :
    ∃ status, s.setIoMode .dsd = (.error status, s) := by
  rw [setIoMode, guarded_eq]
  split
  · exact ⟨_, rfl⟩
  · next passes =>
    have missing : s.profile.dsdSampleType = none := by
      simpa [Profile.acceptsDsd, passes] using refuses
    exact ⟨_, if_pos ⟨rfl, missing⟩⟩

end Simulated

namespace Catalogue

section Lists

variable [DecidableEq α] {values more : List α}

theorem nodup_insertNew (apart : values.Nodup) (value : α) : (insertNew values value).Nodup := by
  unfold insertNew
  split
  · exact apart
  · next absent => exact List.concat_eq_append ▸ apart.concat absent

theorem nodup_foldl_insertNew (apart : values.Nodup) : (more.foldl insertNew values).Nodup := by
  induction more generalizing values with
  | nil => exact apart
  | cons first rest ih => exact ih (nodup_insertNew apart first)

/-- New values that are all different are put at the end in their order. -/
theorem foldl_insertNew (apart : (values ++ more).Nodup) :
    more.foldl insertNew values = values ++ more := by
  induction more generalizing values with
  | nil => exact (List.append_nil values).symm
  | cons first rest ih =>
    have absent : first ∉ values := fun member =>
      (List.nodup_append.mp apart).2.2 first member first List.mem_cons_self rfl
    rw [List.foldl_cons, insertNew, if_neg absent, ih (by simpa using apart), List.append_assoc]
    rfl

end Lists

theorem nodup_probeRates : (probeRates 1 ++ probeRates dsdRateFactor).Nodup := by
  decide

example : probeRates 1 = [44100, 88200, 176400, 352800, 705600, 48000, 96000, 192000, 384000,
    768000] := by
  decide

theorem nodup_shownRates (p : Profile) : p.shownRates.Nodup := by
  have kept : (if p.acceptsDsd then (probeRates dsdRateFactor).filter (p.accepts .dsd)
      else []).Sublist (probeRates dsdRateFactor) := by
    split
    · exact List.filter_sublist
    · exact List.nil_sublist _
  exact nodup_probeRates.sublist (List.filter_sublist.append kept)

theorem acceptedRates_eq (driver : Simulated) (factor : UInt32) (known : List UInt32) :
    acceptedRates driver factor known =
      ((probeRates factor).filter (driver.profile.accepts driver.mode)).foldl insertNew known := by
  simp only [acceptedRates, Simulated.isOk_canRate]

theorem addNative_eq (driver : Simulated) (known : List InputFormat) :
    addNative driver known = (driver.profile.nativeIn driver.mode).foldl insertNew known := by
  rw [addNative, Simulated.channelInfo, Simulated.bind_check]
  by_cases fails : driver.profile.failAt = some .channelInfo
  · have untold : driver.profile.nativeIn driver.mode = [] := if_neg fun told => told.1 fails
    rw [if_pos fails, untold]
    rfl
  rw [if_neg fails]
  by_cases absent : driver.profile.outputChannels ≤ 0
  · have untold : driver.profile.nativeIn driver.mode = [] :=
      if_neg fun told => Nat.not_lt.mpr absent told.2
    have absent : driver.profile.channelCount false ≤ 0 := absent
    rw [if_pos absent, untold]
    rfl
  · have told : driver.profile.nativeIn driver.mode =
        (InputFormat.nativeTo (driver.profile.sampleTypeIn driver.mode)).toList :=
      if_pos ⟨fails, Nat.not_le.mp absent⟩
    have present : ¬driver.profile.channelCount false ≤ 0 := absent
    rw [if_neg present, told]
    change (InputFormat.nativeTo (driver.profile.sampleTypeIn driver.mode)).elim _ _ = _
    cases InputFormat.nativeTo (driver.profile.sampleTypeIn driver.mode) <;> rfl

theorem speakers_eq (driver : Simulated) : speakers driver = driver.profile.shownChannels := by
  rw [speakers, Simulated.channelCounts, Simulated.bind_check, Profile.shownChannels]
  by_cases fails : driver.profile.failAt = some .channels
  · rw [if_pos fails, if_pos fails]
  · rw [if_neg fails, if_neg fails]
    rfl

/-- A driver that was just opened shows what its profile says, and is then as it was. -/
theorem probe_boot (p : Profile) (id displayName : String) :
    probe (.boot p) (.named id displayName) =
      (⟨id, displayName, p.shownChannels, p.shownRates, p.shownFormats.foldl insertNew []⟩,
        .boot p) := by
  have rates : p.shownRates.foldl insertNew [] = p.shownRates :=
    foldl_insertNew (nodup_shownRates p)
  rw [← rates]
  simp only [probe, inspect, acceptedRates_eq, addNative_eq, speakers_eq, Profile.shownRates,
    Profile.shownFormats, List.foldl_append]
  cases accepts : p.acceptsDsd with
  | false =>
    obtain ⟨status, refused⟩ :=
      Simulated.setIoMode_of_not_acceptsDsd (s := .boot p) accepts
    rw [refused]
    rfl
  | true =>
    rw [Simulated.setIoMode_of_acceptsDsd (s := .boot p) rfl accepts]
    dsimp only
    rw [Simulated.setIoMode_of_acceptsDsd (s := { Simulated.boot p with mode := .dsd }) rfl accepts,
      if_pos rfl, if_pos rfl, List.foldl_append]
    rfl

/-- What the catalogue tells of a driver that opens. -/
structure Shown (p : Profile) (info : DeviceInfo) : Prop where
  channels : info.channels = p.shownChannels
  rates : info.sampleRates = p.shownRates
  ratesApart : info.sampleRates.Nodup
  formats : ∀ format, format ∈ info.dataFormats ↔ format ∈ p.shownFormats
  formatsApart : info.dataFormats.Nodup

/-- What the catalogue tells of an entry of a host: what the first profile with its id shows, and
nothing where its driver does not open. -/
inductive Tells (host : Host) (entry : Profile) : DeviceInfo → Prop where
  | unopened {first : Profile} (found : host.profile? entry.id = some first)
      (fails : first.failAt = some .openDriver) :
      Tells host entry (.named entry.id entry.name)
  | opened {first : Profile} {info : DeviceInfo} (found : host.profile? entry.id = some first)
      (opens : first.failAt ≠ some .openDriver) (id : info.id = entry.id)
      (displayName : info.displayName = entry.name) (shown : Shown first info) :
      Tells host entry info

/-- The drivers that enumerating opens, as it leaves them. -/
def probed (host : Host) (entries : List Profile) : List OpenedDriver :=
  entries.filterMap fun entry => (host.profile? entry.id).bind fun first =>
    if first.failAt = some .openDriver then none else some ⟨.boot first, false⟩

structure Restored (one : OpenedDriver) : Prop where
  dropped : one.live = false
  mode : one.driver.mode = .pcm
  stopped : one.driver.running = false
  bare : one.driver.buffers = []
  rate : one.driver.rate = (Simulated.boot one.driver.profile).rate

/-- Enumerating leaves a host as it was, but for one more lease given back and the drivers that
it opened on the way. -/
structure Traceless (host next : Host) : Prop where
  profiles : next.profiles = host.profiles
  refusing : next.refusing = host.refusing
  held : next.held = host.held
  releases : next.releases = host.releases + 1
  liveDrivers : next.liveDrivers = host.liveDrivers
  opened : next.opened = host.opened ++ probed host host.profiles
  restored : ∀ one ∈ probed host host.profiles, Restored one

/-- A driver of the first profile with the id of an entry is opened, probed and dropped. -/
theorem probeProfile_cases {host : Host} {entry first : Profile}
    (found : host.profile? entry.id = some first) :
    first.failAt = some .openDriver ∧
        probeProfile host entry = (.named entry.id entry.name, host) ∨
      first.failAt ≠ some .openDriver ∧
        probeProfile host entry =
          (⟨entry.id, entry.name, first.shownChannels, first.shownRates,
            first.shownFormats.foldl insertNew []⟩, host.withOpened ⟨.boot first, false⟩) := by
  by_cases fails : first.failAt = some .openDriver
  · refine .inl ⟨fails, ?_⟩
    simp [probeProfile, Host.openDriver, found, fails]
  · refine .inr ⟨fails, ?_⟩
    have opened : host.openDriver entry.id =
        (.ok host.opened.length, host.withOpened ⟨.boot first, true⟩) := by
      simp [Host.openDriver, Host.withOpened, found, fails]
    simp only [probeProfile, opened, Host.driver?_withOpened, probe_boot,
      Host.setDriver_withOpened, Host.dropDriver_withOpened]
    rfl

theorem shown_boot (p : Profile) (id displayName : String) :
    Shown p ⟨id, displayName, p.shownChannels, p.shownRates,
      p.shownFormats.foldl insertNew []⟩ where
  channels := rfl
  rates := rfl
  ratesApart := nodup_shownRates p
  formats format := by simp [mem_foldl_insertNew]
  formatsApart := nodup_foldl_insertNew List.nodup_nil

/-- Each entry is told of in turn, with the profiles of the host as they are throughout. -/
theorem probeAll_tells {host current : Host} (same : current.profiles = host.profiles)
    {entries : List Profile} (listed : entries ⊆ host.profiles) :
    List.Forall₂ (Tells host) entries (probeAll current entries).1 ∧
      (probeAll current entries).2 =
        { current with opened := current.opened ++ probed host entries } := by
  induction entries generalizing current with
  | nil => exact ⟨.nil, by simp [probeAll, probed]⟩
  | cons entry rest ih =>
    obtain ⟨first, found⟩ : ∃ first, host.profile? entry.id = some first :=
      Option.isSome_iff_exists.mp (List.find?_isSome.mpr
        ⟨entry, listed List.mem_cons_self, beq_self_eq_true _⟩)
    have found' : current.profile? entry.id = some first := by
      rw [Host.profile?, same]; exact found
    have listed' : rest ⊆ host.profiles := List.subset_of_cons_subset listed
    obtain ⟨fails, one⟩ | ⟨opens, one⟩ := probeProfile_cases found'
    · obtain ⟨tells, left⟩ := ih same listed'
      rw [probeAll, one]
      refine ⟨.cons (.unopened found fails) tells, ?_⟩
      simp [left, probed, found, fails]
    · obtain ⟨tells, left⟩ := @ih (current.withOpened ⟨.boot first, false⟩) same listed'
      rw [probeAll, one]
      refine ⟨.cons (.opened found opens rfl rfl (shown_boot first _ _)) tells, ?_⟩
      simp only [left]
      simp [probed, found, opens, Host.withOpened]

theorem restored_probed {host : Host} {entries : List Profile} :
    ∀ one ∈ probed host entries, Restored one := by
  intro one member
  obtain ⟨entry, -, opened⟩ := List.mem_filterMap.mp member
  obtain ⟨first, -, booted⟩ := Option.bind_eq_some_iff.mp opened
  split at booted <;> cases booted
  exact ⟨rfl, rfl, rfl, rfl, rfl⟩

theorem liveDrivers_append {host : Host} {dropped : List OpenedDriver}
    (restored : ∀ one ∈ dropped, Restored one) :
    { host with opened := host.opened ++ dropped }.liveDrivers = host.liveDrivers := by
  have none : dropped.countP OpenedDriver.live = 0 :=
    List.countP_eq_zero.mpr fun one member => by simp [(restored one member).dropped]
  simp [Host.liveDrivers, none]

/-- Whatever the profiles of a host and the calls its drivers fail, either no lease is granted,
nothing is shown and nothing changes, or each entry is shown in turn and no trace is left. -/
theorem devices_complete (host : Host) :
    (∃ status, host.acquire = (.error status, host) ∧ devices host = ([], host)) ∨
      ∃ leased, host.acquire = (.ok (), leased) ∧
        List.Forall₂ (Tells host) host.profiles (devices host).1 ∧
        Traceless host (devices host).2 := by
  cases granted : host.refusing with
  | true =>
    have refused : host.acquire = (.error .notPresent, host) := by
      rw [Host.acquire, if_pos granted]
    exact .inl ⟨_, refused, by rw [devices, refused]⟩
  | false =>
    have leased := Host.acquire_of_granted granted
    obtain ⟨tells, left⟩ := @probeAll_tells host { host with held := host.held + 1 } rfl _
      (List.Subset.refl host.profiles)
    have devices : devices host = ((probeAll { host with held := host.held + 1 } host.profiles).1,
        { host with
          releases := host.releases + 1, opened := host.opened ++ probed host host.profiles }) := by
      simp only [devices, leased, left]
      rfl
    rw [devices]
    exact .inr ⟨_, leased, tells, rfl, rfl, rfl, rfl, liveDrivers_append restored_probed, rfl,
      restored_probed⟩

/-- Two entries of one id show the rates of the first of them, though the other offers none. -/
example :
    (devices (.ofProfiles [{ Profile.standard with sampleRates := [96000, 44100, 96000] },
      { Profile.standard with name := "again", sampleRates := [] }])).1.map
        (fun info => (info.displayName, info.sampleRates)) =
      [("Simulated ASIO", [44100, 96000]), ("again", [44100, 96000])] := by
  decide

end Catalogue

end PlanarSink
