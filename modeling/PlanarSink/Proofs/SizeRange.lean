import PlanarSink.Proofs.Confinement
import PlanarSink.Proofs.Reckoning
import PlanarSink.Proofs.Worksheets

/-! Whether the sizes with which a sink connects are in range. Two products can leave it: the bits
of a frame, which a caller's format need not fit, and the bytes of a period, which is as long as
its driver prefers. The attempt panics with the first that does. Everything else that is reckoned
from the format to the dispatcher is a word, and has a divisor where it needs one. -/
namespace PlanarSink

open Size (Calculation)

/-- The last of some calculations is a known one, and the only one that is not in range. -/
def Size.Strays (known calculations : List Calculation) : Prop :=
  ∃ before, ∃ c ∈ known, calculations = before ++ [c] ∧ (∀ b ∈ before, b.InRange) ∧ ¬c.InRange

/-- Calculations on the way to an ending are in range, and where the attempt succeeds all that were
still missing are among them; or they stray, and it panics. -/
inductive Accounts {α : Type} (known missing : List Calculation) :
    Except Interruption α → List Calculation → Prop where
  | sound {ending : Except Interruption α} {later : List Calculation}
      (inRange : ∀ c ∈ later, c.InRange) (complete : ending.isOk = true → missing ⊆ later) :
      Accounts known missing ending later
  | strayed {later : List Calculation} (strays : Size.Strays known later) :
      Accounts known missing (.error .panic) later

namespace Accounts

variable {α : Type} {known missing earlier later : List Calculation}
  {ending : Except Interruption α}

theorem aborted (inRange : ∀ c ∈ later, c.InRange) (interruption : Interruption) :
    Accounts known missing (.error interruption : Except _ α) later :=
  .sound inRange nofun

theorem failed (interruption : Interruption) :
    Accounts known missing (.error interruption : Except _ α) [] :=
  .aborted (List.forall_mem_nil _) interruption

theorem done : Accounts known [] ending [] :=
  .sound nofun fun _ => List.nil_subset _

theorem after (inRange : ∀ c ∈ earlier, c.InRange)
    (accounts : Accounts known missing ending later) :
    Accounts known missing ending (earlier ++ later) := by
  cases accounts with
  | sound sound complete =>
    exact .sound (List.forall_mem_append.mpr ⟨inRange, sound⟩)
      fun succeeded => List.subset_append_of_subset_right _ (complete succeeded)
  | strayed strays =>
    obtain ⟨before, c, member, rfl, sound, stray⟩ := strays
    exact .strayed ⟨earlier ++ before, c, member, (List.append_assoc ..).symm,
      List.forall_mem_append.mpr ⟨inRange, sound⟩, stray⟩

theorem found {c : Calculation} (inRange : ∀ c ∈ earlier, c.InRange) (there : c ∈ earlier)
    (accounts : Accounts known missing ending later) :
    Accounts known (c :: missing) ending (earlier ++ later) := by
  cases after inRange accounts with
  | sound sound complete =>
    exact .sound sound fun succeeded =>
      List.cons_subset.mpr ⟨List.mem_append_left _ there, complete succeeded⟩
  | strayed strays => exact .strayed strays

theorem stray {c : Calculation} (member : c ∈ known) (stray : ¬c.InRange) :
    Accounts known missing (.error .panic : Except _ α) [c] :=
  .strayed ⟨[], c, member, rfl, nofun, stray⟩

theorem inRange_or (accounts : Accounts known missing ending later) :
    (∀ c ∈ later, c.InRange) ∨ ending = .error .panic ∧ Size.Strays known later := by
  cases accounts with
  | sound inRange => exact .inl inRange
  | strayed strays => exact .inr ⟨rfl, strays⟩

theorem complete (accounts : Accounts known missing ending later)
    (succeeded : ending.isOk = true) : missing ⊆ later := by
  cases accounts with
  | sound _ complete => exact complete succeeded
  | strayed => contradiction

end Accounts

namespace Simulated

variable {s : Simulated} {infos : List BufferInfo} {period : Nat}

theorem accounts_reckonBuffers {known missing : List Calculation}
    (named : .product period s.sampleType.bytes ∈ known) {fault : CreationFault}
    (refused : (s.createBuffers infos period).1 = .error fault) (cause : Status → SinkError) :
    Accounts (α := α) known missing
      (.error ((DriverCall.createBuffers infos period).interruption cause fault))
      (s.reckonBuffers infos period).calculations := by
  rcases s.reckonBuffers_cases infos period with
    ⟨_, _, noted⟩ | ⟨inRange, noted⟩ | ⟨stray, panicked, noted⟩
  · rw [noted]
    exact .failed _
  · rw [noted]
    exact .aborted (List.forall_mem_singleton.mpr inRange) _
  · rw [panicked] at refused
    obtain rfl := Except.error.inj refused
    rw [noted]
    exact .stray named stray

theorem calculations_reckonBuffers {created : List BufferInfo}
    (granted : (s.createBuffers infos period).1 = .ok created) :
    s.halfBytes period < Size.bound ∧
      (s.reckonBuffers infos period).calculations = [.product period s.sampleType.bytes] := by
  rcases s.reckonBuffers_cases infos period with
    ⟨_, refused, _⟩ | ⟨inRange, noted⟩ | ⟨_, refused, _⟩
  · rw [refused] at granted
    contradiction
  · rw [noted]
    exact ⟨inRange, rfl⟩
  · rw [refused] at granted
    contradiction

end Simulated

namespace StreamFormat

/-- The products that nothing keeps in range: the bytes of a period, and the bits of a frame. -/
def unguarded (format : StreamFormat) (period : Nat) (sampleType : SampleType) :
    List Calculation :=
  [.product period sampleType.bytes, .product format.channels format.dataFormat.bits]

variable (format : StreamFormat) (period : Nat) (sampleType : SampleType)

theorem period_mem_unguarded :
    .product period sampleType.bytes ∈ format.unguarded period sampleType :=
  .head _

theorem frame_mem_unguarded :
    .product format.channels format.dataFormat.bits ∈ format.unguarded period sampleType :=
  .tail _ (.head _)

end StreamFormat

theorem Agreed.someBytes {options : SinkOptions} {format : StreamFormat} {driver : Simulated}
    {agreement : Agreement} (agreed : Agreed options format driver agreement) :
    agreement.sampleType.bytes ≠ 0 :=
  Nat.ne_of_gt (Codec.bytes_pos_of_resolve agreed.codec)

namespace Profile

def unguarded (profile : Profile) (options : SinkOptions) (format : StreamFormat) :
    List Calculation :=
  format.unguarded profile.preferredPeriod (profile.sampleTypeAt options format.sampleRate)

theorem unguarded_of_agreed {profile : Profile} {options : SinkOptions} {format : StreamFormat}
    {agreement : Agreement} (agreed : Agreed options format (.boot profile) agreement) :
    profile.unguarded options format =
      format.unguarded agreement.periodFrames agreement.sampleType := by
  rw [agreed.period, agreed.sampleTypeAt]
  rfl

end Profile

namespace Seat

/-- The profile that the host of the seat has for a device. -/
def profile? (seat : Seat) (device : String) : Option Profile :=
  (seat.studio.hosts[seat.host]?).bind fun host => host.profile? device

def unguarded (seat : Seat) (options : SinkOptions) (format : StreamFormat) (device : String) :
    List Calculation :=
  (seat.profile? device).elim [] fun profile => profile.unguarded options format

variable {seat : Seat} {host : Host}

theorem calculations_withOpened (present : seat.host < seat.studio.hosts.length)
    (slot : Slot Feed) (driver : Simulated) (infos : List BufferInfo) (period : Nat) :
    (seat.place (host.withOpened ⟨driver, true⟩) slot).calculations
        (.call host.opened.length (.createBuffers infos period)) =
      (driver.reckonBuffers infos period).calculations := by
  have found := Studio.driver?_place present (host.withOpened ⟨driver, true⟩) slot
    host.opened.length
  rw [Host.driver?_withOpened] at found
  simp only [calculations, place, found]

end Seat

namespace Session

open OpeningM

variable {seat : Seat} {options : SinkOptions}

theorem retraces_enterMode (opening : Opening Seat) (rate : UInt32) (driver : Nat) :
    Retraces opening (enterMode options rate driver) (enterMode options rate driver) nothing := by
  unfold enterMode
  split
  · exact .call rfl
  · exact .pure rfl

theorem retraces_negotiate (opening : Opening Seat) (format : StreamFormat) (driver : Nat) :
    Retraces opening (negotiate options format driver) (negotiate options format driver)
      nothing := by
  unfold negotiate
  refine .bind (retraces_enterMode opening format.sampleRate driver) (fun _ _ => id) ?_
  rintro _ _ _ _ rfl
  refine .call_bind (fun _ _ => rfl) fun _ _ => .call_bind (fun _ _ => rfl) fun _ _ => ?_
  refine .call_bind (fun _ _ => rfl) fun counts _ => .require_bind rfl fun _ => ?_
  refine .call_bind (fun _ _ => rfl) fun sizes _ => .require_bind rfl fun _ => ?_
  refine .call_bind (fun _ _ => rfl) fun info _ => ?_
  split
  · exact .throw rfl
  · exact .pure rfl

theorem retraces_provide (opening : Opening Seat) (agreement : Agreement) (rate : UInt32) :
    Retraces opening
      (Worksheet.provide (agreement.geometry options rate) (agreement.blockBytes options rate))
      (provide options rate agreement) fun _ later => ∀ c ∈ later, c.InRange := by
  unfold provide Worksheet.provide
  refine .ask_bind ?_
  dsimp only
  split
  · next room =>
    refine .required room (.ask_bind (.require fun _ => ?_))
    exact nofun
  · next room =>
    have bytes := Reckoned.Settles.make (Calculation.inRange_stoppedProduct
      (agreement.geometry options rate).capacity (agreement.geometry options rate).planes)
    refine .reckon_bind bytes.found (.refused (Bool.eq_false_iff.mpr room) ?_)
    rw [List.append_nil]
    exact bytes.inRange

theorem retraces_begin (someChunks : options.chunksPerSecond.toNat ≠ 0) {agreement : Agreement}
    (someBytes : agreement.sampleType.bytes ≠ 0) (fits : agreement.periodBytes < Size.bound)
    {opening : Opening Seat} {known : List Calculation}
    (named : .product opening.format.channels opening.format.dataFormat.bits ∈ known)
    (driver : Nat) (infos : List BufferInfo) :
    Retraces opening (Worksheet.begin options driver agreement infos)
      (begin options driver agreement infos)
      (Accounts known [.product opening.format.channels opening.format.dataFormat.bits]) := by
  unfold begin Worksheet.begin
  refine .require_bind (.failed _) fun _ => .get_bind fun _ => ?_
  dsimp only [Opening.onSheet]
  by_cases frame : Agreement.frameBits opening.format < Size.bound
  case neg =>
    have large := Agreement.reckonFrameSize_of_large frame
    refine .reckon_panic (congrArg Reckoned.value? large) (decide_eq_false frame) ?_
    rw [large]
    exact .stray named frame
  have framed := Agreement.settles_reckonFrameSize frame
  have chunked := Agreement.settles_reckonChunkFrames someChunks opening.format.sampleRate
  have sized := agreement.settles_reckonGeometry someChunks opening.format.sampleRate someBytes fits
  refine .required (decide_eq_true frame) (.reckon_bind framed.found (.imp ?_ fun _ _ =>
    .found framed.inRange (Reckoned.mem_make_bind ..)))
  refine .reckon_bind chunked.found (.imp ?_ fun _ _ => .after chunked.inRange)
  refine .setFormat_bind (.required (decide_eq_true fits) ?_)
  refine .reckon_bind sized.found (.imp ?_ fun _ _ => .after sized.inRange)
  refine .bind (retraces_provide _ agreement opening.format.sampleRate) ?_ ?_
  · exact fun interruption _ inRange => .aborted inRange interruption
  rintro ⟨⟩ after earlier _ inRange
  refine .get_bind fun _ => .imp ?_ fun _ _ => .after inRange
  have period : (Calculation.product agreement.periodFrames agreement.sampleType.bytes).InRange :=
    fits
  have served := Reckoned.Settles.make period
  refine .reckon_bind served.found (.imp ?_ fun _ _ => .after served.inRange)
  refine .ask_bind (.call_bind (fun _ _ => Accounts.done) fun _ _ => ?_)
  exact .pure Accounts.done

variable {host : Host} {slot : Slot Feed}

theorem retraces_engage (present : seat.host < seat.studio.hosts.length)
    (someChunks : options.chunksPerSecond.toNat ≠ 0) (profile : Profile) (format : StreamFormat) :
    Retraces ⟨seat.place (host.withOpened ⟨.boot profile, true⟩) slot, format⟩
      (Worksheet.engage options host.opened.length) (engage options host.opened.length)
      (Accounts (profile.unguarded options format) (profile.unguarded options format)) := by
  have placed := Seat.placed_withOpened present host slot
  unfold engage Worksheet.engage
  refine .get_bind fun _ => .bind (retraces_negotiate _ format _) ?_ ?_
  · rintro interruption _ rfl
    exact .failed interruption
  rintro agreement after _ negotiated rfl
  have ends := ends_negotiate placed options format (.boot profile) format
  rw [OpeningM.Ends, negotiated] at ends
  obtain ⟨agreed, rfl⟩ := ends
  rw [Profile.unguarded_of_agreed agreed]
  refine .require_bind (.failed _) fun _ => ?_
  have period := format.period_mem_unguarded agreement.periodFrames agreement.sampleType
  have frame := format.frame_mem_unguarded agreement.periodFrames agreement.sampleType
  refine .call_bind (fun fault refused => ?_) fun infos granted => ?_
  · rw [placed] at refused
    rw [Seat.calculations_withOpened present]
    exact Simulated.accounts_reckonBuffers (agreed.sampleType ▸ period) refused _
  · rw [placed] at granted
    obtain ⟨fits, noted⟩ := Simulated.calculations_reckonBuffers granted
    rw [Seat.calculations_withOpened present, noted, ← agreed.sampleType]
    rw [Simulated.halfBytes, ← agreed.sampleType] at fits
    refine .imp (.undoing (fun _ => rfl)
      (retraces_begin someChunks agreed.someBytes fits frame _ _)) fun _ _ => ?_
    exact .found (List.forall_mem_singleton.mpr fits) (.head _)

theorem retraces_openOn_place (present : seat.host < seat.studio.hosts.length)
    (someChunks : options.chunksPerSecond.toNat ≠ 0) (device : String) (format : StreamFormat) :
    Retraces ⟨seat.place host slot, format⟩ (Worksheet.openOn options device)
      (openOn options device)
      (let unguarded := (host.profile? device).elim [] (·.unguarded options format)
       Accounts unguarded unguarded) := by
  unfold openOn Worksheet.openOn
  refine .ask_bind (.expect_bind (fun _ _ => .failed _) fun _ _ => .undoing (fun _ => rfl) ?_)
  refine .ask_bind (.require_bind (.failed _) fun _ => .undoing (fun _ => rfl) ?_)
  refine .ask_bind (.expect_bind (fun _ _ => .failed _) fun driver opened => ?_)
  simp only [Seat.perform_place present, Seat.effect] at opened ⊢
  have same : host.acquire.2.profile? device = host.profile? device := by
    unfold Host.acquire
    split <;> rfl
  rcases Host.openDriver_cases host.acquire.2 device with
    ⟨status, done⟩ | ⟨profile, found, _, done⟩
  · rw [done] at opened
    contradiction
  rw [done] at opened ⊢
  obtain rfl := Except.ok.inj opened
  rw [← same, found]
  refine .undoing (fun _ => rfl) ?_
  exact retraces_engage present someChunks profile format

theorem retraces_openOn (someChunks : options.chunksPerSecond.toNat ≠ 0) (seat : Seat)
    (device : String) (format : StreamFormat) :
    Retraces ⟨seat, format⟩ (Worksheet.openOn options device) (openOn options device)
      (Accounts (seat.unguarded options format device) (seat.unguarded options format device)) := by
  unfold Seat.unguarded Seat.profile?
  cases found : seat.studio.hosts[seat.host]? with
  | none =>
    have refused : Backend.perform .acquireHost seat = (.error .notPresent, seat) := by
      simp [Backend.perform, Seat.perform, Seat.onHost, Studio.onHost, found]
    unfold openOn Worksheet.openOn
    refine .ask_bind (.expect_bind (fun _ _ => .failed _) fun _ granted => ?_)
    rw [refused] at granted
    contradiction
  | some host =>
    have placed := @retraces_openOn_place seat options host seat.studio.slot
      (List.getElem?_eq_some_iff.mp found).1 someChunks device format
    rw [Seat.place_self found] at placed
    exact placed

end Session

theorem SinkOptions.someChunks (options : SinkOptions) :
    options.normalized.chunksPerSecond.toNat ≠ 0 := by
  change (if options.chunksPerSecond ≤ 1 then 1 else options.chunksPerSecond).toNat ≠ 0
  split
  · decide
  · next more =>
    rw [UInt32.le_iff_toNat_le] at more
    exact fun none => more (none ▸ Nat.zero_le _)

theorem Agreement.frameSize_eq (format : StreamFormat) : frameSize format = format.frameBytes := by
  rw [frameSize, frameBits, InputFormat.bits_eq, Nat.mul_left_comm,
    Nat.mul_div_cancel_left _ (by decide)]
  rfl

/-- The sizes that a session was opened with, and that its caller was told, are those of the
format, and of periods of so many frames of some sample type. -/
structure Session.Sized (session : Session) (driver : Simulated) (frameSize : Nat)
    (options : SinkOptions) (format : StreamFormat) (periodFrames : Nat)
    (sampleType : SampleType) : Prop where
  frame : frameSize = format.frameBytes
  period : session.dispatcher.periodBytes = periodFrames * sampleType.bytes
  furnished : driver.buffers ≠ []
  halves : ∀ buffer ∈ driver.buffers, ∀ half,
    (buffer.get half).length = periodFrames * sampleType.bytes
  capacity :
    let chunk := format.sampleRate.toNat * sampleType.bits / 8 / options.chunksPerSecond.toNat
    let wanted := options.bufferPeriods * max chunk (periodFrames * sampleType.bytes)
    session.ring.capacity = max (wanted - wanted % sampleType.bytes) 1

theorem Session.Engagement.sized {thread : Bool} {options : SinkOptions} {format : StreamFormat}
    {profile : Profile} {agreement : Agreement}
    (engagement : Session.Engagement thread options format profile agreement) (driver : Nat) :
    (Session.fresh options format driver agreement).Sized
      (Session.engaged options format profile agreement)
      (Session.settled options format).frameSize options format profile.preferredPeriod
      (profile.sampleTypeAt options format.sampleRate) := by
  have agreed := engagement.agreed
  have period : agreement.periodFrames = profile.preferredPeriod := agreed.period
  rw [← agreed.sampleTypeAt, ← period]
  refine ⟨Agreement.frameSize_eq format, rfl, ?_, ?_, ?_⟩
  · exact fun none => agreed.somePlanes (by simpa [Session.engaged, Session.furnished] using none)
  · intro buffer member half
    obtain ⟨_, rfl⟩ := List.mem_replicate.mp member
    cases half <;> exact List.length_replicate
  · exact congrArg (max · 1) (Agreement.capacity_eq (Nat.pos_of_ne_zero agreed.someBytes)
      engagement.inMemory.ring)

namespace Worksheet

theorem connect_eq {sink : Sink} {format : StreamFormat} {device : String} {seat after : Seat}
    {result : ConnectResult} (ending : sink.connect format device seat = (result, after))
    (earlier : List Calculation) :
    let unguarded := seat.unguarded sink.options.normalized format device
    ∃ later, Accounts unguarded unguarded result.outcome later ∧
      connect sink format device ⟨seat, earlier⟩ = (result, ⟨after, earlier ++ later⟩) := by
  intro unguarded
  cases found : sink.session with
  | some session =>
    simp only [Sink.connect, connect, found] at ending ⊢
    obtain ⟨rfl, rfl⟩ := Prod.mk.inj ending
    exact ⟨[], .failed _, by rw [List.append_nil]⟩
  | none =>
    obtain ⟨later, accounts, same⟩ :=
      Session.retraces_openOn sink.options.someChunks seat device format earlier
    change openOn sink.options.normalized device ⟨⟨seat, earlier⟩, format⟩ = _ at same
    simp only [Sink.connect, connect, found, ExceptT.run, same] at ending ⊢
    generalize Session.openOn sink.options.normalized device ⟨seat, format⟩ = opening
      at accounts ending ⊢
    obtain ⟨interruption | session, opening⟩ := opening
    · obtain ⟨rfl, rfl⟩ := Prod.mk.inj ending
      refine ⟨later, ?_, rfl⟩
      cases accounts with
      | sound inRange => exact .aborted inRange _
      | strayed strays => exact .strayed strays
    · obtain ⟨rfl, rfl⟩ := Prod.mk.inj ending
      cases accounts with
      | sound inRange complete => exact ⟨later, .sound inRange complete, rfl⟩

end Worksheet

/-- Opening a session succeeds on a host, or it panics for sizes that the device of a host comes
to, or it fails. -/
theorem Session.openOn_cases (options : SinkOptions) (device : String) (seat : Seat)
    (format : StreamFormat) :
    (openOn options device).Ends ⟨seat, format⟩
      (fun session after => ∃ host, seat.studio.hosts[seat.host]? = some host ∧
        session.Opened seat host seat.studio.slot options format device after)
      (fun interruption _ => interruption = .panic →
        ∃ profile, seat.profile? device = some profile ∧ profile.Oversized options format) := by
  cases found : seat.studio.hosts[seat.host]? with
  | none =>
    apply (ends_openOn_homeless found options device format).imp
    · exact fun _ _ impossible => impossible.elim
    · rintro _ _ ⟨rfl, _⟩
      exact (Interruption.failure_ne_panic _).elim
  | some host =>
    have ends := @ends_openOn seat host seat.studio.slot (List.getElem?_eq_some_iff.mp found).1
      options device format
    rw [Seat.place_self found] at ends
    apply ends.imp
    · exact fun session after opened => ⟨host, rfl, opened⟩
    · intro _ _ panicked panics
      obtain ⟨profile, offered, oversized⟩ := panicked.1 panics
      refine ⟨profile, ?_, oversized⟩
      rw [Seat.profile?, found]
      exact offered

/-- A sink is connected with the sizes that the profile for the device comes to. -/
theorem Sink.connect_sized (sink : Sink) (format : StreamFormat) (device : String)
    {seat after : Seat} {result : ConnectResult}
    (ending : sink.connect format device seat = (result, after)) :
    (result.outcome = .error .panic → ∃ profile, seat.profile? device = some profile ∧
      profile.Oversized sink.options.normalized format) ∧
    (result.outcome = .ok () → ∃ profile session driver, seat.profile? device = some profile ∧
      result.sink.session = some session ∧
      after.studio.driver? seat.host session.driver = some driver ∧
      session.Sized driver result.format.frameSize sink.options.normalized format
        profile.preferredPeriod
        (profile.sampleTypeAt sink.options.normalized format.sampleRate)) := by
  cases found : sink.session with
  | some session =>
    simp only [connect, found] at ending
    obtain ⟨rfl, _⟩ := Prod.mk.inj ending
    exact ⟨by simp, by simp⟩
  | none =>
    have ends := Session.openOn_cases sink.options.normalized device seat format
    simp only [connect, found, ExceptT.run] at ending
    unfold OpeningM.Ends at ends
    generalize (Session.openOn sink.options.normalized device : OpeningM Seat Session) _ = opening
      at ending ends
    obtain ⟨interruption | session, opening⟩ := opening
    · obtain ⟨rfl, rfl⟩ := Prod.mk.inj ending
      exact ⟨fun panicked => ends (Except.error.inj panicked), by simp [Except.map]⟩
    · obtain ⟨rfl, rfl⟩ := Prod.mk.inj ending
      refine ⟨by simp [Except.map], fun _ => ?_⟩
      obtain ⟨host, there, _, _, profile, agreement, offered, engagement, rfl, rfl⟩ := ends
      refine ⟨profile, _, _, ?_, rfl, ?_, engagement.sized host.opened.length⟩
      · rw [Seat.profile?, there]
        exact offered
      · rw [Seat.place, Studio.driver?_place (List.getElem?_eq_some_iff.mp there).1]
        exact Host.driver?_withOpened { host with held := host.held + 1 } _

namespace Worksheet

/-- An attempt to connect, with a format whose frames have a size, ends as it does without a
worksheet. Everything that is reckoned for it is in range, unless it panics: then the last
calculation may be out of range, and that is one of the two products that nothing guards. It panics
only for sizes that cannot be counted or be those of lists. Where it succeeds, both products were
reckoned, and the caller, the halves of the driver, the dispatcher and the ring have the true
sizes. -/
theorem sizes_of_attempt (seat : Seat) (sink : Sink) (rate : UInt32) {channels : Nat}
    {dataFormat : InputFormat} (fits : channels * dataFormat.bytes < Size.bound)
    (device : String) :
    let format := StreamFormat.ofInput rate channels dataFormat
    let options := sink.options.normalized
    ∃ result sheet, attempt seat sink rate channels dataFormat device = (some result, sheet) ∧
      sink.connect format device seat = (result, sheet.seat) ∧
      ((∀ c ∈ sheet.calculations, c.InRange) ∨ result.outcome = .error .panic ∧
        Size.Strays (seat.unguarded options format device) sheet.calculations) ∧
      (result.outcome = .error .panic → ∃ profile, seat.profile? device = some profile ∧
        profile.Oversized options format) ∧
      (result.outcome = .ok () → ∃ profile session driver, seat.profile? device = some profile ∧
        profile.unguarded options format ⊆ sheet.calculations ∧
        result.sink.session = some session ∧
        sheet.seat.studio.driver? seat.host session.driver = some driver ∧
        session.Sized driver result.format.frameSize options format profile.preferredPeriod
          (profile.sampleTypeAt options rate)) := by
  intro format options
  have reckoned := StreamFormat.settles_reckonInput fits rate
  rcases ending : sink.connect format device seat with ⟨result, after⟩
  obtain ⟨later, accounts, same⟩ := connect_eq ending
    (StreamFormat.reckonInput rate channels dataFormat).calculations
  have attempted : attempt seat sink rate channels dataFormat device = (some result,
      ⟨after, (StreamFormat.reckonInput rate channels dataFormat).calculations ++ later⟩) := by
    simp only [attempt, reckoned.found]
    rw [same]
  obtain ⟨panicked, connected⟩ := sink.connect_sized format device ending
  refine ⟨result, _, attempted, rfl, ?_, panicked, fun opened => ?_⟩
  · exact (accounts.after reckoned.inRange).inRange_or
  · obtain ⟨profile, session, driver, offered, has, there, sized⟩ := connected opened
    refine ⟨profile, session, driver, offered, ?_, has, there, sized⟩
    have complete := (accounts.after reckoned.inRange).complete (opened ▸ rfl)
    rw [Seat.unguarded, offered] at complete
    exact complete

theorem sizes_of_attempt_prompted :
    ∃ result sheet,
      attempt ⟨0, 0, Studio.prompted⟩ (.ofOptions .standard) 48000 1 .s16le "sim" =
        (some result, sheet) ∧
      1 * InputFormat.s16le.bytes < Size.bound ∧ result.outcome = .ok () ∧
      result.format.frameSize = 2 ∧ ∀ c ∈ sheet.calculations, c.InRange := by
  have fits : 1 * InputFormat.s16le.bytes < Size.bound := by decide
  obtain ⟨result, sheet, attempted, _, inRange, _, opened⟩ :=
    sizes_of_attempt ⟨0, 0, Studio.prompted⟩ (.ofOptions .standard) 48000 fits "sim"
  have outcome : result.outcome = .ok () := by
    have ended : (attempt ⟨0, 0, Studio.prompted⟩ (.ofOptions .standard) 48000 1 .s16le "sim").1.map
      ConnectResult.outcome = some (.ok ()) := rfl
    rw [attempted] at ended
    exact Option.some.inj ended
  obtain ⟨_, _, _, _, _, _, _, sized⟩ := opened outcome
  refine ⟨result, sheet, attempted, fits, outcome, sized.frame, inRange.resolve_right ?_⟩
  rintro ⟨panicked, _⟩
  rw [outcome] at panicked
  contradiction

/-- All that is reckoned for one attempt: by the caller, by the driver, by the sink, and for the
dispatcher. -/
example :
    (attempt ⟨0, 0, Studio.prompted⟩ (.ofOptions .standard) 48000 1 .s16le "sim").2.calculations =
      [.product 1 2, .product 2 2, .product 1 16, .quotient 16 8, .quotient 48000 1,
       .quotient 48000 75, .product 48000 16, .quotient 768000 8, .quotient 96000 75,
       .product 2 2, .stoppedProduct 3 1280, .remainder 3840 2, .difference 3840 0,
       .product 2 2] := by
  decide

end Worksheet

/-- A studio with a driver whose period takes more bytes than a word can count. -/
def Studio.overlong : Studio :=
  unused [[{ Profile.standard with
    maxPeriod := 0x4000000000000001, preferredPeriod := 0x4000000000000001, clock := false }]]
    [(0, .standard)]

namespace Worksheet

/-- Two attempts panic with a size that is none: the bits of a frame, and the bytes of a period. -/
theorem sizes_left_range :
    let wide := attempt ⟨0, 0, Studio.prompted⟩ (.ofOptions .standard) 48000 0x1000000000000000
      .s16le "sim"
    let long := attempt ⟨0, 0, Studio.overlong⟩ (.ofOptions .standard) 48000 2 .float "sim"
    (0x1000000000000000 * InputFormat.s16le.bytes < Size.bound ∧
      wide.1.map (·.outcome) = some (.error .panic) ∧ ∃ c ∈ wide.2.calculations, ¬c.InRange) ∧
    2 * InputFormat.float.bytes < Size.bound ∧
      long.1.map (·.outcome) = some (.error .panic) ∧ ∃ c ∈ long.2.calculations, ¬c.InRange := by
  refine ⟨⟨by decide, rfl, ?_⟩, by decide, rfl, ?_⟩
  · exact ⟨.product 0x1000000000000000 16, by decide, by decide⟩
  · exact ⟨.product 0x4000000000000001 4, by decide, by decide⟩

end Worksheet

end PlanarSink
