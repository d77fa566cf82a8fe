import PlanarSink.Proofs.FailedConnect
import PlanarSink.Proofs.ToneFrames
import PlanarSink.Tone.Playback

/-! Playing a tone. However the ring fills up and whenever waiting is given up, the frames that
the sink takes are the first of the tone, each once, and it gives back all it took. -/
namespace PlanarSink

namespace Studio

variable {studio : Studio} {host sink : Nat}

/-- What happens while a sink is fed: it gets frames, and drivers of its host deliver. -/
def Command.Feeds (host sink : Nat) : Command → Prop
  | .addPackets number .. => number = sink
  | .tick number _ => number = host
  | _ => False

theorem run_append (studio : Studio) (earlier later : List Command) :
    studio.run (earlier ++ later) = (studio.run earlier).run later :=
  List.foldl_append

theorem acceptedOver_append (studio : Studio) (sink : Nat) (format : StreamFormat)
    (earlier later : List Command) :
    studio.acceptedOver sink format (earlier ++ later) =
      studio.acceptedOver sink format earlier ++
        (studio.run earlier).acceptedOver sink format later := by
  induction earlier generalizing studio with
  | nil => rfl
  | cons command earlier ih =>
    rw [List.cons_append, acceptedOver, ih, acceptedOver, List.append_assoc]
    rfl

theorem acceptedOver_ticks (studio : Studio) (sink : Nat) (format : StreamFormat) (host : Nat)
    (drivers : List Nat) : studio.acceptedOver sink format (drivers.map (.tick host)) = [] := by
  induction drivers generalizing studio with
  | nil => rfl
  | cons driver drivers ih => exact ih _

theorem acceptedOver_congr {format other : StreamFormat}
    (same : format.frameBytes = other.frameBytes) (studio : Studio) (sink : Nat)
    (commands : List Command) :
    studio.acceptedOver sink format commands = studio.acceptedOver sink other commands := by
  induction commands generalizing studio with
  | nil => rfl
  | cons command commands ih =>
    rw [acceptedOver, acceptedOver, ih]
    cases command <;> simp only [accepted, StreamFormat.framesOf_congr same, same]

theorem slot_feeding {commands : List Command}
    (feeding : ∀ command ∈ commands, command.Feeds host sink) :
    (studio.run commands).slot = studio.slot := by
  induction commands generalizing studio with
  | nil => rfl
  | cons command commands ih =>
    obtain ⟨first, rest⟩ := List.forall_mem_cons.mp feeding
    refine (ih rest).trans ?_
    cases command with
    | addPackets number data frames offset => exact slot_addPackets ..
    | tick number driver => exact slot_tick ..
    | connect | disconnect | stop | start | drain | drop | refuse | supply => contradiction

namespace Orderly

theorem refused (orderly : studio.Orderly) {seated : SeatedSink}
    (found : studio.sink? sink = some seated) (idle : seated.sink.session = none)
    {format : StreamFormat} {device : String} {interruption : Interruption}
    (failed : (studio.connect sink format device).1.1 = .error interruption) :
    (studio.connect sink format device).2.slot = studio.slot ∧
      (studio.connect sink format device).2.session? sink = none := by
  rcases connect_interrupted found idle failed with
    ⟨_, left⟩ | ⟨host, next, slot, _, _, unclaimed, left⟩
  · rw [left, session?, sink?_setSink found]
    exact ⟨rfl, rfl⟩
  · have stored := @sink?_setSink (studio.place seated.host next slot) sink seated found
    rw [left, session?, stored]
    exact ⟨orderly.slot_rolledBack unclaimed, rfl⟩

/-- A sink is connected where the slot is free, and then the slot leads to it. -/
theorem admitted (orderly : studio.Orderly) {format : StreamFormat} {device : String}
    (connected : (studio.connect sink format device).1.1 = .ok ()) :
    studio.slot = .free ∧
      (∃ feed, (studio.connect sink format device).2.slot.target = some feed ∧ feed.sink = sink) ∧
      ∃ options, (studio.connect sink format device).1.2 = Session.settled options format := by
  cases found : studio.sink? sink with
  | none => simp [Studio.connect, onSink, found] at connected
  | some seated =>
    have ways := connect_cases found format device
    generalize studio.connect sink format device = outcome at connected ways ⊢
    cases ways with
    | again | homeless | interrupted => contradiction
    | @opened host session after idle present opened =>
      obtain ⟨_, unclaimed, _, _, _, _, rfl, rfl⟩ := opened
      refine ⟨?_, ⟨_, rfl, rfl⟩, _, rfl⟩
      have free := orderly.slot_rolledBack (.inr ⟨unclaimed, rfl⟩)
      exact free.symm

theorem holdings {before after : Studio} (orderly : before.Orderly)
    (orderly' : after.Orderly) (slot : after.slot = before.slot)
    (hosts : after.hosts.length = before.hosts.length) {number : Nat} {host : Host}
    (present : before.hosts[number]? = some host) :
    ∃ next, after.hosts[number]? = some next ∧ next.held = host.held ∧
      next.liveDrivers = host.liveDrivers := by
  have inside := (List.getElem?_eq_some_iff.mp present).1
  rw [← hosts] at inside
  have there := List.getElem?_eq_getElem inside
  obtain ⟨held, liveDrivers⟩ := orderly.counted number host present
  obtain ⟨held', liveDrivers'⟩ := orderly'.counted number _ there
  rw [slot] at held' liveDrivers'
  exact ⟨_, there, held'.trans held.symm, liveDrivers'.trans liveDrivers.symm⟩

end Orderly

end Studio

namespace Playback

variable {p : Playback} {studio : Studio} {progress : Progress} {packet : Bytes}
  {start total frames offset count vain : Nat}

/-- Since a studio the sink was only fed, and it took the first frames of the tone. -/
structure Reached (p : Playback) (studio : Studio) (count : Nat) (progress : Progress) : Prop where
  ran : progress.studio = studio.run progress.commands
  feeding : ∀ command ∈ progress.commands, command.Feeds p.host p.sink
  taken : studio.acceptedOver p.sink p.format progress.commands =
    (List.range count).map (p.tone.frame p.wave p.format)

namespace Reached

variable (reached : p.Reached studio count progress)
include reached

theorem wait : p.Reached studio count (p.wait progress) := by
  refine ⟨?_, List.forall_mem_append.mpr ⟨reached.feeding, ?_⟩, ?_⟩
  · exact (reached.ran ▸ Studio.run_append ..).symm
  · intro command member
    obtain ⟨driver, _, rfl⟩ := List.mem_map.mp member
    rfl
  · refine (Studio.acceptedOver_append ..).trans ?_
    rw [reached.taken, Studio.acceptedOver_ticks, List.append_nil]

theorem settle (grace vain : Nat) : p.Reached studio count (p.settle grace vain progress) := by
  fun_induction p.settle grace vain progress with
  | case1 | case2 => exact reached.wait
  | case3 vain progress waited _ _ ih => exact ih reached.wait

end Reached

/-- A packet has the frames of the tone from `start` on. -/
def Holds (p : Playback) (packet : Bytes) (start frames : Nat) : Prop :=
  ∀ offset count, offset + count ≤ frames →
    p.format.framesOf (packet.drop (offset * p.format.frameBytes)) count =
      (List.range' (start + offset) count).map (p.tone.frame p.wave p.format)

theorem hand_eq : p.hand packet frames offset progress =
    ((progress.studio.addPackets p.sink [packet] frames offset).1,
      ⟨(progress.studio.addPackets p.sink [packet] frames offset).2, progress.calls,
        progress.commands ++ [.addPackets p.sink [packet] frames offset]⟩) :=
  rfl

/-- Frames that are handed over where the sink has got to are the next that it takes. -/
theorem Reached.hand (reached : p.Reached studio (start + offset) progress)
    (within : offset ≤ frames) (holds : p.Holds packet start frames) {taken : Nat}
    {next : Progress} (handed : p.hand packet (frames - offset) offset progress = (taken, next)) :
    taken ≤ frames - offset ∧ p.Reached studio (start + (offset + taken)) next := by
  have few := progress.studio.addPackets_le p.sink packet (frames - offset) offset
  rw [hand_eq] at handed
  obtain ⟨rfl, rfl⟩ := Prod.mk.inj handed
  refine ⟨few, ?_, List.forall_mem_append.mpr ⟨reached.feeding, List.forall_mem_singleton.mpr rfl⟩, ?_⟩
  · rw [Studio.run_append, ← reached.ran]
    rfl
  · rw [Studio.acceptedOver_append, reached.taken, ← reached.ran, Studio.acceptedOver,
      Studio.acceptedOver, List.append_nil, Studio.accepted, if_pos rfl, List.headD_cons,
      holds offset _ (by omega), ← Nat.add_assoc, List.range_add (n := start + offset),
      List.map_append, ← List.range'_eq_map_range]

/-- Of a packet frames are taken in order, and all of them unless waiting is given up. -/
theorem Reached.offer (reached : p.Reached studio (start + offset) progress)
    (within : offset ≤ frames) (holds : p.Holds packet start frames) :
    ∃ count, p.Reached studio count (p.offer packet frames offset vain progress).2 ∧
      count ≤ start + frames ∧
      ((p.offer packet frames offset vain progress).1 = true → count = start + frames) := by
  fun_induction p.offer packet frames offset vain progress with
  | case1 offset vain progress done =>
    exact ⟨start + offset, reached, by omega, fun _ => by omega⟩
  | case2 offset vain progress waiting next gaveUp handed =>
    obtain ⟨_, after⟩ := reached.wait.hand (by omega) holds handed
    exact ⟨start + offset, after, by omega, nofun⟩
  | case3 offset vain progress waiting next gaveUp handed ih =>
    obtain ⟨_, after⟩ := reached.wait.hand (by omega) holds handed
    exact ih after within
  | case4 offset vain progress waiting taken next handed some ih =>
    obtain ⟨few, after⟩ := reached.wait.hand (by omega) holds handed
    exact ih after (by omega)

theorem Reached.offer_synthesized (reached : p.Reached studio start progress)
    (fits : start + frames < Size.bound)
    (made : p.tone.synthesize p.wave p.format start frames = .ok packet) :
    ∃ count, p.Reached studio count (p.offer packet frames 0 0 progress).2 ∧
      count ≤ start + frames ∧
      ((p.offer packet frames 0 0 progress).1 = true → count = start + frames) := by
  apply Reached.offer
  · exact reached
  · exact Nat.zero_le _
  · exact fun _ _ within => Tone.framesOf_synthesize fits made within

/-- Frames are queued in order up to the last, unless waiting is given up. -/
theorem Reached.queue (reached : p.Reached studio start progress) (within : start ≤ total)
    (writable : start < total → Tone.Writable p.format) (bounded : total < Size.bound) :
    ∃ count, p.Reached studio count (p.queue total start progress).2 ∧ count ≤ total ∧
      ((p.queue total start progress).1 = .ok () → count = total) := by
  fun_induction p.queue total start progress with
  | case1 start progress done => exact ⟨start, reached, within, fun _ => by omega⟩
  | case2 start progress more frames cause failed =>
    rw [Tone.synthesize_eq_ok (fun _ => writable (by omega)) (by omega)] at failed
    contradiction
  | case3 start progress more frames packet made next offered ih =>
    obtain ⟨count, after, _, all⟩ := reached.offer_synthesized (by omega) made
    rw [offered] at after all
    obtain rfl := all rfl
    exact ih after (by omega) fun _ => writable (by omega)
  | case4 start progress more frames packet made next offered =>
    obtain ⟨count, after, few, _⟩ := reached.offer_synthesized (by omega) made
    rw [offered] at after
    exact ⟨count, after, by omega, nofun⟩

theorem queue_of_not_writable (unwritable : ¬Tone.Writable p.format) (some : 0 < total)
    (bounded : total < Size.bound) (progress : Progress) :
    p.queue total 0 progress = (.error (.synthesis (.unencodable p.format.dataFormat)), progress) := by
  rw [queue, if_neg (by omega)]
  dsimp only
  rw [Tone.synthesize_eq_error unwritable (by omega) (by omega)]

theorem Reached.run (bounded : total < Size.bound) (writable : 0 < total → Tone.Writable p.format) :
    ∃ count, p.Reached studio count (p.run total studio).2 ∧ count ≤ total ∧
      ((p.run total studio).1 = .ok () → count = total) := by
  have begun : p.Reached studio 0 ⟨studio, 0, []⟩ := ⟨rfl, nofun, rfl⟩
  obtain ⟨count, reached, few, all⟩ := begun.queue (Nat.zero_le _) writable bounded
  unfold Playback.run
  generalize p.queue total 0 ⟨studio, 0, []⟩ = queued at reached all
  rcases queued with ⟨cause | ⟨⟩, progress⟩
  · exact ⟨count, reached, few, nofun⟩
  · exact ⟨count, reached.settle _ _, few, all⟩

/-- Of a tone the first frames were taken, and all of them where it was played to its end. Of
frames that cannot be written none was. -/
def Renders (whole : Except ToneError Bytes) (format : StreamFormat) (total : Nat)
    (outcome : Except PlaybackError Unit) (taken : List Bytes) : Prop :=
  match whole with
  | .ok bytes => taken <+: format.framesOf bytes total ∧
      (outcome = .ok () → taken = format.framesOf bytes total)
  | .error _ => taken = [] ∧ outcome ≠ .ok ()

theorem Renders.nothing {whole : Except ToneError Bytes} {format : StreamFormat}
    {outcome : Except PlaybackError Unit} (failed : outcome ≠ .ok ()) :
    Renders whole format total outcome [] := by
  cases whole with
  | error => exact ⟨rfl, failed⟩
  | ok => exact ⟨List.nil_prefix, fun done => absurd done failed⟩

/-- What playing comes to between an opened studio and the end: its sink is fed and takes the
frames of a tone, and then it is dropped. -/
structure Account (whole : Except ToneError Bytes) (format : StreamFormat) (total host sink : Nat)
    (opened : Studio) (played : Played) : Prop where
  ended : played.ended = opened.run played.commands
  feeding : ∀ command ∈ played.commands, command.Feeds host sink
  renders : Renders whole format total played.outcome
    (opened.acceptedOver sink format played.commands)
  dropped : played.studio = played.ended.dropSink sink

theorem Account.of_settled {tone : Tone} {wave : Binary.Double → Binary.Double}
    {options : SinkOptions} {format : StreamFormat} {host sink : Nat} {opened : Studio}
    {played : Played}
    (account : Account (tone.synthesize wave (Session.settled options format) start frames)
      (Session.settled options format) total host sink opened played) :
    Account (tone.synthesize wave format start frames) format total host sink opened played := by
  have same : tone.synthesize wave (Session.settled options format) start frames =
      tone.synthesize wave format start frames := rfl
  have size : (Session.settled options format).frameBytes = format.frameBytes := rfl
  have renders := account.renders
  simp only [Renders, same, StreamFormat.framesOf_congr size, Studio.acceptedOver_congr size]
    at renders
  exact ⟨account.ended, account.feeding, renders, account.dropped⟩

theorem account_nothing {whole : Except ToneError Bytes} {format : StreamFormat}
    {host sink : Nat} {opened : Studio} {error : PlaybackError} :
    Account whole format total host sink opened (finish sink (.error error) ⟨opened, 0, []⟩) :=
  ⟨rfl, nofun, .nothing nofun, rfl⟩

theorem account_run (p : Playback) (studio : Studio) (bounded : total < Size.bound) :
    Account (p.tone.synthesize p.wave p.format 0 total) p.format total p.host p.sink studio
      (finish p.sink (p.run total studio).1 (p.run total studio).2) := by
  rw [← Nat.zero_add total] at bounded
  by_cases writable : 0 < total → Tone.Writable p.format
  · obtain ⟨count, reached, few, all⟩ := @Reached.run p studio total (by omega) writable
    have made := @Tone.synthesize_eq_ok p.tone p.wave p.format 0 total writable bounded
    have whole := Tone.framesOf_synthesize bounded made (Nat.le_of_eq (Nat.zero_add total))
    rw [Nat.zero_mul, List.drop_zero, Nat.zero_add] at whole
    have first : List.range count <+: List.range' 0 total := by
      rw [← List.range_eq_range', ← Nat.add_sub_cancel' few, List.range_add]
      exact List.prefix_append _ _
    refine ⟨reached.ran, reached.feeding, ?_, rfl⟩
    rw [made, Renders, whole, finish, reached.taken]
    refine ⟨first.map _, fun done => ?_⟩
    rw [all done, List.range_eq_range']
  · obtain ⟨some, unwritable⟩ := Classical.not_imp.mp writable
    rw [run, queue_of_not_writable unwritable some (by omega),
      Tone.synthesize_eq_error unwritable some bounded]
    exact account_nothing

section Play

variable (wave : Binary.Double → Binary.Double) (schedule : Session → Schedule) (settings : Settings)
  (host : Nat) (studio : Studio)

abbrev asked : (Except Interruption Unit × StreamFormat) × Studio :=
  (studio.addSink host settings.sink).connect studio.sinks.length
    (.ofInput settings.sampleRate settings.channels settings.format) settings.device

/-- An attempt comes to nothing before the new sink is asked, or is up to the sink. -/
theorem attempt_cases :
    attempt settings host studio = (.error .panic, studio.addSink host settings.sink) ∨
      (∃ interruption, (asked settings host studio).1.1 = .error interruption ∧
        attempt settings host studio = (.error interruption, (asked settings host studio).2)) ∨
      (asked settings host studio).1.1 = .ok () ∧
        attempt settings host studio =
          (.ok (asked settings host studio).1.2, (asked settings host studio).2) := by
  unfold attempt asked StreamFormat.ofInput?
  dsimp only
  split
  · exact .inl rfl
  · next format some =>
    obtain rfl := Option.some.inj (Option.ite_none_right_eq_some.mp some).2
    generalize Studio.connect _ _ _ _ = outcome
    rcases outcome with ⟨⟨interruption | ⟨⟩, format⟩, after⟩
    · exact .inr (.inl ⟨interruption, rfl, rfl⟩)
    · exact .inr (.inr ⟨rfl, rfl⟩)

section Attempt

variable {studio} (orderly : studio.Orderly)
include orderly

theorem attempt_orderly : (attempt settings host studio).2.Orderly := by
  have added := orderly.addSink host settings.sink
  rcases attempt_cases settings host studio with
    attempted | ⟨_, _, attempted⟩ | ⟨_, attempted⟩ <;> rw [attempted]
  · exact added
  · exact added.connect _ _ _
  · exact added.connect _ _ _

theorem attempt_hosts : (attempt settings host studio).2.hosts.length = studio.hosts.length := by
  have accounts := (orderly.addSink host settings.sink).accounts (.connect studio.sinks.length
    (.ofInput settings.sampleRate settings.channels settings.format) settings.device)
  rcases attempt_cases settings host studio with
    attempted | ⟨_, _, attempted⟩ | ⟨_, attempted⟩ <;> rw [attempted]
  · rfl
  · exact accounts.hosts
  · exact accounts.hosts

theorem attempt_refused {interruption : Interruption}
    (failed : (attempt settings host studio).1 = .error interruption) :
    (attempt settings host studio).2.slot = studio.slot ∧
      (attempt settings host studio).2.session? studio.sinks.length = none := by
  have added := studio.sink?_addSink host settings.sink
  rcases attempt_cases settings host studio with
    attempted | ⟨_, refused, attempted⟩ | ⟨_, attempted⟩ <;> rw [attempted] at failed ⊢
  · rw [Studio.session?, added]
    exact ⟨rfl, rfl⟩
  · exact (orderly.addSink host settings.sink).refused added rfl refused
  · contradiction

theorem attempt_admitted {format : StreamFormat}
    (connected : (attempt settings host studio).1 = .ok format) :
    studio.slot = .free ∧
      (∃ feed, (attempt settings host studio).2.slot.target = some feed ∧
        feed.sink = studio.sinks.length) ∧
      ∃ options, format = Session.settled options
        (.ofInput settings.sampleRate settings.channels settings.format) := by
  rcases attempt_cases settings host studio with
    attempted | ⟨_, _, attempted⟩ | ⟨opened, attempted⟩ <;> rw [attempted] at connected ⊢
  · contradiction
  · contradiction
  · obtain rfl := Except.ok.inj connected
    exact (orderly.addSink host settings.sink).admitted opened

end Attempt

/-- Playing comes to nothing with the attempt to connect its sink, or for packets that are too
long, or runs on the sink. -/
theorem play_cases :
    (∃ interruption error, (attempt settings host studio).1 = .error interruption ∧
      play wave schedule settings host studio =
        finish studio.sinks.length (.error error) ⟨(attempt settings host studio).2, 0, []⟩) ∨
    ∃ format, (attempt settings host studio).1 = .ok format ∧
      (play wave schedule settings host studio =
          finish studio.sinks.length (.error .panic) ⟨(attempt settings host studio).2, 0, []⟩ ∨
        ∃ p : Playback, p.host = host ∧ p.sink = studio.sinks.length ∧ p.format = format ∧
          p.tone = ⟨settings.frequency, settings.amplitude⟩ ∧ p.wave = wave ∧
          play wave schedule settings host studio =
            let ended := p.run (totalFrames settings) (attempt settings host studio).2
            finish studio.sinks.length ended.1 ended.2) := by
  unfold play
  generalize attempt settings host studio = attempted
  rcases attempted with ⟨interruption | format, opened⟩
  · exact .inl ⟨interruption, _, rfl, rfl⟩
  · refine .inr ⟨format, rfl, ?_⟩
    dsimp only
    split
    · exact .inl rfl
    · exact .inr ⟨⟨host, _, format, _, wave, _⟩, rfl, rfl, rfl, rfl, rfl, rfl⟩

section Played

variable {studio} (orderly : studio.Orderly)
include orderly

theorem play_account :
    Account ((⟨settings.frequency, settings.amplitude⟩ : Tone).synthesize wave
        (.ofInput settings.sampleRate settings.channels settings.format) 0 (totalFrames settings))
      (.ofInput settings.sampleRate settings.channels settings.format) (totalFrames settings)
      host studio.sinks.length (attempt settings host studio).2
      (play wave schedule settings host studio) := by
  rcases play_cases wave schedule settings host studio with
    ⟨_, _, _, played⟩ | ⟨format, connected, played | ⟨p, rfl, own, same, tone, rfl, played⟩⟩
  · rw [played]
    exact account_nothing
  · rw [played]
    exact account_nothing
  · obtain ⟨_, _, options, settled⟩ := attempt_admitted settings p.host orderly connected
    have account := account_run p (attempt settings p.host studio).2 (totalFrames_lt settings)
    rw [tone, own, same, settled] at account
    rw [played]
    exact account.of_settled

/-- Playing leaves the slot as it was. -/
theorem play_slot : (play wave schedule settings host studio).studio.slot = studio.slot := by
  rcases play_cases wave schedule settings host studio with
    ⟨_, _, failed, played⟩ | ⟨_, connected, _⟩
  · obtain ⟨slot, idle⟩ := attempt_refused settings host orderly failed
    rw [played, finish, Studio.dropSink, Studio.disconnect_idle idle]
    exact slot
  · obtain ⟨free, ⟨feed, target, own⟩, _⟩ := attempt_admitted settings host orderly connected
    have account := play_account wave schedule settings host orderly
    have ended := (attempt_orderly settings host orderly).run
      (play wave schedule settings host studio).commands
    obtain ⟨session, has⟩ :=
      ended.owned feed ((congrArg Slot.target (Studio.slot_feeding account.feeding)).trans target)
    rw [account.dropped, account.ended, ended.slot_dropSink (own ▸ has), free]

theorem play_hosts :
    (play wave schedule settings host studio).studio.hosts.length = studio.hosts.length := by
  have account := play_account wave schedule settings host orderly
  have attempted := attempt_orderly settings host orderly
  have ended := attempted.run (play wave schedule settings host studio).commands
  rw [account.dropped, account.ended]
  exact (ended.accounts (.drop studio.sinks.length)).hosts.trans
    ((attempted.accounts_run _).hosts.trans (attempt_hosts settings host orderly))

theorem play_orderly : (play wave schedule settings host studio).studio.Orderly := by
  have account := play_account wave schedule settings host orderly
  rw [account.dropped, account.ended]
  exact ((attempt_orderly settings host orderly).run _).dropSink _

end Played

/-- Whatever was done in a studio before, and whatever the drivers do meanwhile: of a tone that
is played through a new sink the first frames are taken in order and each once, and all of them
where playing goes well. However it ends, the slot is as before, and each host holds as many
leases and live drivers. -/
theorem play_renders (hosts : List (List Profile)) (sinks : List (Nat × SinkOptions))
    (commands : List Studio.Command) :
    let studio := (Studio.unused hosts sinks).run commands
    let opened := (attempt settings host studio).2
    let played := play wave schedule settings host studio
    let tone : Tone := ⟨settings.frequency, settings.amplitude⟩
    let format : StreamFormat := .ofInput settings.sampleRate settings.channels settings.format
    let total := totalFrames settings
    Account (tone.synthesize wave format 0 total) format total host studio.sinks.length opened
        played ∧
      played.studio.slot = studio.slot ∧
      ∀ (number : Nat) (before : Host), studio.hosts[number]? = some before →
        ∃ after, played.studio.hosts[number]? = some after ∧ after.held = before.held ∧
          after.liveDrivers = before.liveDrivers := by
  intro studio opened played tone format total
  have orderly : studio.Orderly := (Studio.Orderly.unused hosts sinks).run commands
  have slot := play_slot wave schedule settings host orderly
  refine ⟨play_account wave schedule settings host orderly, slot, fun number before present => ?_⟩
  exact orderly.holdings (play_orderly wave schedule settings host orderly) slot
    (play_hosts wave schedule settings host orderly) present

end Play

def brief : Settings :=
  { Settings.standard with
    sampleRate := 4
    channels := 1
    format := .s16le
    seconds := .ofNat 3
    frequency := .ofFraction false 1 25
    sink := { SinkOptions.standard with bufferPeriods := 2, chunksPerSecond := 1 } }

/-- A studio with one driver. It plays periods of five frames, so that a ring holds ten. -/
def cramped : Studio :=
  .unused [[{ Profile.standard with
    minPeriod := 1
    preferredPeriod := 5
    sampleType := .ofInt 16
    sampleRates := [4]
    clock := false }]] []

def ramp (phase : Binary.Double) : Binary.Double :=
  if phase = .ofNat 0 then .ofFraction false 1 64 else phase

def late : Schedule := ⟨fun call => if call = 3 then [0] else [], fun call _ => 4 ≤ call, 0⟩

def firstPacket : Bytes := [0, 1, 5, 4, 11, 8, 16, 12]

def secondPacket : Bytes := [22, 16, 27, 20, 32, 24, 38, 28]

def thirdPacket : Bytes := [43, 32, 49, 36, 54, 40, 59, 44]

/-- Of the third packet two frames have to wait for a period. -/
def briefly : List Studio.Command :=
  [.addPackets 0 [firstPacket] 4 0, .addPackets 0 [secondPacket] 4 0,
    .addPackets 0 [thirdPacket] 4 0, .tick 0 0, .addPackets 0 [thirdPacket] 2 2]

def ramping : Playback :=
  ⟨0, 0, ⟨4, 1, .s16le, 2, 4⟩, ⟨brief.frequency, brief.amplitude⟩, ramp, late⟩

def briefProgress (commands calls : Nat) : Progress :=
  ⟨(attempt brief 0 cramped).2.run (briefly.take commands), calls, briefly.take commands⟩

theorem queue_brief : ramping.queue 12 0 (briefProgress 0 0) = (.ok (), briefProgress 5 4) := by
  have frames : max ramping.format.frames 1 = 4 := rfl
  have start : ramping.tone.synthesize ramping.wave ramping.format 0 4 = .ok firstPacket := rfl
  have middle : ramping.tone.synthesize ramping.wave ramping.format 4 4 = .ok secondPacket := rfl
  have rest : ramping.tone.synthesize ramping.wave ramping.format 8 4 = .ok thirdPacket := rfl
  have first : ramping.hand firstPacket 4 0 (ramping.wait (briefProgress 0 0)) =
    (4, briefProgress 1 1) := rfl
  have second : ramping.hand secondPacket 4 0 (ramping.wait (briefProgress 1 1)) =
    (4, briefProgress 2 2) := rfl
  have third : ramping.hand thirdPacket 4 0 (ramping.wait (briefProgress 2 2)) =
    (2, briefProgress 3 3) := rfl
  have fourth : ramping.hand thirdPacket 2 2 (ramping.wait (briefProgress 3 3)) =
    (2, briefProgress 5 4) := rfl
  simp [queue, offer, frames, start, middle, rest, first, second, third, fourth]

theorem settle_brief (grace : Nat) :
    ramping.settle grace 0 (briefProgress 5 4) = briefProgress 5 5 := by
  have waited : ramping.wait (briefProgress 5 4) = briefProgress 5 5 := rfl
  have expired : ramping.schedule.givesUp grace (briefProgress 5 5).calls 0 = true :=
    Bool.or_true _
  rw [settle, waited, expired, if_pos rfl, ite_self]

theorem play_brief : play ramp (fun _ => late) brief 0 cramped =
    finish 0 (.ok ()) (briefProgress 5 5) := by
  have played : play ramp (fun _ => late) brief 0 cramped =
    let ended := ramping.run 12 (attempt brief 0 cramped).2
    finish 0 ended.1 ended.2 := rfl
  have begun : (⟨(attempt brief 0 cramped).2, 0, []⟩ : Progress) = briefProgress 0 0 := rfl
  have ran : ramping.run 12 (attempt brief 0 cramped).2 = (.ok (), briefProgress 5 5) := by
    rw [run, begun, queue_brief]
    exact congrArg _ (settle_brief _)
  rw [played, ran]

/-- All twelve frames are taken, the last two after a period, and seven of them are still queued
when playing ends. -/
theorem play_renders_brief :
    let opened := (attempt brief 0 cramped).2
    let played := play ramp (fun _ => late) brief 0 cramped
    let tone : Tone := ⟨brief.frequency, brief.amplitude⟩
    Account (tone.synthesize ramp (.ofInput 4 1 .s16le) 0 12) (.ofInput 4 1 .s16le) 12 0 0 opened
        played ∧
      played.outcome = .ok () ∧
      opened.acceptedOver 0 (.ofInput 4 1 .s16le) played.commands =
        [[0, 1], [5, 4], [11, 8], [16, 12], [22, 16], [27, 20], [32, 24], [38, 28],
          [43, 32], [49, 36], [54, 40], [59, 44]] ∧
      (played.ended.session? 0).map (fun session => session.ring.queue 0) =
        some [27, 20, 32, 24, 38, 28, 43, 32, 49, 36, 54, 40, 59, 44] ∧
      played.studio.slot = .free := by
  have account := (play_renders ramp (fun _ => late) brief 0
    [[{ Profile.standard with
      minPeriod := 1, preferredPeriod := 5, sampleType := .ofInt 16, sampleRates := [4],
      clock := false }]] [] []).1
  refine ⟨account, ?_⟩
  rw [play_brief]
  exact ⟨rfl, rfl, rfl, rfl⟩

end Playback

end PlanarSink
