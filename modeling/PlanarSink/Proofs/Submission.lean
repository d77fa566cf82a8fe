import Mathlib.Algebra.Ring.Nat
import PlanarSink.Proofs.Confinement

/-! How a buffer is cut when it is handed to a sink. A plane with a channel of its own gets
the same samples however the frames are cut. Other planes get the silence of each piece, which
starts over with the piece; that shows where the pattern is longer than a sample. -/
namespace PlanarSink

namespace Silence

/-- Silence goes on as it begins where its pattern is a byte long, or ends with the first part. -/
theorem bytes_append {t : SampleType} {count : Nat} (even : t.storage? ≠ some .unpacked ∨ 8 ∣ count)
    (rest : Nat) : bytes t count ++ bytes t rest = bytes t (count + rest) := by
  have later : ∀ i, byteAt t.storage? (count + i) = byteAt t.storage? i := by
    intro i
    rcases even with other | ⟨eighths, rfl⟩
    · unfold byteAt
      split
      · rfl
      · next spelled => exact absurd spelled other
      · rfl
    · unfold byteAt
      rw [Nat.mul_add_mod]
  simp only [bytes, List.range_add, List.map_append, List.map_map]
  congr 2
  funext i
  exact (later i).symm

/-- The silence of some pieces is that of all of them, unless a piece ends within its pattern. -/
theorem flatten_bytes {t : SampleType} {pieces : List Nat}
    (even : t.storage? ≠ some .unpacked ∨ ∀ frames ∈ pieces.dropLast, 8 ∣ frames) :
    (pieces.map fun frames => bytes t (frames * t.bytes)).flatten =
      bytes t (pieces.sum * t.bytes) := by
  induction pieces with
  | nil => simp [bytes]
  | cons first rest ih =>
    cases rest with
    | nil => simp
    | cons second others =>
      rw [List.dropLast_cons_cons] at even
      have ends : t.storage? ≠ some .unpacked ∨ 8 ∣ first * t.bytes :=
        even.imp_right fun eighths =>
          Nat.dvd_mul_right_of_dvd (eighths first List.mem_cons_self) t.bytes
      rw [List.map_cons, List.flatten_cons,
        ih (even.imp_right fun eighths frames member =>
          eighths frames (List.mem_cons_of_mem _ member)),
        bytes_append ends, ← Nat.add_mul, ← List.sum_cons]

end Silence

namespace Codec

def pieced (codec : Codec) (src : Bytes) (channels plane offset : Nat) :
    (pieces : List Nat) → List (Except ConvertError Bytes)
  | [] => []
  | frames :: rest =>
    codec.rendered src channels offset frames plane ++
      codec.pieced src channels plane (offset + frames) rest

variable {codec : Codec} {src : Bytes} {channels plane offset : Nat} {pieces : List Nat}

/-- A plane with a channel of its own gets the frames in whatever pieces they come. -/
theorem pieced_within (within : plane < channels) :
    codec.pieced src channels plane offset pieces =
      codec.rendered src channels offset pieces.sum plane := by
  induction pieces generalizing offset with
  | nil => simp [pieced, rendered, within]
  | cons frames rest ih =>
    rw [pieced, ih, List.sum_cons]
    simp only [rendered, if_pos within, ← List.map_append, List.range'_append_1]

theorem pieced_beyond (beyond : channels ≤ plane)
    (small : pieces.sum * codec.targetBytes < Size.bound) :
    codec.pieced src channels plane offset pieces =
      pieces.map fun frames => .ok (Silence.bytes codec.target (frames * codec.targetBytes)) := by
  induction pieces generalizing offset with
  | nil => rfl
  | cons frames rest ih =>
    rw [List.sum_cons, Nat.add_mul] at small
    have reach : (List.replicate (frames * codec.targetBytes) (0 : UInt8)).length ≤
        Size.saturatingMul frames codec.target.bytes := by
      rw [List.length_replicate]
      have fits : frames * codec.target.bytes < Size.bound :=
        Nat.lt_of_le_of_lt (Nat.le_add_right _ _) small
      exact Size.le_saturatingMul fits
    rw [pieced, ih (by omega), rendered, if_neg (by omega), Silence.fill_eq reach,
      List.length_replicate]
    rfl

end Codec

namespace Session

/-- Hands a slice to a session in pieces; see `Studio.submit`. -/
def submit (s : Session) (src : Bytes) (offset : Nat) : (pieces : List Nat) → Session
  | [] => s
  | frames :: rest => (s.addPackets src frames offset).2.submit src (offset + frames) rest

variable {s : Session} {level : Nat}

theorem Aligned.submit (aligned : s.Aligned level) {src : Bytes}
    (inMemory : src.length < 0x8000000000000000) (some : 0 < s.frameBytes) {pieces : List Nat}
    {offset : Nat} (whole : (offset + pieces.sum) * s.frameBytes ≤ src.length)
    (room : pieces.sum * s.sampleSize ≤ s.ring.writeSize) :
    ∃ scratch ring, s.submit src offset pieces = { s with scratch, ring } ∧
      ∀ plane < s.geometry.planes, ∃ blocks : List Bytes,
        s.codec.pieced src s.input.channels plane offset pieces = blocks.map .ok ∧
        ring.queue plane = s.ring.queue plane ++ blocks.flatten := by
  induction pieces generalizing s level offset with
  | nil => exact ⟨s.scratch, s.ring, rfl, fun plane _ => ⟨[], rfl, (List.append_nil _).symm⟩⟩
  | cons frames rest ih =>
    rw [List.sum_cons, Nat.add_mul] at room
    rw [List.sum_cons, ← Nat.add_assoc] at whole
    have first : (offset + frames) * s.frameBytes ≤ src.length :=
      Nat.le_trans (Nat.mul_le_mul_right _ (Nat.le_add_right _ _)) whole
    obtain ⟨scratch, ring, queued, capacity, after, gained⟩ :=
      aligned.addPackets_stream inMemory frames offset
    rw [s.taken_eq inMemory, aligned.takeable_eq some first (by omega)] at after gained
    have free : rest.sum * s.sampleSize ≤ ring.writeSize := by
      rw [aligned.even.writeSize] at room
      rw [after.even.writeSize, capacity]
      omega
    obtain ⟨scratch', ring', done, more⟩ := ih after some whole free
    refine ⟨scratch', ring', ?_, fun plane there => ?_⟩
    · rw [Session.submit, queued, done]
    · obtain ⟨blocks, rendered, here⟩ := gained plane there
      obtain ⟨others, pieced, later⟩ := more plane there
      refine ⟨blocks ++ others, ?_, ?_⟩
      · rw [Codec.pieced, rendered, pieced, List.map_append]
      · rw [later, here, List.flatten_append, List.append_assoc]

/-- The pieces come to all of their frames in a plane with a channel of its own, and to
silence, piece by piece, in any other. -/
theorem Aligned.queue_submit (aligned : s.Aligned level) {src : Bytes}
    (inMemory : src.length < 0x8000000000000000) (some : 0 < s.frameBytes) {pieces : List Nat}
    (whole : pieces.sum * s.frameBytes ≤ src.length)
    (room : pieces.sum * s.sampleSize ≤ s.ring.writeSize) :
    ∃ scratch ring, s.submit src 0 pieces = { s with scratch, ring } ∧
      ∀ plane < s.geometry.planes,
        (plane < s.input.channels → ∃ blocks : List Bytes,
          s.codec.rendered src s.input.channels 0 pieces.sum plane = blocks.map .ok ∧
          ring.queue plane = s.ring.queue plane ++ blocks.flatten) ∧
        (s.input.channels ≤ plane → ring.queue plane = s.ring.queue plane ++
          (pieces.map fun frames =>
            Silence.bytes s.geometry.sampleType (frames * s.sampleSize)).flatten) := by
  have small : pieces.sum * s.codec.targetBytes < Size.bound := by
    have bounded := aligned.even.bounded
    have addressable := aligned.addressable
    rw [aligned.even.writeSize] at room
    rw [aligned.targetBytes]
    omega
  rw [← Nat.zero_add pieces.sum] at whole
  obtain ⟨scratch, ring, done, gained⟩ := aligned.submit inMemory some whole room
  refine ⟨scratch, ring, done, fun plane there => ?_⟩
  obtain ⟨blocks, pieced, queue⟩ := gained plane there
  constructor
  · intro within
    rw [Codec.pieced_within within] at pieced
    exact ⟨blocks, pieced, queue⟩
  · intro beyond
    rw [Codec.pieced_beyond beyond small, aligned.target, aligned.targetBytes] at pieced
    have silent : blocks = pieces.map fun frames =>
        Silence.bytes s.geometry.sampleType (frames * s.sampleSize) := by
      apply (List.map_inj_right fun _ _ => Except.ok.inj).mp
      rw [← pieced, List.map_map]
      rfl
    rw [queue, silent]

end Session

namespace Studio

theorem Plays.submit {studio : Studio} {line : Line} {c : Coupling} (plays : studio.Plays line c)
    (src : Slice) (offset : Nat) (pieces : List Nat) :
    (studio.submit line.sink src offset pieces).Plays line
      { c with session := c.session.submit src.bytes offset pieces } := by
  induction pieces generalizing studio c offset with
  | nil => exact plays
  | cons frames rest ih => exact ih (plays.addPackets src.bytes [] frames offset).2 _

/-- Frames that are there in whole and have room may be handed to a connected sink at once or
in any pieces. A plane with a channel of its own queues the same, and so does every plane
unless the driver spells one-bit samples out and a piece ends within the pattern of silence.
A plane beyond the channels queues the silence of each piece. -/
theorem submission_uncut {hosts : List (List Profile)} {sinks : List (Nat × SinkOptions)}
    {commands : List Command} {studio : Studio}
    (reached : studio = (unused hosts sinks).run commands) {sink : Nat} {session : Session}
    (connected : studio.session? sink = some session) (someChannels : 0 < session.input.channels)
    {src : Slice} {pieces : List Nat}
    (whole : pieces.sum * (session.input.channels * session.codec.sourceBytes) ≤ src.bytes.length)
    (free : pieces.sum ≤ session.ring.writeSize / session.sampleSize) :
    ∃ cut uncut, (studio.submit sink src 0 pieces).session? sink = some cut ∧
      (studio.submit sink src 0 [pieces.sum]).session? sink = some uncut ∧
      ∀ plane < session.geometry.planes,
        (plane < session.input.channels ∨ session.geometry.sampleType.storage? ≠ some .unpacked ∨
            (∀ frames ∈ pieces.dropLast, 8 ∣ frames) →
          cut.ring.queue plane = uncut.ring.queue plane) ∧
        (session.input.channels ≤ plane → cut.ring.queue plane = session.ring.queue plane ++
          (pieces.map fun frames =>
            Silence.bytes session.geometry.sampleType (frames * session.sampleSize)).flatten) := by
  have wired : studio.Wired := reached ▸ (Wired.unused hosts sinks).run commands
  obtain ⟨seated, found, has⟩ := session?_eq_some_iff.mp connected
  obtain ⟨c, level, plays, aligned⟩ := wired.plays found has
  obtain rfl : c.session = session := Option.some.inj (plays.session?.symm.trans connected)
  refine ⟨_, _, (plays.submit src 0 pieces).session?, (plays.submit src 0 [pieces.sum]).session?, ?_⟩
  have some : 0 < c.session.frameBytes :=
    Nat.mul_pos someChannels c.session.codec.sourceBytes_pos
  have whole : pieces.sum * c.session.frameBytes ≤ src.bytes.length := whole
  have room := Nat.mul_le_of_le_div _ _ _ free
  obtain ⟨_, ring, cut, gained⟩ := aligned.session.queue_submit src.inMemory some whole room
  obtain ⟨_, ring', uncut, gained'⟩ := @Session.Aligned.queue_submit _ _ aligned.session _
    src.inMemory some [pieces.sum] (by simpa using whole) (by simpa using room)
  rw [cut, uncut]
  intro plane there
  obtain ⟨own, silent⟩ := gained plane there
  obtain ⟨own', silent'⟩ := gained' plane there
  refine ⟨fun even => ?_, silent⟩
  by_cases within : plane < c.session.input.channels
  · obtain ⟨blocks, rendered, queue⟩ := own within
    obtain ⟨blocks', rendered', queue'⟩ := own' within
    rw [List.sum_singleton, rendered] at rendered'
    have same : blocks = blocks' := (List.map_inj_right fun _ _ => Except.ok.inj).mp rendered'
    dsimp only
    rw [queue, queue', same]
  · have beyond := Nat.not_lt.mp within
    dsimp only
    have together := Silence.flatten_bytes (even.resolve_left within)
    rw [silent beyond, silent' beyond, List.map_singleton, List.flatten_singleton]
    exact congrArg _ together

def spelled : Studio :=
  unused [[{ Profile.standard with
    minPeriod := 1, preferredPeriod := 3, sampleType := .ofInt 40, clock := false }]]
    [(0, .standard)]

theorem submission_uncut_spelled :
    ∃ session, (spelled.run [.connect 0 (.ofInput 48000 1 .u8) "sim"]).session? 0 = some session ∧
      0 < session.input.channels ∧
      [1, 2].sum * (session.input.channels * session.codec.sourceBytes) ≤ [7, 8, 9].length ∧
      [1, 2].sum ≤ session.ring.writeSize / session.sampleSize ∧
      ∃ cut uncut,
        ((spelled.run [.connect 0 (.ofInput 48000 1 .u8) "sim"]).submit 0
          ⟨[7, 8, 9], by decide⟩ 0 [1, 2]).session? 0 = some cut ∧
        ((spelled.run [.connect 0 (.ofInput 48000 1 .u8) "sim"]).submit 0
          ⟨[7, 8, 9], by decide⟩ 0 [3]).session? 0 = some uncut ∧
        cut.ring.queue 0 = uncut.ring.queue 0 := by
  refine ⟨_, rfl, by decide, by decide, by decide, ?_⟩
  obtain ⟨cut, uncut, submitted, whole, same⟩ :=
    @submission_uncut _ _ _ (spelled.run [.connect 0 (.ofInput 48000 1 .u8) "sim"]) rfl 0 _ rfl
      (by decide) ⟨[7, 8, 9], by decide⟩ [1, 2] (by decide) (by decide)
  exact ⟨cut, uncut, submitted, whole, (same 0 (by decide)).1 (.inl (by decide))⟩

/-- Three frames of one channel are taken in whole at once or in two pieces, and yet the second
plane does not queue the same: its silence starts over with the second piece. -/
theorem pieces_start_silence_over :
    ∃ session cut uncut,
      (spelled.run [.connect 0 (.ofInput 48000 1 .u8) "sim"]).session? 0 = some session ∧
      session.input.channels = 1 ∧ session.geometry.planes = 2 ∧
      3 ≤ session.ring.writeSize / session.sampleSize ∧
      ((spelled.run [.connect 0 (.ofInput 48000 1 .u8) "sim"]).submit 0
        ⟨[7, 8, 9], by decide⟩ 0 [1, 2]).session? 0 = some cut ∧
      ((spelled.run [.connect 0 (.ofInput 48000 1 .u8) "sim"]).submit 0
        ⟨[7, 8, 9], by decide⟩ 0 [3]).session? 0 = some uncut ∧
      cut.ring.queue 1 = [0, 0, 1] ∧ uncut.ring.queue 1 = [0, 1, 1] :=
  ⟨_, _, _, rfl, rfl, rfl, by decide, rfl, rfl, rfl, rfl⟩

end Studio

end PlanarSink
