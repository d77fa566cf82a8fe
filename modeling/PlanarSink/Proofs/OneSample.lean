import PlanarSink.Proofs.Samples
import PlanarSink.Sample.Access

/-! What converting one sample touches. It ends in one of three ways, each of which changes no
byte past the one sample that it writes, and no access on the way is out of bounds. -/
namespace PlanarSink

open Binary (Double Layout)

/-- The storages that the accesses of a write are made for. -/
def Storage.drawn : Storage → Bool
  | .integer width _ _ => width == 2 || width == 3 || width == 4
  | .float layout _ => layout == .single || layout == .double
  | .packed _ | .unpacked => true

theorem SampleType.known_drawn : ∀ entry ∈ SampleType.known, entry.storage.drawn = true := by
  decide

theorem InputFormat.read?_eq {source : InputFormat} (leveled : source ≠ .u8 ∧ source ≠ .raw)
    {src : Bytes} (whole : source.bytes ≤ src.length) :
    source.read? src = some (source.level (src.take source.bytes)) := by
  obtain ⟨notU8, notRaw⟩ := leveled
  cases source with
  | u8 => contradiction
  | raw => contradiction
  | s16le | s16be | s24le | s24be | s32le | s32be => exact ByteOrder.part?_eq whole
  | float | double => exact congrArg (Option.map _) (Bytes.front?_eq whole)

namespace Storage

theorem scaled?_eq {bits : Nat} (drawn : bits = 16 ∨ bits = 32) (level : Double) :
    scaled? bits level = some (scaled bits level) := by
  rcases drawn with rfl | rfl
  · rw [scaled?, if_pos (by decide)]
    exact congrArg (Option.map _) (Double.clamp?_eq (by decide) _)
  · rw [scaled?, if_pos (by decide)]
    exact congrArg (Option.map _) (Double.clamp?_eq (by decide) _)

theorem put?_eq {storage : Storage} (drawn : storage.drawn = true) (leveled : storage.leveled = true)
    (whole : storage.bits = 8 * storage.bytes) (level : Double) {dst : Bytes}
    (room : storage.bytes ≤ dst.length) :
    storage.put? level dst = some (dst.overwrite (storage.write level)) := by
  have replaced := Bytes.replace?_eq (length_write leveled whole level) room
  cases storage with
  | packed | unpacked => contradiction
  | integer width bits order =>
    have three : (width = 2 ∨ width = 3) ∨ width = 4 := by
      simpa only [Storage.drawn, Bool.or_eq_true, beq_iff_eq] using drawn
    rcases three with (rfl | rfl) | rfl
    · rw [put?, scaled?_eq (.inl rfl)]
      exact replaced
    · rw [put?, scaled?_eq (.inr rfl)]
      exact replaced
    · rw [put?, scaled?_eq (.inr rfl)]
      · exact replaced
      · decide
      · decide
  | float layout order =>
    have two : layout = .single ∨ layout = .double := by
      simpa only [Storage.drawn, Bool.or_eq_true, beq_iff_eq] using drawn
    rcases two with rfl | rfl
    · rw [put?, if_pos (by decide)]
      exact replaced
    · rw [put?, if_neg (by decide)]
      exact replaced

end Storage

theorem Silence.fill?_eq (dst : Bytes) (t : SampleType) (samples : Nat) :
    fill? dst t samples = some (fill dst t samples) := by
  have within := Nat.min_le_right (Size.saturatingMul samples t.bytes) dst.length
  have spelled (reached : Bytes) :
      reached.mapIdx (fun i _ => byteAt t.storage? i) = bytes t reached.length := by
    apply List.ext_getElem
    · simp
    · simp [bytes]
  rw [fill?, Bytes.front?_eq within]
  change dst.replace? ((dst.take _).mapIdx _) = _
  rw [spelled, List.length_take, Nat.min_eq_left within]
  exact Bytes.replace?_eq (length_bytes ..) within

theorem Silence.fill_one (dst : Bytes) (t : SampleType) :
    fill dst t 1 = bytes t (min t.bytes dst.length) ++ dst.drop t.bytes := by
  have small : 1 * t.bytes < Size.bound := by
    have le := t.bytes_le
    unfold Size.bound
    omega
  rw [fill, Bytes.overwrite, length_bytes, Size.saturatingMul_eq small, Nat.one_mul]
  rcases Nat.le_total t.bytes dst.length with room | narrow
  · rw [Nat.min_eq_left room]
  · rw [Nat.min_eq_right narrow, List.drop_length, List.drop_eq_nil_of_le narrow]

namespace Codec

variable {codec : Codec} {source : InputFormat} {target : SampleType} {dst src : Bytes}

theorem canConvert_iff :
    canConvert source target = true ↔ ∃ codec, resolve source target = .ok codec := by
  unfold canConvert
  cases resolve source target with
  | ok codec => exact ⟨fun _ => ⟨codec, rfl⟩, fun _ => rfl⟩
  | error failure => exact ⟨nofun, fun ⟨_, resolved⟩ => nomatch resolved⟩

theorem resolve_error {failure : ConvertError} (refused : resolve source target = .error failure) :
    failure = .unsupported source target := by
  unfold resolve at refused
  split at refused
  case h_3 | h_4 | h_7 => exact (Except.error.inj refused).symm
  all_goals contradiction

/-- One-bit samples and the opaque stream come to no levels. -/
theorem leveled_of_level {storage : Storage} (resolved : resolve source target = .ok codec)
    (level : codec.path = .level storage) : source ≠ .u8 ∧ source ≠ .raw := by
  unfold resolve at resolved
  split at resolved
  case h_1 | h_2 =>
    obtain rfl := Except.ok.inj resolved
    contradiction
  case h_5 notU8 notRaw _ | h_6 notU8 notRaw _ => exact ⟨notU8, notRaw⟩
  all_goals contradiction

/-- A codec that was resolved keeps to the lengths it has looked at. -/
theorem convert?_eq (resolved : resolve source target = .ok codec) (dst src : Bytes) :
    codec.convert? dst src =
      some (match codec.convert dst src with
        | .error failure => (.error failure, dst)
        | .ok written => (.ok (), written)) := by
  unfold convert? convert
  by_cases short : src.length < codec.sourceBytes
  · rw [if_pos short, if_pos short]
  rw [if_neg short, if_neg short]
  by_cases narrow : dst.length < codec.targetBytes
  · rw [if_pos narrow, if_pos narrow]
  rw [if_neg narrow, if_neg narrow]
  have whole := Nat.le_of_not_lt short
  have room := Nat.le_of_not_lt narrow
  obtain ⟨rfl, rfl, ⟨copied, u8, byte⟩ | ⟨storage, level, stored, leveled⟩⟩ := resolve_cases resolved
  · have some : 1 ≤ src.length := Nat.le_trans codec.sourceBytes_pos whole
    have length : (src.take 1).length = codec.target.bytes := by
      rw [List.length_take, Nat.min_eq_left some, byte]
    have copy : codec.sample src = src.take 1 := by
      rw [sample, copied, targetBytes, byte]
    rw [copied, copy, Bytes.front?_eq some]
    change (dst.replace? (src.take 1) >>= _) = _
    rw [Bytes.replace?_eq length room]
    rfl
  · obtain ⟨entry, known, rfl⟩ := Option.map_eq_some_iff.mp stored
    have listed := List.mem_of_find?_eq_some known
    have drawn := SampleType.known_drawn entry listed
    have width := SampleType.known_whole entry listed leveled
    have enough : entry.storage.bytes ≤ dst.length := by
      rw [← SampleType.bytes_of_storage stored]
      exact room
    have written : codec.sample src =
        entry.storage.write (codec.source.level (src.take codec.source.bytes)) := by
      rw [sample, level, sourceBytes]
    rw [level, written, InputFormat.read?_eq (leveled_of_level resolved level) whole]
    change (entry.storage.put? _ dst >>= _) = _
    rw [Storage.put?_eq drawn leveled width _ enough]
    rfl

/-- No access is out of bounds, whatever the formats and the lengths. -/
theorem convertSample?_eq (dst : Bytes) (target : SampleType) (src : Bytes) (source : InputFormat) :
    convertSample? dst target src source = some (convertSample dst target src source) := by
  unfold convertSample? convertSample
  cases resolved : resolve source target with
  | ok codec => exact convert?_eq resolved dst src
  | error failure =>
    dsimp only
    rw [Silence.fill?_eq]
    rfl

theorem convertSample_unsupported (cannot : canConvert source target = false) (dst src : Bytes) :
    convertSample dst target src source =
      (.error (.unsupported source target), Silence.fill dst target 1) := by
  unfold convertSample
  cases resolved : resolve source target with
  | ok codec => exact absurd (canConvert_iff.mpr ⟨codec, resolved⟩) (Bool.eq_false_iff.mp cannot)
  | error failure => rw [resolve_error resolved]

section Resolved

variable (resolved : resolve source target = .ok codec)
include resolved

theorem convertSample_short (dst : Bytes) (short : src.length < source.bytes) :
    convertSample dst target src source = (.error (.short source.bytes src.length), dst) := by
  obtain ⟨rfl, _⟩ := resolve_cases resolved
  rw [convertSample, resolved]
  dsimp only
  rw [convert, sourceBytes, if_pos short]

theorem convertSample_narrow (whole : source.bytes ≤ src.length) (narrow : dst.length < target.bytes) :
    convertSample dst target src source = (.error (.short target.bytes dst.length), dst) := by
  obtain ⟨rfl, rfl, _⟩ := resolve_cases resolved
  rw [convertSample, resolved]
  dsimp only
  rw [convert, sourceBytes, targetBytes, if_neg (Nat.not_lt.mpr whole), if_pos narrow]

theorem convertSample_whole (whole : source.bytes ≤ src.length) (room : target.bytes ≤ dst.length) :
    convertSample dst target src source = (.ok (), codec.sample src ++ dst.drop target.bytes) := by
  have length : codec.sourceBytes ≤ src.length → (codec.sample src).length = codec.targetBytes :=
    length_sample resolved
  obtain ⟨rfl, rfl, _⟩ := resolve_cases resolved
  rw [convertSample, resolved]
  dsimp only
  rw [convert, sourceBytes, targetBytes, if_neg (Nat.not_lt.mpr whole), if_neg (Nat.not_lt.mpr room),
    Bytes.overwrite, length whole, targetBytes]

end Resolved

/-- What came of converting one sample is confined to that sample. It is written, as what `value`
has for the source sample, where the formats convert and both slices hold a sample; a slice that
is shorter leaves all as it was; and formats that do not convert leave one sample of silence, as
far as there is room for it. -/
structure Confined (value : Bytes → Bytes) (source : InputFormat) (target : SampleType)
    (dst src : Bytes) (result : Except ConvertError Unit) (out : Bytes) : Prop where
  ok_iff : result = .ok () ↔ canConvert source target = true ∧ source.bytes ≤ src.length ∧
    target.bytes ≤ dst.length
  written : result = .ok () → (value (src.take source.bytes)).length = target.bytes ∧
    out = value (src.take source.bytes) ++ dst.drop target.bytes
  short : ∀ needed got, result = .error (.short needed got) → out = dst ∧ got < needed
  unsupported_iff : ∀ format type, result = .error (.unsupported format type) ↔
    canConvert source target = false ∧ format = source ∧ type = target
  silent : canConvert source target = false →
    out = Silence.bytes target (min target.bytes dst.length) ++ dst.drop target.bytes

theorem confined_unsupported (value : Bytes → Bytes) (cannot : canConvert source target = false)
    (dst src : Bytes) :
    Confined value source target dst src (.error (.unsupported source target))
      (Silence.fill dst target 1) where
  ok_iff := ⟨nofun, fun ⟨can, _⟩ => absurd can (Bool.eq_false_iff.mp cannot)⟩
  written := nofun
  short := nofun
  unsupported_iff format type := by
    constructor
    · intro same
      obtain ⟨rfl, rfl⟩ := ConvertError.unsupported.inj (Except.error.inj same)
      exact ⟨cannot, rfl, rfl⟩
    · rintro ⟨_, rfl, rfl⟩
      rfl
  silent _ := Silence.fill_one dst target

theorem confined_short (value : Bytes → Bytes) (can : canConvert source target = true)
    {needed got : Nat} (less : got < needed)
    (lacking : ¬(source.bytes ≤ src.length ∧ target.bytes ≤ dst.length)) :
    Confined value source target dst src (.error (.short needed got)) dst where
  ok_iff := ⟨nofun, fun ⟨_, enough⟩ => absurd enough lacking⟩
  written := nofun
  short needed' got' same := by
    obtain ⟨rfl, rfl⟩ := ConvertError.short.inj (Except.error.inj same)
    exact ⟨rfl, less⟩
  unsupported_iff _ _ := ⟨nofun, fun ⟨cannot, _⟩ => absurd can (Bool.eq_false_iff.mp cannot)⟩
  silent cannot := absurd can (Bool.eq_false_iff.mp cannot)

theorem confined_whole (resolved : resolve source target = .ok codec)
    (whole : source.bytes ≤ src.length) (room : target.bytes ≤ dst.length) :
    Confined codec.sample source target dst src (.ok ())
      (codec.sample src ++ dst.drop target.bytes) where
  ok_iff := ⟨fun _ => ⟨canConvert_iff.mpr ⟨codec, resolved⟩, whole, room⟩, fun _ => rfl⟩
  written _ := by
    have same := sample_take resolved src
    have length : codec.sourceBytes ≤ src.length →
        (codec.sample src).length = codec.targetBytes := length_sample resolved
    obtain ⟨rfl, rfl, _⟩ := resolve_cases resolved
    rw [sourceBytes] at same
    rw [same]
    exact ⟨length whole, rfl⟩
  short := nofun
  unsupported_iff _ _ := ⟨nofun, fun ⟨cannot, _⟩ =>
    absurd (canConvert_iff.mpr ⟨codec, resolved⟩) (Bool.eq_false_iff.mp cannot)⟩
  silent cannot := absurd (canConvert_iff.mpr ⟨codec, resolved⟩) (Bool.eq_false_iff.mp cannot)

/-- Converting a sample ends without an access out of bounds for all formats and slices, and is
confined to that sample. -/
theorem conversion_confined (source : InputFormat) (target : SampleType) :
    ∃ value : Bytes → Bytes, ∀ dst src : Bytes, ∃ result out,
      convertSample? dst target src source = some (result, out) ∧
        convertSample dst target src source = (result, out) ∧
        Confined value source target dst src result out := by
  have answered {dst src : Bytes} {result : Except ConvertError Unit} {out : Bytes}
      (done : convertSample dst target src source = (result, out)) :
      convertSample? dst target src source = some (result, out) :=
    (convertSample?_eq dst target src source).trans (congrArg some done)
  cases can : canConvert source target with
  | false =>
    refine ⟨id, fun dst src => ?_⟩
    have done := convertSample_unsupported can dst src
    exact ⟨_, _, answered done, done, confined_unsupported id can dst src⟩
  | true =>
    obtain ⟨codec, resolved⟩ := canConvert_iff.mp can
    refine ⟨codec.sample, fun dst src => ?_⟩
    rcases Nat.lt_or_ge src.length source.bytes with short | whole
    · have done := convertSample_short resolved dst short
      exact ⟨_, _, answered done, done, confined_short _ can short fun enough => by omega⟩
    rcases Nat.lt_or_ge dst.length target.bytes with narrow | room
    · have done := convertSample_narrow resolved whole narrow
      exact ⟨_, _, answered done, done, confined_short _ can narrow fun enough => by omega⟩
    · have done := convertSample_whole resolved whole room
      exact ⟨_, _, answered done, done, confined_whole resolved whole room⟩

/-- A type without a place in the table takes no samples, and none of silence. -/
example : convertSample? [1, 2] (.ofInt 5) [3] .u8 =
    some (.error (.unsupported .u8 (.ofInt 5)), [1, 2]) := rfl

end Codec

end PlanarSink
