import PlanarSink.Proofs.OneSample
import PlanarSink.Proofs.ToneFrames

/-! Encodings that come in pairs differ in the order of their bytes alone. Whatever is written
in one order is the reverse of what is written in the other, and whatever is read in one is
read from the reverse in the other; all else of a pair is the same. -/
namespace PlanarSink

open Binary (Double)

namespace Bytes

theorem take_ofValue (width more n : Nat) :
    (ofValue (width + more) n).take width = ofValue width n := by
  induction width generalizing n with
  | zero => rfl
  | succ width ih => rw [Nat.succ_add, ofValue, List.take_succ_cons, ih, ofValue]

theorem ofValue_mod (width n : Nat) : ofValue width (n % Nat.pow 256 width) = ofValue width n := by
  induction width generalizing n with
  | zero => rfl
  | succ width ih =>
    rw [ofValue, ofValue, Nat.pow_eq, Nat.pow_succ', Nat.mod_mul_right_div_self, ← Nat.pow_eq, ih]
    congr 1
    apply UInt8.toNat.inj
    rw [UInt8.toNat_ofNat', UInt8.toNat_ofNat']
    exact Nat.mod_mul_right_mod n 256 _

end Bytes

namespace ByteOrder

/-- The other order. -/
def swapped : ByteOrder → ByteOrder
  | little => big
  | big => little

theorem write_swapped (order : ByteOrder) (width word : Nat) :
    order.swapped.write width word = (order.write width word).reverse := by
  cases order with
  | little => rfl
  | big => exact (List.reverse_reverse _).symm

theorem read_swapped (order : ByteOrder) (bytes : Bytes) :
    order.swapped.read bytes.reverse = order.read bytes := by
  cases order with
  | little => exact congrArg Bytes.value (List.reverse_reverse _)
  | big => rfl

theorem readInt_swapped (order : ByteOrder) (bytes : Bytes) :
    order.swapped.readInt bytes.reverse = order.readInt bytes := by
  rw [readInt, readInt, read_swapped, List.length_reverse]

theorem take_writeInt (width more : Nat) (n : Int) :
    (little.writeInt (width + more) n).take width = little.writeInt width n := by
  have parts : (Nat.pow 256 width : Int) ∣ Nat.pow 256 (width + more) := by
    exact_mod_cast Nat.pow_dvd_pow 256 (Nat.le_add_right width more)
  have whole : 0 ≤ n % Nat.pow 256 (width + more) :=
    Int.emod_nonneg _ (by exact_mod_cast Nat.ne_of_gt (Nat.pow_pos (by decide)))
  have low : (n % Nat.pow 256 width).toNat =
      (n % Nat.pow 256 (width + more)).toNat % Nat.pow 256 width := by
    rw [← Int.emod_emod_of_dvd n parts, Int.toNat_emod whole (Int.natCast_nonneg _),
      Int.toNat_natCast]
  simp only [writeInt, write]
  rw [Bytes.take_ofValue, low, Bytes.ofValue_mod]

end ByteOrder

namespace Storage

/-- The storage of the same samples with their bytes the other way round. -/
def swapped : Storage → Storage
  | integer width bits order => integer width bits order.swapped
  | float layout order => float layout order.swapped
  | packed highFirst => packed highFirst
  | unpacked => unpacked

theorem write_swapped {storage : Storage} (level : Double) :
    storage.swapped.write level = (storage.write level).reverse := by
  cases storage with
  | integer | float => exact ByteOrder.write_swapped ..
  | packed | unpacked => rfl

end Storage

namespace SampleType

/-- The codes of the types whose highest byte comes first. Each has a pair, whose highest byte
comes last, sixteen above. -/
def highFirst : List Int :=
  [0, 1, 2, 3, 4, 8, 9, 10, 11]

/-- Those of them with fewer significant bits than the word of 32 that they fill. -/
def justified : List Int :=
  [8, 9, 10, 11]

theorem storage_paired : ∀ code ∈ highFirst,
    ((ofInt code).storage?.any Storage.leveled) = true ∧
      (ofInt (code + 16)).storage? = (ofInt code).storage?.map Storage.swapped := by
  decide

end SampleType

namespace InputFormat

/-- The integer formats that differ in the order of their bytes, the lowest byte first and the
highest byte first. -/
def pairs : List (InputFormat × InputFormat) :=
  [(s16le, s16be), (s24le, s24be), (s32le, s32be)]

variable {pair : InputFormat × InputFormat}

theorem integer?_pairs : ∀ pair ∈ pairs,
    pair.1.integer? = some (pair.1.bytes, .little) ∧ pair.2.integer? = some (pair.1.bytes, .big) := by
  decide

theorem bytes_pairs : ∀ pair ∈ pairs, pair.2.bytes = pair.1.bytes := by
  decide

theorem leveled_pairs : ∀ pair ∈ pairs,
    (pair.1 ≠ u8 ∧ pair.1 ≠ raw) ∧ pair.2 ≠ u8 ∧ pair.2 ≠ raw := by
  decide

theorem level_paired (paired : pair ∈ pairs) (sample : Bytes) :
    pair.2.level sample.reverse = pair.1.level sample := by
  obtain ⟨little, big⟩ := integer?_pairs pair paired
  rw [level_integer little, level_integer big]
  exact congrArg (fun n => (Double.ofInt n).div _) (ByteOrder.readInt_swapped .little sample)

end InputFormat

namespace Codec

variable {source source' : InputFormat} {t t' : SampleType}

/-- Whether the storage takes levels is all that counts for a format that has them. -/
theorem canConvert_leveled (leveled : source ≠ .u8 ∧ source ≠ .raw) (target : SampleType) :
    canConvert source target = target.storage?.any Storage.leveled := by
  unfold canConvert resolve
  obtain ⟨notU8, notRaw⟩ := leveled
  cases source with
  | u8 | raw => contradiction
  | _ =>
    cases target.storage? with
    | none => rfl
    | some storage => cases storage <;> rfl

/-- Two conversions end alike: both or neither with a sample, and with the same bytes. -/
def EndAlike (left right : Except ConvertError Unit × Bytes) : Prop :=
  (left.1 = .ok () ↔ right.1 = .ok ()) ∧ left.2 = right.2

/-- Samples of two types are as wide and the reverse of each other, whatever level they are
made from. -/
def Mirrored (t t' : SampleType) : Prop :=
  ∀ source, source ≠ .u8 ∧ source ≠ .raw → ∀ dst src : Bytes,
    source.bytes ≤ src.length → t.bytes ≤ dst.length →
      ∃ written : Bytes, written.length = t.bytes ∧
        convertSample dst t src source = (.ok (), written ++ dst.drop t.bytes) ∧
        convertSample dst t' src source = (.ok (), written.reverse ++ dst.drop t.bytes)

/-- Samples of two types are the same. -/
def Alike (t t' : SampleType) : Prop :=
  ∀ source (dst src : Bytes),
    EndAlike (convertSample dst t src source) (convertSample dst t' src source)

/-- Samples of one format are those of the other read backwards. -/
def Exchanged (format format' : InputFormat) : Prop :=
  ∀ target (dst sample rest rest' : Bytes), sample.length = format.bytes →
    EndAlike (convertSample dst target (sample ++ rest) format)
      (convertSample dst target (sample.reverse ++ rest') format')

theorem mirrored_of_swapped {storage : Storage} (stored : t.storage? = some storage)
    (stored' : t'.storage? = some storage.swapped) (takes : storage.leveled = true) :
    Mirrored t t' := by
  intro source leveled dst src whole room
  have takes' : storage.swapped.leveled = true := by
    cases storage <;> exact takes
  have same : t'.bytes = t.bytes := by
    rw [SampleType.bytes_of_storage stored, SampleType.bytes_of_storage stored']
    cases storage <;> rfl
  have resolved := resolve_leveled leveled stored takes
  have resolved' := resolve_leveled leveled stored' takes'
  have reversed (src : Bytes) :
      (Codec.mk source t' (.level storage.swapped)).sample src =
        ((Codec.mk source t (.level storage)).sample src).reverse :=
    Storage.write_swapped _
  refine ⟨_, length_sample resolved whole, convertSample_whole resolved whole room, ?_⟩
  rw [convertSample_whole resolved' whole (same ▸ room), same, reversed]

theorem mirrored_highFirst {code : Int} (listed : code ∈ SampleType.highFirst) :
    Mirrored (.ofInt code) (.ofInt (code + 16)) := by
  obtain ⟨takes, swapped⟩ := SampleType.storage_paired code listed
  cases stored : (SampleType.ofInt code).storage? with
  | none =>
    rw [stored] at takes
    contradiction
  | some storage =>
    rw [stored] at takes swapped
    exact mirrored_of_swapped stored swapped takes

/-- Conversions end alike that convert at the same times, make the same samples, and leave the
same silence. -/
theorem endAlike {dst src src' : Bytes} (can : canConvert source' t' = canConvert source t)
    (width : t'.bytes = t.bytes) (silence : Silence.fill dst t' 1 = Silence.fill dst t 1)
    (whole : source.bytes ≤ src.length ↔ source'.bytes ≤ src'.length)
    (sample : ∀ codec codec', resolve source t = .ok codec → resolve source' t' = .ok codec' →
      codec.sample src = codec'.sample src') :
    EndAlike (convertSample dst t src source) (convertSample dst t' src' source') := by
  cases convertible : canConvert source t with
  | false =>
    rw [convertSample_unsupported convertible, convertSample_unsupported (can.trans convertible),
      silence]
    exact ⟨⟨nofun, nofun⟩, rfl⟩
  | true =>
    obtain ⟨codec, resolved⟩ := canConvert_iff.mp convertible
    obtain ⟨codec', resolved'⟩ := canConvert_iff.mp (can.trans convertible)
    rcases Nat.lt_or_ge src.length source.bytes with short | enough
    · have short' : src'.length < source'.bytes := by omega
      rw [convertSample_short resolved dst short, convertSample_short resolved' dst short']
      exact ⟨⟨nofun, nofun⟩, rfl⟩
    have enough' := whole.mp enough
    rcases Nat.lt_or_ge dst.length t.bytes with narrow | room
    · rw [convertSample_narrow resolved enough narrow,
        convertSample_narrow resolved' enough' (width ▸ narrow)]
      exact ⟨⟨nofun, nofun⟩, rfl⟩
    · rw [convertSample_whole resolved enough room,
        convertSample_whole resolved' enough' (width ▸ room), width,
        sample codec codec' resolved resolved']
      exact ⟨Iff.rfl, rfl⟩

/-- The significant bits of an integer make no difference. -/
theorem alike_of_integer {width bits bits' : Nat} {order : ByteOrder}
    (stored : t.storage? = some (.integer width bits order))
    (stored' : t'.storage? = some (.integer width bits' order)) : Alike t t' := by
  intro source dst src
  have same : t'.bytes = t.bytes := by
    rw [SampleType.bytes_of_storage stored, SampleType.bytes_of_storage stored']
    rfl
  refine endAlike ?can same ?silence Iff.rfl ?sample
  case can =>
    unfold canConvert resolve
    rw [stored, stored']
    cases source <;> rfl
  case silence =>
    have zeros (count : Nat) : Silence.bytes t' count = Silence.bytes t count := by
      rw [Silence.bytes, Silence.bytes, stored, stored']
      rfl
    rw [Silence.fill, Silence.fill, same, zeros]
  case sample =>
    intro codec codec' resolved resolved'
    unfold resolve at resolved resolved'
    rw [stored] at resolved
    rw [stored'] at resolved'
    cases source with
    | u8 | raw => contradiction
    | _ =>
      obtain rfl := Except.ok.inj resolved
      obtain rfl := Except.ok.inj resolved'
      rfl

theorem alike_justified {code : Int} (listed : code ∈ SampleType.justified) :
    Alike (.ofInt code) (.ofInt 2) ∧ Alike (.ofInt (code + 16)) (.ofInt 18) := by
  have stored : ∀ code ∈ SampleType.justified,
      ∃ bits, (SampleType.ofInt code).storage? = some (.integer 4 bits .big) ∧
        (SampleType.ofInt (code + 16)).storage? = some (.integer 4 bits .little) := by
    simp only [SampleType.justified, List.forall_mem_cons]
    exact ⟨⟨16, rfl, rfl⟩, ⟨18, rfl, rfl⟩, ⟨20, rfl, rfl⟩, ⟨24, rfl, rfl⟩, nofun⟩
  obtain ⟨bits, big, little⟩ := stored code listed
  exact ⟨alike_of_integer big rfl, alike_of_integer little rfl⟩

theorem exchanged_pairs {pair : InputFormat × InputFormat} (paired : pair ∈ InputFormat.pairs) :
    Exchanged pair.1 pair.2 := by
  intro t dst sample rest rest' length
  obtain ⟨leveled, leveled'⟩ := InputFormat.leveled_pairs pair paired
  have bytes := InputFormat.bytes_pairs pair paired
  have length' : sample.reverse.length = pair.2.bytes := by
    rw [List.length_reverse, bytes, length]
  refine endAlike ?can rfl rfl ?whole ?sample
  case can => rw [canConvert_leveled leveled, canConvert_leveled leveled']
  case whole =>
    rw [List.length_append, List.length_append, length, length']
    omega
  case sample =>
    intro codec codec' resolved resolved'
    obtain ⟨same, same', ⟨_, u8, _⟩ | ⟨storage, level, stored, takes⟩⟩ := resolve_cases resolved
    · exact absurd u8 leveled.1
    · rw [resolve_leveled leveled' stored takes] at resolved'
      obtain rfl := Except.ok.inj resolved'
      rw [Codec.sample, Codec.sample, level, sourceBytes, sourceBytes, same, List.take_left' length,
        List.take_left' length', InputFormat.level_paired paired]

end Codec

namespace Tone

theorem encode_integer {format : InputFormat} {width : Nat} {order : ByteOrder}
    (integral : format.integer? = some (width, order)) (level : Double) :
    encode format [level] =
      .ok (order.writeInt width (integerLevel (8 * width) level.clampToUnit)) := by
  have writable : writer? format = some fun level =>
      order.writeInt width (integerLevel (8 * width) level) := by
    cases format with
    | u8 | float | double | raw => contradiction
    | _ =>
      obtain ⟨rfl, rfl⟩ := Prod.mk.inj (Option.some.inj integral)
      rfl
  rw [encode_of_writer writable, List.flatMap_singleton]

theorem encode_pairs {pair : InputFormat × InputFormat} (paired : pair ∈ InputFormat.pairs)
    (level : Double) :
    ∃ bytes, encode pair.1 [level] = .ok bytes ∧ encode pair.2 [level] = .ok bytes.reverse := by
  obtain ⟨little, big⟩ := InputFormat.integer?_pairs pair paired
  exact ⟨_, encode_integer little level, encode_integer big level⟩

/-- Samples of three bytes are cut out of four: the first three, or all but the first where the
highest byte comes first. -/
theorem encode_cut (level : Double) :
    let word := ByteOrder.little.writeInt 4 (integerLevel 24 level.clampToUnit)
    encode .s24le [level] = .ok (word.take 3) ∧ encode .s24be [level] = .ok (word.reverse.drop 1) := by
  intro word
  have cut : word.take 3 = ByteOrder.little.writeInt 3 (integerLevel 24 level.clampToUnit) :=
    ByteOrder.take_writeInt 3 1 _
  have length : word.length = 4 := ByteOrder.length_writeInt ..
  refine ⟨?_, ?_⟩
  · rw [cut]
    exact encode_integer rfl level
  · have turned : word.reverse.drop 1 = (word.take 3).reverse := by
      rw [List.reverse_take, length]
    rw [turned, cut]
    exact @encode_integer .s24be 3 .big rfl level

end Tone

/-- Paired types and formats differ in the order of their bytes alone: samples of the types are
the reverse of each other, justified integers are those of the full word, samples of the formats
mean the same read backwards, and a tone is written in reverse. -/
theorem order_alone :
    (∀ code ∈ SampleType.highFirst, Codec.Mirrored (.ofInt code) (.ofInt (code + 16))) ∧
      (∀ code ∈ SampleType.justified, Codec.Alike (.ofInt code) (.ofInt 2) ∧
        Codec.Alike (.ofInt (code + 16)) (.ofInt 18)) ∧
      (∀ pair ∈ InputFormat.pairs, Codec.Exchanged pair.1 pair.2 ∧
        ∀ level, ∃ bytes, Tone.encode pair.1 [level] = .ok bytes ∧
          Tone.encode pair.2 [level] = .ok bytes.reverse) ∧
      ∀ level, let word := ByteOrder.little.writeInt 4 (Tone.integerLevel 24 level.clampToUnit)
        Tone.encode .s24le [level] = .ok (word.take 3) ∧
          Tone.encode .s24be [level] = .ok (word.reverse.drop 1) :=
  ⟨fun _ => Codec.mirrored_highFirst, fun _ => Codec.alike_justified,
    fun _ paired => ⟨Codec.exchanged_pairs paired, Tone.encode_pairs paired⟩, Tone.encode_cut⟩

/-- The least sample of three bytes into three bytes, beside what its types and formats are
paired with. -/
theorem order_alone_int24 :
    1 ∈ SampleType.highFirst ∧ 9 ∈ SampleType.justified ∧
      (InputFormat.s24le, InputFormat.s24be) ∈ InputFormat.pairs ∧
      (InputFormat.s24be ≠ .u8 ∧ InputFormat.s24be ≠ .raw) ∧
      InputFormat.s24be.bytes ≤ [0x80, 0, 0].length ∧
      (SampleType.ofInt 1).bytes ≤ [9, 9, 9, 9].length ∧
      (∃ written : Bytes, written.length = (SampleType.ofInt 1).bytes ∧
        Codec.convertSample [9, 9, 9, 9] (.ofInt 1) [0x80, 0, 0] .s24be =
          (.ok (), written ++ [9, 9, 9, 9].drop (SampleType.ofInt 1).bytes) ∧
        Codec.convertSample [9, 9, 9, 9] (.ofInt 17) [0x80, 0, 0] .s24be =
          (.ok (), written.reverse ++ [9, 9, 9, 9].drop (SampleType.ofInt 1).bytes)) ∧
      Codec.Alike (.ofInt 9) (.ofInt 2) ∧ Codec.Exchanged .s24le .s24be := by
  obtain ⟨mirrored, alike, exchanged, -⟩ := order_alone
  have high : (1 : Int) ∈ SampleType.highFirst := by decide
  have narrow : (9 : Int) ∈ SampleType.justified := by decide
  have paired : (InputFormat.s24le, InputFormat.s24be) ∈ InputFormat.pairs := by decide
  exact ⟨high, narrow, paired, by decide, by decide, by decide,
    mirrored 1 high .s24be (by decide) _ _ (by decide) (by decide), (alike 9 narrow).1,
    (exchanged _ paired).1⟩

/-- The highest byte comes last. -/
example : Codec.convertSample [9, 9, 9, 9] (.ofInt 17) [0x80, 0, 1] .s24be =
    (.ok (), [1, 0, 0x80, 9]) := rfl

end PlanarSink
