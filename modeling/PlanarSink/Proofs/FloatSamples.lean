import PlanarSink.Proofs.Quantization

/-! Samples in floating point are stored as the nearest integers, whatever their words are:
too large ones and the infinities as the greatest and the least integer, and what is not a
number as zero. -/
namespace PlanarSink

open Binary (Double Value Layout)

/-- The layout of samples in floating point. -/
def InputFormat.layout? : InputFormat → Option Layout
  | float => some .single
  | double => some .double
  | _ => none

/-- What the sample in floating point at the front of some bytes is. -/
def InputFormat.datum (source : InputFormat) (layout : Layout) (src : Bytes) : Value :=
  layout.decode (ByteOrder.little.read (src.take source.bytes))

/-- The integer that a container of some bytes has for a datum. -/
def Storage.kept (width : Nat) : Value → Int
  | .nan .. => 0
  | .infinite negative => if negative then -2 ^ (8 * width - 1) else 2 ^ (8 * width - 1) - 1
  | .finite negative mantissa exponent =>
    contained width (Binary.signed negative mantissa * 2 ^ exponent)

theorem Storage.kept_eq {value : Value} {x : ℚ} (denotes : value.toRat? = some x) (width : Nat) :
    kept width value = contained width x := by
  obtain ⟨negative, mantissa, exponent, rfl, rfl⟩ := Value.toRat?_eq_some denotes
  rfl

theorem Storage.kept_bounds {width : Nat} (known : width = 2 ∨ width = 3 ∨ width = 4)
    (value : Value) :
    -2 ^ (8 * width - 1) ≤ kept width value ∧ kept width value < 2 ^ (8 * width - 1) := by
  have pos : (0 : Int) < 2 ^ (8 * width - 1) := by positivity
  cases value with
  | nan => exact ⟨by simp only [kept]; omega, pos⟩
  | infinite negative => cases negative <;> simp only [kept] <;> omega
  | finite => exact contained_bounds known _

theorem Bytes.value_lt (bytes : Bytes) : value bytes < 256 ^ bytes.length := by
  induction bytes with
  | nil => exact Nat.one_pos
  | cons byte rest ih =>
    have digit := byte.toNat_lt
    rw [value, List.length_cons, pow_succ]
    omega

theorem Binary.Double.holds_infinite {x : Double} {negative : Bool}
    (infinite : x.value = .infinite negative) :
    x.Holds (if negative then -2 ^ Layout.double.limit else 2 ^ Layout.double.limit) := by
  have pos := zpow_two_pos Layout.double.limit
  refine .overflow ?_ ?_
  · rw [infinite]
    cases negative
    · simp [pos.le]
    · simp [pos]
  · cases negative <;> simp [abs_of_pos pos]

/-- A number is this datum up to the payload of what is not a number. -/
inductive Binary.Double.Carries (x : Double) : Value → Prop where
  | nan {negative payload sign left} (value : x.value = .nan sign left) :
    x.Carries (.nan negative payload)
  | infinite {negative} (value : x.value = .infinite negative) : x.Carries (.infinite negative)
  | finite {negative mantissa exponent}
    (holds : x.Holds (Binary.signed negative mantissa * 2 ^ exponent)) :
    x.Carries (.finite negative mantissa exponent)

theorem InputFormat.float_carries (bytes : Bytes) :
    (float.level bytes).Carries (Layout.single.decode (ByteOrder.little.read bytes)) := by
  unfold level
  generalize decoded : Layout.single.decode (ByteOrder.little.read bytes) = value
  cases value with
  | nan negative payload =>
    have narrow := Layout.payload_of_decode (by decide) decoded
    obtain ⟨left, value⟩ := Double.value_ofValue_nan negative narrow
    exact .nan value
  | infinite negative => exact .infinite (Double.value_ofValue_infinite negative)
  | finite negative mantissa exponent =>
    obtain ⟨narrow, least⟩ := Layout.fits_of_decode decoded
    have room : Layout.double.Fits mantissa exponent :=
      ⟨narrow.trans (by decide), (by decide : _ ≤ Layout.single.leastExponent).trans least⟩
    exact .finite (Double.holds_ofValue negative room)

theorem InputFormat.double_carries {bytes : Bytes} (short : bytes.length ≤ 8) :
    (double.level bytes).Carries (Layout.double.decode (ByteOrder.little.read bytes)) := by
  have within : ByteOrder.little.read bytes < 2 ^ 64 := by
    calc ByteOrder.little.read bytes < 256 ^ bytes.length := Bytes.value_lt _
      _ ≤ 256 ^ 8 := Nat.pow_le_pow_right (by decide) short
  have value := Double.value_mk within
  unfold level
  dsimp only
  generalize Layout.double.decode (ByteOrder.little.read bytes) = datum at value
  cases datum with
  | nan => exact .nan value
  | infinite => exact .infinite value
  | finite => exact .finite (.exact (by rw [value, Value.toRat?]))

theorem InputFormat.level_carries {source : InputFormat} {layout : Layout}
    (floating : source.layout? = some layout) (src : Bytes) :
    (source.level (src.take source.bytes)).Carries (source.datum layout src) := by
  cases source with
  | float =>
    obtain rfl := Option.some.inj floating
    exact float_carries _
  | double =>
    obtain rfl := Option.some.inj floating
    exact double_carries (List.length_take_le _ _)
  | _ => contradiction

theorem Storage.integerLevel_carries {level : Double} {value : Value} (carries : level.Carries value)
    {width : Nat} (known : width = 2 ∨ width = 3 ∨ width = 4) :
    integerLevel width level = kept width value := by
  cases carries with
  | nan value => exact integerLevel_nan value width
  | @infinite negative value =>
    have large : (1 : ℚ) ≤ 2 ^ Layout.double.limit := one_le_zpow₀ one_le_two (by decide)
    rw [integerLevel_eq (Double.holds_infinite value)]
    cases negative with
    | false => exact contained_full known large
    | true => exact contained_least known (neg_le_neg large)
  | finite holds => exact integerLevel_eq holds width

namespace Codec

variable {source : InputFormat} {target : SampleType} {layout : Layout} {size bits : Nat}
  {order : ByteOrder}

/-- Samples in floating point are stored as integers that their bytes tell again. What is
stored stays within the range of the container, whose ends the infinities take, and more is
never stored for less. -/
structure Saturates (codec : Codec) (layout : Layout) (size : Nat) (order : ByteOrder) : Prop where
  converted : ∀ dst src : Bytes, codec.sourceBytes ≤ src.length → size ≤ dst.length →
    codec.convert dst src = .ok (dst.overwrite
      (order.writeInt size (Storage.kept size (codec.source.datum layout src))))
  read : ∀ value, order.readInt (order.writeInt size (Storage.kept size value)) =
    Storage.kept size value
  within : ∀ value, -2 ^ (8 * size - 1) ≤ Storage.kept size value ∧
    Storage.kept size value < 2 ^ (8 * size - 1)
  monotone : ∀ {value value' : Value} {x x' : ℚ}, value.toRat? = some x →
    value'.toRat? = some x' → x ≤ x' → Storage.kept size value ≤ Storage.kept size value'

/-- Converting from floating point to integers stores the nearest integer of the resolution,
halves going away from zero and what is out of range to its ends. -/
theorem float_saturates (floating : source.layout? = some layout)
    (stored : target.storage? = some (.integer size bits order)) :
    ∃ codec, resolve source target = .ok codec ∧ codec.Saturates layout size order := by
  have known := SampleType.integer_width stored
  have leveled : source ≠ .u8 ∧ source ≠ .raw := by
    constructor <;> rintro rfl <;> contradiction
  refine ⟨_, resolve_integer leveled stored, fun dst src whole room => ?converted,
    fun value => ?read, Storage.kept_bounds known, fun denotes denotes' le => ?monotone⟩
  case converted =>
    rw [convert_integer stored whole room,
      Storage.integerLevel_carries (InputFormat.level_carries floating src) known]
  case read =>
    obtain ⟨low, high⟩ := Storage.kept_bounds known value
    exact order.readInt_writeInt (by omega) low high
  case monotone =>
    rw [Storage.kept_eq denotes, Storage.kept_eq denotes']
    exact Storage.contained_mono le

/-- Single precision into three bytes. -/
theorem float_saturates_int24 :
    InputFormat.float.layout? = some .single ∧
      (SampleType.ofInt 17).storage? = some (.integer 3 24 .little) ∧
      ∃ codec, resolve .float (.ofInt 17) = .ok codec ∧ codec.Saturates .single 3 .little :=
  ⟨rfl, rfl, float_saturates rfl rfl⟩

/-- The number next below one. -/
example : convertSample [0, 0, 0] (.ofInt 17) [0xff, 0xff, 0x7f, 0x3f] .float =
    (.ok (), [0xff, 0xff, 0x7f]) := by
  decide +kernel

end Codec

end PlanarSink
