import Mathlib.Tactic.NormNum
import PlanarSink.Proofs.Quantization

/-! Integer samples are rescaled without loss where the container has room for them: every
step by way of levels is exact, and what is widened comes back as it was. -/
namespace PlanarSink

open Binary (Double Layout roundAway)

namespace Storage

/-- An integer of `bits` bits as the integer that a container of some bytes has for it. -/
def rescaled (bits width : Nat) (n : Int) : Int :=
  match width with
  | 2 => confined 16 (roundAway (n * 2 ^ (16 - bits : Int)))
  | 3 => ⌊(n * 2 ^ (32 - bits) : ℚ) / 2 ^ 8⌋
  | _ => n * 2 ^ (32 - bits)

/-- No step of scaling a level to an integer overflows: each gives the finite number that it
should, and the integer has no more bits than are kept of it. -/
structure Scales (level : Double) (x : ℚ) (bits : Nat) : Prop where
  product : (level.mul (.ofNat (Nat.pow 2 (bits - 1)))).value.toRat? = some (x * 2 ^ (bits - 1))
  rounded : (level.mul (.ofNat (Nat.pow 2 (bits - 1)))).round.value.toRat? =
    some (roundAway (x * 2 ^ (bits - 1)) : ℚ)
  scaled : scaled bits level = quantized bits x
  narrowed : narrowed bits (quantized bits x) = quantized bits x

/-- Levels up to full scale have headroom in every step. -/
theorem scales_of_holds {level : Double} {x : ℚ} (holds : level.Holds x) (unit : |x| ≤ 1)
    {bits : Nat} (some : 0 < bits) (narrow : bits ≤ 32) : Scales level x bits := by
  have full : (0 : Int) < 2 ^ (bits - 1) := by positivity
  have full' : (2 : Int) ^ (bits - 1) ≤ 2 ^ 31 := pow_le_pow_right₀ (by decide) (by omega)
  have small : (2 : ℚ) ^ (bits - 1) < 2 ^ Layout.double.limit := by
    have bound := Double.abs_lt_limit (n := 2 ^ (bits - 1)) (by omega)
    rw [Int.cast_pow, Int.cast_ofNat] at bound
    exact (le_abs_self _).trans_lt bound
  have near : |x * 2 ^ (bits - 1)| ≤ 2 ^ (bits - 1) := by
    rw [abs_mul, abs_of_pos (by positivity : (0 : ℚ) < 2 ^ (bits - 1))]
    exact mul_le_of_le_one_left (by positivity) unit
  have product := holds.mul_pow (k := bits - 1) (by omega)
  have rounded : |(roundAway (x * 2 ^ (bits - 1)) : ℚ)| ≤ 2 ^ (bits - 1) := by
    obtain ⟨low, high⟩ := abs_le.mp near
    have low' := Binary.roundAway_mono (x := ((-2 ^ (bits - 1) : Int) : ℚ)) (by push_cast; exact low)
    have high' := Binary.roundAway_mono (y := ((2 ^ (bits - 1) : Int) : ℚ)) (by push_cast; exact high)
    rw [Binary.roundAway_intCast] at low' high'
    exact abs_le.mpr ⟨by exact_mod_cast low', by exact_mod_cast high'⟩
  obtain ⟨low, high⟩ := confined_bounds bits (roundAway (x * 2 ^ (bits - 1)))
  exact {
    product := product.toRat?_eq (near.trans_lt small)
    rounded := product.round.toRat?_eq (rounded.trans_lt small)
    scaled := scaled_eq holds some narrow
    narrowed := narrowed_eq some low high }

/-- An integer is quantized without loss where there are as many bits. -/
theorem quantized_wider {bits wider : Nat} (some : 0 < bits) (le : bits ≤ wider) {n : Int}
    (low : -2 ^ (bits - 1) ≤ n) (high : n < 2 ^ (bits - 1)) :
    quantized wider (n / 2 ^ (bits - 1)) = n * 2 ^ (wider - bits) := by
  have apart : wider - 1 = (bits - 1) + (wider - bits) := by omega
  have pos : (0 : Int) < 2 ^ (wider - bits) := by positivity
  have whole : (n / 2 ^ (bits - 1) * 2 ^ (wider - 1) : ℚ) = (n * 2 ^ (wider - bits) : Int) := by
    rw [apart, pow_add]
    push_cast
    field_simp
  rw [quantized, whole, Binary.roundAway_intCast]
  refine confined_eq ?_ ?_
  · rw [apart, pow_add, ← neg_mul]
    exact mul_le_mul_of_nonneg_right low pos.le
  · rw [apart, pow_add]
    exact mul_lt_mul_of_pos_right high pos

theorem contained_integer {width size : Nat} (known : width = 2 ∨ width = 3 ∨ width = 4)
    {n : Int} (low : -2 ^ (8 * width - 1) ≤ n) (high : n < 2 ^ (8 * width - 1)) :
    contained size (n / 2 ^ (8 * width - 1)) = rescaled (8 * width) size n := by
  have wide := @quantized_wider (8 * width) 32 (by omega) (by omega) n low high
  unfold contained
  split
  · have part : (n / 2 ^ (8 * width - 1) * 2 ^ (16 - 1) : ℚ) =
        n * 2 ^ (16 - (8 * width : ℕ) : Int) := by
      rcases known with rfl | rfl | rfl <;> norm_num <;> ring
    rw [quantized, part, rescaled]
  · rw [wide, rescaled]
    push_cast
    norm_num
  · rw [wide, rescaled] <;> assumption

theorem floor_shifted (n : Int) : ⌊(n * 2 ^ 8 : ℚ) / 2 ^ 8⌋ = n := by
  rw [mul_div_cancel_right₀ _ (by norm_num), Int.floor_intCast]

theorem rescaled_wider {width size : Nat} (known : width = 2 ∨ width = 3 ∨ width = 4)
    (known' : size = 2 ∨ size = 3 ∨ size = 4) (le : width ≤ size) {n : Int}
    (low : -2 ^ (8 * width - 1) ≤ n) (high : n < 2 ^ (8 * width - 1)) :
    rescaled (8 * width) size n = n * 2 ^ (8 * (size - width)) := by
  rcases known' with rfl | rfl | rfl
  · obtain rfl : width = 2 := by omega
    have same : (n * 2 ^ (16 - (8 * 2 : ℕ) : Int) : ℚ) = n := by norm_num
    rw [rescaled, same, Binary.roundAway_intCast, confined_eq low high]
    norm_num
  · have shift : 32 - 8 * width = 8 * (3 - width) + 8 := by omega
    have parts : (n * 2 ^ (32 - 8 * width) : ℚ) = (n * 2 ^ (8 * (3 - width)) : Int) * 2 ^ 8 := by
      rw [shift, pow_add]
      push_cast
      ring
    rw [rescaled, parts, floor_shifted]
  · have shift : 32 - 8 * width = 8 * (4 - width) := by omega
    rw [rescaled, shift] <;> decide

theorem rescaled_back {width size : Nat} (known : width = 2 ∨ width = 3 ∨ width = 4)
    (known' : size = 2 ∨ size = 3 ∨ size = 4) (le : width ≤ size) {n : Int}
    (low : -2 ^ (8 * width - 1) ≤ n) (high : n < 2 ^ (8 * width - 1)) :
    rescaled (8 * size) width (n * 2 ^ (8 * (size - width))) = n := by
  rcases known with rfl | rfl | rfl
  · have same : ((n * 2 ^ (8 * (size - 2)) : Int) * 2 ^ (16 - (8 * size : ℕ) : Int) : ℚ) = n := by
      rcases known' with rfl | rfl | rfl <;> push_cast <;> norm_num <;> ring
    rw [rescaled, same, Binary.roundAway_intCast, confined_eq low high]
  · have same : ((n * 2 ^ (8 * (size - 3)) : Int) * 2 ^ (32 - 8 * size) : ℚ) = n * 2 ^ 8 := by
      rcases known' with rfl | rfl | rfl
      · omega
      · norm_num
      · norm_num
    rw [rescaled, same, floor_shifted]
  · obtain rfl : size = 4 := by omega
    norm_num [rescaled]

end Storage

theorem InputFormat.level_holds {source : InputFormat} {width : Nat} {order : ByteOrder}
    (integral : source.integer? = some (width, order)) {n : Int}
    (low : -2 ^ (8 * width - 1) ≤ n) (high : n < 2 ^ (8 * width - 1)) :
    (source.level (order.writeInt width n)).Holds (n / 2 ^ (8 * width - 1)) := by
  obtain ⟨-, known⟩ := integer_width integral
  have full : (2 : Int) ^ (8 * width - 1) ≤ 2 ^ 31 := pow_le_pow_right₀ (by decide) (by omega)
  rw [level_integer integral, order.readInt_writeInt (by omega) low high]
  exact Double.holds_div_pow (by omega) (by omega)

namespace Codec

variable {source : InputFormat} {target : SampleType} {width size bits : Nat}
  {order order' : ByteOrder}

/-- Integer samples of one value become the rescaled integer in every container: no step by way
of levels overflows, the integer has no more bits than the container, it is the same in a
container of the same width, and from a wider one it converts back to the sample. -/
structure Rescales (codec : Codec) (width size : Nat) (order order' : ByteOrder) (n : Int) :
    Prop where
  converted : ∀ dst src : Bytes, src.take width = order.writeInt width n → size ≤ dst.length →
    codec.convert dst src =
      .ok (dst.overwrite (order'.writeInt size (Storage.rescaled (8 * width) size n)))
  level : (codec.source.level (order.writeInt width n)).value.toRat? =
    some (n / 2 ^ (8 * width - 1) : ℚ)
  steps : ∀ bits ∈ [16, 32], Storage.Scales (codec.source.level (order.writeInt width n))
    (n / 2 ^ (8 * width - 1)) bits
  within : -2 ^ (8 * size - 1) ≤ Storage.rescaled (8 * width) size n ∧
    Storage.rescaled (8 * width) size n < 2 ^ (8 * size - 1)
  same : size = width → Storage.rescaled (8 * width) size n = n
  back : width ≤ size → ∀ {wide : InputFormat} {narrow : SampleType} {bits : Nat}
    {order'' : ByteOrder}, wide.integer? = some (size, order') →
    narrow.storage? = some (.integer width bits order'') →
    ∃ reverse, resolve wide narrow = .ok reverse ∧ ∀ dst src : Bytes,
      src.take size = order'.writeInt size (Storage.rescaled (8 * width) size n) →
      width ≤ dst.length →
      reverse.convert dst src = .ok (dst.overwrite (order''.writeInt width n))

/-- Converting an integer sample stores the integer that it is rescaled to. -/
theorem convert_rescaled (integral : source.integer? = some (width, order))
    (stored : target.storage? = some (.integer size bits order')) {n : Int}
    (low : -2 ^ (8 * width - 1) ≤ n) (high : n < 2 ^ (8 * width - 1)) {dst src : Bytes}
    (held : src.take width = order.writeInt width n) (room : size ≤ dst.length) :
    convert ⟨source, target, .level (.integer size bits order')⟩ dst src =
      .ok (dst.overwrite (order'.writeInt size (Storage.rescaled (8 * width) size n))) := by
  obtain ⟨bytes, known⟩ := InputFormat.integer_width integral
  have whole : source.bytes ≤ src.length := by
    have length := congrArg List.length held
    rw [List.length_take, ByteOrder.length_writeInt] at length
    omega
  have level := InputFormat.level_holds integral low high
  rw [convert_integer stored whole room, bytes, held, Storage.integerLevel_eq level,
    Storage.contained_integer known low high]

theorem integer_leveled (integral : source.integer? = some (width, order)) :
    source ≠ .u8 ∧ source ≠ .raw := by
  constructor <;> rintro rfl <;> contradiction

/-- Converting integers to integers is exact. -/
theorem integer_rescales (integral : source.integer? = some (width, order))
    (stored : target.storage? = some (.integer size bits order')) {n : Int}
    (low : -2 ^ (8 * width - 1) ≤ n) (high : n < 2 ^ (8 * width - 1)) :
    ∃ codec, resolve source target = .ok codec ∧ codec.Rescales width size order order' n := by
  obtain ⟨-, known⟩ := InputFormat.integer_width integral
  have known' := SampleType.integer_width stored
  have level := InputFormat.level_holds integral low high
  have full : (0 : ℚ) < 2 ^ (8 * width - 1) := by positivity
  have unit : |(n / 2 ^ (8 * width - 1) : ℚ)| ≤ 1 := by
    rw [abs_div, abs_of_pos full, div_le_one full, abs_le]
    exact ⟨by exact_mod_cast low, by exact_mod_cast high.le⟩
  have within := Storage.contained_bounds known' (n / 2 ^ (8 * width - 1))
  rw [Storage.contained_integer known low high] at within
  refine ⟨_, resolve_integer (integer_leveled integral) stored, ?_⟩
  exact {
    converted := fun dst src held room => convert_rescaled integral stored low high held room
    level := level.toRat?_eq (unit.trans_lt (one_lt_zpow₀ one_lt_two (by decide)))
    steps := by
      intro bits known
      have narrow : 0 < bits ∧ bits ≤ 32 := by
        rcases List.mem_pair.mp known with rfl | rfl <;> decide
      exact Storage.scales_of_holds level unit narrow.1 narrow.2
    within
    same := by
      rintro rfl
      rw [Storage.rescaled_wider known known' le_rfl low high]
      simp
    back := by
      intro le wide narrow bits order'' integral' stored'
      refine ⟨_, resolve_integer (integer_leveled integral') stored', fun dst src held room => ?_⟩
      rw [convert_rescaled integral' stored' within.1 within.2 held room,
        Storage.rescaled_wider known known' le low high, Storage.rescaled_back known known' le low high] }

/-- The least sample of three big endian bytes, into two. -/
theorem integer_rescales_least :
    InputFormat.s24be.integer? = some (3, .big) ∧
      (SampleType.ofInt 16).storage? = some (.integer 2 16 .little) ∧
      (-2 ^ (8 * 3 - 1) : Int) ≤ -8388608 ∧ (-8388608 : Int) < 2 ^ (8 * 3 - 1) ∧
      ∃ codec, resolve .s24be (.ofInt 16) = .ok codec ∧
        codec.Rescales 3 2 .big .little (-8388608) :=
  ⟨rfl, rfl, by decide, by decide, integer_rescales rfl rfl (by decide) (by decide)⟩

/-- A half goes away from zero. -/
example : convertSample [0, 0] (.ofInt 16) [0xff, 0xfe, 0x80] .s24be = (.ok (), [0xfe, 0xff]) := by
  decide +kernel

end Codec

end PlanarSink
