import PlanarSink.Proofs.Rounding
import PlanarSink.Proofs.Samples

/-! The integers that levels are stored as, over exact rationals: scaled to the resolution,
rounded, kept within its range, and cut to the upper bytes where the container has fewer. -/
namespace PlanarSink

open Binary (Double Value Layout roundAway)

theorem ByteOrder.readInt_writeInt (order : ByteOrder) {width : Nat} (some : 0 < width) {n : Int}
    (low : -2 ^ (8 * width - 1) ≤ n) (high : n < 2 ^ (8 * width - 1)) :
    order.readInt (order.writeInt width n) = n := by
  have size : Nat.pow 256 width = 2 * 2 ^ (8 * width - 1) := by
    calc Nat.pow 256 width = (2 ^ 8) ^ width := rfl
      _ = 2 ^ (8 * width - 1 + 1) := by rw [← pow_mul, Nat.sub_add_cancel (by omega)]
      _ = 2 * 2 ^ (8 * width - 1) := pow_succ' _ _
  have half : (Nat.pow 256 width : Int) = 2 * 2 ^ (8 * width - 1) := by exact_mod_cast size
  have pos : (0 : Int) < 2 ^ (8 * width - 1) := by positivity
  have word : (n % Nat.pow 256 width).toNat % Nat.pow 256 width = (n % Nat.pow 256 width).toNat :=
    Nat.mod_eq_of_lt (by have := Int.emod_lt_of_pos n (b := Nat.pow 256 width) (by omega); omega)
  rw [readInt, length_writeInt, writeInt, read_write, word,
    Int.toNat_of_nonneg (Int.emod_nonneg _ (by omega)), Int.emod_bmod]
  exact Int.bmod_eq_of_le (by omega) (by omega)

namespace Storage

def confined (bits : Nat) (n : Int) : Int :=
  max (-2 ^ (bits - 1)) (min (2 ^ (bits - 1) - 1) n)

def quantized (bits : Nat) (x : ℚ) : Int :=
  confined bits (roundAway (x * 2 ^ (bits - 1)))

/-- The integer that a container of some bytes has for a level. -/
def contained (width : Nat) (x : ℚ) : Int :=
  match width with
  | 2 => quantized 16 x
  | 3 => ⌊(quantized 32 x : ℚ) / 256⌋
  | _ => quantized 32 x

theorem confined_bounds (bits : Nat) (n : Int) :
    -2 ^ (bits - 1) ≤ confined bits n ∧ confined bits n < 2 ^ (bits - 1) := by
  have pos : (0 : Int) < 2 ^ (bits - 1) := by positivity
  unfold confined
  omega

theorem confined_eq {bits : Nat} {n : Int} (low : -2 ^ (bits - 1) ≤ n) (high : n < 2 ^ (bits - 1)) :
    confined bits n = n := by
  unfold confined
  omega

theorem confined_mono {bits : Nat} {n m : Int} (le : n ≤ m) : confined bits n ≤ confined bits m := by
  unfold confined
  omega

theorem quantized_mono {bits : Nat} {x y : ℚ} (le : x ≤ y) : quantized bits x ≤ quantized bits y :=
  confined_mono (Binary.roundAway_mono (mul_le_mul_of_nonneg_right le (by positivity)))

/-- The integer part of a 256th is an arithmetic shift by a byte. -/
theorem floor_div_256 (n : Int) : ⌊(n : ℚ) / 256⌋ = n / 256 := by
  exact_mod_cast Rat.floor_intCast_div_natCast n 256

theorem contained_mono {width : Nat} {x y : ℚ} (le : x ≤ y) :
    contained width x ≤ contained width y := by
  unfold contained
  split
  · exact quantized_mono le
  · rw [floor_div_256, floor_div_256]
    exact Int.ediv_le_ediv (by decide) (quantized_mono le)
  · exact quantized_mono le

theorem narrowed_eq {bits : Nat} (some : 0 < bits) {n : Int} (low : -2 ^ (bits - 1) ≤ n)
    (high : n < 2 ^ (bits - 1)) : narrowed bits n = n := by
  have size : (Nat.pow 2 bits : Int) = 2 * 2 ^ (bits - 1) := by
    rw [← pow_succ', Nat.sub_add_cancel some]
    simp
  exact Int.bmod_eq_of_le (by omega) (by omega)

/-- A level that is held is scaled to what it is quantized to. -/
theorem scaled_eq {level : Double} {x : ℚ} (holds : level.Holds x) {bits : Nat} (some : 0 < bits)
    (narrow : bits ≤ 32) : scaled bits level = quantized bits x := by
  have full : ((Nat.pow 2 (bits - 1) : Nat) : Int) = 2 ^ (bits - 1) := by exact_mod_cast rfl
  have pos : (0 : Int) < 2 ^ (bits - 1) := by positivity
  have small : (2 : Int) ^ (bits - 1) ≤ 2 ^ 31 := pow_le_pow_right₀ (by decide) (by omega)
  have below : (-2 ^ (bits - 1) : Int).natAbs < 2 ^ 53 := by omega
  have above : (2 ^ (bits - 1) - 1 : Int).natAbs < 2 ^ 53 := by omega
  have kept := (holds.mul_pow (k := bits - 1) (by omega)).round.clamp below above
  obtain ⟨low, high⟩ := confined_bounds bits (roundAway (x * 2 ^ (bits - 1)))
  have whole : min ((2 ^ (bits - 1) - 1 : Int) : ℚ) (max ((-2 ^ (bits - 1) : Int) : ℚ)
      (roundAway (x * 2 ^ (bits - 1)))) = (quantized bits x : ℚ) := by
    rw [← Int.cast_max, ← Int.cast_min]
    congr 1
    unfold quantized confined
    omega
  rw [whole] at kept
  have exact := kept.toRat?_eq (Double.abs_lt_limit (by unfold quantized; omega))
  rw [scaled, full, Double.toIntWithin_eq exact]
  unfold quantized
  omega

theorem integerLevel_eq {level : Double} {x : ℚ} (holds : level.Holds x) (width : Nat) :
    integerLevel width level = contained width x := by
  have narrowed : ∀ bits, 0 < bits → bits ≤ 32 →
      narrowed bits (scaled bits level) = quantized bits x := by
    intro bits some narrow
    obtain ⟨low, high⟩ := confined_bounds bits (roundAway (x * 2 ^ (bits - 1)))
    rw [scaled_eq holds some narrow]
    exact narrowed_eq some low high
  unfold integerLevel
  split
  · exact narrowed 16 (by decide) (by decide)
  · rw [narrowed 32 (by decide) (by decide)]
    exact (floor_div_256 _).symm
  · rw [narrowed 32 (by decide) (by decide), contained] <;> assumption

/-- What is not a number is stored as zero. -/
theorem integerLevel_nan {level : Double} {negative : Bool} {payload : Nat}
    (nan : level.value = .nan negative payload) (width : Nat) : integerLevel width level = 0 := by
  have zero : ∀ bits, scaled bits level = 0 := by
    intro bits
    obtain ⟨p, product⟩ := Double.mul_nan nan (.ofNat (Nat.pow 2 (bits - 1)))
    rw [scaled, Double.round_nan product, Double.clamp_nan product, Double.toIntWithin, product]
  unfold integerLevel narrowed
  split <;> rw [zero] <;> decide

/-- A level fits into its container. -/
theorem contained_bounds {width : Nat} (known : width = 2 ∨ width = 3 ∨ width = 4) (x : ℚ) :
    -2 ^ (8 * width - 1) ≤ contained width x ∧ contained width x < 2 ^ (8 * width - 1) := by
  have upper := confined_bounds 32 (roundAway (x * 2 ^ (32 - 1)))
  rcases known with rfl | rfl | rfl
  · exact confined_bounds 16 _
  · rw [contained, floor_div_256]
    unfold quantized
    omega
  · exact upper

theorem contained_full {width : Nat} (known : width = 2 ∨ width = 3 ∨ width = 4) {x : ℚ}
    (full : 1 ≤ x) : contained width x = 2 ^ (8 * width - 1) - 1 := by
  have quantized_full : ∀ bits, quantized bits x = 2 ^ (bits - 1) - 1 := by
    intro bits
    have above : (((2 : Int) ^ (bits - 1) : Int) : ℚ) ≤ x * 2 ^ (bits - 1) := by
      push_cast
      exact le_mul_of_one_le_left (by positivity) full
    have rounded := Binary.roundAway_mono above
    rw [Binary.roundAway_intCast] at rounded
    have pos : (0 : Int) < 2 ^ (bits - 1) := by positivity
    unfold quantized confined
    omega
  rcases known with rfl | rfl | rfl
  · exact quantized_full 16
  · rw [contained, floor_div_256, quantized_full 32]
    decide
  · exact quantized_full 32

theorem contained_least {width : Nat} (known : width = 2 ∨ width = 3 ∨ width = 4) {x : ℚ}
    (least : x ≤ -1) : contained width x = -2 ^ (8 * width - 1) := by
  have quantized_least : ∀ bits, quantized bits x = -2 ^ (bits - 1) := by
    intro bits
    have below : x * 2 ^ (bits - 1) ≤ ((-2 ^ (bits - 1) : Int) : ℚ) := by
      push_cast
      rw [← neg_one_mul]
      exact mul_le_mul_of_nonneg_right least (by positivity)
    have rounded := Binary.roundAway_mono below
    rw [Binary.roundAway_intCast] at rounded
    have pos : (0 : Int) < 2 ^ (bits - 1) := by positivity
    unfold quantized confined
    omega
  rcases known with rfl | rfl | rfl
  · exact quantized_least 16
  · rw [contained, floor_div_256, quantized_least 32]
    decide
  · exact quantized_least 32

end Storage

/-- Integers have containers of two, three or four bytes. -/
theorem SampleType.integer_width {target : SampleType} {width bits : Nat} {order : ByteOrder}
    (stored : target.storage? = some (.integer width bits order)) :
    width = 2 ∨ width = 3 ∨ width = 4 := by
  obtain ⟨entry, listed, storage⟩ := Option.map_eq_some_iff.mp stored
  have widths : ∀ entry ∈ known, ∀ width bits order, entry.storage = .integer width bits order →
      width = 2 ∨ width = 3 ∨ width = 4 := by
    simp [known]
  exact widths entry (List.mem_of_find?_eq_some listed) width bits order storage

namespace Codec

variable {source : InputFormat} {target : SampleType} {size bits : Nat} {order : ByteOrder}

/-- Every input but one-bit samples and the opaque stream converts to integers. -/
theorem resolve_integer (leveled : source ≠ .u8 ∧ source ≠ .raw)
    (stored : target.storage? = some (.integer size bits order)) :
    resolve source target = .ok ⟨source, target, .level (.integer size bits order)⟩ :=
  resolve_leveled leveled stored rfl

theorem convert_integer (stored : target.storage? = some (.integer size bits order))
    {dst src : Bytes} (whole : source.bytes ≤ src.length) (room : size ≤ dst.length) :
    convert ⟨source, target, .level (.integer size bits order)⟩ dst src =
      .ok (dst.overwrite (order.writeInt size
        (Storage.integerLevel size (source.level (src.take source.bytes))))) := by
  have bytes : target.bytes = size := by
    rw [SampleType.bytes_of_storage stored, Storage.bytes, Storage.bits]
    omega
  rw [← bytes] at room
  exact (if_neg (Nat.not_lt.mpr whole)).trans (if_neg (Nat.not_lt.mpr room))

end Codec

end PlanarSink
