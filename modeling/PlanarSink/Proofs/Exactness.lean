import Mathlib.Algebra.Order.Field.Power
import Mathlib.Data.Rat.Cast.Order
import Mathlib.Tactic.Linarith
import Mathlib.Tactic.NormNum
import Mathlib.Tactic.Positivity
import Mathlib.Tactic.Ring
import Mathlib.Tactic.FieldSimp
import PlanarSink.Binary.Double

/-! Words and the rationals they denote. A rational with a mantissa and an exponent that a
layout has room for is encoded without rounding, so the word denotes it again, unless it is
so large that the infinity takes its place. -/
namespace PlanarSink.Binary

theorem signed_cast (negative : Bool) (magnitude : Nat) :
    (signed negative magnitude : ℚ) = if negative then -(magnitude : ℚ) else magnitude := by
  cases negative <;> simp [signed]

theorem zpow_two_pos (exponent : Int) : (0 : ℚ) < 2 ^ exponent :=
  zpow_pos two_pos exponent

theorem abs_signed (negative : Bool) (mantissa : Nat) (exponent : Int) :
    |(signed negative mantissa : ℚ) * 2 ^ exponent| = mantissa * 2 ^ exponent := by
  rw [signed_cast, abs_mul, abs_of_pos (zpow_two_pos exponent)]
  cases negative <;> simp

theorem natAbs_of_signed {n : Int} {negative : Bool} {mantissa : Nat} {exponent : Int}
    (same : (n : ℚ) = signed negative mantissa * 2 ^ exponent) :
    (n.natAbs : ℚ) = mantissa * 2 ^ exponent ∧ signed negative n.natAbs = n := by
  have magnitude : (n.natAbs : ℚ) = mantissa * 2 ^ exponent := by
    rw [Nat.cast_natAbs, Int.cast_abs, same, abs_signed]
  refine ⟨magnitude, Int.cast_injective (α := ℚ) ?_⟩
  rw [signed_cast, magnitude, same, signed_cast]
  cases negative <;> simp

/-- The rational a datum is, if it is one. -/
def Value.toRat? : Value → Option ℚ
  | finite negative mantissa exponent => some (signed negative mantissa * 2 ^ exponent)
  | _ => none

theorem Value.toRat?_eq_some {value : Value} {q : ℚ} (denotes : value.toRat? = some q) :
    ∃ negative mantissa exponent, value = .finite negative mantissa exponent ∧
      q = signed negative mantissa * 2 ^ exponent := by
  cases value with
  | nan | infinite => contradiction
  | finite negative mantissa exponent => exact ⟨_, _, _, rfl, (Option.some.inj denotes).symm⟩

theorem fraction_pos (mantissa : Nat) (exponent : Int) : 0 < (fraction mantissa exponent).2 := by
  cases exponent with
  | ofNat shift => exact Nat.one_pos
  | negSucc shift => exact Nat.two_pow_pos _

theorem fraction_some {mantissa : Nat} (some : 0 < mantissa) (exponent : Int) :
    0 < (fraction mantissa exponent).1 := by
  cases exponent with
  | ofNat shift => exact Nat.mul_pos some (Nat.two_pow_pos _)
  | negSucc shift => exact some

theorem fraction_eq (mantissa : Nat) (exponent : Int) :
    ((fraction mantissa exponent).1 / (fraction mantissa exponent).2 : ℚ) =
      mantissa * 2 ^ exponent := by
  cases exponent with
  | ofNat shift => simp [fraction]
  | negSucc shift => simp [fraction, zpow_negSucc, div_eq_mul_inv]

/-- The guess stays where its power of two is not above the fraction. -/
theorem floorLog2_eq {numerator denominator : Nat} (pos : 0 < denominator) :
    floorLog2 numerator denominator =
      if (2 : ℚ) ^ ((numerator.log2 : Int) - denominator.log2) ≤ numerator / denominator then
        (numerator.log2 : Int) - denominator.log2
      else (numerator.log2 : Int) - denominator.log2 - 1 := by
  have pos' : (0 : ℚ) < denominator := Nat.cast_pos.mpr pos
  unfold floorLog2
  generalize (numerator.log2 : Int) - denominator.log2 = guess
  cases guess with
  | ofNat up =>
    have reached : (2 : ℚ) ^ Int.ofNat up ≤ numerator / denominator ↔
        denominator * Nat.pow 2 up ≤ numerator := by
      rw [le_div_iff₀ pos', Int.ofNat_eq_natCast, zpow_natCast, mul_comm, Nat.pow_eq]
      norm_cast
    simp only [reached, decide_eq_true_eq]
  | negSucc down =>
    have reached : (2 : ℚ) ^ Int.negSucc down ≤ numerator / denominator ↔
        denominator ≤ numerator * Nat.pow 2 (down + 1) := by
      rw [le_div_iff₀ pos', zpow_negSucc, inv_mul_le_iff₀ (by positivity), mul_comm, Nat.pow_eq]
      norm_cast
    simp only [reached, decide_eq_true_eq]

theorem floorLog2_spec {numerator denominator : Nat} (some : 0 < numerator)
    (pos : 0 < denominator) :
    (2 : ℚ) ^ floorLog2 numerator denominator ≤ numerator / denominator ∧
      (numerator / denominator : ℚ) < 2 ^ (floorLog2 numerator denominator + 1) := by
  have pos' : (0 : ℚ) < denominator := Nat.cast_pos.mpr pos
  have two : (2 : ℚ) ≠ 0 := two_ne_zero
  have top : (2 : ℚ) ^ (numerator.log2 : Int) ≤ numerator := by
    exact_mod_cast Nat.log2_self_le some.ne'
  have top' : (numerator : ℚ) < 2 ^ (numerator.log2 + 1 : Int) := by
    exact_mod_cast Nat.lt_log2_self
  have bottom : (2 : ℚ) ^ (denominator.log2 : Int) ≤ denominator := by
    exact_mod_cast Nat.log2_self_le pos.ne'
  have bottom' : (denominator : ℚ) < 2 ^ (denominator.log2 + 1 : Int) := by
    exact_mod_cast Nat.lt_log2_self
  rw [floorLog2_eq pos]
  generalize (numerator.log2 : Int) = a at *
  generalize (denominator.log2 : Int) = b at *
  have lower : (2 : ℚ) ^ (a - b - 1) ≤ numerator / denominator := by
    rw [le_div_iff₀ pos']
    calc (2 : ℚ) ^ (a - b - 1) * denominator
        ≤ 2 ^ (a - b - 1) * 2 ^ (b + 1) :=
          mul_le_mul_of_nonneg_left bottom'.le (zpow_two_pos _).le
      _ = 2 ^ a := by rw [← zpow_add₀ two]; congr 1; omega
      _ ≤ numerator := top
  have upper : (numerator / denominator : ℚ) < 2 ^ (a - b + 1) := by
    rw [div_lt_iff₀ pos']
    calc (numerator : ℚ) < 2 ^ (a + 1) := top'
      _ = 2 ^ (a - b + 1) * 2 ^ b := by rw [← zpow_add₀ two]; congr 1; omega
      _ ≤ 2 ^ (a - b + 1) * denominator :=
          mul_le_mul_of_nonneg_left bottom (zpow_two_pos _).le
  split
  · next reached => exact ⟨reached, upper⟩
  · next short => exact ⟨lower, by rw [sub_add_cancel]; exact not_le.mp short⟩

theorem roundHalfEven_mul (n : Nat) {denominator : Nat} (pos : 0 < denominator) :
    roundHalfEven (n * denominator) denominator = n := by
  simp only [roundHalfEven, Nat.mul_div_cancel _ pos, Nat.mul_mod_left, if_pos pos, Nat.mul_zero]

namespace Layout

/-- A layout has room for a mantissa at an exponent, if that is not too large. -/
structure Fits (f : Layout) (mantissa : Nat) (exponent : Int) : Prop where
  narrow : mantissa < 2 ^ (f.fractionBits + 1)
  least : f.leastExponent ≤ exponent

/-- A mantissa at the exponent that words have it at: as large as it fits, or at the least
exponent. -/
structure Normal (f : Layout) (mantissa : Nat) (exponent : Int) : Prop extends
    f.Fits mantissa exponent where
  normal : 2 ^ f.fractionBits ≤ mantissa ∨ exponent = f.leastExponent

/-- The magnitude bits of a mantissa at an exponent. -/
def magnitude (f : Layout) (mantissa : Nat) (exponent : Int) : Nat :=
  (exponent - f.leastExponent).toNat * Nat.pow 2 f.fractionBits + mantissa

/-- What the rounding of a fraction scales it by. -/
theorem roundHalfEven_scaled {numerator denominator mantissa : Nat} (pos : 0 < denominator)
    (unit : Int) :
    (numerator / denominator : ℚ) = mantissa * 2 ^ unit →
    (match unit with
      | .ofNat up => roundHalfEven numerator (denominator * Nat.pow 2 up)
      | .negSucc down => roundHalfEven (numerator * Nat.pow 2 (down + 1)) denominator) =
      mantissa := by
  intro denotes
  have pos' : (denominator : ℚ) ≠ 0 := Nat.cast_ne_zero.mpr pos.ne'
  rw [div_eq_iff pos'] at denotes
  cases unit with
  | ofNat up =>
    have whole : numerator = mantissa * (denominator * Nat.pow 2 up) := by
      rw [Int.ofNat_eq_natCast, zpow_natCast] at denotes
      rw [Nat.pow_eq, mul_comm denominator, ← mul_assoc]
      exact_mod_cast denotes
    dsimp only
    rw [whole]
    exact roundHalfEven_mul _ (Nat.mul_pos pos (Nat.two_pow_pos up))
  | negSucc down =>
    have whole : numerator * Nat.pow 2 (down + 1) = mantissa * denominator := by
      rw [zpow_negSucc, mul_right_comm, ← div_eq_mul_inv, eq_div_iff (by positivity)] at denotes
      rw [Nat.pow_eq]
      exact_mod_cast denotes
    dsimp only
    rw [whole, roundHalfEven_mul _ pos]

theorem normal_of_log {f : Layout} {x : ℚ} {log unit : Int} {mantissa : Nat}
    (above : (2 : ℚ) ^ log ≤ x) (below : x < 2 ^ (log + 1))
    (attained : max (log - (f.fractionBits : Int)) f.leastExponent = unit)
    (denotes : x = mantissa * 2 ^ unit) : f.Normal mantissa unit := by
  have two : (2 : ℚ) ≠ 0 := two_ne_zero
  have power : ∀ bits : Nat, ((2 ^ bits : ℕ) : ℚ) * 2 ^ unit = 2 ^ ((bits : Int) + unit) := by
    intro bits
    rw [zpow_add₀ two, zpow_natCast, Nat.cast_pow, Nat.cast_ofNat]
  refine ⟨⟨?narrow, by omega⟩, ?normal⟩
  case narrow =>
    have bound : (mantissa : ℚ) * 2 ^ unit < (2 ^ (f.fractionBits + 1) : ℕ) * 2 ^ unit := by
      calc (mantissa : ℚ) * 2 ^ unit < 2 ^ (log + 1) := denotes ▸ below
        _ ≤ 2 ^ ((f.fractionBits + 1 : ℕ) + unit : Int) :=
            zpow_le_zpow_right₀ one_le_two (by omega)
        _ = (2 ^ (f.fractionBits + 1) : ℕ) * 2 ^ unit := (power _).symm
    exact Nat.cast_lt.mp (lt_of_mul_lt_mul_right bound (zpow_two_pos _).le)
  case normal =>
    by_cases lowest : unit = f.leastExponent
    · exact .inr lowest
    have bound : ((2 ^ f.fractionBits : ℕ) : ℚ) * 2 ^ unit ≤ mantissa * 2 ^ unit := by
      calc ((2 ^ f.fractionBits : ℕ) : ℚ) * 2 ^ unit
          = 2 ^ ((f.fractionBits : ℕ) + unit : Int) := power _
        _ = 2 ^ log := by congr 1; omega
        _ ≤ mantissa * 2 ^ unit := denotes ▸ above
    exact .inl (Nat.cast_le.mp (le_of_mul_le_mul_right bound (zpow_two_pos _)))

/-- A fraction that a layout has room for is rounded to the word that denotes it, or to the
infinity where that is less. -/
theorem roundFraction_eq {f : Layout} {numerator denominator mantissa : Nat} {exponent : Int}
    (pos : 0 < denominator) (fits : f.Fits mantissa exponent)
    (denotes : (numerator / denominator : ℚ) = mantissa * 2 ^ exponent) :
    ∃ m e, f.Normal m e ∧ (numerator / denominator : ℚ) = m * 2 ^ e ∧
      f.roundFraction numerator denominator = min (f.magnitude m e) f.infinity := by
  have two : (2 : ℚ) ≠ 0 := two_ne_zero
  unfold roundFraction
  split
  · next zero =>
    refine ⟨0, f.leastExponent, ⟨⟨Nat.two_pow_pos _, le_rfl⟩, .inr rfl⟩, ?_, ?_⟩
    · simp [zero]
    · simp [magnitude]
  next some =>
  obtain ⟨above, below⟩ := floorLog2_spec (Nat.pos_of_ne_zero some) pos
  dsimp only
  generalize floorLog2 numerator denominator = log at *
  have reach : log < f.fractionBits + 1 + exponent := by
    rw [← zpow_lt_zpow_iff_right₀ (one_lt_two (α := ℚ))]
    calc (2 : ℚ) ^ log ≤ mantissa * 2 ^ exponent := denotes ▸ above
      _ < 2 ^ (f.fractionBits + 1 : Int) * 2 ^ exponent :=
          mul_lt_mul_of_pos_right (by exact_mod_cast fits.narrow) (zpow_two_pos _)
      _ = 2 ^ (f.fractionBits + 1 + exponent : Int) := (zpow_add₀ two _ _).symm
  have least := fits.least
  generalize attained : max (log - (f.fractionBits : Int)) f.leastExponent = unit
  have shift : exponent = ((exponent - unit).toNat : Int) + unit := by omega
  rw [shift, zpow_add₀ two, zpow_natCast, ← mul_assoc] at denotes
  generalize (exponent - unit).toNat = up at denotes
  have same : (numerator / denominator : ℚ) = (mantissa * 2 ^ up : ℕ) * 2 ^ unit := by
    push_cast
    exact denotes
  generalize mantissa * 2 ^ up = scaled at same
  refine ⟨scaled, unit, normal_of_log above below attained same, same, ?_⟩
  exact congrArg (fun rounded =>
    min ((unit - f.leastExponent).toNat * Nat.pow 2 f.fractionBits + rounded) f.infinity)
    (roundHalfEven_scaled pos unit same)

/-- The exponent of the least power of two that is too large for a layout. -/
def limit (f : Layout) : Int :=
  f.leastExponent + f.fractionBits + (Nat.pow 2 f.exponentBits - 2 : Nat)

theorem infinity_lt (f : Layout) : f.infinity < f.signBit := by
  have pos := Nat.two_pow_pos f.exponentBits
  have pos' := Nat.two_pow_pos f.fractionBits
  simp only [infinity, signBit, Nat.pow_eq, pow_add]
  exact Nat.mul_lt_mul_of_pos_right (Nat.sub_lt pos Nat.one_pos) pos'

theorem signBit_eq (f : Layout) :
    f.signBit = Nat.pow 2 f.exponentBits * Nat.pow 2 f.fractionBits :=
  Nat.pow_add 2 _ _

theorem decode_add {f : Layout} (negative : Bool) {bits : Nat} (within : bits < f.signBit) :
    f.decode ((if negative then f.signBit else 0) + bits) =
      if bits / Nat.pow 2 f.fractionBits = Nat.pow 2 f.exponentBits - 1 then
        if bits % Nat.pow 2 f.fractionBits = 0 then .infinite negative
        else .nan negative (bits % Nat.pow 2 f.fractionBits * Nat.pow 2 (52 - f.fractionBits))
      else if bits / Nat.pow 2 f.fractionBits = 0 then
        .finite negative (bits % Nat.pow 2 f.fractionBits) f.leastExponent
      else
        .finite negative (Nat.pow 2 f.fractionBits + bits % Nat.pow 2 f.fractionBits)
          (f.leastExponent + (bits / Nat.pow 2 f.fractionBits - 1 : Nat)) := by
  have size := f.signBit_eq
  have pos : 0 < f.signBit := Nat.two_pow_pos _
  have unit : 0 < Nat.pow 2 f.fractionBits := Nat.two_pow_pos _
  have sign : (((if negative then f.signBit else 0) + bits) / f.signBit % 2 == 1) = negative := by
    cases negative
    · simp [Nat.div_eq_of_lt within]
    · simp [Nat.add_div_left _ pos, Nat.div_eq_of_lt within]
  have field : ((if negative then f.signBit else 0) + bits) / Nat.pow 2 f.fractionBits %
      Nat.pow 2 f.exponentBits = bits / Nat.pow 2 f.fractionBits := by
    have top : bits / Nat.pow 2 f.fractionBits < Nat.pow 2 f.exponentBits :=
      Nat.div_lt_of_lt_mul (by rwa [Nat.mul_comm, ← size])
    cases negative
    · rw [if_neg Bool.false_ne_true, Nat.zero_add, Nat.mod_eq_of_lt top]
    · rw [if_pos rfl, size, Nat.add_comm, Nat.add_mul_div_right _ _ unit, Nat.add_mod_right,
        Nat.mod_eq_of_lt top]
  have low : ((if negative then f.signBit else 0) + bits) % Nat.pow 2 f.fractionBits =
      bits % Nat.pow 2 f.fractionBits := by
    cases negative
    · simp
    · rw [if_pos rfl, size, Nat.add_comm, Nat.add_mul_mod_self_right]
  unfold decode
  rw [sign, field, low]

theorem decode_magnitude {f : Layout} (negative : Bool) {mantissa : Nat} {exponent : Int}
    (normal : f.Normal mantissa exponent) (small : f.magnitude mantissa exponent < f.infinity) :
    f.decode ((if negative then f.signBit else 0) + f.magnitude mantissa exponent) =
      .finite negative mantissa exponent := by
  obtain ⟨⟨narrow, least⟩, normal⟩ := normal
  rw [decode_add _ (small.trans f.infinity_lt)]
  unfold magnitude infinity at *
  rw [pow_succ] at narrow
  rw [← Nat.pow_eq] at narrow normal
  have unit : 0 < Nat.pow 2 f.fractionBits := Nat.two_pow_pos _
  generalize Nat.pow 2 f.fractionBits = size at *
  rcases Nat.lt_or_ge mantissa size with below | above
  · obtain rfl := normal.resolve_left (Nat.not_le.mpr below)
    have some : 0 ≠ Nat.pow 2 f.exponentBits - 1 := by
      rintro none
      rw [← none, Nat.zero_mul] at small
      exact Nat.not_lt_zero _ small
    rw [Int.sub_self, Int.toNat_zero, Nat.zero_mul, Nat.zero_add, Nat.div_eq_of_lt below,
      Nat.mod_eq_of_lt below, if_neg some, if_pos rfl]
  · obtain ⟨low, rfl⟩ := Nat.exists_eq_add_of_le above
    have rest : low < size := by omega
    have bits : (exponent - f.leastExponent).toNat * size + (size + low) =
        low + ((exponent - f.leastExponent).toNat + 1) * size := by
      rw [Nat.succ_mul]
      omega
    have field : (exponent - f.leastExponent).toNat + 1 < Nat.pow 2 f.exponentBits - 1 :=
      Nat.lt_of_mul_lt_mul_right (Nat.lt_of_le_of_lt (Nat.le_add_left _ low) (bits ▸ small))
    rw [bits, Nat.add_mul_div_right _ _ unit, Nat.add_mul_mod_self_right, Nat.div_eq_of_lt rest,
      Nat.mod_eq_of_lt rest, Nat.zero_add, if_neg field.ne, if_neg (Nat.succ_ne_zero _),
      Nat.add_sub_cancel]
    congr 1
    omega

/-- Above an infinity in the fraction field alone is what is not a number. -/
theorem decode_nan {f : Layout} (negative : Bool) {low : Nat} (some : low ≠ 0)
    (below : low < Nat.pow 2 f.fractionBits) :
    f.decode ((if negative then f.signBit else 0) + (f.infinity + low)) =
      .nan negative (low * Nat.pow 2 (52 - f.fractionBits)) := by
  have unit : 0 < Nat.pow 2 f.fractionBits := Nat.two_pow_pos _
  have fields : 0 < Nat.pow 2 f.exponentBits := Nat.two_pow_pos _
  have bits : f.infinity + low = low + (Nat.pow 2 f.exponentBits - 1) * Nat.pow 2 f.fractionBits :=
    Nat.add_comm _ _
  have within : f.infinity + low < f.signBit := by
    rw [bits, signBit_eq, Nat.sub_mul]
    have one := Nat.mul_le_mul_right (Nat.pow 2 f.fractionBits) fields
    omega
  rw [decode_add _ within, bits, Nat.add_mul_div_right _ _ unit, Nat.add_mul_mod_self_right,
    Nat.div_eq_of_lt below, Nat.mod_eq_of_lt below, Nat.zero_add, if_pos rfl, if_neg some]

theorem decode_infinity (f : Layout) (negative : Bool) :
    f.decode ((if negative then f.signBit else 0) + f.infinity) = .infinite negative := by
  have unit : 0 < Nat.pow 2 f.fractionBits := Nat.two_pow_pos _
  rw [decode_add _ f.infinity_lt, infinity, Nat.mul_div_cancel _ unit, if_pos rfl,
    Nat.mul_mod_left, if_pos rfl]

theorem limit_le {f : Layout} (exponents : 0 < f.exponentBits) {mantissa : Nat} {exponent : Int}
    (normal : f.Normal mantissa exponent) (large : f.infinity ≤ f.magnitude mantissa exponent) :
    (2 : ℚ) ^ f.limit ≤ mantissa * 2 ^ exponent := by
  obtain ⟨⟨narrow, least⟩, normal⟩ := normal
  have fields : 2 ≤ Nat.pow 2 f.exponentBits := Nat.le_self_pow exponents.ne' 2
  unfold magnitude infinity at large
  rw [pow_succ] at narrow
  have above : 2 ^ f.fractionBits ≤ mantissa ∧
      Nat.pow 2 f.exponentBits - 2 ≤ (exponent - f.leastExponent).toNat := by
    rw [← Nat.pow_eq] at narrow normal ⊢
    have unit : 0 < Nat.pow 2 f.fractionBits := Nat.two_pow_pos _
    generalize Nat.pow 2 f.fractionBits = size at *
    have steps : (Nat.pow 2 f.exponentBits - 1) * size <
        ((exponent - f.leastExponent).toNat + 2) * size := by
      rw [Nat.add_mul]
      omega
    have enough := Nat.lt_of_mul_lt_mul_right steps
    refine ⟨normal.elim id ?_, by omega⟩
    rintro rfl
    rw [Int.sub_self, Int.toNat_zero, Nat.zero_mul, Nat.zero_add] at large
    exact (Nat.le_mul_of_pos_left size (by omega)).trans large
  calc (2 : ℚ) ^ f.limit ≤ 2 ^ ((f.fractionBits : Int) + exponent) :=
        zpow_le_zpow_right₀ one_le_two (by unfold limit; omega)
    _ = 2 ^ f.fractionBits * 2 ^ exponent := by rw [zpow_add₀ two_ne_zero, zpow_natCast]
    _ ≤ mantissa * 2 ^ exponent :=
        mul_le_mul_of_nonneg_right (by exact_mod_cast above.1) (zpow_two_pos _).le

/-- Finite words denote what the layout has room for. -/
theorem fits_of_decode {f : Layout} {word : Nat} {negative : Bool} {mantissa : Nat}
    {exponent : Int} (finite : f.decode word = .finite negative mantissa exponent) :
    f.Fits mantissa exponent := by
  have low : word % Nat.pow 2 f.fractionBits < 2 ^ f.fractionBits :=
    Nat.mod_lt _ (Nat.two_pow_pos _)
  unfold decode at finite
  dsimp only at finite
  split at finite
  · split at finite <;> contradiction
  split at finite
  · obtain ⟨-, rfl, rfl⟩ := Value.finite.inj finite
    exact ⟨low.trans (Nat.pow_lt_pow_succ Nat.one_lt_two), le_rfl⟩
  · obtain ⟨-, rfl, rfl⟩ := Value.finite.inj finite
    refine ⟨?_, by omega⟩
    rw [pow_succ, Nat.pow_eq] at *
    omega

theorem payload_of_decode {f : Layout} (fractions : f.fractionBits ≤ 52) {word : Nat}
    {negative : Bool} {payload : Nat} (nan : f.decode word = .nan negative payload) :
    payload < 2 ^ 52 := by
  have low : word % Nat.pow 2 f.fractionBits < 2 ^ f.fractionBits :=
    Nat.mod_lt _ (Nat.two_pow_pos _)
  unfold decode at nan
  dsimp only at nan
  split at nan
  · split at nan
    · contradiction
    · obtain ⟨-, rfl⟩ := Value.nan.inj nan
      calc word % Nat.pow 2 f.fractionBits * Nat.pow 2 (52 - f.fractionBits)
          < 2 ^ f.fractionBits * 2 ^ (52 - f.fractionBits) :=
            Nat.mul_lt_mul_of_pos_right low (Nat.two_pow_pos _)
        _ = 2 ^ 52 := by rw [← pow_add, Nat.add_sub_cancel' fractions]
  · split at nan <;> contradiction

end Layout

/-- A number is exactly this rational, or the infinity where the rational is too large. -/
inductive Double.Holds (x : Double) (q : ℚ) : Prop where
  | exact (finite : x.value.toRat? = some q)
  | overflow (infinite : x.value = .infinite (decide (q < 0)))
    (large : (2 : ℚ) ^ Layout.double.limit ≤ |q|)

namespace Double

theorem value_mk {word : Nat} (within : word < 2 ^ 64) :
    (⟨UInt64.ofNat word⟩ : Double).value = Layout.double.decode word := by
  rw [value, UInt64.toNat_ofNat_of_lt' within]

/-- A fraction that doubles have room for is held by the number nearest to it. -/
theorem holds_ofFraction (negative : Bool) {numerator denominator mantissa : Nat} {exponent : Int}
    (pos : 0 < denominator) (fits : Layout.double.Fits mantissa exponent)
    (denotes : (numerator / denominator : ℚ) = mantissa * 2 ^ exponent) :
    (ofFraction negative numerator denominator).Holds (signed negative mantissa * 2 ^ exponent) := by
  obtain ⟨m, e, normal, same, word⟩ := Layout.roundFraction_eq pos fits denotes
  have value : (ofFraction negative numerator denominator).value =
      Layout.double.decode ((if negative then Layout.double.signBit else 0) +
        min (Layout.double.magnitude m e) Layout.double.infinity) := by
    rw [ofFraction, word, value_mk]
    have sign : Layout.double.signBit = 2 ^ 63 := rfl
    have infinity := Layout.double.infinity_lt
    split <;> omega
  rw [denotes] at same
  rcases lt_or_ge (Layout.double.magnitude m e) Layout.double.infinity with small | large
  · rw [min_eq_left small.le, Layout.decode_magnitude negative normal small] at value
    refine .exact ?_
    rw [value, Value.toRat?, signed_cast, signed_cast]
    cases negative
    · simp [same]
    · simp [same]
  · rw [min_eq_right large, Layout.decode_infinity] at value
    have bound := Layout.limit_le (by decide) normal large
    rw [← same] at bound
    have pos := (zpow_two_pos _).trans_le bound
    have sign : decide ((signed negative mantissa * 2 ^ exponent : ℚ) < 0) = negative := by
      cases negative
      · simpa [signed] using pos.le
      · simpa [signed] using pos
    exact .overflow (sign.symm ▸ value) (abs_signed negative .. ▸ bound)

/-- A number that is not too large is held exactly. -/
theorem Holds.toRat?_eq {x : Double} {q : ℚ} (holds : x.Holds q)
    (small : |q| < 2 ^ Layout.double.limit) : x.value.toRat? = some q := by
  cases holds with
  | exact finite => exact finite
  | overflow _ large => exact absurd small (not_lt.mpr large)

theorem abs_lt_limit {n : Int} (narrow : n.natAbs < 2 ^ 53) :
    |(n : ℚ)| < 2 ^ Layout.double.limit := by
  have limit : Layout.double.limit = 1024 := by decide
  calc |(n : ℚ)| = (n.natAbs : ℚ) := by rw [Nat.cast_natAbs, Int.cast_abs]
    _ < 2 ^ ((53 : ℕ) : Int) := by exact_mod_cast narrow
    _ ≤ 2 ^ Layout.double.limit := zpow_le_zpow_right₀ one_le_two (by omega)

theorem toRat?_ofInt {n : Int} (narrow : n.natAbs < 2 ^ 53) :
    (ofInt n).value.toRat? = some (n : ℚ) := by
  have fits : Layout.double.Fits n.natAbs 0 := ⟨narrow, by decide⟩
  have holds : (ofInt n).Holds (signed (decide (n < 0)) n.natAbs * 2 ^ (0 : Int)) :=
    holds_ofFraction _ Nat.one_pos fits (by simp)
  have same : signed (decide (n < 0)) n.natAbs = n := by
    unfold signed
    split <;> next sign => rw [decide_eq_true_eq] at sign; omega
  rw [zpow_zero, mul_one, same] at holds
  exact holds.toRat?_eq (abs_lt_limit narrow)

theorem toRat?_ofNat {n : Nat} (narrow : n < 2 ^ 53) :
    (ofNat n).value.toRat? = some (n : ℚ) := by
  have nonneg : decide ((n : Int) < 0) = false := by simp
  have value := toRat?_ofInt (n := n) (by simpa using narrow)
  rw [ofInt, nonneg] at value
  exact_mod_cast value

/-- A natural that doubles have room for is no other natural. -/
theorem isNat_ofNat {n other : Nat} (narrow : n < 2 ^ 53) :
    (ofNat n).isNat other = true ↔ n = other := by
  obtain ⟨negative, mantissa, exponent, finite, denotes⟩ :=
    Value.toRat?_eq_some (toRat?_ofNat narrow)
  obtain ⟨magnitude, sign⟩ := natAbs_of_signed (n := (n : Int)) (by exact_mod_cast denotes)
  have pos := fraction_pos mantissa exponent
  have scaled : (fraction mantissa exponent).1 = n * (fraction mantissa exponent).2 := by
    have nonzero : ((fraction mantissa exponent).2 : ℚ) ≠ 0 := by exact_mod_cast pos.ne'
    have quotient := fraction_eq mantissa exponent
    rw [← magnitude, Int.natAbs_natCast, div_eq_iff nonzero] at quotient
    exact_mod_cast quotient
  have signless : n = 0 ∨ negative = false := by
    cases negative with
    | false => exact .inr rfl
    | true =>
      simp only [signed, Int.natAbs_natCast, if_true] at sign
      omega
  simp only [isNat, finite, scaled, Bool.and_eq_true, Bool.or_eq_true, beq_iff_eq,
    Nat.mul_left_inj pos.ne']
  constructor
  · exact And.right
  · rintro rfl
    exact ⟨signless.imp id (by simp), rfl⟩

theorem value_ofNat_pow {k : Nat} (narrow : k < 53) :
    ∃ mantissa exponent, (ofNat (Nat.pow 2 k)).value = .finite false mantissa exponent ∧
      0 < mantissa ∧ (mantissa * 2 ^ exponent : ℚ) = 2 ^ k := by
  have value := toRat?_ofNat (n := Nat.pow 2 k) (Nat.pow_lt_pow_right Nat.one_lt_two narrow)
  obtain ⟨negative, mantissa, exponent, finite, denotes⟩ := Value.toRat?_eq_some value
  rw [Nat.pow_eq, Nat.cast_pow, Nat.cast_ofNat] at denotes
  have pos : (0 : ℚ) < signed negative mantissa * 2 ^ exponent := denotes ▸ by positivity
  have sign : (0 : Int) < signed negative mantissa :=
    Int.cast_pos.mp ((mul_pos_iff_of_pos_right (zpow_two_pos exponent)).mp pos)
  cases negative with
  | false =>
    exact ⟨mantissa, exponent, finite, by simpa [signed] using sign, denotes.symm⟩
  | true =>
    have nonpos : signed true mantissa ≤ 0 := by simp [signed]
    exact absurd sign (not_lt.mpr nonpos)

theorem value_ofValue_infinite (negative : Bool) :
    (ofValue (.infinite negative)).value = .infinite negative := by
  have within : (if negative then Layout.double.signBit else 0) + Layout.double.infinity < 2 ^ 64 := by
    cases negative <;> decide
  exact (value_mk within).trans (Layout.decode_infinity _ _)

theorem value_ofValue_nan (negative : Bool) {payload : Nat} (narrow : payload < 2 ^ 52) :
    ∃ p, (ofValue (Value.nan negative payload).quiet).value = .nan negative p := by
  have quiet : payload ||| 0x8000000000000 < 2 ^ 52 := Nat.or_lt_two_pow narrow (by decide)
  have above : 0x8000000000000 ≤ payload ||| 0x8000000000000 := Nat.right_le_or
  have within : (if negative then Layout.double.signBit else 0) +
      (Layout.double.infinity + (payload ||| 0x8000000000000)) < 2 ^ 64 := by
    have infinity : Layout.double.infinity = (2 ^ 11 - 1) * 2 ^ 52 := by decide
    have sign : Layout.double.signBit = 2 ^ 63 := by decide
    split <;> omega
  have encoded : Layout.double.encode (Value.nan negative payload).quiet =
      (if negative then Layout.double.signBit else 0) +
        (Layout.double.infinity + (payload ||| 0x8000000000000)) := by
    rw [Value.quiet, Layout.encode]
    exact congrArg (fun low => _ + (Layout.double.infinity + low)) (Nat.div_one _)
  rw [ofValue, encoded, value_mk within]
  exact ⟨_, Layout.decode_nan negative (by omega) quiet⟩

theorem holds_ofValue (negative : Bool) {mantissa : Nat} {exponent : Int}
    (fits : Layout.double.Fits mantissa exponent) :
    (ofValue (.finite negative mantissa exponent)).Holds (signed negative mantissa * 2 ^ exponent) :=
  holds_ofFraction negative (fraction_pos mantissa exponent) fits (fraction_eq mantissa exponent)

/-- What holds a rational is a finite number with room to spare, or an infinity. -/
theorem Holds.value_cases {x : Double} {q : ℚ} (holds : x.Holds q) :
    (∃ negative mantissa exponent, x.value = .finite negative mantissa exponent ∧
      Layout.double.Fits mantissa exponent ∧ q = signed negative mantissa * 2 ^ exponent) ∨
      x.value = .infinite (decide (q < 0)) ∧ (2 : ℚ) ^ Layout.double.limit ≤ |q| := by
  cases holds with
  | exact finite =>
    obtain ⟨negative, mantissa, exponent, value, denotes⟩ := Value.toRat?_eq_some finite
    exact .inl ⟨_, _, _, value, Layout.fits_of_decode value, denotes⟩
  | overflow infinite large => exact .inr ⟨infinite, large⟩

end Double

end PlanarSink.Binary
