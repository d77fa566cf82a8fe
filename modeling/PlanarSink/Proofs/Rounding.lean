import Mathlib.Data.Rat.Floor
import Mathlib.Tactic.Linarith
import PlanarSink.Proofs.Exactness

/-! Rounding to integers with halves going away from zero, and the operations on numbers that
a level goes through on its way to an integer. -/
namespace PlanarSink.Binary

/-- The nearest integer, halves going away from zero. -/
def roundAway (x : ℚ) : ℤ :=
  if x < 0 then -⌊-x + 1 / 2⌋ else ⌊x + 1 / 2⌋

theorem roundAway_of_nonneg {x : ℚ} (nonneg : 0 ≤ x) : roundAway x = ⌊x + 1 / 2⌋ :=
  if_neg (not_lt.mpr nonneg)

theorem roundAway_neg (x : ℚ) : roundAway (-x) = -roundAway x := by
  rcases lt_trichotomy x 0 with below | rfl | above
  · rw [roundAway_of_nonneg (neg_nonneg.mpr below.le), roundAway, if_pos below, neg_neg]
  · norm_num [roundAway]
  · rw [roundAway_of_nonneg above.le, roundAway, if_pos (neg_lt_zero.mpr above), neg_neg]

theorem roundAway_intCast (n : ℤ) : roundAway n = n := by
  have whole : ∀ n : ℤ, 0 ≤ n → roundAway n = n := by
    intro n nonneg
    rw [roundAway_of_nonneg (by exact_mod_cast nonneg), Int.floor_intCast_add]
    norm_num
  rcases le_total 0 n with nonneg | nonpos
  · exact whole n nonneg
  · have opposite := whole (-n) (neg_nonneg.mpr nonpos)
    rw [Int.cast_neg, roundAway_neg] at opposite
    exact neg_injective opposite

theorem roundAway_mono {x y : ℚ} (le : x ≤ y) : roundAway x ≤ roundAway y := by
  have nonneg : ∀ z : ℚ, 0 ≤ z → 0 ≤ roundAway z := by
    intro z nonneg
    rw [roundAway_of_nonneg nonneg]
    exact Int.floor_nonneg.mpr (by linarith)
  have mono : ∀ {x y : ℚ}, 0 ≤ x → x ≤ y → roundAway x ≤ roundAway y := by
    intro x y nonneg le
    rw [roundAway_of_nonneg nonneg, roundAway_of_nonneg (nonneg.trans le)]
    exact Int.floor_le_floor (by linarith)
  rcases le_total 0 x with above | below
  · exact mono above le
  rcases le_total 0 y with above' | below'
  · have first := nonneg (-x) (neg_nonneg.mpr below)
    rw [roundAway_neg] at first
    exact (neg_nonneg.mp first).trans (nonneg y above')
  · have opposite := mono (neg_nonneg.mpr below') (neg_le_neg le)
    rw [roundAway_neg, roundAway_neg] at opposite
    exact neg_le_neg_iff.mp opposite

theorem roundAway_signed (negative : Bool) (mantissa : Nat) (exponent : Int) :
    roundAway (signed negative mantissa * 2 ^ exponent) =
      signed negative (roundScaled mantissa exponent) := by
  have magnitude : roundAway (mantissa * 2 ^ exponent) = roundScaled mantissa exponent := by
    cases exponent with
    | ofNat shift =>
      have whole : (mantissa * 2 ^ Int.ofNat shift : ℚ) = (mantissa * Nat.pow 2 shift : ℕ) := by
        rw [Int.ofNat_eq_natCast, zpow_natCast, Nat.pow_eq]
        push_cast
        rfl
      rw [whole]
      exact roundAway_intCast _
    | negSucc shift =>
      have quotient : (mantissa * 2 ^ Int.negSucc shift + 1 / 2 : ℚ) =
          (2 * mantissa + 2 ^ (shift + 1) : ℕ) / (2 ^ (shift + 1 + 1) : ℕ) := by
        rw [zpow_negSucc]
        push_cast
        field_simp
        ring
      rw [roundAway_of_nonneg (mul_nonneg (Nat.cast_nonneg _) (zpow_two_pos _).le), quotient,
        Rat.floor_natCast_div_natCast]
      rfl
  cases negative with
  | false => exact_mod_cast magnitude
  | true =>
    have opposite := roundAway_neg (mantissa * 2 ^ exponent)
    rw [magnitude, ← neg_mul] at opposite
    rw [signed_cast]
    exact opposite

namespace Double

variable {x : Double} {q : ℚ}

theorem Holds.mul_pow (holds : x.Holds q) {k : Nat} (narrow : k < 53) :
    (x.mul (ofNat (Nat.pow 2 k))).Holds (q * 2 ^ k) := by
  obtain ⟨n, e, factor, pos, power⟩ := value_ofNat_pow narrow
  generalize ofNat (Nat.pow 2 k) = y at factor
  rcases holds.value_cases with ⟨negative, m, d, value, fits, rfl⟩ | ⟨value, large⟩
  · have product : x.mul y =
        ofFraction negative (fraction (m * n) (d + e)).1 (fraction (m * n) (d + e)).2 := by
      simp [mul, notANumber?, value, factor, Value.isNegative]
    have scaled : (signed negative m * 2 ^ d * 2 ^ k : ℚ) = signed negative m * 2 ^ (d + k) := by
      rw [zpow_add₀ two_ne_zero, zpow_natCast, mul_assoc]
    have room : Layout.double.Fits m (d + k) := ⟨fits.narrow, by have := fits.least; omega⟩
    rw [product, scaled]
    refine holds_ofFraction negative (fraction_pos _ _) room ?_
    rw [fraction_eq, zpow_add₀ two_ne_zero, zpow_add₀ two_ne_zero, zpow_natCast, ← power]
    push_cast
    ring
  · obtain ⟨n, rfl⟩ := Nat.exists_eq_succ_of_ne_zero pos.ne'
    have product : x.mul y = ofValue (.infinite (decide (q < 0))) := by
      simp [mul, notANumber?, value, factor, Value.isNegative]
    have one : (1 : ℚ) ≤ 2 ^ k := one_le_pow₀ one_le_two
    have sign : q * 2 ^ k < 0 ↔ q < 0 :=
      ⟨fun below => neg_of_mul_neg_left below (by positivity),
        fun below => mul_neg_of_neg_of_pos below (by positivity)⟩
    refine .overflow ?_ ?_
    · rw [product, value_ofValue_infinite, decide_eq_decide.mpr sign]
    · rw [abs_mul, abs_of_pos (by positivity : (0 : ℚ) < 2 ^ k)]
      exact large.trans (le_mul_of_one_le_right (abs_nonneg q) one)

theorem holds_div_pow {n : Int} (small : n.natAbs < 2 ^ 53) {k : Nat} (narrow : k < 53) :
    ((ofInt n).div (ofNat (Nat.pow 2 k))).Holds (n / 2 ^ k) := by
  obtain ⟨b, e, divisor, pos, power⟩ := value_ofNat_pow narrow
  generalize ofNat (Nat.pow 2 k) = y at divisor
  have exact := toRat?_ofInt small
  generalize ofInt n = x at exact
  obtain ⟨negative, m, d, dividend, same⟩ := Value.toRat?_eq_some exact
  obtain ⟨b, rfl⟩ := Nat.exists_eq_succ_of_ne_zero pos.ne'
  have quotient : x.div y = ofFraction negative ((fraction m d).1 * (fraction (b + 1) e).2)
      ((fraction m d).2 * (fraction (b + 1) e).1) := by
    simp [div, notANumber?, dividend, divisor, Value.isNegative]
  have room : Layout.double.Fits n.natAbs (-k) := by
    have least : Layout.double.leastExponent = -1074 := by decide
    exact ⟨small, by omega⟩
  obtain ⟨magnitude, sign⟩ := natAbs_of_signed same
  have denotes : (((fraction m d).1 * (fraction (b + 1) e).2 : ℕ) : ℚ) /
      ((fraction m d).2 * (fraction (b + 1) e).1 : ℕ) = n.natAbs * 2 ^ (-k : Int) := by
    rw [Nat.cast_mul, Nat.cast_mul, ← div_div_div_eq, fraction_eq, fraction_eq, power, magnitude,
      zpow_neg, zpow_natCast, div_eq_mul_inv]
  have holds := holds_ofFraction negative
    (Nat.mul_pos (fraction_pos m d) (fraction_some pos e)) room denotes
  rwa [← quotient, sign, zpow_neg, zpow_natCast, ← div_eq_mul_inv] at holds

theorem holds_integer (negative : Bool) {magnitude mantissa : Nat} {exponent : Int}
    (fits : Layout.double.Fits mantissa exponent)
    (same : (magnitude : ℚ) = mantissa * 2 ^ exponent) :
    (ofFraction negative magnitude 1).Holds (signed negative magnitude) := by
  have holds := holds_ofFraction negative Nat.one_pos fits (by rw [same, Nat.cast_one, div_one])
  have value : (signed negative mantissa * 2 ^ exponent : ℚ) = signed negative magnitude := by
    rw [signed_cast, signed_cast, same]
    cases negative <;> simp
  rwa [value] at holds

/-- Rounding keeps the sign of a rational that is not below an integer in magnitude, and this
integer below it. -/
theorem roundAway_large {bound : ℤ} (pos : 0 < bound) (large : (bound : ℚ) ≤ |q|) :
    (roundAway q < 0 ↔ q < 0) ∧ bound ≤ |roundAway q| := by
  rcases le_or_gt 0 q with nonneg | below
  · rw [abs_of_nonneg nonneg] at large
    have above := roundAway_mono large
    rw [roundAway_intCast] at above
    exact ⟨iff_of_false (by omega) (not_lt.mpr nonneg), above.trans (le_abs_self _)⟩
  · rw [abs_of_neg below] at large
    have above := roundAway_mono large
    rw [roundAway_intCast, roundAway_neg] at above
    exact ⟨iff_of_true (by omega) below, above.trans (neg_le_abs _)⟩

theorem holds_roundScaled (negative : Bool) {mantissa : Nat} {exponent : Int}
    (fits : Layout.double.Fits mantissa exponent) :
    (ofFraction negative (roundScaled mantissa exponent) 1).Holds
      (signed negative (roundScaled mantissa exponent)) := by
  cases exponent with
  | ofNat shift =>
    refine holds_integer negative fits ?_
    rw [Int.ofNat_eq_natCast, zpow_natCast]
    exact_mod_cast rfl
  | negSucc shift =>
    have narrow : mantissa < 2 ^ 53 := fits.narrow
    have fewer : roundScaled mantissa (.negSucc shift) < 2 ^ 53 := by
      have two : 2 ≤ 2 ^ (shift + 1) := Nat.le_self_pow (Nat.succ_ne_zero shift) 2
      refine Nat.div_lt_of_lt_mul ?_
      rw [Nat.pow_eq, Nat.pow_eq, pow_succ 2 (shift + 1)]
      omega
    exact holds_integer negative ⟨fewer, (by decide : _ ≤ (0 : Int))⟩ (by simp)

theorem Holds.round (holds : x.Holds q) : x.round.Holds (roundAway q) := by
  rcases holds.value_cases with ⟨negative, m, d, value, fits, rfl⟩ | ⟨value, large⟩
  · have rounded : x.round = ofFraction negative (roundScaled m d) 1 := by
      rw [Double.round, value]
    rw [rounded, roundAway_signed]
    exact holds_roundScaled negative fits
  · obtain ⟨bound, whole, pos⟩ : ∃ bound : ℤ, (2 : ℚ) ^ Layout.double.limit = bound ∧ 0 < bound :=
      ⟨2 ^ Layout.double.limit.toNat, by rw [Int.cast_pow, ← zpow_natCast]; rfl, by positivity⟩
    rw [whole] at large
    obtain ⟨sign, away⟩ := roundAway_large pos large
    have stays : x.round = x := by
      rw [Double.round, value]
    have same : decide ((roundAway q : ℚ) < 0) = decide (q < 0) :=
      decide_eq_decide.mpr (by exact_mod_cast sign)
    rw [stays]
    refine .overflow ?_ ?_
    · rw [value, same]
    · rw [whole]
      exact_mod_cast away

/-- Values are compared as the rationals they are. -/
theorem less_finite (negative : Bool) (mantissa : Nat) (exponent : Int) (negative' : Bool)
    (mantissa' : Nat) (exponent' : Int) :
    (Value.finite negative mantissa exponent).less (.finite negative' mantissa' exponent') = true ↔
      (signed negative mantissa * 2 ^ exponent : ℚ) < signed negative' mantissa' * 2 ^ exponent' := by
  have quotient : ∀ negative mantissa exponent, (signed negative mantissa * 2 ^ exponent : ℚ) =
      signed negative (fraction mantissa exponent).1 / (fraction mantissa exponent).2 := by
    intro negative mantissa exponent
    rw [signed_cast, signed_cast, ite_mul, ite_div, neg_mul, neg_div, fraction_eq]
  have product : ∀ negative (m n : Nat), signed negative (m * n) = signed negative m * n := by
    intro negative m n
    cases negative <;> simp [signed]
  have pos := fraction_pos mantissa exponent
  have pos' := fraction_pos mantissa' exponent'
  rw [quotient, quotient, div_lt_div_iff₀ (by exact_mod_cast pos) (by exact_mod_cast pos'),
    Value.less, decide_eq_true_eq, product, product]
  exact_mod_cast Iff.rfl

theorem Holds.less_iff (holds : x.Holds q) {n : Int} (narrow : n.natAbs < 2 ^ 53) :
    (x.value.less (ofInt n).value = true ↔ q < n) ∧
      ((ofInt n).value.less x.value = true ↔ n < q) := by
  obtain ⟨negative', m', e', value', integer⟩ := Value.toRat?_eq_some (toRat?_ofInt narrow)
  rcases holds.value_cases with ⟨negative, m, e, value, fits, rfl⟩ | ⟨value, large⟩
  · rw [value, value', integer]
    exact ⟨less_finite .., less_finite ..⟩
  rw [value, value', Value.less, Value.less, decide_eq_true_eq, Bool.not_eq_true',
    decide_eq_false_iff_not, not_lt]
  obtain ⟨low, high⟩ := abs_lt.mp ((abs_lt_limit narrow).trans_le large)
  rcases le_or_gt 0 q with nonneg | below
  · rw [abs_of_nonneg nonneg] at high
    exact ⟨iff_of_false (not_lt.mpr nonneg) high.not_gt, iff_of_true nonneg high⟩
  · rw [abs_of_neg below, neg_neg] at low
    exact ⟨iff_of_true below low, iff_of_false (not_le.mpr below) low.not_gt⟩

theorem Holds.clamp (holds : x.Holds q) {low high : Int} (narrow : low.natAbs < 2 ^ 53)
    (narrow' : high.natAbs < 2 ^ 53) :
    (x.clamp (ofInt low) (ofInt high)).Holds (min high (max low q)) := by
  have raised : (if x.value.less (ofInt low).value then ofInt low else x).Holds (max low q) := by
    have less := (holds.less_iff narrow).1
    split
    · next below =>
      rw [max_eq_left (less.mp below).le]
      exact .exact (toRat?_ofInt narrow)
    · next above =>
      rw [less, not_lt] at above
      rwa [max_eq_right above]
  have less := (raised.less_iff narrow').2
  unfold Double.clamp
  dsimp only
  generalize (if x.value.less (ofInt low).value then ofInt low else x) = y at raised less ⊢
  split
  · next below =>
    rw [min_eq_left (less.mp below).le]
    exact .exact (toRat?_ofInt narrow')
  · next above =>
    rw [less, not_lt] at above
    rwa [min_eq_right above]

theorem toIntWithin_eq {n : Int} (exact : x.value.toRat? = some (n : ℚ)) (low high : Int) :
    x.toIntWithin low high = max low (min high n) := by
  obtain ⟨negative, m, e, value, same⟩ := Value.toRat?_eq_some exact
  obtain ⟨magnitude, sign⟩ := natAbs_of_signed same
  have whole : truncScaled m e = n.natAbs := by
    cases e with
    | ofNat shift =>
      rw [Int.ofNat_eq_natCast, zpow_natCast] at magnitude
      exact_mod_cast magnitude.symm
    | negSucc shift =>
      rw [zpow_negSucc, ← div_eq_mul_inv, eq_div_iff (by positivity)] at magnitude
      have product : n.natAbs * 2 ^ (shift + 1) = m := by exact_mod_cast magnitude
      rw [truncScaled, ← product]
      exact Nat.mul_div_cancel _ (Nat.two_pow_pos _)
  rw [toIntWithin, value]
  dsimp only
  rw [whole, sign]

/-- What is not a number goes through all operations as such, and to zero. -/
theorem mul_nan {negative : Bool} {payload : Nat} (nan : x.value = .nan negative payload)
    (y : Double) : ∃ p, (x.mul y).value = .nan negative p := by
  have narrow : payload < 2 ^ 52 := Layout.payload_of_decode le_rfl nan
  have product : x.mul y = ofValue (Value.nan negative payload).quiet := by
    rw [mul, notANumber?, nan]
  rw [product]
  exact value_ofValue_nan negative narrow

theorem round_nan {negative : Bool} {payload : Nat} (nan : x.value = .nan negative payload) :
    x.round = x := by
  rw [Double.round, nan]

theorem clamp_nan {negative : Bool} {payload : Nat} (nan : x.value = .nan negative payload)
    (low high : Double) : x.clamp low high = x := by
  have above : x.value.less low.value = false := by rw [nan, Value.less]
  have below : high.value.less x.value = false := by
    rw [nan]
    cases high.value <;> rfl
  rw [Double.clamp, above]
  exact if_neg (by simp [below])

end Double

end PlanarSink.Binary
