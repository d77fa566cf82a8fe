/-! Arithmetic of sizes. A size is a 64-bit word: a plain product panics where it is none, a
saturating one stops at the largest word. -/
namespace PlanarSink.Size

/-- The number of sizes. -/
def bound : Nat := 0x10000000000000000

def largest : Nat := bound - 1

/-- The most bytes that a list can take in memory. -/
def longest : Nat := 0x7fffffffffffffff

/-- The sum modulo the word. -/
def add (a b : Nat) : Nat :=
  (a + b) % bound

/-- The product, or the largest word where it does not fit. -/
def saturatingMul (a b : Nat) : Nat :=
  min (a * b) largest

theorem add_eq {a b : Nat} (fits : a + b < bound) : add a b = a + b :=
  Nat.mod_eq_of_lt fits

theorem saturatingMul_eq {a b : Nat} (fits : a * b < bound) : saturatingMul a b = a * b :=
  Nat.min_eq_left (Nat.le_sub_one_of_lt fits)

theorem le_saturatingMul {a b : Nat} (fits : a * b < bound) : a * b ≤ saturatingMul a b :=
  Nat.le_of_eq (saturatingMul_eq fits).symm

theorem saturatingMul_le (a b : Nat) : saturatingMul a b ≤ a * b :=
  Nat.min_le_left ..

/-- What is below the largest word is as much below a product that stops there. -/
theorem lt_saturatingMul_iff {n a b : Nat} (small : n < largest) :
    n < saturatingMul a b ↔ n < a * b :=
  Nat.lt_min.trans ⟨And.left, fun less => ⟨less, small⟩⟩

end PlanarSink.Size
