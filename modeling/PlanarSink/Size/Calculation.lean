import PlanarSink.Size

/-! Calculations with sizes, one operation at a time. Each is kept together with its operands, so
that it can be told afterwards whether its result was in range. -/
namespace PlanarSink

namespace Size

/-- An operation with its operands. -/
inductive Calculation where
  | product (a b : Nat)
  /-- A product that stops at the largest word. -/
  | stoppedProduct (a b : Nat)
  | quotient (a b : Nat)
  | remainder (a b : Nat)
  | difference (a b : Nat)
deriving DecidableEq, Repr

namespace Calculation

def value : Calculation → Nat
  | product a b => a * b
  | stoppedProduct a b => saturatingMul a b
  | quotient a b => a / b
  | remainder a b => a % b
  | difference a b => a - b

/-- The operation has a result, and the result is a word. -/
def InRange : Calculation → Prop
  | product a b => a * b < bound
  | stoppedProduct a b => min (a * b) largest < bound
  | quotient a b => b ≠ 0 ∧ a / b < bound
  | remainder a b => b ≠ 0 ∧ a % b < bound
  | difference a b => b ≤ a ∧ a - b < bound

instance : DecidablePred InRange
  | product .. | stoppedProduct .. => inferInstanceAs (Decidable (_ < _))
  | quotient .. | remainder .. | difference .. => inferInstanceAs (Decidable (_ ∧ _))

theorem inRange_stoppedProduct (a b : Nat) : (stoppedProduct a b).InRange :=
  Nat.lt_of_le_of_lt (Nat.min_le_right ..) (by decide)

variable {a b : Nat} (word : a < bound)
include word

theorem inRange_quotient (some : b ≠ 0) : (quotient a b).InRange :=
  ⟨some, Nat.lt_of_le_of_lt (Nat.div_le_self ..) word⟩

theorem inRange_remainder (some : b ≠ 0) : (remainder a b).InRange :=
  ⟨some, Nat.lt_of_le_of_lt (Nat.mod_le ..) word⟩

theorem inRange_difference (ordered : b ≤ a) : (difference a b).InRange :=
  ⟨ordered, Nat.lt_of_le_of_lt (Nat.sub_le ..) word⟩

end Calculation

end Size

/-- What some calculations come to, with the calculations in their order. There is nothing to come
to where the last of them has no result in range. -/
structure Reckoned (α : Type) where
  value? : Option α
  calculations : List Size.Calculation

namespace Reckoned

open Size (Calculation)

variable {α β : Type}

/-- What comes after something that came to nothing is not reckoned any more. -/
def andThen (first : Reckoned α) (next : α → Reckoned β) : Reckoned β :=
  match first.value? with
  | none => ⟨none, first.calculations⟩
  | some value => ⟨(next value).value?, first.calculations ++ (next value).calculations⟩

instance : Monad Reckoned where
  pure value := ⟨some value, []⟩
  bind := andThen

def make (c : Calculation) : Reckoned Nat :=
  ⟨if c.InRange then some c.value else none, [c]⟩

end Reckoned

end PlanarSink
