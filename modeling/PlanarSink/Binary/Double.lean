import PlanarSink.Binary.Layout

/-! Double precision numbers as words, with the operations that samples, a tone and its
timing need. Every operation is the exact result rounded once. -/
namespace PlanarSink.Binary

/-- A double precision number, by its word. -/
structure Double where
  bits : UInt64
deriving DecidableEq, Repr

namespace Double

def value (x : Double) : Value :=
  Layout.double.decode x.bits.toNat

def ofValue (value : Value) : Double :=
  ⟨UInt64.ofNat (Layout.double.encode value)⟩

/-- The number nearest to `± numerator / denominator`. -/
def ofFraction (negative : Bool) (numerator denominator : Nat) : Double :=
  ⟨UInt64.ofNat ((if negative then Layout.double.signBit else 0) +
    Layout.double.roundFraction numerator denominator)⟩

def ofNat (n : Nat) : Double := ofFraction false n 1

def ofInt (n : Int) : Double := ofFraction (decide (n < 0)) n.natAbs 1

def infinity : Double := ofValue (.infinite false)

def invalid : Double := ofValue (.nan true 0x8000000000000)

/-- The first operand that is not a number, in its quiet form. -/
def notANumber? (x y : Double) : Option Double :=
  match x.value, y.value with
  | .nan negative payload, _ => some (ofValue (Value.nan negative payload).quiet)
  | _, .nan negative payload => some (ofValue (Value.nan negative payload).quiet)
  | _, _ => none

def mul (x y : Double) : Double :=
  match notANumber? x y with
  | some z => z
  | none =>
    let negative := x.value.isNegative != y.value.isNegative
    match x.value, y.value with
    | .finite _ m d, .finite _ n e =>
      let (numerator, denominator) := fraction (m * n) (d + e)
      ofFraction negative numerator denominator
    | .finite _ 0 _, _ => invalid
    | _, .finite _ 0 _ => invalid
    | _, _ => ofValue (.infinite negative)

def div (x y : Double) : Double :=
  match notANumber? x y with
  | some z => z
  | none =>
    let negative := x.value.isNegative != y.value.isNegative
    match x.value, y.value with
    | .finite _ 0 _, .finite _ 0 _ => invalid
    | .finite .., .finite _ 0 _ => ofValue (.infinite negative)
    | .finite _ m d, .finite _ n e =>
      let (top, bottom) := fraction m d
      let (top', bottom') := fraction n e
      ofFraction negative (top * bottom') (bottom * top')
    | .finite .., _ => ofFraction negative 0 1
    | _, .finite .. => ofValue (.infinite negative)
    | _, _ => invalid

/-- The number kept within minus one and one. -/
def clampToUnit (x : Double) : Double :=
  if x.value.exceedsOne then ofInt (if x.value.isNegative then -1 else 1) else x

/-- The number, or zero where it is below zero or not a number. -/
def orZero (x : Double) : Double :=
  match x.value with
  | .nan .. => ofNat 0
  | value => if value.isNegative then ofNat 0 else x

/-- The integer part, kept within zero and `limit`; not a number gives zero. -/
def toNatWithin (x : Double) (limit : Nat) : Nat :=
  match x.value with
  | .nan .. => 0
  | .infinite negative => if negative then 0 else limit
  | .finite negative mantissa exponent =>
    if negative then 0 else min limit (truncScaled mantissa exponent)

theorem toNatWithin_le (x : Double) (limit : Nat) : x.toNatWithin limit ≤ limit := by
  unfold toNatWithin
  split
  · exact Nat.zero_le _
  · split <;> omega
  · split <;> omega

def round (x : Double) : Double :=
  match x.value with
  | .finite negative mantissa exponent => ofFraction negative (roundScaled mantissa exponent) 1
  | _ => x

/-- The number kept within `low` and `high`; what is not a number stays. -/
def clamp (x low high : Double) : Double :=
  let raised := if x.value.less low.value then low else x
  if high.value.less raised.value then high else raised

/-- The integer part, kept within `low` and `high`; not a number gives zero. -/
def toIntWithin (x : Double) (low high : Int) : Int :=
  match x.value with
  | .nan .. => 0
  | .infinite negative => if negative then low else high
  | .finite negative mantissa exponent =>
    max low (min high (signed negative (truncScaled mantissa exponent)))

def isNat (x : Double) (n : Nat) : Bool :=
  match x.value with
  | .finite negative mantissa exponent =>
    let (numerator, denominator) := fraction mantissa exponent
    (n == 0 || !negative) && numerator == n * denominator
  | _ => false

end Double

end PlanarSink.Binary
