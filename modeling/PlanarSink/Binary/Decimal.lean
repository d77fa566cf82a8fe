import PlanarSink.Binary.Double

/-! Doubles in decimal notation: reading `digits * 10 ^ exponent` by rounding
once, and the shortest digits that read back. -/
namespace PlanarSink.Binary

/-- The double nearest to `± digits * 10 ^ exponent`. Exponents far outside the
range of doubles are answered without building the power. -/
def Double.ofDecimal (negative : Bool) (digits : Nat) (exponent : Int) : Double :=
  if digits = 0 then .ofFraction negative 0 1
  else if 400 < (digits.log2 : Int) * 3 / 10 + exponent then .ofValue (.infinite negative)
  else if (digits.log2 : Int) * 31 / 100 + exponent < -400 then .ofFraction negative 0 1
  else match exponent with
    | .ofNat up => .ofFraction negative (digits * Nat.pow 10 up) 1
    | .negSucc down => .ofFraction negative digits (Nat.pow 10 (down + 1))

/-- A positive decimal `digits * 10 ^ exponent`. -/
structure Decimal where
  digits : Nat
  exponent : Int
deriving DecidableEq, Repr

namespace Decimal

/-- A fraction with a positive denominator, to compare by cross multiplication. -/
structure Quotient where
  top : Nat
  bottom : Nat

def Quotient.less (a b : Quotient) : Bool := a.top * b.bottom < b.top * a.bottom

def toQuotient (d : Decimal) : Quotient :=
  match d.exponent with
  | .ofNat up => ⟨d.digits * Nat.pow 10 up, 1⟩
  | .negSucc down => ⟨d.digits, Nat.pow 10 (down + 1)⟩

/-- The values that round to one double: the halves of the gaps around it, the
ends belonging to it when its mantissa is even. -/
structure Interval where
  low : Quotient
  high : Quotient
  closed : Bool

def Interval.contains (i : Interval) (q : Quotient) : Bool :=
  if i.closed then !(q.less i.low) && !(i.high.less q)
  else i.low.less q && q.less i.high

private def quotientOf (mantissa : Nat) (exponent : Int) : Quotient :=
  let (top, bottom) := fraction mantissa exponent
  ⟨top, bottom⟩

/-- The interval of `mantissa * 2 ^ exponent`. Just above a power of two the gap
below is half as wide, except among the smallest values. -/
def interval (mantissa : Nat) (exponent : Int) : Interval :=
  let narrow := mantissa == 0x10000000000000 && exponent != Layout.double.leastExponent
  { low := if narrow then quotientOf (4 * mantissa - 1) (exponent - 2)
      else quotientOf (2 * mantissa - 1) (exponent - 1)
    high := quotientOf (2 * mantissa + 1) (exponent - 1)
    closed := mantissa % 2 == 0 }

def neighbours (q : Quotient) (exponent : Int) : Nat × Nat :=
  let below := match exponent with
    | .ofNat up => q.top / (q.bottom * Nat.pow 10 up)
    | .negSucc down => q.top * Nat.pow 10 (down + 1) / q.bottom
  (below, below + 1)

/-- The neighbour of `q` in the interval on one decimal grid; of two the nearer
one, and of two equally near ones the even one. -/
def onGrid? (i : Interval) (q : Quotient) (exponent : Int) : Option Decimal :=
  let (below, above) := neighbours q exponent
  let lower : Decimal := ⟨below, exponent⟩
  let upper : Decimal := ⟨above, exponent⟩
  match i.contains lower.toQuotient, i.contains upper.toQuotient with
  | false, false => none
  | true, false => some lower
  | false, true => some upper
  | true, true =>
    let middle : Quotient := ⟨lower.toQuotient.top * upper.toQuotient.bottom +
      upper.toQuotient.top * lower.toQuotient.bottom,
      2 * lower.toQuotient.bottom * upper.toQuotient.bottom⟩
    if q.less middle then some lower
    else if middle.less q then some upper
    else some (if below % 2 == 0 then lower else upper)

/-- The exponent of the leading decimal digit: the largest `k` with
`10 ^ k ≤ q`, found near the estimate that the binary logarithm gives. -/
def leadingExponent (q : Quotient) : Int :=
  let estimate : Int := floorLog2 q.top q.bottom * 30103 / 100000
  let reaches (k : Int) : Bool := !(q.less (toQuotient ⟨1, k⟩))
  if reaches (estimate + 1) then estimate + 1
  else if reaches estimate then estimate
  else estimate - 1

def normalize (d : Decimal) (fuel : Nat) : Decimal :=
  match fuel with
  | 0 => d
  | fuel + 1 => if d.digits % 10 == 0 && d.digits != 0 then
      normalize ⟨d.digits / 10, d.exponent + 1⟩ fuel else d

/-- The shortest decimal that reads back as `mantissa * 2 ^ exponent`, and of
those the nearest: the first grid of one, two, … seventeen digits with a hit. -/
def shortest (mantissa : Nat) (exponent : Int) : Decimal :=
  let q := quotientOf mantissa exponent
  let i := interval mantissa exponent
  let leading := leadingExponent q
  let hits := (List.range 18).filterMap fun (n : Nat) => onGrid? i q (leading - n)
  match hits with
  | hit :: _ => hit.normalize 20
  | [] => ⟨0, 0⟩

end Decimal

end PlanarSink.Binary
