import PlanarSink.Binary.Value

/-! The interchange layouts of floating point words: a sign bit above an
exponent field above a fraction field. A word is decoded exactly and a value
is encoded by rounding to the nearest word, ties going to the even one. -/
namespace PlanarSink.Binary

structure Layout where
  fractionBits : Nat
  exponentBits : Nat
deriving DecidableEq, Repr

/-- The largest integer `k` with `2 ^ k ≤ numerator / denominator`: the difference
of the two logarithms, or one less. -/
def floorLog2 (numerator denominator : Nat) : Int :=
  let guess : Int := (numerator.log2 : Int) - denominator.log2
  let reached : Bool := match guess with
    | .ofNat up => denominator * Nat.pow 2 up ≤ numerator
    | .negSucc down => denominator ≤ numerator * Nat.pow 2 (down + 1)
  if reached then guess else guess - 1

namespace Layout

def single : Layout := ⟨23, 8⟩

def double : Layout := ⟨52, 11⟩

def width (f : Layout) : Nat := 1 + f.exponentBits + f.fractionBits

/-- The exponent of the least significant bit of the smallest values. -/
def leastExponent (f : Layout) : Int :=
  2 - (Nat.pow 2 (f.exponentBits - 1) : Nat) - f.fractionBits

/-- The magnitude bits of an infinity; those above are not numbers. -/
def infinity (f : Layout) : Nat :=
  (Nat.pow 2 f.exponentBits - 1) * Nat.pow 2 f.fractionBits

def signBit (f : Layout) : Nat :=
  Nat.pow 2 (f.exponentBits + f.fractionBits)

/-- What a word of this layout denotes. -/
def decode (f : Layout) (word : Nat) : Value :=
  let negative := word / f.signBit % 2 == 1
  let field := word / Nat.pow 2 f.fractionBits % Nat.pow 2 f.exponentBits
  let low := word % Nat.pow 2 f.fractionBits
  if field = Nat.pow 2 f.exponentBits - 1 then
    if low = 0 then .infinite negative
    else .nan negative (low * Nat.pow 2 (52 - f.fractionBits))
  else if field = 0 then .finite negative low f.leastExponent
  else .finite negative (Nat.pow 2 f.fractionBits + low) (f.leastExponent + (field - 1 : Nat))

/-- The magnitude bits nearest to `numerator / denominator`; what is too large
becomes the infinity. -/
def roundFraction (f : Layout) (numerator denominator : Nat) : Nat :=
  if numerator = 0 then 0
  else
    let unit := max (floorLog2 numerator denominator - f.fractionBits) f.leastExponent
    let mantissa := match unit with
      | .ofNat up => roundHalfEven numerator (denominator * Nat.pow 2 up)
      | .negSucc down => roundHalfEven (numerator * Nat.pow 2 (down + 1)) denominator
    min ((unit - f.leastExponent).toNat * Nat.pow 2 f.fractionBits + mantissa) f.infinity

def encode (f : Layout) (value : Value) : Nat :=
  let magnitude := match value with
    | .nan _ payload => f.infinity + payload / Nat.pow 2 (52 - f.fractionBits)
    | .infinite _ => f.infinity
    | .finite _ mantissa exponent =>
      let (numerator, denominator) := fraction mantissa exponent
      f.roundFraction numerator denominator
  (if value.isNegative then f.signBit else 0) + magnitude

end Layout

end PlanarSink.Binary
