/-! What a floating point word denotes, its exact scaling by a power of two,
and rounding of the scaled value to an integer. -/
namespace PlanarSink.Binary

/-- A floating point datum: not a number, an infinity, or exactly
`± mantissa * 2 ^ exponent`. The payload of a datum that is not a number is
its fraction field widened to 52 bits. -/
inductive Value where
  | nan (negative : Bool) (payload : Nat)
  | infinite (negative : Bool)
  | finite (negative : Bool) (mantissa : Nat) (exponent : Int)
deriving DecidableEq, Repr

/-- The sign applied to a magnitude. -/
def signed (negative : Bool) (magnitude : Nat) : Int :=
  if negative then -(magnitude : Int) else magnitude

def roundHalfUp (magnitude shift : Nat) : Nat :=
  (2 * magnitude + Nat.pow 2 shift) / Nat.pow 2 (shift + 1)

/-- The nearest integer to `numerator / denominator`, a half going to the even
neighbour. -/
def roundHalfEven (numerator denominator : Nat) : Nat :=
  let quotient := numerator / denominator
  let twice := 2 * (numerator % denominator)
  if twice < denominator then quotient
  else if denominator < twice then quotient + 1
  else quotient + quotient % 2

/-- The nearest integer to `mantissa * 2 ^ exponent`, a half going up. -/
def roundScaled (mantissa : Nat) (exponent : Int) : Nat :=
  match exponent with
  | .ofNat shift => mantissa * Nat.pow 2 shift
  | .negSucc shift => roundHalfUp mantissa (shift + 1)

def truncScaled (mantissa : Nat) (exponent : Int) : Nat :=
  match exponent with
  | .ofNat shift => mantissa * Nat.pow 2 shift
  | .negSucc shift => mantissa / Nat.pow 2 (shift + 1)

def fraction (mantissa : Nat) (exponent : Int) : Nat × Nat :=
  match exponent with
  | .ofNat shift => (mantissa * Nat.pow 2 shift, 1)
  | .negSucc shift => (mantissa, Nat.pow 2 (shift + 1))

namespace Value

/-- The quiet form of a datum that is not a number; all others stay. -/
def quiet : Value → Value
  | nan negative payload => nan negative (payload ||| 0x8000000000000)
  | value => value

/-- The nearest integer to the value times `2 ^ shift`, halves going away from
zero, kept within `low` and `high`; not a number gives zero. -/
def quantize (value : Value) (shift : Nat) (low high : Int) : Int :=
  match value with
  | nan .. => 0
  | infinite negative => if negative then low else high
  | finite negative mantissa exponent =>
    max low (min high (signed negative (roundScaled mantissa (exponent + shift))))

def exceedsOne : Value → Bool
  | nan .. => false
  | infinite _ => true
  | finite _ mantissa exponent =>
    let (numerator, denominator) := fraction mantissa exponent
    denominator < numerator

/-- Whether a value is below another; what is not a number is neither below nor above any. -/
def less : Value → Value → Bool
  | nan .., _ => false
  | _, nan .. => false
  | infinite negative, infinite other => negative && !other
  | infinite negative, finite .. => negative
  | finite .., infinite negative => !negative
  | finite negative mantissa exponent, finite negative' mantissa' exponent' =>
    let (top, bottom) := fraction mantissa exponent
    let (top', bottom') := fraction mantissa' exponent'
    signed negative (top * bottom') < signed negative' (top' * bottom)

def isNegative : Value → Bool
  | nan negative _ => negative
  | infinite negative => negative
  | finite negative _ _ => negative

end Value

end PlanarSink.Binary
