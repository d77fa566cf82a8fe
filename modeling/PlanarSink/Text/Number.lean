import PlanarSink.Size

/-! Whole numbers in decimal: a run of ASCII digits, perhaps after a sign, and
the bounds of the machine words they are read into. -/
namespace PlanarSink.Text

/-- The value of a run of ASCII digits, most significant first. -/
def digitsValue (digits : List Char) : Nat :=
  digits.foldl (fun value digit => value * 10 + (digit.toNat - 48)) 0

def isDigits (cs : List Char) : Bool :=
  !cs.isEmpty && cs.all Char.isDigit

/-- One or more digits; leading zeros are allowed. -/
def unsigned? (cs : List Char) : Option Nat :=
  if isDigits cs then some (digitsValue cs) else none

/-- One or more digits after an optional `+`. -/
def natural? : List Char → Option Nat
  | '+' :: digits => unsigned? digits
  | digits => unsigned? digits

/-- One or more digits after an optional `+` or `-`. -/
def integer? : List Char → Option Int
  | '-' :: digits => (unsigned? digits).map fun n => -(n : Int)
  | digits => (natural? digits).map Int.ofNat

def size? (s : String) : Option Nat :=
  (natural? s.toList).filter (· < Size.bound)

def int32? (s : String) : Option Int32 :=
  ((integer? s.toList).filter fun n => -0x80000000 ≤ n && n < 0x80000000).map Int32.ofInt

/-- Upper case hexadecimal without leading zeros. -/
def hex (n : Nat) : String :=
  String.ofList ((Nat.toDigits 16 n).map Char.toUpper)

end PlanarSink.Text
