import PlanarSink.Data.Datum
import PlanarSink.Data.Toml.Quoted
import PlanarSink.Text.Float

/-! Numbers in TOML. Underscores may stand between digits. Integers are 64-bit
words, in one of four bases; a floating point number has a fraction or an
exponent, and a decimal number no leading zeros. -/
namespace PlanarSink.Toml

open Scanner

/-- One or more digits, single underscores between them being left out. -/
def digits (accepted : Char → Bool) : Scanner (List Char) := do
  let groups ← separatedOfSome (char '_') (takeSome accepted)
  return groups.flatten

def sign : Scanner (List Char) := do
  match ← Scanner.optional (satisfy fun c => c == '+' || c == '-') with
  | some c => return [c]
  | none => return []

/-- The digits of a decimal number, without a zero before others. -/
def decimalDigits : Scanner (List Char) := do
  let all ← digits Char.isDigit
  guard (all.length = 1 ∨ all.head? ≠ some '0')
  return all

def decimal : Scanner (List Char) := do
  return (← sign) ++ (← decimalDigits)

def inRange (n : Int) : Scanner Datum := do
  guard (-0x8000000000000000 ≤ n ∧ n < 0x8000000000000000)
  return .integer n

private def digitIn? (base : Nat) (c : Char) : Bool :=
  if base = 16 then c.isDigit || ('a' ≤ c && c ≤ 'f') || ('A' ≤ c && c ≤ 'F')
  else 48 ≤ c.toNat && c.toNat < 48 + base

/-- An unsigned integer after the mark of its base. -/
def inBase (mark : String) (base : Nat) : Scanner Datum := do
  word mark
  let digits ← digits (digitIn? base)
  let value := digits.foldl (fun value c =>
    value * base + (if c.isDigit then c.toNat - 48 else c.toLower.toNat - 87)) 0
  inRange value

def integer : Scanner Datum :=
  inBase "0x" 16 <|> inBase "0o" 8 <|> inBase "0b" 2 <|> do
    match Text.integer? (← decimal) with
    | some n => inRange n
    | none => failure

private def fractionPart : Scanner (List Char) := do
  char '.'
  return '.' :: (← digits Char.isDigit)

private def exponentPart : Scanner (List Char) := do
  let mark ← satisfy fun c => c == 'e' || c == 'E'
  return mark :: (← sign) ++ (← digits Char.isDigit)

def floatTail : Scanner (List Char) := do
  match ← Scanner.optional fractionPart with
  | some fraction => return fraction ++ ((← Scanner.optional exponentPart).getD [])
  | none => exponentPart

/-- A number that has digits. One above all doubles is refused; one below them
is the negative infinity. -/
def finiteFloat : Scanner Datum := do
  let whole ← decimal
  let tail ← floatTail
  match Text.double? (String.ofList (whole ++ tail)) with
  | some x =>
    guard (x ≠ .infinity)
    return .float x
  | none => failure

/-- An infinity or no number at all. -/
def namedFloat : Scanner Datum := do
  let negative := (← sign) == ['-']
  (do
    word "inf"
    return .float (.ofValue (.infinite negative))) <|> do
    word "nan"
    return .float (.ofValue (.nan negative 0x8000000000000))

def float : Scanner Datum := finiteFloat <|> namedFloat

end PlanarSink.Toml
