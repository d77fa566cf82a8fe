import PlanarSink.Data.Datum
import PlanarSink.Data.Toml.Line
import PlanarSink.Text.Number

/-! Dates and times in TOML. They are checked against the calendar and the
clock, and nothing else of them is kept. -/
namespace PlanarSink.Toml

open Scanner

/-- A number of exactly `width` digits between `low` and `high`. -/
def field (width low high : Nat) : Scanner Nat := do
  let digits ← (List.range width).mapM fun _ => satisfy Char.isDigit
  let value := Text.digitsValue digits
  guard (low ≤ value ∧ value ≤ high)
  return value

def isLeapYear (year : Nat) : Bool :=
  year % 4 == 0 && (year % 100 != 0 || year % 400 == 0)

def daysIn (year month : Nat) : Nat :=
  if month = 2 then (if isLeapYear year then 29 else 28)
  else if month ∈ [4, 6, 9, 11] then 30
  else 31

def date : Scanner Unit := do
  let year ← field 4 0 9999
  char '-'
  let month ← field 2 1 12
  char '-'
  discard (field 2 1 (daysIn year month))

/-- A time of day; a minute may have a leap second. -/
def time : Scanner Unit := do
  discard (field 2 0 23)
  char ':'
  discard (field 2 0 59)
  char ':'
  discard (field 2 0 60)
  discard (Scanner.optional (char '.' *> takeSome Char.isDigit))

def zone : Scanner Unit := do
  match ← satisfy fun c => c == 'Z' || c == 'z' || c == '+' || c == '-' with
  | '+' | '-' =>
    discard (field 2 0 23)
    char ':'
    discard (field 2 0 59)
  | _ => return ()

def moment : Scanner Datum := do
  (do
    date
    discard (Scanner.optional do
      discard (satisfy fun c => c == 'T' || c == 't' || c == ' ')
      time
      discard (Scanner.optional zone))) <|> time
  return .moment

end PlanarSink.Toml
