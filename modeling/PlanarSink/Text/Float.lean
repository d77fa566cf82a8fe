import PlanarSink.Binary.Decimal
import PlanarSink.Text.Number

/-! Doubles in text: two notations with the shortest digits that read back,
and the reading of a number given on a command line. -/
namespace PlanarSink.Text

open PlanarSink.Binary

private def zeros (n : Nat) : String := String.ofList (List.replicate n '0')

/-- Digits with a point after the first `whole` of them, which may lie outside
the digits; a whole number ends in `.0`. -/
private def withPoint (digits : List Char) (whole : Int) : String :=
  let count : Int := digits.length
  if whole ≤ 0 then "0." ++ zeros whole.natAbs ++ String.ofList digits
  else if count ≤ whole then String.ofList digits ++ zeros (whole - count).toNat ++ ".0"
  else String.ofList (digits.take whole.toNat) ++ "." ++ String.ofList (digits.drop whole.toNat)

/-- A number written with `finite` for the digits and the exponent of the last
one, and the names of what has no digits. -/
private def render (x : Double) (finite : List Char → Int → String) : String :=
  match x.value with
  | .nan .. => "NaN"
  | .infinite negative => if negative then "-inf" else "inf"
  | .finite negative mantissa exponent =>
    let body := if mantissa = 0 then "0.0" else
      let d := Decimal.shortest mantissa exponent
      finite (Nat.toDigits 10 d.digits) d.exponent
    (if negative then "-" else "") ++ body

/-- Never an exponent, however many zeros that takes. -/
def positional (x : Double) : String :=
  render x fun digits exponent => withPoint digits (digits.length + exponent)

/-- An exponent, always with its sign, from `1e+16` up and below `1e-5`. -/
def scientific (x : Double) : String :=
  render x fun digits exponent =>
    let whole := digits.length + exponent
    if -5 < whole && whole ≤ 16 then withPoint digits whole
    else
      let mantissa := match digits with
        | [] => ""
        | [digit] => String.singleton digit
        | digit :: rest => String.singleton digit ++ "." ++ String.ofList rest
      let power := whole - 1
      mantissa ++ (if power < 0 then "e" else "e+") ++ toString power

/-- The digits before and after the point, and the exponent, of an unsigned
number: at least one digit, and at least one in an exponent. -/
private def unsignedDouble? (negative : Bool) (cs : List Char) : Option Double :=
  let whole := cs.takeWhile Char.isDigit
  let rest := cs.dropWhile Char.isDigit
  let (fraction, rest) := match rest with
    | '.' :: tail => (tail.takeWhile Char.isDigit, tail.dropWhile Char.isDigit)
    | _ => ([], rest)
  if whole.isEmpty && fraction.isEmpty then none
  else
    let finish (exponent : Int) : Double :=
      .ofDecimal negative (digitsValue (whole ++ fraction)) (exponent - fraction.length)
    match rest with
    | [] => some (finish 0)
    | mark :: tail =>
      if mark == 'e' || mark == 'E' then (integer? tail).map finish else none

/-- A number as a command line takes it: an optional sign, then digits with an
optional point and exponent, or the name of an infinity or of no number. -/
def double? (s : String) : Option Double :=
  let (negative, cs) := match s.toList with
    | '-' :: cs => (true, cs)
    | '+' :: cs => (false, cs)
    | cs => (false, cs)
  let name := String.ofList cs
  if sameName name "inf" || sameName name "infinity" then some (.ofValue (.infinite negative))
  else if sameName name "nan" then some (.ofValue (.nan negative 0x8000000000000))
  else unsignedDouble? negative cs
where
  sameName (a b : String) : Bool := a.toList.map Char.toLower == b.toList

end PlanarSink.Text
