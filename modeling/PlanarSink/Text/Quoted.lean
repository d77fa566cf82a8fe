import PlanarSink.Text.Number
import PlanarSink.Text.Shown

/-! Text between double quotes, with escapes for what cannot be shown. -/
namespace PlanarSink.Text

private def escapeShown (c : Char) : List Char :=
  if isShown c then [c]
  else ['\\', 'u', '\x7b'] ++ (Nat.toDigits 16 c.toNat) ++ ['\x7d']

def escape (c : Char) : List Char :=
  match c.toNat with
  | 0 => ['\\', '0']
  | 9 => ['\\', 't']
  | 10 => ['\\', 'n']
  | 13 => ['\\', 'r']
  | 34 => ['\\', c]
  | 92 => ['\\', c]
  | _ => escapeShown c

def quoted (s : String) : String :=
  "\"" ++ String.ofList (s.toList.flatMap escape) ++ "\""

end PlanarSink.Text
