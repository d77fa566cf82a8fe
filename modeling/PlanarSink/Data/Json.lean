import PlanarSink.Data.Datum
import PlanarSink.Text.Float

/-! Data trees written as JSON, one entry to a line. -/
namespace PlanarSink.Json

private def hex4 (n : Nat) : List Char :=
  [n / 4096 % 16, n / 256 % 16, n / 16 % 16, n % 16].map Nat.digitChar

/-- A character inside a string: quotes, backslashes and controls are escaped. -/
def escape (c : Char) : List Char :=
  match c.toNat with
  | 8 => ['\\', 'b']
  | 9 => ['\\', 't']
  | 10 => ['\\', 'n']
  | 12 => ['\\', 'f']
  | 13 => ['\\', 'r']
  | 34 => ['\\', c]
  | 92 => ['\\', c]
  | n => if n < 32 then '\\' :: 'u' :: hex4 n else [c]

def string (s : String) : String :=
  "\"" ++ String.ofList (s.toList.flatMap escape) ++ "\""

/-- A new line at a depth of two spaces per level. -/
private def newline (depth : Nat) : String :=
  "\n" ++ String.ofList (List.replicate (2 * depth) ' ')

private def bracketed (left right : String) (depth : Nat) (lines : List String) : String :=
  if lines.isEmpty then left ++ right
  else left ++ newline (depth + 1) ++ (("," ++ newline (depth + 1)).intercalate lines) ++
    newline depth ++ right

mutual

/-- A datum at a depth of nesting. -/
def pretty (depth : Nat) : Datum → String
  | .null => "null"
  | .boolean value => toString value
  | .integer value => toString value
  | .float value => Text.scientific value
  | .text value => string value
  | .moment => "null"
  | .sequence items | .series items => bracketed "[" "]" depth (prettyItems (depth + 1) items)
  | .table entries => bracketed "\x7b" "\x7d" depth (prettyEntries (depth + 1) entries)

def prettyItems (depth : Nat) : List Datum → List String
  | [] => []
  | item :: rest => pretty depth item :: prettyItems depth rest

def prettyEntries (depth : Nat) : List (String × Datum) → List String
  | [] => []
  | (name, value) :: rest =>
    (string name ++ ": " ++ pretty depth value) :: prettyEntries depth rest

end

end PlanarSink.Json
