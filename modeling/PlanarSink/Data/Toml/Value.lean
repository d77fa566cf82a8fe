import PlanarSink.Data.Toml.Moment
import PlanarSink.Data.Toml.Number
import PlanarSink.Data.Toml.Tree

/-! Keys and values of TOML documents. -/
namespace PlanarSink.Toml

open Scanner

/-- Keys have fewer parts than this, and values are nested less deeply. -/
def depthLimit : Nat := 80

def isBareKey (c : Char) : Bool := c.isAlphanum || c == '-' || c == '_'

def keyPart : Scanner String := do
  blanks
  let part ← basic <|> literal <|> takeSome isBareKey
  blanks
  return String.ofList part

/-- A key: one or more parts with points between them. -/
def key : Scanner (List String) := do
  let parts ← separatedOfSome (char '.') keyPart
  guard (parts.length < depthLimit)
  return parts

/-- A key and a value with an equals sign between them. -/
def pair (value : Scanner Datum) : Scanner Pair := do
  let parts ← key
  char '='
  blanks
  let value ← value
  blanks
  match parts.reverse with
  | name :: path => return ⟨path.reverse, name, value⟩
  | [] => failure

def array (value : Scanner Datum) : Scanner Datum := do
  char '['
  let items ← separated (char ',') (gap *> value <* gap)
  unless items.isEmpty do discard (Scanner.optional (char ','))
  gap
  char ']'
  return .sequence items

def inlineTable (value : Scanner Datum) : Scanner Datum := do
  char '\x7b'
  let pairs ← separated (char ',') (pair value)
  blanks
  char '\x7d'
  match Entries.insertAll [] pairs with
  | some entries => return .table (entriesToData entries)
  | none => failure

def scalar : Scanner Datum :=
  (Datum.text <$> quoted) <|> moment <|> float <|> integer <|>
    (word "true" *> pure (.boolean true)) <|> (word "false" *> pure (.boolean false))

/-- A value in which up to `depth` arrays and tables contain one another. -/
def value : (depth : Nat) → Scanner Datum
  | 0 => scalar
  | depth + 1 => do
    match ← peek? with
    | some '[' => array (value depth)
    | some '\x7b' => inlineTable (value depth)
    | _ => scalar

end PlanarSink.Toml
