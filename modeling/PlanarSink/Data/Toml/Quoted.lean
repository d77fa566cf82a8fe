import PlanarSink.Data.Toml.Line

/-! The four kinds of quoted text in TOML: with escapes between double quotes,
without them between single ones, and either over several lines between triple
quotes. -/
namespace PlanarSink.Toml

open Scanner

/-- The quotes of texts with and without escapes. -/
def doubleQuote : Char := '\x22'

def singleQuote : Char := '\x27'

private def hexValue? (c : Char) : Option Nat :=
  if c.isDigit then some (c.toNat - 48)
  else if 'a' ≤ c ∧ c ≤ 'f' then some (c.toNat - 87)
  else if 'A' ≤ c ∧ c ≤ 'F' then some (c.toNat - 55)
  else none

def hexNumber (count : Nat) : Scanner Nat := do
  let mut value := 0
  for _ in List.range count do
    match hexValue? (← satisfy fun _ => true) with
    | some digit => value := value * 16 + digit
    | none => failure
  return value

/-- The character with the code spelled by `count` hexadecimal digits. -/
def coded (count : Nat) : Scanner Char := do
  let code ← hexNumber count
  if code.isValidChar then return Char.ofNat code else failure

/-- What stands after a backslash. -/
def escape : Scanner Char := do
  char '\\'
  match ← satisfy fun _ => true with
  | 'b' => return '\x08'
  | 'f' => return '\x0c'
  | 'n' => return '\n'
  | 'r' => return '\r'
  | 't' => return '\t'
  | 'u' => coded 4
  | 'U' => coded 8
  | c => if c == '\\' || c == doubleQuote then return c else failure

/-- A character that stands for itself between quotes. -/
def unescaped : Scanner Char :=
  satisfy fun c => isPlain c && c != doubleQuote && c != '\\'

def literalCharacter : Scanner Char :=
  satisfy fun c => isPlain c && c != singleQuote

def oneLine (quote : Char) (character : Scanner Char) : Scanner (List Char) := do
  char quote
  let text ← many character
  char quote
  return text

def basic : Scanner (List Char) := oneLine doubleQuote (unescaped <|> escape)

def literal : Scanner (List Char) := oneLine singleQuote literalCharacter

/-- One or two quotes among other characters. -/
def innerQuotes (quote : Char) : Scanner (List Char) := do
  let quotes ← takeWhile (· == quote)
  guard (quotes.length = 1 ∨ quotes.length = 2)
  return quotes

/-- The three quotes that end a text, and up to two more that belong to it. -/
def closingQuotes (quote : Char) : Scanner (List Char) := do
  let quotes ← takeWhile (· == quote)
  guard (3 ≤ quotes.length ∧ quotes.length ≤ 5)
  return quotes.drop 3

/-- A backslash at the end of a line, which joins it to the next text. -/
def joint : Scanner Unit := do
  char '\\'
  blanks
  newline
  discard (many (discard (takeSome isBlank) <|> newline))

/-- A text over several lines. A line end directly after the opening quotes is
dropped, and all others are line feeds. -/
def manyLines (quote : Char) (piece : Scanner (List Char)) : Scanner (List Char) := do
  char quote
  char quote
  char quote
  discard (Scanner.optional newline)
  let pieces ← many (piece <|> (newline *> pure ['\n']) <|> innerQuotes quote)
  let last ← closingQuotes quote
  return pieces.flatten ++ last

def multilineBasic : Scanner (List Char) :=
  manyLines doubleQuote
    ((([·]) <$> unescaped) <|> (joint *> pure []) <|> (([·]) <$> escape))

def multilineLiteral : Scanner (List Char) :=
  manyLines singleQuote ((([·]) <$> literalCharacter))

def quoted : Scanner String := do
  return String.ofList (← multilineBasic <|> basic <|> multilineLiteral <|> literal)

end PlanarSink.Toml
