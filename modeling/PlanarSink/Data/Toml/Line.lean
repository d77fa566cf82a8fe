import PlanarSink.Text.Scanner

/-! What separates the parts of a TOML document: blanks, comments and the ends
of lines. -/
namespace PlanarSink.Toml

open Scanner

def isBlank (c : Char) : Bool := c == ' ' || c == '\t'

/-- Whether a comment or a text may hold the character: a tab or no control. -/
def isPlain (c : Char) : Bool :=
  c == '\t' || (0x20 ≤ c.toNat && c.toNat != 0x7F)

def blanks : Scanner Unit := discard (takeWhile isBlank)

def newline : Scanner Unit := do
  discard (Scanner.optional (char '\r'))
  char '\n'

def comment : Scanner Unit := do
  char '#'
  discard (takeWhile isPlain)

def lineEnd : Scanner Unit :=
  newline <|> do guard (← get).isEmpty

/-- What may follow a statement on its line. -/
def lineRest : Scanner Unit := do
  blanks
  discard (Scanner.optional comment)
  lineEnd

/-- Blanks, new lines, and comments that end with their line. -/
def gap : Scanner Unit := do
  discard (many (discard (takeSome isBlank) <|> newline <|> (comment *> newline)))

end PlanarSink.Toml
