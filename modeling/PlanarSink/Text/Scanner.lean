/-! Reading text from the front. A scanner takes what it accepts off the text
that is left, or refuses and leaves the choice to its caller. -/
namespace PlanarSink

abbrev Scanner := StateT (List Char) Option

namespace Scanner

def peek? : Scanner (Option Char) := do
  return (← get).head?

def satisfy (accepted : Char → Bool) : Scanner Char := fun text =>
  match text with
  | c :: rest => if accepted c then some (c, rest) else none
  | [] => none

def char (c : Char) : Scanner Unit :=
  discard (satisfy (· == c))

def word (w : String) : Scanner Unit :=
  w.toList.forM char

def takeWhile (accepted : Char → Bool) : Scanner (List Char) := fun text =>
  some (text.takeWhile accepted, text.dropWhile accepted)

def takeSome (accepted : Char → Bool) : Scanner (List Char) := do
  let taken ← takeWhile accepted
  guard !taken.isEmpty
  return taken

def optional (item : Scanner α) : Scanner (Option α) :=
  (some <$> item) <|> pure none

def atMost (limit : Nat) (item : Scanner α) : Scanner (List α) :=
  match limit with
  | 0 => pure []
  | limit + 1 => (do
    let first ← item
    return first :: (← atMost limit item)) <|> pure []

/-- As many `item`s as there are, each of which takes a character at least. -/
def many (item : Scanner α) : Scanner (List α) := do
  atMost (← get).length item

def separatedOfSome (separator : Scanner Unit) (item : Scanner α) : Scanner (List α) := do
  let first ← item
  return first :: (← many (separator *> item))

def separated (separator : Scanner Unit) (item : Scanner α) : Scanner (List α) :=
  separatedOfSome separator item <|> pure []

def whole (scanner : Scanner α) (text : List Char) : Option α :=
  match scanner.run text with
  | some (value, []) => some value
  | _ => none

end Scanner

end PlanarSink
