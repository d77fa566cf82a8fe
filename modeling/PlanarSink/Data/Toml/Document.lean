import PlanarSink.Data.Toml.Value

/-! Whole TOML documents: the lines of the text, gathered into sections under
their headers and these into one table. -/
namespace PlanarSink.Toml

open Scanner

/-- A table's header; a repeated one starts the next table of a series. -/
structure Header where
  repeated : Bool
  path : List String

inductive Line where
  | empty
  | header (header : Header)
  | pair (pair : Pair)

def header : Scanner Header :=
  (do
    word "[["
    let path ← key
    word "]]"
    return ⟨true, path⟩) <|> do
    char '['
    let path ← key
    char ']'
    return ⟨false, path⟩

def line : Scanner Line := do
  match ← peek? with
  | some '#' =>
    comment
    lineEnd
    return .empty
  | some '\n' | some '\r' =>
    newline
    return .empty
  | some '[' =>
    let found ← header
    lineRest
    return .header found
  | some _ =>
    let found ← pair (value (depthLimit - 1))
    lineRest
    return .pair found
  | none => failure

def lines : Scanner (List Line) := do
  discard (Scanner.optional (char '\uFEFF'))
  blanks
  many (line <* blanks)

structure Section where
  header : Header
  pairs : List Pair

def gather : List Line → List Pair × List Section
  | [] => ([], [])
  | .empty :: rest => gather rest
  | .pair pair :: rest =>
    let (pairs, sections) := gather rest
    (pair :: pairs, sections)
  | .header header :: rest =>
    let (pairs, sections) := gather rest
    ([], ⟨header, pairs⟩ :: sections)

def addSection (entries : Entries) (s : Section) : Option Entries :=
  match s.header.path.reverse with
  | [] => none
  | name :: path =>
    if s.header.repeated then entries.addElement path.reverse name s.pairs
    else entries.addTable path.reverse name s.pairs

def assemble (lines : List Line) : Option Entries := do
  let (pairs, sections) := gather lines
  sections.foldlM addSection (← Entries.insertAll [] pairs)

/-- The table a text describes; none where it is not a TOML document. -/
def document? (text : String) : Option Datum := do
  let lines ← lines.whole text.toList
  return .table (entriesToData (← assemble lines))

end PlanarSink.Toml
