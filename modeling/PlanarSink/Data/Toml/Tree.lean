import PlanarSink.Data.Datum

/-! The tables of a TOML document while it is read. How a table came about
decides what may still be added to it: a table is defined once, by a header or
by dotted keys, and a header reopens only what longer headers passed through. -/
namespace PlanarSink.Toml

/-- How a table came about. -/
inductive Origin where
  /-- By its own header, or as the root. -/
  | header
  /-- As a step on the way of a longer header. -/
  | passed
  /-- As a step of a dotted key. -/
  | dotted
deriving DecidableEq, Repr

/-- What stands under a name. -/
inductive Node where
  | value (datum : Datum)
  | table (origin : Origin) (entries : List (String × Node))
  /-- The tables of repeated headers, oldest first. -/
  | series (elements : List (List (String × Node)))

abbrev Entries := List (String × Node)

/-- A key with its value, the key's parts in order. -/
structure Pair where
  path : List String
  name : String
  value : Datum

namespace Entries

def replace (entries : Entries) (name : String) (node : Node) : Entries :=
  entries.map fun entry => if entry.1 == name then (name, node) else entry

def erase (entries : Entries) (name : String) : Entries :=
  entries.filter fun entry => entry.1 != name

/-- Applies `change` to the table at the end of `path`, seen from a table of
entries. Tables missing on the way come about as `made`. A dotted key does not
pass through tables that have headers; a series is passed through at its last
table. -/
def changeAt (made : Origin) (change : Origin → Entries → Option Entries) :
    (path : List String) → Origin → Entries → Option Entries
  | [], origin, entries => change origin entries
  | name :: path, _, entries =>
    match entries.lookup name with
    | none => do
      return entries ++ [(name, .table made (← changeAt made change path made []))]
    | some (.table origin inner) =>
      if made = .dotted ∧ origin = .header then none
      else do return entries.replace name (.table origin (← changeAt made change path origin inner))
    | some (.series elements) => do
      let last ← elements.getLast?
      return entries.replace name
        (.series (elements.dropLast ++ [← changeAt made change path .header last]))
    | some (.value _) => none

/-- Adds a pair. Its name must be new, and a dotted key adds to tables of dotted
keys only. -/
def insert (entries : Entries) (pair : Pair) : Option Entries :=
  entries.changeAt .dotted (fun origin inner =>
    if pair.path ≠ [] ∧ origin ≠ .dotted then none
    else if (inner.lookup pair.name).isSome then none
    else some (inner ++ [(pair.name, .value pair.value)])) pair.path .header

def insertAll (entries : Entries) (pairs : List Pair) : Option Entries :=
  pairs.foldlM insert entries

/-- Adds a table with a header of its own, which takes over what longer headers
put there before. -/
def addTable (entries : Entries) (path : List String) (name : String) (pairs : List Pair) :
    Option Entries :=
  entries.changeAt .passed (fun _ outer =>
    match outer.lookup name with
    | none => do return outer ++ [(name, .table .header (← insertAll [] pairs))]
    | some (.table .passed inner) => do
      return outer.erase name ++ [(name, .table .header (← insertAll inner pairs))]
    | some _ => none) path .header

def addElement (entries : Entries) (path : List String) (name : String) (pairs : List Pair) :
    Option Entries :=
  entries.changeAt .passed (fun _ outer =>
    match outer.lookup name with
    | none => do return outer ++ [(name, .series [← insertAll [] pairs])]
    | some (.series elements) => do
      return outer.replace name (.series (elements ++ [← insertAll [] pairs]))
    | some _ => none) path .header

end Entries

mutual

def Node.toDatum : Node → Datum
  | .value datum => datum
  | .table _ entries => .table (entriesToData entries)
  | .series elements => .series (elementsToData elements)

def entriesToData : List (String × Node) → List (String × Datum)
  | [] => []
  | (name, node) :: rest => (name, node.toDatum) :: entriesToData rest

def elementsToData : List (List (String × Node)) → List Datum
  | [] => []
  | entries :: rest => .table (entriesToData entries) :: elementsToData rest

end

end PlanarSink.Toml
