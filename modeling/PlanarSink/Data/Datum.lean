import PlanarSink.Binary.Double

/-! Data trees: what a configuration file or a structured message holds before
it is given a meaning. -/
namespace PlanarSink

/-- A datum. Tables keep the order of their entries. -/
inductive Datum where
  | null
  | boolean (value : Bool)
  | integer (value : Int)
  | float (value : Binary.Double)
  | text (value : String)
  /-- A date or a time, of which nothing but its presence is kept. -/
  | moment
  | sequence (items : List Datum)
  /-- The tables under the headers of one name, oldest first. -/
  | series (tables : List Datum)
  | table (entries : List (String × Datum))

namespace Datum

def ofOption (toDatum : α → Datum) : Option α → Datum
  | some value => toDatum value
  | none => null

def ofList (toDatum : α → Datum) (values : List α) : Datum :=
  sequence (values.map toDatum)

end Datum

end PlanarSink
