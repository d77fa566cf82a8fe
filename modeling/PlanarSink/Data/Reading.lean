import PlanarSink.Data.Datum
import PlanarSink.Text.Float
import PlanarSink.Text.Quoted

/-! Giving data trees a meaning. A reader either accepts a datum or says what it
found and what it expected; the two dialects differ in how they put that and
in a few forms they accept. -/
namespace PlanarSink

inductive Dialect where
  | json
  | toml
deriving DecidableEq, Repr

namespace Datum

def describe (origin : Dialect) : Datum → String
  | null => "null"
  | boolean value => "boolean `" ++ toString value ++ "`"
  | integer value => "integer `" ++ toString value ++ "`"
  | float value =>
    let text := match origin with
      | .json => Text.scientific value
      | .toml => Text.positional value
    "floating point `" ++ text ++ "`"
  | text value => "string " ++ Text.quoted value
  | moment => "map"
  | sequence _ | series _ => "sequence"
  | table _ => "map"

end Datum

/-- Reads a datum of a dialect, or says why it does not fit. -/
def Reader (α : Type) := Dialect → Datum → Except String α

namespace Reader

def wrongType (expected : String) (origin : Dialect) (datum : Datum) : Except String α :=
  .error ("invalid type: " ++ datum.describe origin ++ ", expected " ++ expected)

def wrongValue (expected : String) (origin : Dialect) (datum : Datum) : Except String α :=
  .error ("invalid value: " ++ datum.describe origin ++ ", expected " ++ expected)

/-- An integer from zero up to but not including `bound`. -/
def natural (expected : String) (bound : Nat) : Reader Nat := fun origin datum =>
  match datum with
  | .integer value =>
    if 0 ≤ value ∧ value < bound then .ok value.toNat else wrongValue expected origin datum
  | _ => wrongType expected origin datum

def size : Reader Nat := natural "usize" Size.bound

def word32 : Reader UInt32 := fun origin datum =>
  (natural "u32" 0x100000000 origin datum).map UInt32.ofNat

/-- A floating point number; an integer stands for the number nearest to it. -/
def double : Reader Binary.Double := fun origin datum =>
  match datum with
  | .integer value => .ok (.ofInt value)
  | .float value => .ok value
  | _ => wrongType "f64" origin datum

def string : Reader String := fun origin datum =>
  match datum with
  | .text value => .ok value
  | _ => wrongType "a string" origin datum

def boolean : Reader Bool := fun origin datum =>
  match datum with
  | .boolean value => .ok value
  | _ => wrongType "a boolean" origin datum

def list (reader : Reader α) : Reader (List α) := fun origin datum =>
  match datum with
  | .sequence items | .series items => items.mapM (reader origin)
  | _ => wrongType "a sequence" origin datum

/-- Nothing in place of a null. -/
def option (reader : Reader α) : Reader (Option α) := fun origin datum =>
  match datum with
  | .null => .ok none
  | _ => (reader origin datum).map some

/-- What a name stands for among some choices. -/
def choose (choices : List (String × α)) (name : String) : Except String α :=
  match choices.lookup name with
  | some value => .ok value
  | none =>
    .error ("unknown variant `" ++ name ++ "`, expected one of " ++
      ", ".intercalate (choices.map fun choice => "`" ++ choice.1 ++ "`"))

/-- What a name standing as a key must be given. -/
private def emptyContent (origin : Dialect) (datum : Datum) : Except String Unit :=
  match origin, datum with
  | .json, .null => .ok ()
  | .json, _ => wrongType "unit" origin datum
  | .toml, .sequence [] | .toml, .series [] | .toml, .table [] => .ok ()
  | .toml, .series _ => .error "expected empty array"
  | .toml, .sequence _ => .error "expected empty table"
  | .toml, .table _ => .error "expected empty table"
  | .toml, .text _ => .error "expected table, found string"
  | .toml, .integer _ => .error "expected table, found integer"
  | .toml, .float _ => .error "expected table, found float"
  | .toml, .boolean _ => .error "expected table, found boolean"
  | .toml, _ => .error "expected table, found datetime"

/-- One of some names, as a text or as the only key of a table. -/
def oneOf (choices : List (String × α)) : Reader α := fun origin datum =>
  match origin, datum with
  | _, .text name => choose choices name
  | _, .table [(name, content)] => do
    let value ← choose choices name
    emptyContent origin content
    return value
  | .json, .table _ => wrongValue "map with a single key" origin datum
  | .json, _ => wrongType "string or map" origin datum
  | .toml, .table [] => .error "wanted exactly 1 element, found 0 elements"
  | .toml, .table _ => .error "wanted exactly 1 element, more than 1 element"
  | .toml, _ => .error "wanted string or table"

structure Field (σ : Type) where
  name : String
  update : Dialect → Datum → σ → Except String σ

/-- A field read by `reader` and stored by `store`. -/
def field (name : String) (reader : Reader α) (store : α → σ → σ) : Field σ :=
  ⟨name, fun origin datum record => (reader origin datum).map fun value => store value record⟩

/-- Takes the value of an entry into the record, where a field has its name. -/
def updateEntry (fields : List (Field σ)) (origin : Dialect) (record : σ)
    (entry : String × Datum) : Except String σ :=
  match fields.find? fun field => field.name == entry.1 with
  | some field => field.update origin entry.2 record
  | none => .ok record

/-- Takes values into the record, the first into the first field and so on. -/
def updateInOrder (origin : Dialect) (record : σ) :
    List (Field σ) → List Datum → Except String σ
  | field :: fields, datum :: rest => do
    updateInOrder origin (← field.update origin datum record) fields rest
  | _, _ => .ok record

/-- A record whose missing fields keep their values in `start`. Unknown entries
of a table are passed over; a sequence gives the fields in order. -/
def record (name : String) (start : σ) (fields : List (Field σ)) : Reader σ :=
  fun origin datum =>
    match datum with
    | .table entries => entries.foldlM (updateEntry fields origin) start
    | .moment => .ok start
    | .sequence items | .series items => do
      let read ← updateInOrder origin start fields items
      if origin = .json ∧ fields.length < items.length then
        .error ("invalid length " ++ toString items.length ++
          ", expected fewer elements in array")
      else return read
    | _ => wrongType ("struct " ++ name) origin datum

end Reader

end PlanarSink
