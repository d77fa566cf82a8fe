import PlanarSink.Binary.Layout
import PlanarSink.Bytes
import PlanarSink.Text.Blank
import PlanarSink.Text.Number

/-! The sample types a driver reports for its channels: their codes, names,
storage layouts, and the texts that stand for them. -/
namespace PlanarSink

/-- How a driver stores the samples of a channel. -/
inductive Storage where
  /-- Two's complement in `bytes` bytes, of which `bits` bits are significant.
  Samples always fill the whole container. -/
  | integer (bytes bits : Nat) (order : ByteOrder)
  | float (layout : Binary.Layout) (order : ByteOrder)
  /-- Eight one-bit samples to a byte. -/
  | packed (highFirst : Bool)
  /-- One one-bit sample to a byte, in its lowest bit. -/
  | unpacked
deriving DecidableEq, Repr

namespace Storage

/-- The bits one sample occupies. -/
def bits : Storage → Nat
  | integer bytes _ _ => bytes * 8
  | float layout _ => layout.width
  | packed _ => 1
  | unpacked => 8

def bytes (storage : Storage) : Nat :=
  (storage.bits + 7) / 8

end Storage

/-- A driver's code for the sample type of a channel. Any code can be held;
only the listed ones are known. -/
structure SampleType where
  code : Int32
deriving DecidableEq, Repr

namespace SampleType

structure Entry where
  code : Int
  name : String
  storage : Storage

def known : List Entry :=
  [⟨0, "Int16MSB", .integer 2 16 .big⟩,
   ⟨1, "Int24MSB", .integer 3 24 .big⟩,
   ⟨2, "Int32MSB", .integer 4 32 .big⟩,
   ⟨3, "Float32MSB", .float .single .big⟩,
   ⟨4, "Float64MSB", .float .double .big⟩,
   ⟨8, "Int32MSB16", .integer 4 16 .big⟩,
   ⟨9, "Int32MSB18", .integer 4 18 .big⟩,
   ⟨10, "Int32MSB20", .integer 4 20 .big⟩,
   ⟨11, "Int32MSB24", .integer 4 24 .big⟩,
   ⟨16, "Int16LSB", .integer 2 16 .little⟩,
   ⟨17, "Int24LSB", .integer 3 24 .little⟩,
   ⟨18, "Int32LSB", .integer 4 32 .little⟩,
   ⟨19, "Float32LSB", .float .single .little⟩,
   ⟨20, "Float64LSB", .float .double .little⟩,
   ⟨24, "Int32LSB16", .integer 4 16 .little⟩,
   ⟨25, "Int32LSB18", .integer 4 18 .little⟩,
   ⟨26, "Int32LSB20", .integer 4 20 .little⟩,
   ⟨27, "Int32LSB24", .integer 4 24 .little⟩,
   ⟨32, "DSDInt8LSB1", .packed false⟩,
   ⟨33, "DSDInt8MSB1", .packed true⟩,
   ⟨40, "DSDInt8NER8", .unpacked⟩]

def ofInt (code : Int) : SampleType := ⟨Int32.ofInt code⟩

def float32 : SampleType := ofInt 19

def entry? (t : SampleType) : Option Entry :=
  known.find? fun entry => entry.code == t.code.toInt

def name? (t : SampleType) : Option String :=
  t.entry?.map Entry.name

def storage? (t : SampleType) : Option Storage :=
  t.entry?.map Entry.storage

/-- The bits one sample occupies; none for an unknown code. -/
def bits (t : SampleType) : Nat :=
  (t.storage?.map Storage.bits).getD 0

def bytes (t : SampleType) : Nat :=
  (t.bits + 7) / 8

theorem bytes_of_storage {t : SampleType} {storage : Storage}
    (found : t.storage? = some storage) : t.bytes = storage.bytes := by
  simp [bytes, bits, found, Storage.bytes]

/-- The name of a known type, or the code of an unknown one. -/
def display (t : SampleType) : String :=
  match t.name? with
  | some name => name
  | none => "SampleType(" ++ toString t.code.toInt ++ ")"

instance : ToString SampleType := ⟨display⟩

def ofName? (text : String) : Option SampleType :=
  (known.find? fun entry => Text.sameFolded entry.name text).map fun entry => ofInt entry.code

/-- A name in any case or a decimal code, between blanks. An error holds the
text without its blanks. -/
def parse (text : String) : Except String SampleType :=
  let trimmed := Text.trim text
  match ofName? trimmed with
  | some t => .ok t
  | none =>
    match Text.int32? trimmed with
    | some code => .ok ⟨code⟩
    | none => .error trimmed

def parseMessage (trimmed : String) : String :=
  "unknown ASIO sample type '" ++ trimmed ++ "'"

def ofText (text : String) : Except String SampleType :=
  (parse text).mapError parseMessage

end SampleType

end PlanarSink
