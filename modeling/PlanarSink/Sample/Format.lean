import PlanarSink.Sample.Type

/-! The encodings of interleaved input. -/
namespace PlanarSink

inductive InputFormat where
  /-- Bytes of packed one-bit samples. -/
  | u8
  | s16le
  | s16be
  | s24le
  | s24be
  | s32le
  | s32be
  /-- Single precision, little endian. -/
  | float
  /-- Double precision, little endian. -/
  | double
  /-- An opaque bit stream that is never converted. -/
  | raw
deriving DecidableEq, Repr

namespace InputFormat

def all : List InputFormat :=
  [u8, s16le, s16be, s24le, s24be, s32le, s32be, float, double, raw]

def name : InputFormat → String
  | u8 => "U8"
  | s16le => "S16LE"
  | s16be => "S16BE"
  | s24le => "S24LE3"
  | s24be => "S24BE3"
  | s32le => "S32LE"
  | s32be => "S32BE"
  | float => "Float"
  | double => "Double"
  | raw => "Raw"

instance : ToString InputFormat := ⟨name⟩

def bits : InputFormat → Nat
  | u8 | raw => 8
  | s16le | s16be => 16
  | s24le | s24be => 24
  | s32le | s32be | float => 32
  | double => 64

def bytes (format : InputFormat) : Nat :=
  format.bits / 8

theorem bytes_pos (format : InputFormat) : 0 < format.bytes := by
  cases format <;> decide

theorem bits_le (format : InputFormat) : format.bits ≤ 64 := by
  cases format <;> decide

theorem bits_eq (format : InputFormat) : format.bits = 8 * format.bytes := by
  cases format <;> decide

/-- The format with exactly this name. -/
def ofName? (name : String) : Option InputFormat :=
  all.find? fun format => format.name == name

/-- A name in any case of its ASCII letters, between blanks. An error holds the
text without its blanks. -/
def parse (text : String) : Except String InputFormat :=
  let trimmed := Text.trim text
  match all.find? fun format => Text.sameFolded format.name trimmed with
  | some format => .ok format
  | none => .error trimmed

def parseMessage (trimmed : String) : String :=
  "unknown data format '" ++ trimmed ++ "'"

/-- Samples that hold integers: their width in bytes and their byte order. -/
def integer? : InputFormat → Option (Nat × ByteOrder)
  | s16le => some (2, .little)
  | s16be => some (2, .big)
  | s24le => some (3, .little)
  | s24be => some (3, .big)
  | s32le => some (4, .little)
  | s32be => some (4, .big)
  | _ => none

def ofStorage : Storage → InputFormat
  | .integer 2 _ order => if order = .big then s16be else s16le
  | .integer 3 _ order => if order = .big then s24be else s24le
  | .integer _ _ order => if order = .big then s32be else s32le
  | .float layout _ => if layout = .single then float else double
  | .packed _ => u8
  | .unpacked => raw

/-- The format native to a sample type; none for an unknown code. -/
def nativeTo (t : SampleType) : Option InputFormat :=
  t.storage?.map ofStorage

end InputFormat

end PlanarSink
