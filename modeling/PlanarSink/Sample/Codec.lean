import PlanarSink.Binary.Double
import PlanarSink.Sample.Format
import PlanarSink.Sample.Silence

/-! Conversion of single samples. A sample is read as a double precision level with full
scale at one, and written by scaling the level to the storage of the target and rounding:
halves away from zero for integers, ties to even for floating point. -/
namespace PlanarSink

open Binary (Double)

inductive ConvertError where
  | unsupported (source : InputFormat) (target : SampleType)
  | short (needed got : Nat)
deriving DecidableEq, Repr

namespace ConvertError

def message : ConvertError → String
  | unsupported source target =>
    "no conversion from " ++ source.name ++ " input to " ++ target.display
  | short needed got =>
    "sample buffer too short: need " ++ toString needed ++ " bytes, got " ++ toString got

end ConvertError

namespace InputFormat

/-- The level of the sample that `bytes` hold. Integers are divided by their full scale;
widening quiets what is not a number. -/
def level (format : InputFormat) (bytes : Bytes) : Double :=
  match format with
  | float => .ofValue (Binary.Layout.single.decode (ByteOrder.little.read bytes)).quiet
  | double => ⟨UInt64.ofNat (ByteOrder.little.read bytes)⟩
  | format =>
    match format.integer? with
    | some (width, order) =>
      (Double.ofInt (order.readInt bytes)).div (.ofNat (Nat.pow 2 (8 * width - 1)))
    | none => .ofNat 0

end InputFormat

namespace Storage

/-- The level scaled to a signed integer of `bits` bits, rounded, kept within the range of
such integers, and taken as an integer of 64 bits. -/
def scaled (bits : Nat) (level : Double) : Int :=
  let full := Nat.pow 2 (bits - 1)
  ((level.mul (.ofNat full)).round.clamp (.ofInt (-full)) (.ofInt (full - 1))).toIntWithin
    (-0x8000000000000000) 0x7fffffffffffffff

/-- An integer cut to its lowest bits, of which the highest is the sign. -/
def narrowed (bits : Nat) (n : Int) : Int :=
  Int.bmod n (Nat.pow 2 bits)

/-- The integer stored in a container of `width` bytes: three byte containers
hold the upper bytes of the 32-bit value. -/
def integerLevel (width : Nat) (level : Double) : Int :=
  match width with
  | 2 => narrowed 16 (scaled 16 level)
  | 3 => narrowed 32 (scaled 32 level) / 256
  | _ => narrowed 32 (scaled 32 level)

/-- The bytes of a level. Narrowing quiets what is not a number; one-bit
storage takes no levels. -/
def write (storage : Storage) (level : Double) : Bytes :=
  match storage with
  | integer width _ order => order.writeInt width (integerLevel width level)
  | float layout order =>
    order.write (layout.width / 8)
      (if layout = .double then level.bits.toNat else layout.encode level.value.quiet)
  | packed _ => []
  | unpacked => []

end Storage

inductive Codec.Path where
  /-- One-bit samples are passed on byte for byte. -/
  | copy
  | level (storage : Storage)
deriving DecidableEq, Repr

/-- A pair of input format and sample type between which samples convert. -/
structure Codec where
  source : InputFormat
  target : SampleType
  path : Codec.Path
deriving DecidableEq, Repr

namespace Codec

/-- One-bit input goes to one-bit storage, other input but the opaque stream
to integers and floating point. -/
def resolve (source : InputFormat) (target : SampleType) : Except ConvertError Codec :=
  match source, target.storage? with
  | .u8, some (.packed _) => .ok ⟨source, target, .copy⟩
  | .u8, some .unpacked => .ok ⟨source, target, .copy⟩
  | .u8, _ => .error (.unsupported source target)
  | .raw, _ => .error (.unsupported source target)
  | _, some (.integer width bits order) => .ok ⟨source, target, .level (.integer width bits order)⟩
  | _, some (.float layout order) => .ok ⟨source, target, .level (.float layout order)⟩
  | _, _ => .error (.unsupported source target)

def canConvert (source : InputFormat) (target : SampleType) : Bool :=
  match resolve source target with
  | .ok _ => true
  | .error _ => false

def sourceBytes (codec : Codec) : Nat := codec.source.bytes

def targetBytes (codec : Codec) : Nat := codec.target.bytes

def sample (codec : Codec) (src : Bytes) : Bytes :=
  match codec.path with
  | .copy => src.take codec.targetBytes
  | .level storage => storage.write (codec.source.level (src.take codec.sourceBytes))

/-- Converts the sample at the front of `src` into the front of `dst`. Nothing
is written where either is shorter than a sample. -/
def convert (codec : Codec) (dst src : Bytes) : Except ConvertError Bytes :=
  if src.length < codec.sourceBytes then .error (.short codec.sourceBytes src.length)
  else if dst.length < codec.targetBytes then .error (.short codec.targetBytes dst.length)
  else .ok (dst.overwrite (codec.sample src))

def convertSample (dst : Bytes) (target : SampleType) (src : Bytes) (source : InputFormat) :
    Except ConvertError Unit × Bytes :=
  match resolve source target with
  | .error failure => (.error failure, Silence.fill dst target 1)
  | .ok codec =>
    match codec.convert dst src with
    | .error failure => (.error failure, dst)
    | .ok written => (.ok (), written)

end Codec

end PlanarSink
