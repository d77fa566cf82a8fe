import PlanarSink.Sample.Codec

/-! Conversion of one sample one access at a time. Every read of a slice and every write into
one names its own width and stops everything where the slice is shorter; so do shifts past the
word and bounds that are not in order. -/
namespace PlanarSink

open Binary (Double Layout Value)

namespace Bytes

def front? (bytes : Bytes) (width : Nat) : Option Bytes :=
  if width ≤ bytes.length then some (bytes.take width) else none

/-- `src` written over the front, where there is room for all of it. -/
def replace? (dst src : Bytes) : Option Bytes :=
  if src.length ≤ dst.length then some (dst.overwrite src) else none

theorem front?_eq {bytes : Bytes} {width : Nat} (whole : width ≤ bytes.length) :
    bytes.front? width = some (bytes.take width) :=
  if_pos whole

theorem replace?_eq {dst src : Bytes} {width : Nat} (length : src.length = width)
    (room : width ≤ dst.length) : dst.replace? src = some (dst.overwrite src) := by
  rw [← length] at room
  exact if_pos room

end Bytes

def ByteOrder.part? (order : ByteOrder) (width full : Nat) (src : Bytes) : Option Double :=
  (src.front? width).map fun word => (Double.ofInt (order.readInt word)).div (.ofNat full)

theorem ByteOrder.part?_eq {order : ByteOrder} {width full : Nat} {src : Bytes}
    (whole : width ≤ src.length) :
    order.part? width full src =
      some ((Double.ofInt (order.readInt (src.take width))).div (.ofNat full)) := by
  rw [part?, Bytes.front?_eq whole, Option.map_some]

/-- The level of the sample at the front of `src`; one-bit and opaque input has none. -/
def InputFormat.read? (format : InputFormat) (src : Bytes) : Option Double :=
  match format with
  | s16le => ByteOrder.little.part? 2 0x8000 src
  | s16be => ByteOrder.big.part? 2 0x8000 src
  | s24le => ByteOrder.little.part? 3 0x800000 src
  | s24be => ByteOrder.big.part? 3 0x800000 src
  | s32le => ByteOrder.little.part? 4 0x80000000 src
  | s32be => ByteOrder.big.part? 4 0x80000000 src
  | float => (src.front? 4).map fun word =>
      .ofValue (Layout.single.decode (ByteOrder.little.read word)).quiet
  | double => (src.front? 8).map fun word => ⟨UInt64.ofNat (ByteOrder.little.read word)⟩
  | u8 | raw => some (.ofNat 0)

def Binary.Value.isNumber : Value → Bool
  | nan .. => false
  | infinite _ | finite .. => true

/-- The number kept within `low` and `high`, which have to be numbers in order. -/
def Binary.Double.clamp? (x low high : Double) : Option Double :=
  if low.value.isNumber ∧ high.value.isNumber ∧ ¬high.value.less low.value then
    some (x.clamp low high)
  else none

theorem Binary.Double.clamp?_eq {low high : Double}
    (ordered : low.value.isNumber ∧ high.value.isNumber ∧ ¬high.value.less low.value) (x : Double) :
    x.clamp? low high = some (x.clamp low high) :=
  if_pos ordered

namespace Storage

/-- The level as an integer of `bits` bits, whose full scale has to be a word. -/
def scaled? (bits : Nat) (level : Double) : Option Int :=
  if 0 < bits ∧ bits ≤ 64 then
    let full := Nat.pow 2 (bits - 1)
    ((level.mul (.ofNat full)).round.clamp? (.ofInt (-full)) (.ofInt (full - 1))).map fun kept =>
      kept.toIntWithin (-0x8000000000000000) 0x7fffffffffffffff
  else none

/-- Writes a level into the front of `dst`; one-bit storage takes none. -/
def put? (storage : Storage) (level : Double) (dst : Bytes) : Option Bytes :=
  match storage with
  | integer 2 _ order => do
    let scaled ← scaled? 16 level
    dst.replace? (order.writeInt 2 (narrowed 16 scaled))
  | integer 3 _ order => do
    let scaled ← scaled? 32 level
    dst.replace? (order.writeInt 3 (narrowed 32 scaled / 256))
  | integer _ _ order => do
    let scaled ← scaled? 32 level
    dst.replace? (order.writeInt 4 (narrowed 32 scaled))
  | float layout order =>
    if layout.width = 32 then
      dst.replace? (order.write 4 (Layout.single.encode level.value.quiet))
    else dst.replace? (order.write 8 level.bits.toNat)
  | packed _ | unpacked => some dst

end Storage

/-- Silence for `samples` samples, byte by byte in the part of `dst` that it reaches. -/
def Silence.fill? (dst : Bytes) (t : SampleType) (samples : Nat) : Option Bytes := do
  let reached ← dst.front? (min (Size.saturatingMul samples t.bytes) dst.length)
  dst.replace? (reached.mapIdx fun i _ => byteAt t.storage? i)

namespace Codec

/-- Converts the sample at the front of `src` into the front of `dst`, after a look at both
lengths. -/
def convert? (codec : Codec) (dst src : Bytes) : Option (Except ConvertError Unit × Bytes) :=
  if src.length < codec.sourceBytes then
    some (.error (.short codec.sourceBytes src.length), dst)
  else if dst.length < codec.targetBytes then
    some (.error (.short codec.targetBytes dst.length), dst)
  else do
    let written ← match codec.path with
      | .copy => do
        let byte ← src.front? 1
        dst.replace? byte
      | .level storage => do
        let level ← codec.source.read? src
        storage.put? level dst
    return (.ok (), written)

def convertSample? (dst : Bytes) (target : SampleType) (src : Bytes) (source : InputFormat) :
    Option (Except ConvertError Unit × Bytes) :=
  match resolve source target with
  | .error failure => do
    let silent ← Silence.fill? dst target 1
    return (.error failure, silent)
  | .ok codec => codec.convert? dst src

end Codec

end PlanarSink
