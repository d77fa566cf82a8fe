/-! Byte strings and the words they hold in either byte order. -/
namespace PlanarSink

abbrev Bytes := List UInt8

inductive ByteOrder where
  | little
  | big
deriving DecidableEq, Repr

namespace Bytes

/-- The number whose base-256 digits are the bytes, least significant first. -/
def value : Bytes → Nat
  | [] => 0
  | byte :: rest => byte.toNat + 256 * value rest

def ofValue : (width : Nat) → Nat → Bytes
  | 0, _ => []
  | width + 1, n => UInt8.ofNat n :: ofValue width (n / 256)

@[simp] theorem length_ofValue (width n : Nat) : (ofValue width n).length = width := by
  induction width generalizing n with
  | zero => rfl
  | succ width ih => simp [ofValue, ih]

theorem value_ofValue (width n : Nat) : value (ofValue width n) = n % Nat.pow 256 width := by
  induction width generalizing n with
  | zero => simp [ofValue, value, Nat.mod_one]
  | succ width ih =>
    rw [ofValue, value, ih, Nat.pow_eq, Nat.pow_eq, Nat.pow_succ', Nat.mod_mul]
    simp

/-- The first bytes of `dst` replaced by `src`. -/
def overwrite (dst src : Bytes) : Bytes :=
  src ++ dst.drop src.length

/-- The first `size` of the bytes, with zeros after them where they are fewer. -/
def resize (bytes : Bytes) (size : Nat) : Bytes :=
  bytes.take size ++ List.replicate (size - bytes.length) 0

@[simp] theorem length_resize (bytes : Bytes) (size : Nat) : (bytes.resize size).length = size := by
  simp only [resize, List.length_append, List.length_take, List.length_replicate]
  omega

end Bytes

namespace ByteOrder

def read (order : ByteOrder) (bytes : Bytes) : Nat :=
  match order with
  | little => Bytes.value bytes
  | big => Bytes.value bytes.reverse

/-- The `width` bytes that hold a word, whose excess high bits are dropped. -/
def write (order : ByteOrder) (width word : Nat) : Bytes :=
  match order with
  | little => Bytes.ofValue width word
  | big => (Bytes.ofValue width word).reverse

@[simp] theorem length_write (order : ByteOrder) (width word : Nat) :
    (order.write width word).length = width := by
  cases order <;> simp [write]

theorem read_write (order : ByteOrder) (width word : Nat) :
    order.read (order.write width word) = word % Nat.pow 256 width := by
  cases order <;> simp [read, write, Bytes.value_ofValue]

def readInt (order : ByteOrder) (bytes : Bytes) : Int :=
  Int.bmod (order.read bytes) (Nat.pow 256 bytes.length)

def writeInt (order : ByteOrder) (width : Nat) (n : Int) : Bytes :=
  order.write width (n % Nat.pow 256 width).toNat

@[simp] theorem length_writeInt (order : ByteOrder) (width : Nat) (n : Int) :
    (order.writeInt width n).length = width := by
  simp [writeInt]

end ByteOrder

end PlanarSink
