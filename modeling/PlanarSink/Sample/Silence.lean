import PlanarSink.Sample.Type
import PlanarSink.Size

/-! The bytes that play as silence. One-bit samples have no zero level: their
silence alternates, half of the bits of `0x69` being set. -/
namespace PlanarSink.Silence

/-- Eight one-bit samples that average to silence. -/
def idleByte : UInt8 := 0x69

/-- Byte `i` of silence. Unpacked samples spell out the idle byte, highest bit
first. -/
def byteAt (storage? : Option Storage) (i : Nat) : UInt8 :=
  match storage? with
  | some (.packed _) => idleByte
  | some .unpacked => UInt8.ofNat (idleByte.toNat / Nat.pow 2 (7 - i % 8) % 2)
  | _ => 0

def bytes (t : SampleType) (count : Nat) : Bytes :=
  (List.range count).map (byteAt t.storage?)

@[simp] theorem length_bytes (t : SampleType) (count : Nat) :
    (bytes t count).length = count := by
  simp [bytes]

/-- Silence for `samples` samples at the front of `dst`, as far as it reaches. -/
def fill (dst : Bytes) (t : SampleType) (samples : Nat) : Bytes :=
  dst.overwrite (bytes t (min (Size.saturatingMul samples t.bytes) dst.length))

@[simp] theorem length_fill (dst : Bytes) (t : SampleType) (samples : Nat) :
    (fill dst t samples).length = dst.length := by
  simp only [fill, Bytes.overwrite, List.length_append, List.length_drop, length_bytes]
  omega

end PlanarSink.Silence
