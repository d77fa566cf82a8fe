import PlanarSink.Binary.Double
import PlanarSink.Sample.Format

/-! Levels of a tone written as input samples. A level is kept within minus one
and one; integers are symmetric around zero. -/
namespace PlanarSink

inductive ToneError where
  | unencodable (format : InputFormat)
deriving DecidableEq, Repr

def ToneError.message : ToneError → String
  | unencodable format => "cannot synthesize a tone as " ++ format.name

namespace Tone

open Binary

/-- The integer nearest to the level times the largest integer of `bits` bits,
halves going away from zero. What is not a number gives zero. -/
def integerLevel (bits : Nat) (level : Double) : Int :=
  (level.mul (.ofNat (Nat.pow 2 (bits - 1) - 1))).value.quantize 0 (-0x80000000) 0x7fffffff

/-- How a format writes a level within minus one and one; one-bit and opaque
streams hold no levels. -/
def writer? (format : InputFormat) : Option (Double → Bytes) :=
  match format with
  | .float => some fun level => ByteOrder.little.write 4 (Layout.single.encode level.value.quiet)
  | .double => some fun level => ByteOrder.little.write 8 level.bits.toNat
  | format => format.integer?.map fun (width, order) => fun level =>
    order.writeInt width (integerLevel (8 * width) level)

def encode (format : InputFormat) (levels : List Double) : Except ToneError Bytes :=
  match levels, writer? format with
  | [], _ => .ok []
  | levels, some write => .ok (levels.flatMap fun level => write level.clampToUnit)
  | _, none => .error (.unencodable format)

theorem encode_eq_error {format : InputFormat} {levels : List Double}
    (unwritable : writer? format = none) (filled : levels ≠ []) :
    encode format levels = .error (.unencodable format) := by
  cases levels with
  | nil => contradiction
  | cons level rest => simp [encode, unwritable]

end Tone

end PlanarSink
