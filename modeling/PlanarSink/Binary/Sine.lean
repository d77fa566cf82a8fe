import PlanarSink.Binary.Double

/-! The sine as the machine computes it. -/
namespace PlanarSink.Binary.Double

def sine (x : Double) : Double :=
  match x.value with
  | .nan negative payload => ofValue (Value.nan negative payload).quiet
  | .infinite _ => invalid
  | .finite .. => ⟨(Float.ofBits x.bits).sin.toBits⟩

end PlanarSink.Binary.Double
