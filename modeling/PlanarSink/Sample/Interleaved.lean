import PlanarSink.Sample.Codec

/-! Taking one channel out of interleaved frames. -/
namespace PlanarSink.Codec

/-- Converts the samples at the front of the frames of `stride` bytes in `lane` into the
samples of `dst`, one after the other. It stops where `dst` has no further whole sample,
where `lane` ends, and at a frame that is cut short within its sample. -/
def sweep (codec : Codec) (stride : Nat) : (samples : Nat) → (dst lane : Bytes) → Bytes
  | 0, dst, _ => dst
  | samples + 1, dst, lane =>
    let room := dst.take codec.targetBytes
    if room.length < codec.targetBytes ∨ lane = [] then dst
    else match codec.convert room (lane.take stride) with
      | .error _ => dst
      | .ok written =>
        written ++ codec.sweep stride samples (dst.drop codec.targetBytes) (lane.drop stride)

/-- Converts `channel` of up to `samples` interleaved frames of `channels` channels into the
front of `dst`. -/
def deinterleave (codec : Codec) (dst src : Bytes) (channel channels samples : Nat) : Bytes :=
  if channels = 0 ∨ channels ≤ channel then dst
  else codec.sweep (channels * codec.sourceBytes) samples dst (src.drop (channel * codec.sourceBytes))

def sampleAt (codec : Codec) (src : Bytes) (channels frame channel : Nat) : Bytes :=
  (src.drop ((frame * channels + channel) * codec.sourceBytes)).take codec.sourceBytes

/-- What `count` frames, from `offset` frames in, come to in a plane: each sample of the
channel converted on its own, or one block of silence in a plane beyond the channels. -/
def rendered (codec : Codec) (src : Bytes) (channels offset count plane : Nat) :
    List (Except ConvertError Bytes) :=
  if plane < channels then
    (List.range' offset count).map fun frame =>
      codec.convert (List.replicate codec.targetBytes 0) (codec.sampleAt src channels frame plane)
  else [.ok (Silence.fill (List.replicate (count * codec.targetBytes) 0) codec.target count)]

/-- Converts one channel. A pair without conversion leaves silence. -/
def convertBlock (dst : Bytes) (target : SampleType) (src : Bytes) (channel channels : Nat)
    (source : InputFormat) (samples : Nat) : Except ConvertError Unit × Bytes :=
  match resolve source target with
  | .error failure => (.error failure, Silence.fill dst target samples)
  | .ok codec => (.ok (), codec.deinterleave dst src channel channels samples)

end PlanarSink.Codec
