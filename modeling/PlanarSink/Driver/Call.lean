import PlanarSink.Binary.Double
import PlanarSink.Driver.Status
import PlanarSink.Sample.Type

/-! The calls that can be made on an opened driver and what each answers. -/
namespace PlanarSink

inductive IoMode where
  | pcm
  | dsd
deriving DecidableEq, Repr

def IoMode.name : IoMode → String
  | pcm => "Pcm"
  | dsd => "Dsd"

structure ChannelCounts where
  inputs : Nat
  outputs : Nat
deriving DecidableEq, Repr

/-- The periods a driver accepts, in frames. -/
structure BufferSizes where
  least : Nat
  greatest : Nat
  preferred : Nat
  /-- The step between accepted sizes; minus one stands for powers of two. -/
  granularity : Int
deriving DecidableEq, Repr

structure ChannelInfo where
  channel : Nat
  isInput : Bool
  isActive : Bool
  group : Int
  sampleType : SampleType
  name : String
deriving DecidableEq, Repr

/-- A channel for which buffers are wanted. Drivers number channels with 32-bit
integers, and note here that both halves have an address. -/
structure BufferInfo where
  isInput : Bool
  channel : Int32
  addressed : Bool
deriving DecidableEq, Repr

namespace BufferInfo

/-- The bytes that it takes in a list. -/
def bytes : Nat := 24

/-- A wanted channel, its number cut to 32 bits. -/
def wanted (isInput : Bool) (channel : Nat) : BufferInfo :=
  ⟨isInput, Int32.ofNat channel, false⟩

def output (channel : Nat) : BufferInfo :=
  wanted false channel

end BufferInfo

inductive DriverCall where
  | setIoMode (mode : IoMode)
  | canRate (rate : Binary.Double)
  | setRate (rate : Binary.Double)
  | channelCounts
  | bufferSizes
  | channelInfo (channel : Nat) (isInput : Bool)
  | createBuffers (infos : List BufferInfo) (period : Nat)
  | disposeBuffers
  | start
  | stop
deriving DecidableEq, Repr

/-- Why no buffers were created. -/
inductive CreationFault where
  | status (status : Status)
  /-- The call did not return: a size left its range, or there is no list as long as it says. -/
  | panic
deriving DecidableEq, Repr

namespace DriverCall

/-- What a call answers when it succeeds. -/
abbrev Answer : DriverCall → Type
  | channelCounts => ChannelCounts
  | bufferSizes => BufferSizes
  | channelInfo .. => ChannelInfo
  | createBuffers .. => List BufferInfo
  | _ => Unit

/-- What is known of a call that did not succeed. -/
abbrev Fault : DriverCall → Type
  | createBuffers .. => CreationFault
  | _ => Status

abbrev Reply (call : DriverCall) : Type :=
  Except call.Fault call.Answer

/-- A call that ended with a status. -/
def fault : (call : DriverCall) → Status → call.Fault
  | createBuffers .., status => .status status
  | setIoMode _, status | canRate _, status | setRate _, status | channelCounts, status
  | bufferSizes, status | channelInfo .., status | disposeBuffers, status | start, status
  | stop, status => status

end DriverCall

end PlanarSink
