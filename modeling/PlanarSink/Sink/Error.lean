import PlanarSink.Driver.Call
import PlanarSink.Sample.Format

/-! Why a sink cannot do what it is asked to. -/
namespace PlanarSink

/-- The driver calls whose failure ends a negotiation without a cause of its own. -/
inductive Operation where
  | getChannels
  | getBufferSize
  | getChannelInfo
  | start
deriving DecidableEq, Repr

def Operation.name : Operation → String
  | getChannels => "getChannels"
  | getBufferSize => "getBufferSize"
  | getChannelInfo => "getChannelInfo"
  | start => "start"

inductive SinkError where
  | alreadyInitialized
  | notInitialized
  | instanceActive
  | driverOpen (device : String) (status : Status)
  | modeUnsupported (status : Status)
  | unsupportedRate (rate : UInt32) (status : Status)
  | negotiation (operation : Operation) (status : Status)
  | unsupportedEncoding (format : InputFormat) (sampleType : SampleType)
  | bufferAlloc (status : Status)
  | allocation (bytes : Nat)
deriving DecidableEq, Repr

namespace SinkError

def kind : SinkError → String
  | alreadyInitialized => "AlreadyInitialized"
  | notInitialized => "NotInitialized"
  | instanceActive => "InstanceActive"
  | driverOpen .. => "DriverOpen"
  | modeUnsupported _ => "ModeUnsupported"
  | unsupportedRate .. => "UnsupportedRate"
  | negotiation .. => "Negotiation"
  | unsupportedEncoding .. => "UnsupportedEncoding"
  | bufferAlloc _ => "BufferAlloc"
  | allocation _ => "Allocation"

def message : SinkError → String
  | alreadyInitialized => "sink is already initialized"
  | notInitialized => "sink is not initialized"
  | instanceActive => "another sink in this process owns the driver callbacks"
  | driverOpen device status => "cannot open ASIO driver '" ++ device ++ "': " ++ status.text
  | modeUnsupported status => "driver rejected DSD io format: " ++ status.text
  | unsupportedRate rate status =>
    "sample rate " ++ toString rate.toNat ++ " Hz not supported: " ++ status.text
  | negotiation operation status => "driver " ++ operation.name ++ " failed: " ++ status.text
  | unsupportedEncoding format sampleType =>
    "cannot feed " ++ format.name ++ " input to driver sample type " ++ sampleType.display
  | bufferAlloc status => "driver buffer allocation failed: " ++ status.text
  | allocation bytes => "ring buffer allocation of " ++ toString bytes ++ " bytes failed"

end SinkError

/-- Why an attempt ends before its time: it fails, or it panics and does not return. -/
inductive Interruption where
  | failure (error : SinkError)
  | panic
deriving DecidableEq, Repr

theorem Interruption.failure_ne_panic (error : SinkError) : failure error ≠ panic :=
  nofun

/-- What a driver call that did not succeed means to an attempt that is made of it. -/
def DriverCall.interruption (cause : Status → SinkError) : (c : DriverCall) → c.Fault → Interruption
  | createBuffers .., .status status => .failure (cause status)
  | createBuffers .., .panic => .panic
  | setIoMode _, status | canRate _, status | setRate _, status | channelCounts, status
  | bufferSizes, status | channelInfo .., status | disposeBuffers, status | start, status
  | stop, status => .failure (cause status)

end PlanarSink
