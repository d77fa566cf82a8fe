import PlanarSink.Data.Reading
import PlanarSink.Driver.Call
import PlanarSink.Sample.Type

/-! What a simulated driver is like: its channels, periods, rates and sample
types, and the call it is made to fail. -/
namespace PlanarSink

/-- The calls that a simulated driver can be made to fail. -/
inductive FailPoint where
  | openDriver
  | setIoFormat
  | canSampleRate
  | setSampleRate
  | channels
  | bufferSizes
  | channelInfo
  | createBuffers
  | start
  | stop
  | disposeBuffers
deriving DecidableEq, Repr

namespace FailPoint

def names : List (String × FailPoint) :=
  [("open", openDriver), ("set_io_format", setIoFormat), ("can_sample_rate", canSampleRate),
   ("set_sample_rate", setSampleRate), ("channels", channels), ("buffer_sizes", bufferSizes),
   ("channel_info", channelInfo), ("create_buffers", createBuffers), ("start", start),
   ("stop", stop), ("dispose_buffers", disposeBuffers)]

def name : FailPoint → String
  | openDriver => "open"
  | setIoFormat => "set_io_format"
  | canSampleRate => "can_sample_rate"
  | setSampleRate => "set_sample_rate"
  | channels => "channels"
  | bufferSizes => "buffer_sizes"
  | channelInfo => "channel_info"
  | createBuffers => "create_buffers"
  | start => "start"
  | stop => "stop"
  | disposeBuffers => "dispose_buffers"

def status : FailPoint → Status
  | openDriver => .notPresent
  | setIoFormat => .invalidMode
  | canSampleRate | setSampleRate => .noClock
  | createBuffers => .noMemory
  | _ => .hardwareMalfunction

def reader : Reader FailPoint := Reader.oneOf names

end FailPoint

/-- What a simulated driver is like apart from its sample types. -/
structure Traits where
  id : String
  name : String
  inputChannels : Nat
  outputChannels : Nat
  minPeriod : Nat
  maxPeriod : Nat
  preferredPeriod : Nat
  sampleRates : List UInt32
  dsdSampleRates : List UInt32
  /-- Whether periods are delivered without being asked for. -/
  clock : Bool
  /-- Whether periods are announced together with the time. -/
  timeInfo : Bool
  failAt : Option FailPoint
deriving DecidableEq, Repr

/-- The description of a simulated driver. -/
structure Profile extends Traits where
  sampleType : SampleType
  /-- The sample type in one-bit mode, which a driver without one refuses. -/
  dsdSampleType : Option SampleType
deriving DecidableEq, Repr

/-- A profile as it is written down, with sample types by their texts. -/
structure SpelledProfile extends Traits where
  sampleType : String
  dsdSampleType : Option String
deriving DecidableEq, Repr

def SpelledProfile.toDatum (p : SpelledProfile) : Datum :=
  .table
    [("id", .text p.id),
     ("name", .text p.name),
     ("input_channels", .integer p.inputChannels),
     ("output_channels", .integer p.outputChannels),
     ("min_period", .integer p.minPeriod),
     ("max_period", .integer p.maxPeriod),
     ("preferred_period", .integer p.preferredPeriod),
     ("sample_rates", .ofList (fun rate => .integer rate.toNat) p.sampleRates),
     ("sample_type", .text p.sampleType),
     ("dsd_sample_type", .ofOption .text p.dsdSampleType),
     ("dsd_sample_rates", .ofList (fun rate => .integer rate.toNat) p.dsdSampleRates),
     ("clock", .boolean p.clock),
     ("time_info", .boolean p.timeInfo),
     ("fail_at", .ofOption (fun point => .text point.name) p.failAt)]

/-- The profile that was written down, or what is said of the first text that names no type. -/
def SpelledProfile.resolve (p : SpelledProfile) : Except String Profile := do
  let sampleType ← SampleType.ofText p.sampleType
  let dsdSampleType ← p.dsdSampleType.mapM SampleType.ofText
  return { p with sampleType, dsdSampleType }

namespace Profile

def standard : Profile where
  id := "sim"
  name := "Simulated ASIO"
  inputChannels := 0
  outputChannels := 2
  minPeriod := 32
  maxPeriod := 4096
  preferredPeriod := 512
  sampleRates := [44100, 48000, 88200, 96000, 176400, 192000]
  sampleType := .float32
  dsdSampleType := none
  dsdSampleRates := [2822400, 5644800]
  clock := true
  timeInfo := false
  failAt := none

def sampleTypeReader : Reader SampleType := fun origin datum => do
  SampleType.ofText (← Reader.string origin datum)

def fields : List (Reader.Field Profile) :=
  [Reader.field "id" Reader.string fun id p => { p with id },
   Reader.field "name" Reader.string fun name p => { p with name },
   Reader.field "input_channels" Reader.size fun inputChannels p => { p with inputChannels },
   Reader.field "output_channels" Reader.size fun outputChannels p => { p with outputChannels },
   Reader.field "min_period" Reader.size fun minPeriod p => { p with minPeriod },
   Reader.field "max_period" Reader.size fun maxPeriod p => { p with maxPeriod },
   Reader.field "preferred_period" Reader.size fun preferredPeriod p => { p with preferredPeriod },
   Reader.field "sample_rates" (Reader.list Reader.word32) fun sampleRates p =>
     { p with sampleRates },
   Reader.field "sample_type" sampleTypeReader fun sampleType p => { p with sampleType },
   Reader.field "dsd_sample_type" (Reader.option sampleTypeReader) fun dsdSampleType p =>
     { p with dsdSampleType },
   Reader.field "dsd_sample_rates" (Reader.list Reader.word32) fun dsdSampleRates p =>
     { p with dsdSampleRates },
   Reader.field "clock" Reader.boolean fun clock p => { p with clock },
   Reader.field "time_info" Reader.boolean fun timeInfo p => { p with timeInfo },
   Reader.field "fail_at" (Reader.option FailPoint.reader) fun failAt p => { p with failAt }]

def reader : Reader Profile :=
  Reader.record "SimDriverConfig" standard fields

def spelled (p : Profile) : SpelledProfile :=
  { p with
    sampleType := p.sampleType.display
    dsdSampleType := p.dsdSampleType.map SampleType.display }

/-- The sample type of the channels in a mode. -/
def sampleTypeIn (p : Profile) : IoMode → SampleType
  | .pcm => p.sampleType
  | .dsd => p.dsdSampleType.getD p.sampleType

def ratesIn (p : Profile) : IoMode → List UInt32
  | .pcm => p.sampleRates
  | .dsd => p.dsdSampleRates

def channelCount (p : Profile) (isInput : Bool) : Nat :=
  if isInput then p.inputChannels else p.outputChannels

end Profile

end PlanarSink
