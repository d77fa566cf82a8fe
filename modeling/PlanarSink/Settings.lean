import PlanarSink.Data.Toml.Document
import PlanarSink.Driver.Profile
import PlanarSink.Sample.Format
import PlanarSink.Sink.Options

/-! The settings of the program, as a configuration file gives them. -/
namespace PlanarSink

structure Settings where
  device : String
  sampleRate : UInt32
  channels : Nat
  format : InputFormat
  seconds : Binary.Double
  frequency : Binary.Double
  amplitude : Binary.Double
  logLevel : String
  sink : SinkOptions
  /-- The drivers on offer. -/
  drivers : List Profile
deriving DecidableEq, Repr

namespace Settings

def standard : Settings where
  device := "sim"
  sampleRate := 48000
  channels := 2
  format := .float
  seconds := .ofNat 2
  frequency := .ofNat 440
  amplitude := .ofFraction false 1 2
  logLevel := "info"
  sink := .standard
  drivers := [.standard]

/-- A format is given by its exact name. -/
def formatReader : Reader InputFormat :=
  Reader.oneOf (InputFormat.all.map fun format => (format.name, format))

def fields : List (Reader.Field Settings) :=
  [Reader.field "device" Reader.string fun device s => { s with device },
   Reader.field "sample_rate" Reader.word32 fun sampleRate s => { s with sampleRate },
   Reader.field "channels" Reader.size fun channels s => { s with channels },
   Reader.field "format" formatReader fun format s => { s with format },
   Reader.field "seconds" Reader.double fun seconds s => { s with seconds },
   Reader.field "frequency" Reader.double fun frequency s => { s with frequency },
   Reader.field "amplitude" Reader.double fun amplitude s => { s with amplitude },
   Reader.field "log_level" Reader.string fun logLevel s => { s with logLevel },
   Reader.field "sink" SinkOptions.reader fun sink s => { s with sink },
   Reader.field "drivers" (Reader.list Profile.reader) fun drivers s => { s with drivers }]

def reader : Reader Settings :=
  Reader.record "Config" standard fields

/-- Why a text does not give settings. -/
inductive ParseError where
  /-- It is no TOML document. -/
  | malformed
  /-- A value does not fit. -/
  | unfit (message : String)
deriving DecidableEq, Repr

def parse (text : String) : Except ParseError Settings :=
  match Toml.document? text with
  | none => .error .malformed
  | some document => (reader .toml document).mapError .unfit

end Settings

end PlanarSink
