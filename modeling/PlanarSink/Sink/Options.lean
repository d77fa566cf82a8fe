import PlanarSink.Data.Reading

/-! What a user of a sink can choose about it. -/
namespace PlanarSink

structure SinkOptions where
  /-- The capacity of the ring in units of a chunk or a period, whichever is larger. -/
  bufferPeriods : Nat
  /-- The chunks that make up a second of audio. -/
  chunksPerSecond : UInt32
  /-- The lowest rate at which one-bit mode is asked for. -/
  dsdMinSampleRate : UInt32
deriving DecidableEq, Repr

namespace SinkOptions

def standard : SinkOptions where
  bufferPeriods := 3
  chunksPerSecond := 75
  dsdMinSampleRate := 2822400

/-- The options with at least two periods and one chunk per second. -/
def normalized (o : SinkOptions) : SinkOptions :=
  { o with bufferPeriods := max o.bufferPeriods 2, chunksPerSecond := max o.chunksPerSecond 1 }

def withBufferPeriods (o : SinkOptions) (given : Option Nat) : SinkOptions :=
  { o with bufferPeriods := given.getD o.bufferPeriods }

def fields : List (Reader.Field SinkOptions) :=
  [Reader.field "buffer_periods" Reader.size fun bufferPeriods o => { o with bufferPeriods },
   Reader.field "chunks_per_second" Reader.word32 fun chunksPerSecond o =>
     { o with chunksPerSecond },
   Reader.field "dsd_min_sample_rate" Reader.word32 fun dsdMinSampleRate o =>
     { o with dsdMinSampleRate }]

def reader : Reader SinkOptions :=
  Reader.record "SinkOptions" standard fields

def toDatum (o : SinkOptions) : Datum :=
  .table
    [("buffer_periods", .integer o.bufferPeriods),
     ("chunks_per_second", .integer o.chunksPerSecond.toNat),
     ("dsd_min_sample_rate", .integer o.dsdMinSampleRate.toNat)]

end SinkOptions

end PlanarSink
