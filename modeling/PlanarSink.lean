import PlanarSink.Callback.Shared
import PlanarSink.Main
import PlanarSink.Proofs.ByteOrders
import PlanarSink.Proofs.CallProtocol
import PlanarSink.Proofs.ChunkRoom
import PlanarSink.Proofs.Coherence
import PlanarSink.Proofs.Deinterleaving
import PlanarSink.Proofs.Enumeration
import PlanarSink.Proofs.FailedConnect
import PlanarSink.Proofs.FloatSamples
import PlanarSink.Proofs.IntegerSamples
import PlanarSink.Proofs.OneOwner
import PlanarSink.Proofs.Playing
import PlanarSink.Proofs.Probing
import PlanarSink.Proofs.Progress
import PlanarSink.Proofs.Renewal
import PlanarSink.Proofs.ReportedFormat
import PlanarSink.Proofs.Rereading
import PlanarSink.Proofs.RingQueues
import PlanarSink.Proofs.SizeRange
import PlanarSink.Proofs.SlotSafety
import PlanarSink.Proofs.Spellings
import PlanarSink.Proofs.Standstill
import PlanarSink.Proofs.StreamFidelity
import PlanarSink.Proofs.Submission
import PlanarSink.Proofs.TickSequence
import PlanarSink.Proofs.ToneSeams
import PlanarSink.Proofs.WholePeriods
import PlanarSink.Proofs.WholeWrites
