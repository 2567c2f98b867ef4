import Natto64.CallTree
import Natto64.EventRun
import Natto64.QuietEvents
import Natto64.PairedMaps
import Natto64.BindingTable
import Natto64.RingWindow
import Natto64.WhileLoop
import Natto64.Actions
import Natto64.Octets
import Natto64.StructLayout
import Natto64.InternetChecksum
import Natto64.OnesComplement
import Natto64.Abi
import Natto64.Diagnostics
import Natto64.Tallies
import Natto64.Kernel
import Natto64.Helpers
import Natto64.Rules
import Natto64.Frames
import Natto64.Ports
import Natto64.Allocator
import Natto64.Headers
import Natto64.Footprints
import Natto64.Session
import Natto64.SessionRules
import Natto64.ChecksumRules
import Natto64.Forward
import Natto64.Reverse
import Natto64.ForwardRules
import Natto64.ReverseRules
import Natto64.Userspace
import Natto64.Dataplane
import Natto64.FrameFields
import Natto64.PassThrough
import Natto64.ReturnPackets
import Natto64.SessionSteps
import Natto64.ExternalTuples
import Natto64.InboundFiltering
import Natto64.RoundTrip
import Natto64.Answerable
import Natto64.Expiry
import Natto64.SessionTimeout
import Natto64.IdleSession
import Natto64.Orphans
import Natto64.Xlat
import Natto64.TransportChecksums
import Natto64.FullChecksums
import Natto64.HeaderBuilders
import Natto64.ChecksumFolds
import Natto64.PortSupply
import Natto64.PortCooldown
import Natto64.FirstMapping
import Natto64.PoolSelection
import Natto64.EmittedFrames
import Natto64.Interleaving
import Natto64.LocalCalls
import Natto64.ForwardProtocol
import Natto64.ForwardSafety
import Natto64.ParallelPackets
import Natto64.ExpiryRace
import Natto64.Accounts
import Natto64.SessionAccounts
import Natto64.ForwardAccounts
import Natto64.ReverseAccounts
import Natto64.CounterBalance
import Natto64.Metrics
import Natto64.SampleRings
import Natto64.Lifecycle
import Natto64.Attachment
import Natto64.AllOrNothing
import Natto64.TableRefinement
import Natto64.UnsolicitedTraffic
import Natto64.PairedPooling
import Natto64.InFlight
import Natto64.InFlightForward
import Natto64.InFlightReverse
import Natto64.ConcurrentFiltering
import Natto64.Granularity
import Natto64.Independence
import Natto64.AccessOrder
import Natto64.SerialOrder
import Natto64.SharedPlaces
import Natto64.ArmedTimers
import Natto64.TranslatedChecksums
import Natto64.AbiLayout
import Natto64.OctetMaps
import Natto64.SerialRuns
import Natto64.OverlappingRuns
import Natto64.Builder
import Natto64.InterfaceIndex
import Natto64.Ipv6Headers
import Natto64.Telemetry
