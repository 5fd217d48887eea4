import AdsDriver.Data.ByteMemory
import AdsDriver.Data.Masks
import AdsDriver.Data.Packing
import AdsDriver.Data.EarlyExit
import AdsDriver.Data.SortedMap
import AdsDriver.Data.Runs
import AdsDriver.Data.Readings
import AdsDriver.Data.StatusSteps
import AdsDriver.Data.ControlPoints
import AdsDriver.Data.Protocols
import AdsDriver.Data.Turns
import AdsDriver.Data.Queues
import AdsDriver.Types
import AdsDriver.Address
import AdsDriver.AdsLib
import AdsDriver.Variable
import AdsDriver.SumReadBuffer
import AdsDriver.ReadWrite
import AdsDriver.SumReadRequest
import AdsDriver.Allocation
import AdsDriver.SumRead
import AdsDriver.Handlers
import AdsDriver.Registry
import AdsDriver.IoIntr
import AdsDriver.DigitalWrite
import AdsDriver.DigitalRuns
import AdsDriver.ArrayWrite
import AdsDriver.ArrayPublish
import AdsDriver.Handles
import AdsDriver.Scan
import AdsDriver.ScanFrame
import AdsDriver.Lifecycle
import AdsDriver.Publication
import AdsDriver.RequestCalls
import AdsDriver.SumReadOutcome
import AdsDriver.LinkErrors
import AdsDriver.WriteHandlers
import AdsDriver.Interleaving
import AdsDriver.InterleavingFrame
import AdsDriver.ScanSections
import AdsDriver.WriteOperation
import AdsDriver.HandleLog
import AdsDriver.Phases
import AdsDriver.Recovery
import AdsDriver.LinkBalance
import AdsDriver.Shutdown
import AdsDriver.HandleLedger
import AdsDriver.WriteByHandle
import AdsDriver.ReadbackRuns
import AdsDriver.ReadValues
import AdsDriver.ChunkAnswers
import AdsDriver.ConnectionValues
import AdsDriver.Numerals
import AdsDriver.LinkGrammar
import AdsDriver.Specifiers
import AdsDriver.AddressStates
import AdsDriver.Resolution
import AdsDriver.SessionProtocol
import AdsDriver.ChunkTurns
import AdsDriver.HandleReleases
import AdsDriver.ReadBounds
import AdsDriver.ByteLengths
import AdsDriver.IntegerRoundTrip
import AdsDriver.IocCommands
import AdsDriver.BufferChecks
import AdsDriver.ServedValues
import AdsDriver.WriteOrder
import AdsDriver.DriverLock
import AdsDriver.Initialization
import AdsDriver.Staleness
