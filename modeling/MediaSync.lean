import MediaSync.Foundation.Transaction
import MediaSync.Foundation.Table
import MediaSync.Foundation.Transition
import MediaSync.Foundation.Python
import MediaSync.Foundation.Program
import MediaSync.Foundation.Files
import MediaSync.Scheduler.Policy
import MediaSync.Scheduler.Records
import MediaSync.Scheduler.Payload
import MediaSync.Scheduler.Lanes
import MediaSync.Scheduler.PipelineReceipt
import MediaSync.Scheduler.Pipeline
import MediaSync.Scheduler.DeliveryProgress
import MediaSync.Scheduler.Repository
import MediaSync.Scheduler.Claiming
import MediaSync.Scheduler.LeaseOperations
import MediaSync.Scheduler.Frames
import MediaSync.Scheduler.History
import MediaSync.Scheduler.Acts
import MediaSync.Scheduler.ActRuns
import MediaSync.Scheduler.JobSteps
import MediaSync.Scheduler.ClaimSteps
import MediaSync.Scheduler.LeaseFence
import MediaSync.Scheduler.ProbeInvariant
import MediaSync.Scheduler.ProbeLanes
import MediaSync.Scheduler.ProbeSteps
import MediaSync.Scheduler.ProbeClaim
import MediaSync.Scheduler.LaneProbe
import MediaSync.Media.Archive
import MediaSync.Media.ArchiveDiscipline
import MediaSync.Media.ArchiveSafety
import MediaSync.Media.ArchivePublication
import MediaSync.Media.ArchiveCrash
import MediaSync.Media.Assets
import MediaSync.Media.AssetFences
import MediaSync.Scan.Bili
import MediaSync.Scan.BiliSteps
import MediaSync.Scan.BiliHistory
import MediaSync.Scan.BiliHead
import MediaSync.Scan.BiliAgreement
import MediaSync.Scan.Creator
import MediaSync.Scan.CreatorText
import MediaSync.Scan.CreatorSteps
import MediaSync.Scheduler.JobShape
import MediaSync.Scheduler.PolicyUpdate
import MediaSync.Scan.CreatorRuns
import MediaSync.Scan.CreatorStores
import MediaSync.Scan.CreatorHistory
import MediaSync.Scan.CreatorHead
import MediaSync.Scheduler.CycleEnds
import MediaSync.Scheduler.CycleFence
import MediaSync.Scheduler.RefusedCycle
import MediaSync.Scheduler.LaneStarts
import MediaSync.Scheduler.LaneLimits
import MediaSync.Scheduler.Coordinators
import MediaSync.Scheduler.RunAuthority
import MediaSync.Scheduler.JobRepository
import MediaSync.Scheduler.JobLeases
import MediaSync.Foundation.Statement
import MediaSync.Accounts.LoginSessions
import MediaSync.Accounts.LoginMachine
import MediaSync.Accounts.CreatorProfiles
import MediaSync.Accounts.ProfileLookups
import MediaSync.Accounts.ProfileHistory
import MediaSync.Foundation.JsonText
import MediaSync.Foundation.JsonDoc
import MediaSync.Foundation.JsonParse
import MediaSync.Foundation.JsonSize
import MediaSync.Scan.CreatorCodec
import MediaSync.Scan.CreatorRecord
import MediaSync.Scan.BiliCodec
import MediaSync.Scan.BiliFeeds
import MediaSync.Scan.BiliFeedsCodec
import MediaSync.Scan.BiliRecords
import MediaSync.Scan.CreatorLimits
import MediaSync.Scan.CreatorMemory
import MediaSync.Scan.CreatorUnits
import MediaSync.Scan.Codecs
import MediaSync.Foundation.Posix
import MediaSync.Foundation.Urls
import MediaSync.Library.OutputDirectories
import MediaSync.Library.OutputPolicy
import MediaSync.Library.OutputRoots
import MediaSync.Library.RootHistory
import MediaSync.Security.OperatorAuth
import MediaSync.Security.OperatorCalls
import MediaSync.Security.OperatorSessions
import MediaSync.Security.OperatorFailures
import MediaSync.Security.OperatorBoundary
import MediaSync.Security.OperatorAuthority
import MediaSync.Observability.Segments
import MediaSync.Observability.LogCodec
import MediaSync.Foundation.FileTree
import MediaSync.Foundation.FileCalls
import MediaSync.Foundation.ProgramRuns
import MediaSync.Accounts.AdoptionAccount
import MediaSync.Accounts.AdoptionCalls
import MediaSync.Accounts.ProfileAdoption
import MediaSync.Accounts.AdoptionFrames
import MediaSync.Accounts.AdoptionExchange
import MediaSync.Accounts.AdoptionOutcome
import MediaSync.Foundation.Watermark
import MediaSync.Ingestion.Checkpoints
import MediaSync.Ingestion.CheckpointHistory
import MediaSync.Scheduler.CircuitPolicy
import MediaSync.Scheduler.ExactClaim
import MediaSync.Scheduler.LaneCircuit
import MediaSync.Foundation.Loop
import MediaSync.Foundation.ByteReader
import MediaSync.Ingestion.SyncService
import MediaSync.Ingestion.SyncAccounting
import MediaSync.Media.StaticImages
import MediaSync.Media.StaticWebp
import MediaSync.Foundation.Checks
import MediaSync.Security.Redaction
import MediaSync.Media.Locator
import MediaSync.Media.LocatorReads
import MediaSync.Media.SafeHttp
import MediaSync.Media.LocatorReloads
import MediaSync.Media.RedirectChains
import MediaSync.MediaServer.Lookup
import MediaSync.MediaServer.LookupEvidence
import MediaSync.MediaServer.StaticLibrary
import MediaSync.MediaServer.LookupVerdicts
import MediaSync.Foundation.ProgramTraces
import MediaSync.Media.RangeHeader
import MediaSync.Media.ArchivePreview
import MediaSync.Media.PreviewCalls
import MediaSync.Media.PreviewStreams
import MediaSync.Media.PreviewRuns
import MediaSync.MediaServer.Observation
import MediaSync.MediaServer.ObservationCalls
import MediaSync.MediaServer.ObservationSuccess
import MediaSync.MediaServer.ObservationPolls
import MediaSync.MediaServer.ObservationOutcomes
import MediaSync.MediaServer.ObservationRuns
import MediaSync.MediaServer.ObservationBounds
import MediaSync.Observability.Events
import MediaSync.Observability.LogCursors
import MediaSync.Observability.LogQuery
import MediaSync.Observability.LogNames
import MediaSync.Observability.LogTokens
import MediaSync.Observability.LogShelf
import MediaSync.Observability.LogStock
import MediaSync.Observability.LogScan
import MediaSync.Observability.LogPages
import MediaSync.Observability.LogRuns
import MediaSync.Observability.LogPaging
