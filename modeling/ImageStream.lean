import ImageStream.Base.Machine
import ImageStream.Base.Table
import ImageStream.Base.Text
import ImageStream.Base.Digest
import ImageStream.Base.MinSpan
import ImageStream.Base.Matching
import ImageStream.Base.Custody
import ImageStream.Base.Standing
import ImageStream.Base.Watermark
import ImageStream.Base.WriteBack
import ImageStream.Base.Framing
import ImageStream.Base.Pieces
import ImageStream.Base.Action
import ImageStream.Base.Numbering
import ImageStream.Base.Latest
import ImageStream.Base.Canonical
import ImageStream.Base.Channel
import ImageStream.Base.Granting
import ImageStream.Base.Expiry
import ImageStream.Base.Rounds
import ImageStream.Base.Deque
import ImageStream.Base.Columns
import ImageStream.Base.Grid
import ImageStream.Base.Crew
import ImageStream.Base.Fifo
import ImageStream.Base.Acquiring
import ImageStream.Base.Gaps
import ImageStream.Base.ByKey
import ImageStream.Base.UuidText
import ImageStream.Identity
import ImageStream.Json
import ImageStream.Alerts.Receiver
import ImageStream.Alerts.ExactlyOnce
import ImageStream.Alerts.Replays
import ImageStream.Alerts.Acknowledgement
import ImageStream.Alerts.PhoneDelivery
import ImageStream.Alerts.PhoneQueues
import ImageStream.Alerts.PhonePublishing
import ImageStream.Sessions.Credentials
import ImageStream.Sessions.StatusCaches
import ImageStream.Sessions.TokenClaims
import ImageStream.Sessions.SigningKeys
import ImageStream.Sessions.SignedTokens
import ImageStream.Grpc.Gate
import ImageStream.Grpc.Stream
import ImageStream.Grpc.ScopeRejection
import ImageStream.Grpc.Streams
import ImageStream.Grpc.CollectionOwner
import ImageStream.Grpc.GateSafety
import ImageStream.Grpc.StreamAlone
import ImageStream.Grpc.IngestVerifier
import ImageStream.Grpc.IngestVouching
import ImageStream.Sync.Models
import ImageStream.Sync.FrameBuffer
import ImageStream.Sync.Matcher
import ImageStream.Sync.MinSpanSelect
import ImageStream.Sync.Service
import ImageStream.Sync.Availability
import ImageStream.Sync.Intake
import ImageStream.Sync.DeadPrefix
import ImageStream.Sync.StaleDropping
import ImageStream.Sync.Scope
import ImageStream.Sync.Monotone
import ImageStream.Sync.RecentSets
import ImageStream.Sync.CaptureIdentity
import ImageStream.Sync.Emission
import ImageStream.Sync.Accounting
import ImageStream.Sync.BufferIndex
import ImageStream.Sync.CaptureRuns
import ImageStream.Sync.Content
import ImageStream.Db.Models
import ImageStream.Db.Migrations
import ImageStream.Db.MigratedFrames
import ImageStream.Sync.ManifestStore
import ImageStream.Sync.ManifestAcceptance
import ImageStream.Sync.ManifestValidity
import ImageStream.Sync.ManifestText
import ImageStream.Sync.PersistRuns
import ImageStream.Sync.DistinctSets
import ImageStream.Sync.Eligibility
import ImageStream.Sync.OpenRuns
import ImageStream.Sync.Progress
import ImageStream.Sync.FrameMaps
import ImageStream.Sync.CredentialRefresh
import ImageStream.Sync.Live
import ImageStream.Frames.Service
import ImageStream.Frames.SourceIdentity
import ImageStream.Ingest.Mjpeg
import ImageStream.Ingest.Archive
import ImageStream.Ingest.Reconciliation
import ImageStream.Ingest.ExactReconciliation
import ImageStream.Ingest.Completion
import ImageStream.Ingest.LostUpdate
import ImageStream.Relay.LatestLive
import ImageStream.Relay.StoreRuns
import ImageStream.Relay.InFlight
import ImageStream.Relay.OfferOrder
import ImageStream.Relay.PersistRace
import ImageStream.Relay.StoredSets
import ImageStream.Relay.Reconnect
import ImageStream.Relay.StatusReconciliation
import ImageStream.Relay.Messages
import ImageStream.Relay.Protocol
import ImageStream.Relay.Provenance
import ImageStream.Relay.Connection
import ImageStream.Relay.ConnectionSteps
import ImageStream.Relay.ConnectionRuns
import ImageStream.Relay.Lease
import ImageStream.Relay.Backoff
import ImageStream.Relay.Openings
import ImageStream.Relay.Answers
import ImageStream.Relay.EligibleSets
import ImageStream.Relay.ImmediateRetries
import ImageStream.Relay.RunChange
import ImageStream.Relay.LegacyRelay
import ImageStream.Relay.LegacyThreads
import ImageStream.Relay.LegacyDelivery
import ImageStream.Relay.RelayCredentials
import ImageStream.Relay.CredentialIssuing
import ImageStream.Relay.CredentialRuns
import ImageStream.Alerts.ProcessingAlerts
import ImageStream.Ingest.CaptureTiming
import ImageStream.Ingest.SnapshotIngest
import ImageStream.Ingest.MjpegIngest
import ImageStream.Ingest.CameraState
import ImageStream.Ingest.CameraHistory
import ImageStream.Ingest.Pipeline
import ImageStream.Ingest.LiveIndependence
import ImageStream.Ingest.Interleaving
import ImageStream.Ingest.RecordedStates
