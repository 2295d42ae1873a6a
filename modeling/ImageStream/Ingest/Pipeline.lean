/-
# Ingesting a frame

`ingest_frame` from its arguments to its result. The frame goes to the synchronization
service first, and a set that it completes to the legacy relay; only then is the payload
archived, and the outcome is written back into the service, the camera's state, the set and
the database. What the archive does in a call is an input of its own, apart from the
arguments.

The canonical form of the capture metadata and its digest are taken as computed. The
experiment recorder is left out.
-/

import ImageStream.Grpc.Stream
import ImageStream.Ingest.Archive
import ImageStream.Ingest.CameraState
import ImageStream.Ingest.Completion
import ImageStream.Relay.LegacyRelay

namespace ImageStream

open Base

/-! ## The relay mode -/

inductive StreamRelayMode
  | off
  | raw
  | frameSet
  deriving DecidableEq, Repr

/-- What `ingest_frame` raises. -/
inductive IngestError
  | valueError (reason : ValueError)
  | runtimeError (reason : String)
  | relay (e : RelayError)

def normalizeStreamRelayMode (mode : String) : Except IngestError StreamRelayMode :=
  -- No letter outside ASCII is lowered to one of these words.
  match (strip mode).toLower with
  | "off" => .ok .off
  | "raw" => .ok .raw
  | "frame_set" => .ok .frameSet
  | _ => .error (.runtimeError "STREAM_RELAY_MODE must be one of: off, raw, frame_set")

def resolveIngestRelayMode (relayMode : Option String) (relayEnabled frameSetRelayEnabled : Bool) :
    Except IngestError StreamRelayMode :=
  match relayMode with
  | some mode => normalizeStreamRelayMode mode
  | none => .ok (if frameSetRelayEnabled then .frameSet else if relayEnabled then .raw else .off)

/-! ## Arguments -/

/-- The arguments of a call, with the clocks that it reads and the run id that a rotation would
draw. -/
structure IngestArguments where
  deviceId : String
  timestampMs : ℤ
  imageBytes : List UInt8
  sequence : Option ℤ := none
  contentType : String := "image/jpeg"
  filename : Option String := none
  sessionId : Option String := none
  cameraStreamId : Option String := none
  relayMode : Option String := none
  receivedAtMs : Option ℤ := none
  captureMetadataJson : String := "\x7b\x7d"
  captureConfigDigest : String := sha256Bytes (encodeUtf8 "\x7b\x7d")
  authorizationScope : Option AuthorizationScope := none
  /-- The clock at the start of the call. -/
  startedMs : ℤ
  /-- The clock of the matcher. -/
  synchronizedMs : ℤ
  /-- The clock of the camera's state. -/
  updatedMs : ℤ
  freshRunId : String

/-- What the archive does in one call: the path, the writing, the frame's row, the manifest and
the delivery projection may each fail. -/
structure ArchiveEvents where
  pathError : Option String := none
  faults : ArchiveFaults := {}
  /-- An exception of the database while the manifest is stored. -/
  manifestError : Option String := none
  manifestMs : ℤ := 0
  projectionFails : Bool := false
  projectionMs : ℤ := 0

namespace IngestArguments

def resolvedReceivedAtMs (call : IngestArguments) : ℤ := call.receivedAtMs.getD call.startedMs

def targetFilename (call : IngestArguments) : String :=
  if truthy call.filename then call.filename.getD ""
  else call.deviceId ++ "_" ++ toString call.timestampMs ++ ".jpg"

def resolvedCameraStreamId (call : IngestArguments) : Except ValueError (Option String) :=
  if truthy call.sessionId ∧ call.sequence.isSome then
    (canonicalCameraStreamId call.deviceId call.cameraStreamId).map some
  else
    .ok call.cameraStreamId

end IngestArguments

/-- `_authorization_scope_fields`, put into a frame. -/
def SyncInputFrame.withScope (frame : SyncInputFrame) (authorizedCameraId : Option String) :
    Option AuthorizationScope → SyncInputFrame
  | none => frame
  | some (.session scope) =>
      { frame with
        tenantId := some scope.tenantId
        siteId := some scope.siteId
        captureSessionId := some scope.captureSessionId
        processingJobId := some scope.processingJobId
        profileDigest := some scope.profileDigest
        authorizedSubject := some scope.authorizedSubject
        sessionTokenJti := some scope.tokenJti
        authorizedCameraId := authorizedCameraId }
  | some (.camera scope) =>
      { frame with
        tenantId := some scope.tenantId
        siteId := some scope.siteId
        captureSessionId := some scope.captureSessionId
        processingJobId := some scope.processingJobId
        profileDigest := some scope.profileDigest
        authorizedSubject := some scope.authorizedSubject
        sessionTokenJti := some scope.tokenJti
        authorizedCameraId := authorizedCameraId
        cameraClaimId := some scope.cameraClaimId }

/-- The frame as it is handed to the synchronization service. -/
def IngestArguments.memoryFrame (call : IngestArguments) : Except ValueError SyncInputFrame := do
  let cameraStreamId ← call.resolvedCameraStreamId
  let contentDigest := sha256Bytes call.imageBytes
  let (sourceFrameUid, identityMode) ← resolveFrameIdentity call.sessionId cameraStreamId
    call.sequence (some contentDigest)
  let frame : SyncInputFrame :=
    { frameId := none
      deviceId := call.deviceId
      timestampMs := call.timestampMs
      sequence := call.sequence
      contentType := call.contentType
      imageBytes := call.imageBytes
      filePath := none
      sourceSessionId := call.sessionId
      cameraStreamId := cameraStreamId
      sourceFrameUid := sourceFrameUid
      contentDigest := some contentDigest
      identityMode := identityMode
      archiveState := .pending
      receivedAtMs := some call.resolvedReceivedAtMs
      captureConfigDigest := some call.captureConfigDigest
      captureMetadataJson := some call.captureMetadataJson }
  return frame.withScope call.cameraStreamId call.authorizationScope

/-- What is archived of a frame. -/
def IngestArguments.archiveCall (call : IngestArguments) (frame : SyncInputFrame)
    (events : ArchiveEvents) : ArchiveCall where
  deviceId := frame.deviceId
  timestampMs := frame.timestampMs
  imageBytes := frame.imageBytes
  filename := call.targetFilename
  sessionId := frame.sourceSessionId
  cameraStreamId := frame.cameraStreamId
  frameSequence := frame.sequence
  contentType := some frame.contentType
  receivedAtMs := frame.receivedAtMs
  captureConfigDigest := frame.captureConfigDigest
  captureMetadataJson := frame.captureMetadataJson
  tenantId := frame.tenantId
  siteId := frame.siteId
  captureSessionId := frame.captureSessionId
  processingJobId := frame.processingJobId
  profileDigest := frame.profileDigest
  authorizedSubject := frame.authorizedSubject
  sessionTokenJti := frame.sessionTokenJti
  authorizedCameraId := frame.authorizedCameraId
  cameraClaimId := frame.cameraClaimId
  pathError := events.pathError
  faults := events.faults

/-! ## State and result -/

/-- What a call works on besides the archive. -/
structure LivePipeline where
  sync : StreamSyncService
  cameras : CameraStates := .empty
  relay : RelayService RelayFrame := {}
  frameSetRelay : RelayService RelayFrameSet := {}

structure IngestPipeline extends LivePipeline where
  archive : FrameArchive := {}

structure IngestResult where
  frame : Option Frame
  cameraState : CameraStreamState
  archiveState : ArchiveState
  archiveError : Option String
  relayEnqueued : Bool
  relayMode : StreamRelayMode
  synchronizedFrameSet : Option SynchronizedFrameSet
  manifestPersisted : Bool
  frameSetRelayEnqueued : Bool

/-- The frame with the outcome of its archive. -/
def SyncInputFrame.withOutcome (frame : SyncInputFrame) (outcome : FrameArchiveOutcome) :
    SyncInputFrame :=
  { frame with
    frameId := outcome.frame.map (·.id)
    filePath := outcome.filePath
    archiveState := outcome.state
    archiveError := outcome.error }

/-- What the camera's state is told of a frame. -/
def IngestArguments.streamFrame (call : IngestArguments) (frame : SyncInputFrame) :
    StreamFrameState where
  frameId := frame.frameId
  deviceId := frame.deviceId
  timestamp := frame.timestampMs
  sequence := frame.sequence
  filePath := frame.filePath
  contentType := frame.contentType
  imageBytesSize := frame.imageBytes.length
  receivedAtMs := call.receivedAtMs.getD call.updatedMs
  archiveState := frame.archiveState
  archiveError := frame.archiveError

/-! ## The stages of a call -/

/-- The message of a set is built whether or not the relay takes it. -/
def enqueueFrameSet (service : RelayService RelayFrameSet) (mode : StreamRelayMode)
    (frameSet : Option SynchronizedFrameSet) :
    Except RelayError (RelayService RelayFrameSet × Bool) :=
  match mode, frameSet with
  | .frameSet, some frameSet => (buildRelayFrameSet frameSet).map service.enqueue
  | _, _ => .ok (service, false)

def enqueueRaw (service : RelayService RelayFrame) (mode : StreamRelayMode)
    (frame : SyncInputFrame) : Except RelayError (RelayService RelayFrame × Bool) :=
  match mode with
  | .raw => (buildRawRelayFrame frame).map service.enqueue
  | _ => .ok (service, false)

/-- The manifest of a set: the database, whether a manifest was inserted, and the set's archive
state with its error. -/
def archiveManifest (libraryText : ManifestError → String) (db : Database)
    (events : ArchiveEvents) (frameSet : SynchronizedFrameSet) :
    Database × Bool × ArchiveState × Option String :=
  if frameSet.archiveState ≠ .pending then
    (db, false, frameSet.archiveState, frameSet.archiveError)
  else if frameSet.identityMode ≠ .v2 then
    (db, false, .durable, frameSet.archiveError)
  else
    match events.manifestError with
    | some text => (db, false, .degradedLiveOnly, some ("manifest archive failed: " ++ text))
    | none =>
        match persistFrameSetManifest db frameSet none events.manifestMs with
        | (db, .ok persisted) => (db, persisted, .durable, none)
        | (db, .error e) => (db, false, .degradedLiveOnly, some (manifestFailure libraryText e))

/-- What the delivery projection is told of the legacy relay. -/
def legacyProjection (mode : StreamRelayMode) (relayEnqueued frameSetRelayEnqueued : Bool) :
    LegacyRelayState × Option String :=
  match mode, frameSetRelayEnqueued, relayEnqueued with
  | .frameSet, true, _ => (.frameSetEnqueued, none)
  | .frameSet, false, _ => (.notEnqueued, some "FRAME_SET_RELAY_NOT_ENQUEUED")
  | .raw, _, true => (.rawEnqueued, none)
  | .raw, _, false => (.notEnqueued, some "LEGACY_RAW_RELAY_NOT_ENQUEUED")
  | .off, _, _ => (.notEnqueued, none)

/-- The delivery projection of a set whose manifest is durable. A failure is rolled back. -/
def projectDelivery (db : Database) (events : ArchiveEvents) (frameSet : SynchronizedFrameSet)
    (state : ArchiveState) (legacy : LegacyRelayState × Option String) : Database :=
  if truthy frameSet.frameSetUid ∧ state = .durable ∧ events.projectionFails = false then
    (updateDeliveryProjection db frameSet.uid
      { archiveState := some state
        legacyRelayState := some legacy.1
        reason := legacy.2 }
      events.projectionMs).1
  else
    db

/-- Everything after the camera's state and the raw relay: the set that the frame belongs to is
archived and its state is written back. -/
def completeFrameSet (libraryText : ManifestError → String) (sync : StreamSyncService)
    (db : Database) (events : ArchiveEvents) (legacy : LegacyRelayState × Option String) :
    Option SynchronizedFrameSet →
      StreamSyncService × Database × Option SynchronizedFrameSet × Bool
  | none => (sync, db, none, false)
  | some frameSet =>
      let (stored, persisted, state, error) := archiveManifest libraryText db events frameSet
      let (finalized, updated) := sync.finalizeArchiveState frameSet state error
      (finalized, projectDelivery stored events updated state legacy, some updated, persisted)

/-- `ingest_frame`. A call that raises leaves what it has done so far. -/
def ingestFrame (buildFramePath : FramePath) (libraryText : ManifestError → String)
    (s : IngestPipeline) (call : IngestArguments) (events : ArchiveEvents) :
    IngestPipeline × Except IngestError IngestResult :=
  match call.memoryFrame with
  | .error reason => (s, .error (.valueError reason))
  | .ok frame =>
  match resolveIngestRelayMode call.relayMode s.relay.enabled s.frameSetRelay.enabled with
  | .error e => (s, .error e)
  | .ok mode =>
  match s.sync.handleFrame frame call.synchronizedMs call.freshRunId with
  | (sync, .error reason) => ({ s with sync := sync }, .error (.valueError reason))
  | (sync, .ok emitted) =>
  match enqueueFrameSet s.frameSetRelay mode emitted with
  | .error e => ({ s with sync := sync }, .error (.relay e))
  | .ok (frameSetRelay, frameSetRelayEnqueued) =>
  let (archive, outcome) := archiveStep buildFramePath s.archive (call.archiveCall frame events)
  let syncInput := frame.withOutcome outcome
  let (finalized, completed) := sync.finalizeFrameArchive frame emitted syncInput.frameId
    syncInput.filePath syncInput.archiveState syncInput.archiveError
  let (cameras, camera) := s.cameras.updateFrame (call.streamFrame syncInput)
  let reached : IngestPipeline :=
    { sync := finalized
      cameras := cameras
      relay := s.relay
      frameSetRelay := frameSetRelay
      archive := archive }
  match enqueueRaw s.relay mode syncInput with
  | .error e => (reached, .error (.relay e))
  | .ok (relay, relayEnqueued) =>
  let (settled, db, frameSet, persisted) := completeFrameSet libraryText finalized archive.db
    events (legacyProjection mode relayEnqueued frameSetRelayEnqueued) completed
  ({ reached with
      sync := settled
      relay := relay
      archive := { archive with db := db } },
    .ok
      { frame := outcome.frame
        cameraState := camera
        archiveState := (frameSet.map (·.archiveState)).getD outcome.state
        archiveError := (frameSet.map (·.archiveError)).getD outcome.error
        relayEnqueued := relayEnqueued
        relayMode := mode
        synchronizedFrameSet := frameSet
        manifestPersisted := persisted
        frameSetRelayEnqueued := frameSetRelayEnqueued })

/-! ## Runs -/

def ingestStep (buildFramePath : FramePath) (libraryText : ManifestError → String)
    (s : IngestPipeline) (input : IngestArguments × ArchiveEvents) :
    IngestPipeline × Except IngestError IngestResult :=
  ingestFrame buildFramePath libraryText s input.1 input.2

abbrev IngestExchange : Type :=
  Exchange IngestPipeline (IngestArguments × ArchiveEvents) (Except IngestError IngestResult)

end ImageStream
