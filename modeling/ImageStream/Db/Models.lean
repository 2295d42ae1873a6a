/-
# Tables of the archive database

One record for each row type and one keyed table for each relation. The primary
keys are part of the tables; the other uniqueness constraints are checked where
rows are inserted. `relay_v2_client_state` has one row at most, because every
statement addresses the row with the singleton id.

A session's list of source sessions, a member's surrogate id and the reports of
archive reconciliation are read by nothing here and are left out. `FrameSetMember`
rows are keyed by `source_frame_uid`, which is unique among them.
-/

import ImageStream.Sync.Models

namespace ImageStream

open Base

/-- The state of a capture session or a capture run. -/
inductive CaptureState
  | opened
  | closed
  deriving DecidableEq, Repr

inductive LiveState
  | eligible
  | offered
  | unresolved
  | accepted
  | started
  | rejected
  | completed
  | failed
  | recoveryRequired
  | expiredBeforeOffer
  | supersededBeforeOffer
  | sessionInactive
  deriving DecidableEq, Repr

inductive LegacyRelayState
  | notEnqueued
  | frameSetEnqueued
  | rawEnqueued
  deriving DecidableEq, Repr

structure CaptureSession where
  id : String
  state : CaptureState
  startedAtMs : ℤ
  closedAtMs : Option ℤ := none
  closeReason : Option String := none
  deriving DecidableEq

structure CaptureRun where
  id : String
  captureSessionId : String
  identityMode : IdentityMode
  state : CaptureState
  startedAtMs : ℤ
  closedAtMs : Option ℤ := none
  closeReason : Option String := none
  deriving DecidableEq

structure FrameSetManifest where
  frameSetUid : String
  captureSessionId : String
  captureRunId : String
  frameSetId : ℤ
  anchorTimestampMs : ℤ
  freshnessOriginMs : ℤ
  synchronizationSpanMs : ℤ
  manifestDigest : String
  manifestJson : String
  createdAtMs : ℤ
  syncWindowMs : ℤ := 0
  synchronizedAtMs : ℤ := 0
  memberCount : ℕ := 0
  tenantId : Option String := none
  siteId : Option String := none
  processingJobId : Option String := none
  profileDigest : Option String := none
  authorizedSubject : Option String := none
  sessionTokenJti : Option String := none
  deriving DecidableEq

structure FrameSetMember where
  frameSetUid : String
  frameId : Option ℤ
  sourceFrameUid : String
  sourceSessionId : String
  cameraStreamId : String
  frameSequence : ℤ
  captureTimestampMs : ℤ
  contentType : String
  imageSize : ℕ
  contentDigest : String
  filePath : String
  authorizedCameraId : Option String := none
  cameraClaimId : Option String := none
  authorizedSubject : Option String := none
  sessionTokenJti : Option String := none
  deriving DecidableEq

structure FrameSetDeliveryProjection where
  frameSetUid : String
  archiveState : ArchiveState
  liveState : LiveState
  legacyRelayState : LegacyRelayState
  lastReason : Option String
  updatedAtMs : ℤ
  deriving DecidableEq

structure RelayV2ClientState where
  inFlightFrameSetUid : Option String := none
  inFlightCreditId : Option String := none
  inFlightProcessorInstanceId : Option String := none
  inFlightStreamEpoch : Option String := none
  inFlightOfferedAtMs : Option ℤ := none
  watermarkCaptureRunId : Option String := none
  watermarkFrameSetId : Option ℤ := none
  watermarkFrameSetUid : Option String := none
  reofferFrameSetUid : Option String := none
  processingJobId : Option String := none
  processingJobCaptureRunId : Option String := none
  updatedAtMs : ℤ
  deriving DecidableEq

structure Frame where
  id : ℤ
  deviceId : String
  timestamp : ℤ
  filePath : Option String
  sourceSessionId : Option String := none
  cameraStreamId : Option String := none
  frameSequence : Option ℤ := none
  sourceFrameUid : Option String := none
  contentDigest : Option String := none
  identityMode : IdentityMode := .legacy
  archiveState : ArchiveState := .durable
  archiveError : Option String := none
  fileSize : Option ℤ := none
  contentType : Option String := none
  receivedAtMs : Option ℤ := none
  captureConfigDigest : Option String := none
  captureMetadataJson : Option String := none
  tenantId : Option String := none
  siteId : Option String := none
  captureSessionId : Option String := none
  processingJobId : Option String := none
  profileDigest : Option String := none
  authorizedSubject : Option String := none
  sessionTokenJti : Option String := none
  authorizedCameraId : Option String := none
  cameraClaimId : Option String := none
  deriving DecidableEq

/-- The committed content of the database. -/
structure Database where
  captureSessions : Table CaptureSession.id := .empty
  captureRuns : Table CaptureRun.id := .empty
  manifests : Table FrameSetManifest.frameSetUid := .empty
  members : Table FrameSetMember.sourceFrameUid := .empty
  projections : Table FrameSetDeliveryProjection.frameSetUid := .empty
  clientState : Option RelayV2ClientState := none
  frames : Table Frame.id := .empty
  deriving DecidableEq

namespace Database

/-- Update the projection of one frame set, by primary key. -/
def updateProjection (db : Database) (frameSetUid : String)
    (f : FrameSetDeliveryProjection → FrameSetDeliveryProjection)
    (hf : ∀ projection, (f projection).frameSetUid = projection.frameSetUid) : Database :=
  { db with projections := db.projections.update frameSetUid f hf }

@[simp]
theorem manifests_updateProjection (db : Database) (frameSetUid : String)
    (f : FrameSetDeliveryProjection → FrameSetDeliveryProjection)
    (hf : ∀ projection, (f projection).frameSetUid = projection.frameSetUid) :
    (db.updateProjection frameSetUid f hf).manifests = db.manifests := rfl

@[simp]
theorem clientState_updateProjection (db : Database) (frameSetUid : String)
    (f : FrameSetDeliveryProjection → FrameSetDeliveryProjection)
    (hf : ∀ projection, (f projection).frameSetUid = projection.frameSetUid) :
    (db.updateProjection frameSetUid f hf).clientState = db.clientState := rfl

/-- The live state of a frame set's projection. -/
def liveState? (db : Database) (frameSetUid : String) : Option LiveState :=
  (db.projections.find frameSetUid).map (·.liveState)

/-- The client state, whose columns are null while there is no row. -/
def client (db : Database) : RelayV2ClientState := db.clientState.getD { updatedAtMs := 0 }

/-- The frame set that is in flight. -/
def inFlight? (db : Database) : Option String := db.client.inFlightFrameSetUid

end Database

end ImageStream
