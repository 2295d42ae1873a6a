/-
# Frames and synchronized frame sets

The three frozen records of the synchronization layer. A stored frame is an input
frame together with its size and its key in the buffers. The frames of a set are
the dictionary from device id to member that the matcher selected.
-/

import ImageStream.Base.Table
import ImageStream.Identity

namespace ImageStream

open Base

inductive ArchiveState
  | pending
  | durable
  | degradedLiveOnly
  deriving DecidableEq, Repr

structure SyncInputFrame where
  frameId : Option ℤ
  deviceId : String
  timestampMs : ℤ
  sequence : Option ℤ
  contentType : String
  imageBytes : List UInt8
  filePath : Option String
  sourceSessionId : Option String := none
  cameraStreamId : Option String := none
  sourceFrameUid : Option String := none
  contentDigest : Option String := none
  identityMode : IdentityMode := .legacy
  archiveState : ArchiveState := .pending
  archiveError : Option String := none
  receivedAtMs : Option ℤ := none
  captureConfigDigest : Option String := none
  captureMetadataJson : Option String := none
  tenantId : Option String := none
  siteId : Option String := none
  captureSessionId : Option String := none
  processingJobId : Option String := none
  profileDigest : Option String := none
  authorizedSubject : Option String := none
  sessionTokenJti : Option String := none
  authorizedCameraId : Option String := none
  cameraClaimId : Option String := none
  deriving DecidableEq

structure StoredSyncFrame extends SyncInputFrame where
  imageSize : ℕ
  bufferKey : String := ""
  deriving DecidableEq

structure SynchronizedFrameSet where
  frameSetId : ℤ
  anchorTimestampMs : ℤ
  maxDeltaMs : ℤ
  frames : Dict String StoredSyncFrame
  spanMs : Option ℤ := none
  captureSessionId : Option String := none
  captureRunId : Option String := none
  frameSetUid : Option String := none
  manifestDigest : Option String := none
  manifestJson : Option String := none
  identityMode : IdentityMode := .legacy
  archiveState : ArchiveState := .pending
  archiveError : Option String := none
  syncWindowMs : ℤ := 0
  synchronizedAtMs : ℤ := 0
  memberCount : ℕ := 0
  tenantId : Option String := none
  siteId : Option String := none
  processingJobId : Option String := none
  profileDigest : Option String := none
  authorizedSubject : Option String := none
  sessionTokenJti : Option String := none
  deriving DecidableEq

/-- The members of a set, in the order of the expected cameras. -/
def SynchronizedFrameSet.members (frameSet : SynchronizedFrameSet) : List StoredSyncFrame :=
  frameSet.frames.values

/-- `replace(frame, frame_id=…, file_path=…, archive_state=…, archive_error=…)`. -/
def StoredSyncFrame.withArchive (frame : StoredSyncFrame) (frameId : Option ℤ)
    (filePath : Option String) (archiveState : ArchiveState) (archiveError : Option String) :
    StoredSyncFrame :=
  { frame with
    frameId := frameId
    filePath := filePath
    archiveState := archiveState
    archiveError := archiveError }

@[simp]
theorem StoredSyncFrame.bufferKey_withArchive (frame : StoredSyncFrame) (frameId : Option ℤ)
    (filePath : Option String) (archiveState : ArchiveState) (archiveError : Option String) :
    (frame.withArchive frameId filePath archiveState archiveError).bufferKey =
      frame.bufferKey := rfl

@[simp]
theorem StoredSyncFrame.withArchive_withArchive (frame : StoredSyncFrame)
    (frameId frameId' : Option ℤ) (filePath filePath' : Option String)
    (archiveState archiveState' : ArchiveState) (archiveError archiveError' : Option String) :
    (frame.withArchive frameId filePath archiveState archiveError).withArchive frameId' filePath'
        archiveState' archiveError' =
      frame.withArchive frameId' filePath' archiveState' archiveError' := rfl

end ImageStream
