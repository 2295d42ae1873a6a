/-
# The synchronized frame-set matcher

`SyncMatcher.try_match` with everything it decides: the minimum-span sweep over
the cameras' buffers, the capture identity and authorization scope of the chosen
frames, the run that a set belongs to and the recent sets that later archive
completions still reach.

The sweep's binary heap only ever gives up its least entry, so it is modelled as
an ordered list. The clock reading and the fresh run id are inputs.
-/

import ImageStream.Sync.FrameBuffer
import Mathlib.Algebra.GroupWithZero.Nat
import Mathlib.Data.Prod.Lex

namespace ImageStream

open Base

/-! ## The minimum-span sweep -/

/-- One heap entry; it is ordered by its first four components. -/
structure HeapEntry where
  timestampMs : ℤ
  bufferKey : String
  deviceId : String
  index : ℕ
  frame : StoredSyncFrame

/-- What the tuples are compared by. -/
def HeapEntry.key (entry : HeapEntry) : ℤ ×ₗ String ×ₗ String ×ₗ ℕ :=
  toLex (entry.timestampMs, toLex (entry.bufferKey, toLex (entry.deviceId, entry.index)))

def heappush (heap : List HeapEntry) (entry : HeapEntry) : List HeapEntry :=
  heap.orderedInsert (fun first second => first.key ≤ second.key) entry

/-- The variables of the sweep. The best frames and the best span are set together. -/
structure SweepState where
  heap : List HeapEntry := []
  currentFrames : Dict String StoredSyncFrame := .empty
  currentMaxTimestampMs : Option ℤ := none
  best : Option (Dict String StoredSyncFrame × ℤ) := none

namespace SweepState

/-- Enter the first frame of one camera. -/
def enter (state : SweepState) (deviceId : String) (frame : StoredSyncFrame) : SweepState :=
  { state with
    currentFrames := state.currentFrames.set deviceId frame
    currentMaxTimestampMs :=
      match state.currentMaxTimestampMs with
      | none => some frame.timestampMs
      | some currentMax => some (max currentMax frame.timestampMs)
    heap := heappush state.heap ⟨frame.timestampMs, frame.bufferKey, deviceId, 0, frame⟩ }

/-- Replace the popped frame of one camera by the camera's next one. -/
def advance (state : SweepState) (heap : List HeapEntry) (currentMax : ℤ) (deviceId : String)
    (nextIndex : ℕ) (next : StoredSyncFrame) : SweepState :=
  { state with
    currentFrames := state.currentFrames.set deviceId next
    currentMaxTimestampMs := some (max currentMax next.timestampMs)
    heap := heappush heap ⟨next.timestampMs, next.bufferKey, deviceId, nextIndex, next⟩ }

/-- Whether a span is better than the best one so far. -/
def improvedBy (state : SweepState) (spanMs : ℤ) : Bool :=
  match state.best with
  | none => true
  | some (_, bestSpanMs) => decide (spanMs < bestSpanMs)

/-- Remember the current frames when their span is better. -/
def remember (state : SweepState) (spanMs : ℤ) : SweepState :=
  if state.improvedBy spanMs then { state with best := some (state.currentFrames, spanMs) }
  else state

end SweepState

/-- Enter one camera. No candidate list is empty here. -/
def SweepState.enterFirst (state : SweepState) (entry : String × List StoredSyncFrame) :
    SweepState :=
  match entry.2 with
  | frame :: _ => state.enter entry.1 frame
  | [] => state

/-- The sweep at the first frames of all candidate lists. -/
def sweepStart (candidateLists : Dict String (List StoredSyncFrame)) : SweepState :=
  candidateLists.rows.foldl SweepState.enterFirst {}

/-- The `while` loop. Each round that does not leave it moves one camera's index
forward, so the number of candidates bounds the rounds. -/
def sweep (candidateLists : Dict String (List StoredSyncFrame)) : ℕ → SweepState → SweepState
  | 0, state => state
  | fuel + 1, state =>
      match state.heap, state.currentMaxTimestampMs with
      | entry :: heap, some currentMax =>
          let spanMs := currentMax - entry.timestampMs
          let remembered := state.remember spanMs
          if state.improvedBy spanMs ∧ spanMs = 0 then
            remembered
          else
            match ((candidateLists.get? entry.deviceId).getD [])[entry.index + 1]? with
            | none => remembered
            | some next =>
                sweep candidateLists fuel
                  (remembered.advance heap currentMax entry.deviceId (entry.index + 1) next)
      | _, _ => state

/-- The number of candidates. -/
def candidateCount (candidateLists : Dict String (List StoredSyncFrame)) : ℕ :=
  (candidateLists.values.map List.length).sum

/-! ## The matcher -/

/-- The tenant, site, session, job and profile that one set must agree on. -/
structure AuthorizationGroup where
  tenantId : Option String
  siteId : Option String
  captureSessionId : Option String
  processingJobId : Option String
  profileDigest : Option String
  deriving DecidableEq

structure AuthorizationKey extends AuthorizationGroup where
  authorizedSubject : Option String
  sessionTokenJti : Option String
  deriving DecidableEq

structure SyncMatcher where
  expectedCameras : List String
  windowMs : ℤ
  recentLimit : ℕ := 20
  nextFrameSetId : ℤ := 1
  captureSessionId : Option String := none
  captureConfigKey : Option (List (String × String)) := none
  authorizationKey : Option AuthorizationKey := none
  captureRunId : String
  lastSynchronizedAtMs : ℤ := 0
  recentFrameSets : List SynchronizedFrameSet := []
  matchedCount : ℕ := 0
  missedCount : ℕ := 0
  ignoredCount : ℕ := 0
  lastFrameSetId : Option ℤ := none
  lastAnchorTimestampMs : Option ℤ := none
  lastMaxDeltaMs : Option ℤ := none
  lastSpanMs : Option ℤ := none
  lastWatermarkTimestampMs : Option ℤ := none
  droppedStaleCount : ℕ := 0
  droppedSupersededCount : ℕ := 0
  lastMissingCameras : List String := []
  lastReason : Option String := none
  lastIdentityMode : Option IdentityMode := none
  legacyIdentityCount : ℕ := 0
  lastArchiveState : Option ArchiveState := none
  lastArchiveError : Option String := none
  archiveDegradedCount : ℕ := 0

/-- The candidates of every expected camera that has some. -/
def candidateLists (expectedCameras : List String) (manager : SyncFrameBufferManager) :
    Dict String (List StoredSyncFrame) :=
  expectedCameras.foldl (fun lists deviceId =>
    if manager.availableFrames deviceId [] = [] then lists
    else lists.set deviceId (manager.availableFrames deviceId [])) .empty

/-- The expected cameras without a candidate. -/
def missingCameras (expectedCameras : List String) (manager : SyncFrameBufferManager) :
    List String :=
  expectedCameras.filter fun deviceId => manager.availableFrames deviceId [] = []

def SyncMatcher.selectMinSpanCandidate (matcher : SyncMatcher)
    (manager : SyncFrameBufferManager) :
    Option (Dict String StoredSyncFrame) × Option ℤ × List String :=
  let missing := missingCameras matcher.expectedCameras manager
  if missing ≠ [] then
    (none, none, missing)
  else
    let lists := candidateLists matcher.expectedCameras manager
    match (sweep lists (candidateCount lists) (sweepStart lists)).best with
    | none => (none, none, [])
    | some (bestFrames, bestSpanMs) =>
        if matcher.windowMs < bestSpanMs then (none, none, [])
        else (some bestFrames, some bestSpanMs, [])

/-! ## Identity and scope of a selection -/

inductive MatchError
  | frameScopeConflict (reason : String)
  | valueError (reason : ValueError)
  deriving DecidableEq, Repr

/-- Whether a frame has the whole V2 identity. -/
def StoredSyncFrame.identityComplete (frame : StoredSyncFrame) : Bool :=
  frame.identityMode = .v2 && truthy frame.sourceSessionId && truthy frame.cameraStreamId &&
    frame.sequence.isSome && truthy frame.sourceFrameUid && truthy frame.contentDigest

/-- The fields of an authorization scope. -/
def StoredSyncFrame.scopeFields (frame : StoredSyncFrame) : List (Option String) :=
  [frame.tenantId, frame.siteId, frame.captureSessionId, frame.processingJobId,
    frame.profileDigest, frame.authorizedSubject, frame.sessionTokenJti, frame.authorizedCameraId]

/-- Whether a frame carries any field of an authorization scope. -/
def StoredSyncFrame.carriesScope (frame : StoredSyncFrame) : Bool :=
  frame.scopeFields.any truthy

/-- Whether a frame carries every field of an authorization scope. -/
def StoredSyncFrame.scopeComplete (frame : StoredSyncFrame) : Bool :=
  frame.scopeFields.all truthy

def StoredSyncFrame.authorizationGroup (frame : StoredSyncFrame) : AuthorizationGroup where
  tenantId := frame.tenantId
  siteId := frame.siteId
  captureSessionId := frame.captureSessionId
  processingJobId := frame.processingJobId
  profileDigest := frame.profileDigest

def StoredSyncFrame.participant (frame : StoredSyncFrame) : Option String × Option String :=
  (frame.authorizedSubject, frame.sessionTokenJti)

/-- The scope check of a selection, with the key that it agrees on. -/
def resolveAuthorization (frames : List StoredSyncFrame) :
    Except MatchError (Option AuthorizationKey) :=
  match ((frames.filter StoredSyncFrame.carriesScope).map
      StoredSyncFrame.authorizationGroup).dedup with
  | [] => .ok none
  | group :: others =>
      if others ≠ [] ∨ ¬frames.all StoredSyncFrame.scopeComplete then
        .error (.frameScopeConflict "authorization scope conflict across frame set")
      else if ¬(frames.map (·.authorizedCameraId)).Nodup then
        .error (.frameScopeConflict "authorized camera was reused across frame set")
      else
        let memberScopedCredentials := frames.any fun frame => truthy frame.cameraClaimId
        if memberScopedCredentials ∧ frames.any fun frame => !truthy frame.cameraClaimId then
          .error (.frameScopeConflict "camera credential scope conflict across frame set")
        else
          let common :=
            match (frames.map StoredSyncFrame.participant).dedup with
            | [participant] => if memberScopedCredentials then (none, none) else participant
            | _ => (none, none)
          .ok (some
            { group with
              authorizedSubject := common.1
              sessionTokenJti := common.2 })

/-- What a selection is identified by. -/
structure CaptureIdentity where
  identityMode : IdentityMode
  captureSessionId : Option String := none
  captureConfigKey : Option (List (String × String)) := none
  authorizationKey : Option AuthorizationKey := none

def captureConfigKey (frames : List StoredSyncFrame) : List (String × String) :=
  (frames.map fun frame =>
    (frame.cameraStreamId.getD "", frame.captureConfigDigest.getD "")).insertionSort
      fun first second => pairLe first second

def resolveCaptureIdentity (frames : List StoredSyncFrame) :
    Except MatchError CaptureIdentity :=
  if ¬frames.all StoredSyncFrame.identityComplete then
    .ok { identityMode := .legacy }
  else
    match resolveAuthorization frames with
    | .error conflict => .error conflict
    | .ok (some authorizationKey) =>
        .ok
          { identityMode := .v2
            captureSessionId := authorizationKey.captureSessionId
            captureConfigKey := some (captureConfigKey frames)
            authorizationKey := some authorizationKey }
    | .ok none =>
        match buildCaptureSessionId (frames.map fun frame =>
            (frame.cameraStreamId.getD "", frame.sourceSessionId.getD "")) with
        | .error reason => .error (.valueError reason)
        | .ok captureSessionId =>
            .ok
              { identityMode := .v2
                captureSessionId := some captureSessionId
                captureConfigKey := some (captureConfigKey frames) }

/-! ## The manifest -/

def IdentityMode.text : IdentityMode → String
  | .legacy => "LEGACY"
  | .v2 => "V2"

/-- `min` over the timestamps of a selection, which is never empty. -/
def earliestTimestampMs (frames : List StoredSyncFrame) : ℤ :=
  ((frames.map (·.timestampMs)).min?).getD 0

/-- `max` over the timestamps of a selection, which is never empty. -/
def latestTimestampMs (frames : List StoredSyncFrame) : ℤ :=
  ((frames.map (·.timestampMs)).max?).getD 0

/-- `item.camera_stream_id or item.device_id`. -/
def StoredSyncFrame.memberName (frame : StoredSyncFrame) : String :=
  if truthy frame.cameraStreamId then frame.cameraStreamId.getD "" else frame.deviceId

def manifestMember (frame : StoredSyncFrame) : Json :=
  .obj
    [("device_id", .str frame.deviceId),
      ("source_session_id", .ofOption frame.sourceSessionId),
      ("camera_stream_id", .ofOption frame.cameraStreamId),
      ("frame_sequence", .ofOptionInt frame.sequence),
      ("source_frame_uid", .ofOption frame.sourceFrameUid),
      ("capture_timestamp_ms", .int frame.timestampMs),
      ("content_type", .str frame.contentType),
      ("image_size", .int frame.imageSize),
      ("content_digest", .ofOption frame.contentDigest),
      ("capture_config_digest", .ofOption frame.captureConfigDigest),
      ("authorized_camera_id", .ofOption frame.authorizedCameraId),
      ("camera_claim_id", .ofOption frame.cameraClaimId),
      ("authorized_subject", .ofOption frame.authorizedSubject),
      ("session_token_jti", .ofOption frame.sessionTokenJti),
      ("capture_metadata_json", .str (frame.captureMetadataJson.getD "{}"))]

def AuthorizationKey.toJson (key : AuthorizationKey) : Json :=
  .obj
    [("tenant_id", .ofOption key.tenantId),
      ("site_id", .ofOption key.siteId),
      ("capture_session_id", .ofOption key.captureSessionId),
      ("processing_job_id", .ofOption key.processingJobId),
      ("profile_digest", .ofOption key.profileDigest),
      ("authorized_subject", .ofOption key.authorizedSubject),
      ("session_token_jti", .ofOption key.sessionTokenJti)]

def buildManifestPayload (identity : CaptureIdentity) (frames : List StoredSyncFrame)
    (syncWindowMs synchronizationSpanMs anchorTimestampMs : ℤ) : Json :=
  .obj
    [("schema_version", .int 2),
      ("identity_mode", .str identity.identityMode.text),
      ("capture_session_id", .ofOption identity.captureSessionId),
      ("authorization",
        match identity.authorizationKey with
        | some key => key.toJson
        | none => .null),
      ("synchronization", .obj
        [("algorithm", .str "minimum-span-v1"),
          ("window_ms", .int syncWindowMs),
          ("span_ms", .int synchronizationSpanMs),
          ("anchor_timestamp_ms", .int anchorTimestampMs),
          ("freshness_origin_ms", .int (earliestTimestampMs frames))]),
      ("members", .arr ((frames.insertionSort fun first second =>
        first.memberName ≤ second.memberName).map manifestMember))]

/-! ## Matching -/

/-- The archive state of a set with these members, before its manifest is stored. -/
def archiveStateOf (members : List StoredSyncFrame) : ArchiveState :=
  if members.any fun member => member.archiveState = .degradedLiveOnly then .degradedLiveOnly
  else .pending

/-- The archive errors of the degraded members, sorted and without repetition. -/
def archiveErrorOf (members : List StoredSyncFrame) : Option String :=
  match members.filter fun member => member.archiveState = .degradedLiveOnly with
  | [] => none
  | degraded =>
      some (String.intercalate "; " (((degraded.map fun member =>
        if truthy member.archiveError then member.archiveError.getD ""
        else "member archive unavailable").dedup).insertionSort (· ≤ ·)))

namespace SyncMatcher

def recordMiss (matcher : SyncMatcher) (triggerFrame : StoredSyncFrame) (reason : String)
    (missing : List String) : SyncMatcher :=
  { matcher with
    missedCount := matcher.missedCount + 1
    lastAnchorTimestampMs := some triggerFrame.timestampMs
    lastMissingCameras := missing
    lastReason := some reason }

def dropStaleFrames (matcher : SyncMatcher) (manager : SyncFrameBufferManager) :
    SyncMatcher × SyncFrameBufferManager :=
  let latest := manager.latestTimestamps matcher.expectedCameras
  if latest.rows.length ≠ matcher.expectedCameras.length then
    (matcher, manager)
  else
    let watermark := latest.values.min?.getD 0
    let (kept, dropped) :=
      manager.dropFramesOlderThan matcher.expectedCameras (watermark - matcher.windowMs) []
    ({ matcher with
        lastWatermarkTimestampMs := some watermark
        droppedStaleCount := matcher.droppedStaleCount + dropped },
      kept)

/-- A miss with the cleaning up that follows it. -/
def miss (matcher : SyncMatcher) (manager : SyncFrameBufferManager)
    (triggerFrame : StoredSyncFrame) (reason : String) (missing : List String) :
    SyncMatcher × SyncFrameBufferManager × Except ValueError (Option SynchronizedFrameSet) :=
  let (matcher, manager) := (matcher.recordMiss triggerFrame reason missing).dropStaleFrames manager
  (matcher, manager, .ok none)

/-- Whether a selection belongs to another capture than the last one did. -/
def changesCapture (matcher : SyncMatcher) (identity : CaptureIdentity) : Bool :=
  identity.captureSessionId ≠ none && matcher.captureSessionId ≠ none &&
    (identity.captureSessionId ≠ matcher.captureSessionId ||
      identity.captureConfigKey ≠ matcher.captureConfigKey ||
      identity.authorizationKey ≠ matcher.authorizationKey)

/-- The matcher as the next set finds it: in the capture and the run of that set. -/
def enterCapture (matcher : SyncMatcher) (identity : CaptureIdentity) (freshRunId : String) :
    SyncMatcher :=
  let started :=
    if matcher.changesCapture identity then
      { matcher with captureRunId := freshRunId, nextFrameSetId := 1 }
    else
      matcher
  if identity.captureSessionId ≠ none then
    { started with
      captureSessionId := identity.captureSessionId
      captureConfigKey := identity.captureConfigKey
      authorizationKey := identity.authorizationKey }
  else
    started

/-- The frame set of a selection. -/
def buildFrameSet (matcher : SyncMatcher) (identity : CaptureIdentity)
    (selected : Dict String StoredSyncFrame) (spanMs synchronizedAtMs : ℤ) :
    SynchronizedFrameSet :=
  let anchorTimestampMs := latestTimestampMs selected.values
  let payload := buildManifestPayload identity selected.values matcher.windowMs spanMs
    anchorTimestampMs
  let manifestDigest := buildManifestDigest payload
  { frameSetId := matcher.nextFrameSetId
    anchorTimestampMs := anchorTimestampMs
    maxDeltaMs := spanMs
    frames := selected
    spanMs := some spanMs
    captureSessionId := identity.captureSessionId
    captureRunId := some matcher.captureRunId
    -- A digest is never blank, so the uid of one is always built.
    frameSetUid :=
      if identity.identityMode = .v2 then (buildFrameSetUid manifestDigest).toOption else none
    manifestDigest := some manifestDigest
    manifestJson := some (canonicalJson payload)
    identityMode := identity.identityMode
    archiveState := archiveStateOf selected.values
    archiveError := archiveErrorOf selected.values
    syncWindowMs := matcher.windowMs
    synchronizedAtMs := synchronizedAtMs
    memberCount := selected.rows.length
    tenantId := identity.authorizationKey.bind (·.tenantId)
    siteId := identity.authorizationKey.bind (·.siteId)
    processingJobId := identity.authorizationKey.bind (·.processingJobId)
    profileDigest := identity.authorizationKey.bind (·.profileDigest)
    authorizedSubject := identity.authorizationKey.bind (·.authorizedSubject)
    sessionTokenJti := identity.authorizationKey.bind (·.sessionTokenJti) }

/-- The matcher once a set has been emitted. -/
def recordMatch (matcher : SyncMatcher) (frameSet : SynchronizedFrameSet) : SyncMatcher :=
  { matcher with
    nextFrameSetId := matcher.nextFrameSetId + 1
    lastSynchronizedAtMs := frameSet.synchronizedAtMs
    matchedCount := matcher.matchedCount + 1
    lastFrameSetId := some frameSet.frameSetId
    lastAnchorTimestampMs := some frameSet.anchorTimestampMs
    lastMaxDeltaMs := some frameSet.maxDeltaMs
    lastSpanMs := frameSet.spanMs
    lastMissingCameras := []
    lastReason := some "matched"
    lastIdentityMode := some frameSet.identityMode
    legacyIdentityCount :=
      matcher.legacyIdentityCount + if frameSet.identityMode = .legacy then 1 else 0
    lastArchiveState := some frameSet.archiveState
    lastArchiveError := frameSet.archiveError
    archiveDegradedCount :=
      matcher.archiveDegradedCount + if frameSet.archiveState = .degradedLiveOnly then 1 else 0
    recentFrameSets := pushBounded matcher.recentLimit matcher.recentFrameSets frameSet }

/-- Emit the set of a selection whose identity is resolved. -/
def emit (matcher : SyncMatcher) (manager : SyncFrameBufferManager)
    (identity : CaptureIdentity) (selected : Dict String StoredSyncFrame) (spanMs nowMs : ℤ)
    (freshRunId : String) :
    SyncMatcher × SyncFrameBufferManager × Except ValueError (Option SynchronizedFrameSet) :=
  let (consumed, superseded) := manager.consumeThrough selected
  let counted : SyncMatcher := { matcher with
    droppedSupersededCount := matcher.droppedSupersededCount + superseded }
  let entered := counted.enterCapture identity freshRunId
  let frameSet := entered.buildFrameSet identity selected spanMs
    (max nowMs (matcher.lastSynchronizedAtMs + 1))
  let (finished, kept) := (entered.recordMatch frameSet).dropStaleFrames consumed
  (finished, kept, .ok (some frameSet))

def tryMatch (matcher : SyncMatcher) (manager : SyncFrameBufferManager)
    (triggerFrame : StoredSyncFrame) (nowMs : ℤ) (freshRunId : String) :
    SyncMatcher × SyncFrameBufferManager × Except ValueError (Option SynchronizedFrameSet) :=
  if matcher.expectedCameras = [] then
    (matcher.recordMiss triggerFrame "expected cameras are not configured" [], manager, .ok none)
  else if triggerFrame.deviceId ∉ matcher.expectedCameras then
    ({ matcher with
        ignoredCount := matcher.ignoredCount + 1
        lastAnchorTimestampMs := some triggerFrame.timestampMs
        lastMissingCameras := []
        lastReason := some ("unexpected camera: " ++ triggerFrame.deviceId) },
      manager, .ok none)
  else
    match matcher.selectMinSpanCandidate manager with
    | (_, _, missing@(_ :: _)) =>
        matcher.miss manager triggerFrame "missing cameras inside sync window" missing
    | (some selected, some spanMs, []) =>
        match resolveCaptureIdentity selected.values with
        | .error (.frameScopeConflict reason) => matcher.miss manager triggerFrame reason []
        -- Any other `ValueError` leaves the call as it is.
        | .error (.valueError reason) => (matcher, manager, .error reason)
        | .ok identity => matcher.emit manager identity selected spanMs nowMs freshRunId
    | _ => matcher.miss manager triggerFrame "no frame set inside sync window" []

/-! ## Archive completion of recent sets -/

def replaceRecentFrameSet (matcher : SyncMatcher) (updated : SynchronizedFrameSet) :
    SyncMatcher :=
  { matcher with
    recentFrameSets := matcher.recentFrameSets.map fun item =>
      if item.captureRunId = updated.captureRunId ∧ item.frameSetId = updated.frameSetId then
        updated
      else
        item }

/-- Record a changed archive state and put the changed set in its place. -/
def recordArchive (matcher : SyncMatcher) (frameSet updated : SynchronizedFrameSet) :
    SyncMatcher :=
  let recorded : SyncMatcher := { matcher with
    archiveDegradedCount := matcher.archiveDegradedCount +
      if frameSet.archiveState ≠ .degradedLiveOnly ∧ updated.archiveState = .degradedLiveOnly
        then 1 else 0
    lastArchiveState := some updated.archiveState
    lastArchiveError := updated.archiveError }
  recorded.replaceRecentFrameSet updated

def finalizeArchiveState (matcher : SyncMatcher) (frameSet : SynchronizedFrameSet)
    (state : ArchiveState) (error : Option String) : SyncMatcher × SynchronizedFrameSet :=
  let updated := { frameSet with archiveState := state, archiveError := error }
  (matcher.recordArchive frameSet updated, updated)

end SyncMatcher

/-- The entry of the first member with a frame's key. -/
def SynchronizedFrameSet.entryOf (frameSet : SynchronizedFrameSet) (bufferKey : String) :
    Option (String × StoredSyncFrame) :=
  frameSet.frames.rows.find? fun entry => entry.2.bufferKey = bufferKey

/-- A set with the member of a frame's key replaced by that frame. -/
def SynchronizedFrameSet.withMember (frameSet : SynchronizedFrameSet) (frame : StoredSyncFrame) :
    SynchronizedFrameSet :=
  let frames :=
    match frameSet.entryOf frame.bufferKey with
    | some entry => frameSet.frames.set entry.1 frame
    | none => frameSet.frames
  { frameSet with
    frames := frames
    archiveState := archiveStateOf frames.values
    archiveError := archiveErrorOf frames.values }

namespace SyncMatcher

def replaceFrameMember (matcher : SyncMatcher) (frameSet : SynchronizedFrameSet)
    (frame : StoredSyncFrame) : SyncMatcher × SynchronizedFrameSet :=
  let updated := frameSet.withMember frame
  (matcher.recordArchive frameSet updated, updated)

/-- The latest recent set that has a member with a frame's key. -/
def recentSetOf (matcher : SyncMatcher) (bufferKey : String) : Option SynchronizedFrameSet :=
  matcher.recentFrameSets.reverse.find? fun frameSet =>
    frameSet.members.any fun member => member.bufferKey = bufferKey

def replaceRecentFrameMember (matcher : SyncMatcher) (frame : StoredSyncFrame) :
    SyncMatcher × Option SynchronizedFrameSet :=
  match matcher.recentSetOf frame.bufferKey with
  | some frameSet =>
      let (matcher, updated) := matcher.replaceFrameMember frameSet frame
      (matcher, some updated)
  | none => (matcher, none)

end SyncMatcher

end ImageStream
