/-
# The latest-only live store

`LatestLiveStore` keeps at most one frame set in flight. Every method is one
transaction, so it is a function from databases to databases; a method that raises
commits nothing. Timestamps are inputs.
-/

import ImageStream.Base.Machine
import ImageStream.Sync.ManifestStore

namespace ImageStream

open Base

structure FrameSetKey where
  captureRunId : String
  frameSetId : ℤ
  frameSetUid : String
  deriving DecidableEq

structure CreditIdentity where
  processorInstanceId : String
  streamEpoch : String
  creditId : String
  deriving DecidableEq

structure LiveFrameMember where
  sourceFrameUid : String
  sourceSessionId : String
  cameraStreamId : String
  frameSequence : ℤ
  captureTimestampMs : ℤ
  contentType : String
  imageSize : ℕ
  contentDigest : String
  filePath : String
  authorizedCameraId : Option String
  cameraClaimId : Option String
  authorizedSubject : Option String
  sessionTokenJti : Option String
  deriving DecidableEq

structure ClaimedFrameSet where
  key : FrameSetKey
  credit : CreditIdentity
  captureSessionId : String
  anchorTimestampMs : ℤ
  freshnessOriginMs : ℤ
  synchronizationSpanMs : ℤ
  synchronizedAtMs : ℤ
  manifestDigest : String
  manifestJson : String
  offeredAtMs : ℤ
  members : List LiveFrameMember
  tenantId : Option String
  siteId : Option String
  processingJobId : Option String
  profileDigest : Option String
  authorizedSubject : Option String
  sessionTokenJti : Option String
  deriving DecidableEq

/-- What a method raises. -/
inductive StoreError
  | runtimeError (reason : String)
  | valueError (reason : String)
  /-- An attribute of a missing projection is assigned. -/
  | attributeError
  deriving DecidableEq, Repr

def LiveState.text : LiveState → String
  | .eligible => "ELIGIBLE"
  | .offered => "OFFERED"
  | .unresolved => "UNRESOLVED"
  | .accepted => "ACCEPTED"
  | .started => "STARTED"
  | .rejected => "REJECTED"
  | .completed => "COMPLETED"
  | .failed => "FAILED"
  | .recoveryRequired => "RECOVERY_REQUIRED"
  | .expiredBeforeOffer => "EXPIRED_BEFORE_OFFER"
  | .supersededBeforeOffer => "SUPERSEDED_BEFORE_OFFER"
  | .sessionInactive => "SESSION_INACTIVE"

def FrameSetManifest.key (manifest : FrameSetManifest) : FrameSetKey where
  captureRunId := manifest.captureRunId
  frameSetId := manifest.frameSetId
  frameSetUid := manifest.frameSetUid

namespace RelayV2ClientState

/-- The state with nothing in flight. -/
def released (state : RelayV2ClientState) : RelayV2ClientState :=
  { state with
    inFlightFrameSetUid := none
    inFlightCreditId := none
    inFlightProcessorInstanceId := none
    inFlightStreamEpoch := none
    inFlightOfferedAtMs := none }

/-- The state with a manifest in flight for a credit. -/
def claiming (state : RelayV2ClientState) (manifest : FrameSetManifest) (credit : CreditIdentity)
    (timestampMs : ℤ) : RelayV2ClientState :=
  { state with
    inFlightFrameSetUid := some manifest.frameSetUid
    inFlightCreditId := some credit.creditId
    inFlightProcessorInstanceId := some credit.processorInstanceId
    inFlightStreamEpoch := some credit.streamEpoch
    inFlightOfferedAtMs := some timestampMs
    watermarkCaptureRunId := some manifest.captureRunId
    watermarkFrameSetId := some manifest.frameSetId
    watermarkFrameSetUid := some manifest.frameSetUid
    reofferFrameSetUid := none
    updatedAtMs := timestampMs }

end RelayV2ClientState

/-- A projection moved to a live state. -/
def FrameSetDeliveryProjection.moved (liveState : LiveState) (reason : Option String)
    (timestampMs : ℤ) (projection : FrameSetDeliveryProjection) : FrameSetDeliveryProjection :=
  { projection with liveState := liveState, lastReason := reason, updatedAtMs := timestampMs }

def FrameSetMember.live (member : FrameSetMember) : LiveFrameMember where
  sourceFrameUid := member.sourceFrameUid
  sourceSessionId := member.sourceSessionId
  cameraStreamId := member.cameraStreamId
  frameSequence := member.frameSequence
  captureTimestampMs := member.captureTimestampMs
  contentType := member.contentType
  imageSize := member.imageSize
  contentDigest := member.contentDigest
  filePath := member.filePath
  authorizedCameraId := member.authorizedCameraId
  cameraClaimId := member.cameraClaimId
  authorizedSubject := member.authorizedSubject
  sessionTokenJti := member.sessionTokenJti

namespace LatestLive

def ensureStateRow (db : Database) (timestampMs : ℤ) : Database :=
  match db.clientState with
  | some _ => db
  | none => { db with clientState := some { updatedAtMs := timestampMs } }

def newestEligible (db : Database) (state : RelayV2ClientState) :
    Except StoreError (Option FrameSetManifest) :=
  match getNewestEligibleManifest db, state.watermarkFrameSetUid with
  | none, _ => .ok none
  | some candidate, none => .ok (some candidate)
  | some candidate, some watermarkUid =>
      if some candidate.frameSetUid = state.reofferFrameSetUid then
        .ok (some candidate)
      else
        match db.manifests.find watermarkUid with
        | none => .error (.runtimeError "relay v2 offered watermark manifest is missing")
        | some watermark =>
            if candidate.captureRunId = watermark.captureRunId then
              .ok (if watermark.frameSetId < candidate.frameSetId then some candidate else none)
            else
              .ok (if watermark.order < candidate.order then some candidate else none)

def snapshot (db : Database) (manifest : FrameSetManifest) (credit : CreditIdentity)
    (offeredAtMs : ℤ) : ClaimedFrameSet where
  key := manifest.key
  credit := credit
  captureSessionId := manifest.captureSessionId
  anchorTimestampMs := manifest.anchorTimestampMs
  freshnessOriginMs := manifest.freshnessOriginMs
  synchronizationSpanMs := manifest.synchronizationSpanMs
  synchronizedAtMs := manifest.synchronizedAtMs
  manifestDigest := manifest.manifestDigest
  manifestJson := manifest.manifestJson
  offeredAtMs := offeredAtMs
  members := ((db.members.rows.filter fun member =>
    member.frameSetUid = manifest.frameSetUid).insertionSort fun first second =>
      first.cameraStreamId ≤ second.cameraStreamId).map FrameSetMember.live
  tenantId := manifest.tenantId
  siteId := manifest.siteId
  processingJobId := manifest.processingJobId
  profileDigest := manifest.profileDigest
  authorizedSubject := manifest.authorizedSubject
  sessionTokenJti := manifest.sessionTokenJti

/-- The two guarded updates of a claim, with whether both found their row. -/
def claimCandidate (db : Database) (state : RelayV2ClientState) (candidate : FrameSetManifest)
    (credit : CreditIdentity) (timestampMs : ℤ) : Option Database :=
  if state.inFlightFrameSetUid = none ∧ isEligible db candidate then
    some
      { db.updateProjection candidate.frameSetUid (·.moved .offered none timestampMs)
          fun _ => rfl with
        clientState := some (state.claiming candidate credit timestampMs) }
  else
    none

def claimLatest (db : Database) (credit : CreditIdentity) (timestampMs : ℤ) :
    Database × Except StoreError (Option ClaimedFrameSet) :=
  let ensured := ensureStateRow db timestampMs
  let state := ensured.client
  if state.inFlightFrameSetUid ≠ none then
    (ensured, .ok none)
  else
    match newestEligible ensured state with
    | .error e => (db, .error e)
    | .ok none => (ensured, .ok none)
    | .ok (some candidate) =>
        match claimCandidate ensured state candidate credit timestampMs with
        | none => (db, .ok none)
        | some claimed => (claimed, .ok (some (snapshot claimed candidate credit timestampMs)))

/-- Whether a key is the key of the set in flight, in all its parts. -/
def matchesCurrent (db : Database) (key : FrameSetKey) : Bool :=
  db.clientState.any fun state =>
    state.inFlightFrameSetUid = some key.frameSetUid &&
      (db.manifests.find key.frameSetUid).any fun manifest => manifest.key = key

/-- Move the projection of the set in flight, and change the client state. -/
def moveCurrent (db : Database) (key : FrameSetKey) (liveState : LiveState)
    (reason : Option String) (timestampMs : ℤ)
    (change : RelayV2ClientState → RelayV2ClientState) : Database × Except StoreError Bool :=
  if ¬matchesCurrent db key then
    (db, .ok false)
  else
    match db.projections.find key.frameSetUid with
    | none => (db, .error .attributeError)
    | some _ =>
        ({ db.updateProjection key.frameSetUid (·.moved liveState reason timestampMs)
            fun _ => rfl with
          clientState := some { change db.client with updatedAtMs := timestampMs } },
          .ok true)

def transitionCurrent (db : Database) (key : FrameSetKey) (liveState : LiveState)
    (reason : Option String) (release : Bool) (timestampMs : ℤ) :
    Database × Except StoreError Bool :=
  moveCurrent db key liveState reason timestampMs fun state =>
    if release then state.released else state

/-- The default reason is `TRANSPORT_DISCONNECTED`. -/
def markUnresolved (db : Database) (key : FrameSetKey) (reason : String) (timestampMs : ℤ) :
    Database × Except StoreError Bool :=
  transitionCurrent db key .unresolved (some reason) false timestampMs

/-- The states that a remote status may report. -/
def isRemoteStatus : LiveState → Bool
  | .accepted | .started | .rejected | .completed | .failed | .recoveryRequired => true
  | _ => false

/-- The reported states that end a set's flight. -/
def isReleasing : LiveState → Bool
  | .rejected | .completed | .failed | .recoveryRequired => true
  | _ => false

/-- The state is the one that the text names once it is stripped and upper-cased. -/
def applyRemoteStatus (db : Database) (key : FrameSetKey) (state : LiveState)
    (reason : Option String) (timestampMs : ℤ) : Database × Except StoreError Bool :=
  if ¬isRemoteStatus state then
    (db, .error (.valueError ("unsupported relay v2 status: " ++ state.text)))
  else
    transitionCurrent db key state reason (isReleasing state) timestampMs

def releaseBeforeSend (db : Database) (key : FrameSetKey) (state : LiveState) (reason : String)
    (timestampMs : ℤ) : Database × Except StoreError Bool :=
  if state ≠ .expiredBeforeOffer ∧ state ≠ .rejected then
    (db, .error (.valueError ("unsupported pre-send state: " ++ state.text)))
  else
    transitionCurrent db key state (some reason) true timestampMs

/-- The states that the relay client retires manifests to. -/
inductive RetiredState
  | sessionInactive
  | rejected
  deriving DecidableEq, Repr

def RetiredState.live : RetiredState → LiveState
  | .sessionInactive => .sessionInactive
  | .rejected => .rejected

/-- The default reason is `RELAY_CREDENTIAL_SESSION_INACTIVE`. -/
def retireEligible (db : Database) (key : FrameSetKey) (state : RetiredState) (reason : String)
    (timestampMs : ℤ) : Database × Bool :=
  if ¬(db.manifests.find key.frameSetUid).any fun manifest => manifest.key = key then
    (db, false)
  else if db.liveState? key.frameSetUid ≠ some .eligible then
    (db, false)
  else
    (db.updateProjection key.frameSetUid (·.moved state.live (some reason) timestampMs)
      fun _ => rfl, true)

def reconcileNotFound (db : Database) (key : FrameSetKey) (retryAllowed : Bool)
    (timestampMs : ℤ) : Database × Except StoreError Bool :=
  moveCurrent db key (if retryAllowed then .eligible else .supersededBeforeOffer)
    (some (if retryAllowed then "RECONCILED_NOT_FOUND_RETRY"
      else "RECONCILED_NOT_FOUND_NEWER_AVAILABLE"))
    timestampMs fun state =>
      { state.released with
        reofferFrameSetUid := if retryAllowed then some key.frameSetUid else none }

/-! ### The remaining methods -/

def currentInFlight (db : Database) : Except StoreError (Option FrameSetKey) :=
  match db.inFlight? with
  | none => .ok none
  | some uid =>
      match db.manifests.find uid with
      | none => .error (.runtimeError "relay v2 in-flight manifest is missing")
      | some manifest => .ok (some manifest.key)

/-- The set in flight, or else the newest eligible one. -/
def snapshotForHello (db : Database) : Except StoreError (Option ClaimedFrameSet) :=
  let state := db.client
  match state.inFlightFrameSetUid with
  | some uid =>
      match db.manifests.find uid with
      | none => .error (.runtimeError "relay v2 in-flight manifest is missing")
      | some manifest =>
          .ok (some (snapshot db manifest
            { processorInstanceId := state.inFlightProcessorInstanceId.getD ""
              streamEpoch := state.inFlightStreamEpoch.getD ""
              creditId := state.inFlightCreditId.getD "" }
            (state.inFlightOfferedAtMs.getD 0)))
  | none =>
      match newestEligible db state with
      | .error e => .error e
      | .ok none => .ok none
      | .ok (some manifest) => .ok (some (snapshot db manifest ⟨"", "", ""⟩ 0))

def processingJobFor (db : Database) (captureRunId : String) : Option String :=
  match db.clientState with
  | none => none
  | some state =>
      if state.processingJobCaptureRunId ≠ some captureRunId then none
      else state.processingJobId

def offeredWatermark (db : Database) : Option FrameSetKey :=
  db.client.watermarkFrameSetUid.map fun uid =>
    { captureRunId := db.client.watermarkCaptureRunId.getD ""
      frameSetId := db.client.watermarkFrameSetId.getD 0
      frameSetUid := uid }

def hasNewerEligible (db : Database) (key : FrameSetKey) : Bool :=
  match db.manifests.find key.frameSetUid, getNewestEligibleManifest db with
  | some current, some candidate =>
      current.key = key &&
        if candidate.captureRunId = key.captureRunId then key.frameSetId < candidate.frameSetId
        else current.order < candidate.order
  | _, _ => false

def bindProcessingJob (db : Database) (captureRunId processingJobId : String) (timestampMs : ℤ) :
    Database × Except StoreError Unit :=
  if captureRunId = "" ∨ processingJobId = "" then
    (db, .error (.valueError "capture run and processing job IDs are required"))
  else
    let ensured := ensureStateRow db timestampMs
    let state := ensured.client
    if state.processingJobCaptureRunId = some captureRunId ∧
        state.processingJobId ≠ none ∧ state.processingJobId ≠ some processingJobId then
      (db, .error (.runtimeError "processing job changed within one capture run"))
    else
      ({ ensured with clientState := some { state with
          processingJobCaptureRunId := some captureRunId
          processingJobId := some processingJobId
          updatedAtMs := timestampMs } },
        .ok ())

end LatestLive

end ImageStream
