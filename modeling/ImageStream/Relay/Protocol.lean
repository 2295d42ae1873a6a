/-
# The relay protocol

The functions that build the producer's messages and read the processor's. A payload is
built from a claim and the archive's files; the files are read in the order of the members,
so the reading of each file is an input with the member's index.
-/

import ImageStream.Base.Action
import ImageStream.Relay.Messages
import Mathlib.Data.Finset.Dedup

namespace ImageStream

open Base

/-! ## Sessions -/

structure ProtocolConfig where
  producerSessionId : String
  processingProfileDigest : Option String
  producerFreshnessBudgetMs : ℤ
  maximumClockUncertaintyMs : ℤ := 0
  protocolVersion : ℤ := 2
  schemaVersion : ℤ := 1
  clockSource : String := "STREAM_SERVER_UTC"
  deriving DecidableEq

structure NegotiatedSession where
  processingJobId : String
  processorInstanceId : String
  streamEpoch : String
  maximumPayloadBytes : ℕ
  processingProfileDigest : String
  deriving DecidableEq

def bindAuthorizedClaim (config : ProtocolConfig) (claim : ClaimedFrameSet) :
    Except RelayError ProtocolConfig :=
  if truthy claim.profileDigest then
    if truthy config.processingProfileDigest ∧
        config.processingProfileDigest ≠ claim.profileDigest then
      .error (.creditRejected "configured profile digest conflicts with authorized manifest")
    else
      .ok { config with processingProfileDigest := claim.profileDigest }
  else if ¬truthy config.processingProfileDigest then
    .error (.creditRejected "frame set is missing a processing profile digest")
  else
    .ok config

def acceptHello (envelope : ProcessorEnvelope) (config : ProtocolConfig) :
    Except RelayError NegotiatedSession :=
  match envelope with
  | .helloRejected rejected =>
      .error (.creditRejected
        ("hello rejected: " ++ rejected.reason.name ++ " (" ++ rejected.detailCode ++ ")"))
  | .helloAccepted accepted =>
      if (accepted.protocolVersion : ℤ) ≠ config.protocolVersion then
        .error (.creditRejected "processor negotiated an unsupported protocol version")
      else if (accepted.schemaVersion : ℤ) ≠ config.schemaVersion then
        .error (.creditRejected "processor negotiated an unsupported schema version")
      else if some accepted.processingProfileDigest ≠ config.processingProfileDigest then
        .error (.creditRejected "processor profile digest does not match producer")
      else if ¬(accepted.processingJobId ≠ "" ∧ accepted.processorInstanceId ≠ "" ∧
          accepted.streamEpoch ≠ "" ∧ 0 < accepted.maximumPayloadBytes) then
        .error (.creditRejected "hello acceptance is missing required identity or bounds")
      else
        .ok
          { processingJobId := accepted.processingJobId
            processorInstanceId := accepted.processorInstanceId
            streamEpoch := accepted.streamEpoch
            maximumPayloadBytes := accepted.maximumPayloadBytes
            processingProfileDigest := accepted.processingProfileDigest }
  | _ => .error (.creditRejected "first processor envelope must accept or reject hello")

def creditIdentity (credit : ProcessorCredit) (session : NegotiatedSession) :
    Except RelayError CreditIdentity :=
  if credit.schemaVersion ≠ 1 then
    .error (.creditRejected "credit schema version is unsupported")
  else if credit.scope.processorInstanceId ≠ session.processorInstanceId ∨
      credit.scope.streamEpoch ≠ session.streamEpoch ∨ credit.scope.creditId = "" then
    .error (.creditRejected "credit scope is fenced or incomplete")
  else if credit.creditLeaseDurationMs = 0 then
    .error (.creditRejected "credit lease must be positive")
  else
    .ok credit.scope

/-- A credit with an identity is for the negotiated processor and epoch. -/
theorem creditIdentity_eq_ok {credit : ProcessorCredit} {session : NegotiatedSession}
    {identity : CreditIdentity} (h : creditIdentity credit session = .ok identity) :
    identity = credit.scope ∧
      credit.scope.processorInstanceId = session.processorInstanceId ∧
      credit.scope.streamEpoch = session.streamEpoch := by
  unfold creditIdentity at h
  split at h
  · cases h
  split at h
  · cases h
  rename_i hscope
  split at h
  · cases h
  cases h
  push Not at hscope
  exact ⟨rfl, hscope.1, hscope.2.1⟩

/-- A session comes out of an acceptance only. -/
theorem acceptHello_eq_ok {envelope : ProcessorEnvelope} {config : ProtocolConfig}
    {session : NegotiatedSession} (h : acceptHello envelope config = .ok session) :
    ∃ accepted, envelope = .helloAccepted accepted ∧
      session.processorInstanceId = accepted.processorInstanceId ∧
      session.streamEpoch = accepted.streamEpoch := by
  cases envelope with
  | helloAccepted accepted =>
      refine ⟨accepted, rfl, ?_⟩
      unfold acceptHello at h
      dsimp only at h
      split at h
      · cases h
      split at h
      · cases h
      split at h
      · cases h
      split at h
      · cases h
      cases h
      exact ⟨rfl, rfl⟩
  | _ => cases h

/-! ## Manifests -/

section Manifests

variable (codec : Codec)

/-- The `int(value or 0)` of a dimension. -/
def nonnegativeInt (value : Option JsonValue) : Except RelayError ℤ := do
  let parsed ←
    match value with
    | some value => if value.truthy then codec.int value else .ok 0
    | none => .ok 0
  if parsed < 0 then
    throw (.archiveIntegrityError "capture dimensions must be nonnegative")
  else
    return parsed

/-- `int(metadata.get("orientation_deg", 0))`. -/
def orientationDeg (metadata : JsonFields) : Except RelayError ℤ :=
  match metadata.get? "orientation_deg" with
  | some value => codec.int value
  | none => .ok 0

/-- `bool(metadata.get("mirrored", False))`. -/
def mirrored (metadata : JsonFields) : Bool :=
  (metadata.get? "mirrored").any (·.truthy)

/-- The metadata of a raw member, which is an object in a text of its own. -/
def captureMetadata (member : JsonFields) : Except RelayError JsonFields := do
  let raw :=
    match member.get? "capture_metadata_json" with
    | some value => if value.truthy then value else .str "\x7b\x7d"
    | none => .str "\x7b\x7d"
  match raw with
  | .str text =>
      match ← codec.load text with
      | .obj metadata => return metadata
      | _ => throw .typeError
  | _ => throw .typeError

/-- One turn of the loop over the raw members. -/
def readManifestMember (member : JsonValue) :
    Except RelayError (CaptureConfigSnapshot × JsonFields) :=
  match member with
  | .obj fields => do
      let cameraStreamId := codec.textField fields "camera_stream_id" ""
      let digest := codec.textField fields "capture_config_digest" ""
      if cameraStreamId = "" ∨ digest = "" then
        throw (.archiveIntegrityError "manifest capture config is incomplete")
      else
        let metadata := (← captureMetadata codec fields).set "capture_config_digest" (.str digest)
        let config : CaptureConfigSnapshot :=
          { cameraStreamId := cameraStreamId
            captureConfigDigest := digest
            width := ← nonnegativeInt codec (metadata.get? "width")
            height := ← nonnegativeInt codec (metadata.get? "height")
            orientationDeg := ← orientationDeg codec metadata
            mirrored := mirrored metadata
            encoding := codec.textField metadata "encoding" "image/jpeg"
            colorSpace := codec.textField metadata "color_space" "UNKNOWN"
            authorizedCameraId := codec.textField fields "authorized_camera_id" "" }
        return (← construct config.fits config, metadata)
  | _ => .error .attributeError

/-- `_manifest_members`: the capture configurations, and the metadata by camera. -/
def manifestMembers (claim : ClaimedFrameSet) :
    Except RelayError (List CaptureConfigSnapshot × Dict String JsonFields) := do
  match ← codec.load claim.manifestJson with
  | .obj payload =>
      match JsonFields.get? payload "members" with
      | some (.arr rawMembers) =>
          let members ← rawMembers.mapM (readManifestMember codec)
          let metadataByCamera : Dict String JsonFields := members.foldl
            (fun metadata member => metadata.set member.1.cameraStreamId member.2) Table.empty
          let configs := (members.map Prod.fst).insertionSort fun first second =>
            first.cameraStreamId ≤ second.cameraStreamId
          if metadataByCamera.keys.toFinset ≠
              (claim.members.map (·.cameraStreamId)).toFinset then
            throw (.archiveIntegrityError "manifest and archived member sets differ")
          else
            return (configs, metadataByCamera)
      | _ => throw (.archiveIntegrityError "manifest members are missing")
  | _ => throw .attributeError

end Manifests

/-! ## The producer's messages -/

def buildProducerHello (codec : Codec) (config : ProtocolConfig) (claim : ClaimedFrameSet)
    (watermark : Option FrameSetKey) (unresolved : List FrameSetKey)
    (proposedProcessingJobId : Option String) (measuredUtcMs : ℤ) :
    Except RelayError ProducerEnvelope := do
  let (captureConfigs, _) ← manifestMembers codec claim
  let authorized := truthy claim.tenantId
  let hello : ProducerHello :=
    { protocolVersion := config.protocolVersion
      schemaVersion := config.schemaVersion
      producerSessionId := config.producerSessionId
      captureSessionId := claim.captureSessionId
      captureRunId := claim.key.captureRunId
      mode := .live
      processingProfileDigest := config.processingProfileDigest
      expectedCameraStreamIds := captureConfigs.map (·.cameraStreamId)
      captureConfigs := captureConfigs
      clockHealth :=
        { state := .ready
          maximumUncertaintyMs := config.maximumClockUncertaintyMs
          measuredUtcMs := measuredUtcMs
          clockSource := config.clockSource }
      unresolvedFrameSets := unresolved
      tenantId := if authorized then claim.tenantId.getD "" else ""
      siteId := if authorized then claim.siteId.getD "" else ""
      authorizedSubject := if authorized then claim.authorizedSubject.getD "" else ""
      sessionTokenJti := if authorized then claim.sessionTokenJti.getD "" else ""
      lastOfferedWatermark := watermark
      proposedProcessingJobId :=
        if truthy proposedProcessingJobId then proposedProcessingJobId else none }
  return .hello (← construct hello.fits hello)

def buildNoData (credit : ProcessorCredit) (reason : Reason) (newestKnown : Option FrameSetKey) :
    Except RelayError ProducerEnvelope := do
  let noData : NoData :=
    { scope := credit.scope, reason := reason, newestKnownFrameSet := newestKnown }
  return .noData (← construct noData.fits noData)

def buildReconciliationRequest (session : NegotiatedSession) (config : ProtocolConfig)
    (unresolved : List FrameSetKey) (resumeToken : String) :
    Except RelayError ProducerEnvelope := do
  let request : ReconciliationRequest :=
    { processingJobId := session.processingJobId
      producerSessionId := config.producerSessionId
      unresolvedFrameSets := unresolved
      reconciliationResumeToken := if resumeToken ≠ "" then some resumeToken else none }
  return .reconciliation (← construct request.fits request)

/-! ## Payloads -/

/-- What `Path.read_bytes` comes to. -/
inductive FileRead
  | bytes (payload : List UInt8)
  | osError (typeName : String)
  /-- The path has a null byte. -/
  | valueError
  deriving DecidableEq, Repr

def FileRead.payload : FileRead → Except RelayError (List UInt8)
  | .bytes payload => .ok payload
  | .osError typeName => .error (.osError typeName)
  | .valueError => .error (.valueError "embedded null byte")

section Payloads

variable (codec : Codec)

/-- One turn of the loop over a claim's members. -/
def framePayload (config : ProtocolConfig) (claim : ClaimedFrameSet) (currentUtcMs : ℤ)
    (metadataByCamera : Dict String JsonFields) (member : LiveFrameMember) (read : FileRead) :
    Except RelayError FramePayload := do
  let payload ← read.payload
  if payload.length ≠ member.imageSize then
    throw (.archiveIntegrityError ("archive size mismatch for " ++ member.sourceFrameUid))
  else if sha256Bytes payload ≠ member.contentDigest then
    throw (.archiveIntegrityError ("archive digest mismatch for " ++ member.sourceFrameUid))
  else
    match metadataByCamera.get? member.cameraStreamId with
    | none => throw .keyError
    | some metadata =>
        let frame : FramePayload :=
          { sourceFrameUid := member.sourceFrameUid
            sourceSessionId := member.sourceSessionId
            cameraStreamId := member.cameraStreamId
            frameSequence := member.frameSequence
            captureTimestampDeviceMs := member.captureTimestampMs
            captureTimestampCorrectedUtcMs := member.captureTimestampMs
            clockCorrection :=
              { sourceClockDomain := "CAPTURE_TIMESTAMP_MS"
                estimatedOffsetMs := 0
                estimatedDriftPpb := 0
                uncertaintyMs := config.maximumClockUncertaintyMs
                measuredUtcMs := currentUtcMs }
            streamReceivedUtcMs := claim.synchronizedAtMs
            width := ← nonnegativeInt codec (metadata.get? "width")
            height := ← nonnegativeInt codec (metadata.get? "height")
            orientationDeg := ← orientationDeg codec metadata
            mirrored := mirrored metadata
            encoding := codec.textField metadata "encoding" member.contentType
            colorSpace := codec.textField metadata "color_space" "UNKNOWN"
            captureConfigDigest := codec.textField metadata "capture_config_digest" ""
            contentSizeBytes := payload.length
            contentDigest := member.contentDigest
            imageBytes := payload }
        construct frame.fits frame

/-- The loop over a claim's members, with the readings of their files. -/
def framePayloads (config : ProtocolConfig) (claim : ClaimedFrameSet) (currentUtcMs : ℤ)
    (metadataByCamera : Dict String JsonFields) (read : ℕ → String → FileRead) (index : ℕ) :
    List LiveFrameMember → Except RelayError (List FramePayload)
  | [] => .ok []
  | member :: members => do
      let frame ← framePayload codec config claim currentUtcMs metadataByCamera member
        (read index member.filePath)
      let frames ← framePayloads config claim currentUtcMs metadataByCamera read (index + 1) members
      return frame :: frames

/-- What the content digest of a frame set is made of. -/
def contentRecord (frame : FramePayload) : Json :=
  .obj
    [("camera_stream_id", .str frame.cameraStreamId),
      ("content_digest", .str frame.contentDigest),
      ("content_size_bytes", .int frame.contentSizeBytes),
      ("source_frame_uid", .str frame.sourceFrameUid)]

/-- `serialize_with_limit`, whose bytes nothing uses. -/
def serializeWithLimit (frameSet : CreditedFrameSet) (maximumPayloadBytes : ℕ) :
    Except RelayError Unit :=
  if maximumPayloadBytes = 0 then
    .error (.valueError "maximum_payload_bytes must be greater than zero")
  else if maximumPayloadBytes < codec.serializedSize frameSet then
    .error (.payloadLimitExceeded
      ("payload is " ++ toString (codec.serializedSize frameSet) ++ " bytes; limit is " ++
        toString maximumPayloadBytes))
  else
    .ok ()

/-- A frame set's deadline at the processor. -/
def effectiveDeadlineUtcMs (config : ProtocolConfig) (claim : ClaimedFrameSet)
    (credit : ProcessorCredit) : ℤ :=
  min (claim.freshnessOriginMs + config.producerFreshnessBudgetMs)
    (claim.freshnessOriginMs + credit.maximumFrameAgeMs) - config.maximumClockUncertaintyMs

def buildCreditedFrameSet (claim : ClaimedFrameSet) (credit : ProcessorCredit)
    (session : NegotiatedSession) (config : ProtocolConfig) (creditReceivedMonotonic : ℚ)
    (nowMonotonic : ℚ) (nowUtcMs : ℤ) (read : ℕ → String → FileRead) :
    Except RelayError CreditedFrameSet := do
  let leaseDeadline := creditReceivedMonotonic + (credit.creditLeaseDurationMs : ℚ) / 1000
  if leaseDeadline ≤ nowMonotonic then
    throw (.creditRejected "credit lease expired before payload send")
  else if claim.freshnessOriginMs < credit.earliestAcceptableFreshnessOriginUtcMs then
    throw (.frameSetExpired "frame set predates the credit freshness watermark")
  else if effectiveDeadlineUtcMs config claim credit ≤ nowUtcMs + credit.ingressReserveMs then
    throw (.frameSetExpired "frame set cannot reach admission before its deadline")
  else
    let (captureConfigs, metadataByCamera) ← manifestMembers codec claim
    let frames ← framePayloads codec config claim nowUtcMs metadataByCamera read 0 claim.members
    let frameSet : CreditedFrameSet :=
      { creditScope := credit.scope
        processingJobId := session.processingJobId
        producerSessionId := config.producerSessionId
        captureSessionId := claim.captureSessionId
        key := claim.key
        mode := .live
        manifestDigest := claim.manifestDigest
        contentDigest := sha256Bytes
          (encodeUtf8 (canonicalJson (.arr (frames.map contentRecord))))
        orderingAnchorUtcMs := claim.anchorTimestampMs
        freshnessOriginUtcMs := claim.freshnessOriginMs
        synchronizedUtcMs := claim.synchronizedAtMs
        offeredUtcMs := nowUtcMs
        producerFreshnessBudgetMs := config.producerFreshnessBudgetMs
        effectiveDeadlineUtcMs := effectiveDeadlineUtcMs config claim credit
        synchronizationSpanMs := claim.synchronizationSpanMs
        clockUncertaintyMs := config.maximumClockUncertaintyMs
        captureConfigs := captureConfigs
        frames := frames
        alertDeadlineUtcMs := effectiveDeadlineUtcMs config claim credit
        reservedDeliveryBoundMs := 0
        processingProfileDigest := config.processingProfileDigest
        tenantId := claim.tenantId.getD ""
        siteId := claim.siteId.getD ""
        authorizedSubject := claim.authorizedSubject.getD ""
        sessionTokenJti := claim.sessionTokenJti.getD "" }
    let envelope ← construct frameSet.fits frameSet
    serializeWithLimit codec envelope (min session.maximumPayloadBytes credit.maximumPayloadBytes)
    -- The lease is tested again, with the reading that it has been tested with before.
    if leaseDeadline ≤ nowMonotonic then
      throw (.creditRejected "credit lease expired while assembling payload")
    else
      return envelope

/-- What a payload takes over from its claim and its credit. -/
structure CreditedFrameSet.OfClaim (frameSet : CreditedFrameSet) (claim : ClaimedFrameSet)
    (credit : ProcessorCredit) : Prop where
  creditScope : frameSet.creditScope = credit.scope
  captureSessionId : frameSet.captureSessionId = claim.captureSessionId
  key : frameSet.key = claim.key
  manifestDigest : frameSet.manifestDigest = claim.manifestDigest
  orderingAnchorUtcMs : frameSet.orderingAnchorUtcMs = claim.anchorTimestampMs
  freshnessOriginUtcMs : frameSet.freshnessOriginUtcMs = claim.freshnessOriginMs
  synchronizationSpanMs : frameSet.synchronizationSpanMs = claim.synchronizationSpanMs

section Building

variable {codec} {claim : ClaimedFrameSet} {credit : ProcessorCredit} {session : NegotiatedSession}
  {config : ProtocolConfig} {received nowMonotonic : ℚ} {nowUtcMs : ℤ}
  {read : ℕ → String → FileRead} {frameSet : CreditedFrameSet}

/-- A payload is what its claim and its credit say, with the configurations of the manifest
and the frames of the members. -/
theorem ofClaim_buildCreditedFrameSet
    (h : buildCreditedFrameSet codec claim credit session config received nowMonotonic nowUtcMs
      read = .ok frameSet) :
    frameSet.OfClaim claim credit ∧ ∃ metadataByCamera,
      manifestMembers codec claim = .ok (frameSet.captureConfigs, metadataByCamera) ∧
        framePayloads codec config claim nowUtcMs metadataByCamera read 0 claim.members =
          .ok frameSet.frames := by
  unfold buildCreditedFrameSet at h
  dsimp only at h
  split at h
  · cases h
  split at h
  · cases h
  split at h
  · cases h
  obtain ⟨⟨captureConfigs, metadataByCamera⟩, hmanifest, h⟩ := bind_eq_ok.mp h
  obtain ⟨frames, hframes, h⟩ := bind_eq_ok.mp h
  obtain ⟨built, hbuilt, h⟩ := bind_eq_ok.mp h
  obtain ⟨serialized, -, h⟩ := bind_eq_ok.mp h
  cases h
  rw [construct_eq_ok hbuilt]
  exact ⟨⟨rfl, rfl, rfl, rfl, rfl, rfl, rfl⟩, metadataByCamera, hmanifest, hframes⟩

/-- A payload is for the key of its claim and the scope of its credit. -/
theorem buildCreditedFrameSet_eq_ok
    (h : buildCreditedFrameSet codec claim credit session config received nowMonotonic nowUtcMs
      read = .ok frameSet) :
    frameSet.key = claim.key ∧ frameSet.creditScope = credit.scope :=
  ⟨(ofClaim_buildCreditedFrameSet h).1.key, (ofClaim_buildCreditedFrameSet h).1.creditScope⟩

end Building

end Payloads

end ImageStream
