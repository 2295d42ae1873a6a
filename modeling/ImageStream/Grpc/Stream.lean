/-
# Ingest streams

A stream is admitted with the credential that it presents, then its packets are taken one by
one: the credential has to be current, the packet has to name a device and a time and to declare
the scope of the credential, and only then do its device and its time count for the gate. The
gate decides whether the packet is stored. Whatever ends the stream, its devices are closed.

A packet outside the scope of its credential ends the stream before it counts for the gate, so
all it leaves there is its number.
-/

import ImageStream.Base.Rounds
import ImageStream.Grpc.Gate
import ImageStream.Sessions.Credentials

namespace ImageStream

open Base

/-- The scope that a packet declares. -/
structure SessionScope where
  tenantId : String
  siteId : String
  captureSessionId : String
  processingJobId : String
  profileDigest : String
  deriving DecidableEq

/-- What the server reads of the metadata of a packet. -/
structure FrameMetadata where
  cameraId : String
  deviceId : String
  frameSequence : ℤ
  deviceTimestampMs : ℤ
  format : String
  sessionId : Option String
  deriving DecidableEq

structure FramePacket where
  metadata : FrameMetadata
  jpeg : List UInt8
  sessionScope : Option SessionScope
  deriving DecidableEq

/-- `metadata.device_id or metadata.camera_id`. -/
def FrameMetadata.internalDeviceId (metadata : FrameMetadata) : String :=
  if metadata.deviceId ≠ "" then metadata.deviceId else metadata.cameraId

/-- `metadata.camera_id or "unknown"`. -/
def FrameMetadata.cameraIdOrUnknown (metadata : FrameMetadata) : String :=
  if metadata.cameraId ≠ "" then metadata.cameraId else "unknown"

/-- `metadata.device_id or None`. -/
def FrameMetadata.deviceId? (metadata : FrameMetadata) : Option String :=
  if metadata.deviceId ≠ "" then some metadata.deviceId else none

/-! ## Scopes -/

namespace AuthorizedSessionScope

def declared (scope : AuthorizedSessionScope) : SessionScope :=
  ⟨scope.tenantId, scope.siteId, scope.captureSessionId, scope.processingJobId,
    scope.profileDigest⟩

def matchesDeclaredScope (scope : AuthorizedSessionScope) (declared : SessionScope)
    (cameraId : String) : Bool :=
  decide (declared.tenantId = scope.tenantId) && decide (declared.siteId = scope.siteId) &&
    decide (declared.captureSessionId = scope.captureSessionId) &&
    decide (declared.processingJobId = scope.processingJobId) &&
    decide (declared.profileDigest = scope.profileDigest) && decide (cameraId ∈ scope.cameraIds)

end AuthorizedSessionScope

namespace AuthorizedCameraIngestScope

def declared (scope : AuthorizedCameraIngestScope) : SessionScope :=
  ⟨scope.tenantId, scope.siteId, scope.captureSessionId, scope.processingJobId,
    scope.profileDigest⟩

def matchesDeclaredScope (scope : AuthorizedCameraIngestScope) (declared : SessionScope)
    (cameraId : String) (deviceId : Option String) : Bool :=
  decide (declared.tenantId = scope.tenantId) && decide (declared.siteId = scope.siteId) &&
    decide (declared.captureSessionId = scope.captureSessionId) &&
    decide (declared.processingJobId = scope.processingJobId) &&
    decide (declared.profileDigest = scope.profileDigest) && decide (cameraId = scope.cameraId) &&
    decide (deviceId = some scope.deviceId)

end AuthorizedCameraIngestScope

/-- The scope that a verified credential carries. -/
inductive AuthorizationScope where
  | session (scope : AuthorizedSessionScope)
  | camera (scope : AuthorizedCameraIngestScope)
  deriving DecidableEq

namespace AuthorizationScope

def captureSessionId : AuthorizationScope → String
  | session scope => scope.captureSessionId
  | camera scope => scope.captureSessionId

def matchesDeclaredScope (authorization : AuthorizationScope) (declared : SessionScope)
    (cameraId : String) (deviceId : Option String) : Bool :=
  match authorization with
  | session scope => scope.matchesDeclaredScope declared cameraId
  | camera scope => scope.matchesDeclaredScope declared cameraId deviceId

/-- Whether a packet declares a scope and it is that of the credential. -/
def admits (authorization : AuthorizationScope) (packet : FramePacket) : Bool :=
  packet.sessionScope.any fun declared =>
    authorization.matchesDeclaredScope declared packet.metadata.cameraIdOrUnknown
      packet.metadata.deviceId?

/-- What a packet has to declare: the tenant, site, session, job and profile of the
credential. -/
def declared : AuthorizationScope → SessionScope
  | session scope => scope.declared
  | camera scope => scope.declared

/-- The camera and the device of a packet that a credential is for. A session credential is
for some cameras, whatever the device. -/
def Covers : AuthorizationScope → FrameMetadata → Prop
  | session scope, metadata => metadata.cameraIdOrUnknown ∈ scope.cameraIds
  | camera scope, metadata =>
      metadata.cameraIdOrUnknown = scope.cameraId ∧ metadata.deviceId? = some scope.deviceId

/-- Whether a packet is outside the scope of a credential: it declares none, or another one, or
is of another camera or device. -/
def Excludes (authorization : AuthorizationScope) (packet : FramePacket) : Prop :=
  packet.sessionScope ≠ some authorization.declared ∨ ¬ authorization.Covers packet.metadata

theorem matchesDeclaredScope_iff (authorization : AuthorizationScope) (declared : SessionScope)
    (metadata : FrameMetadata) :
    authorization.matchesDeclaredScope declared metadata.cameraIdOrUnknown metadata.deviceId? ↔
      declared = authorization.declared ∧ authorization.Covers metadata := by
  cases declared with
  | mk tenantId siteId captureSessionId processingJobId profileDigest =>
      cases authorization with
      | session scope =>
          simp only [matchesDeclaredScope, AuthorizedSessionScope.matchesDeclaredScope,
            AuthorizationScope.declared, AuthorizedSessionScope.declared, Covers,
            SessionScope.mk.injEq, Bool.and_eq_true, decide_eq_true_eq, and_assoc]
      | camera scope =>
          simp only [matchesDeclaredScope, AuthorizedCameraIngestScope.matchesDeclaredScope,
            AuthorizationScope.declared, AuthorizedCameraIngestScope.declared, Covers,
            SessionScope.mk.injEq, Bool.and_eq_true, decide_eq_true_eq, and_assoc]

/-- The packets that are not admitted are those outside the scope. -/
theorem excludes_iff (authorization : AuthorizationScope) (packet : FramePacket) :
    authorization.Excludes packet ↔ authorization.admits packet = false := by
  unfold Excludes admits
  cases packet.sessionScope with
  | none => simp
  | some declared =>
      rw [Option.any_some, Bool.eq_false_iff, Ne, Ne, matchesDeclaredScope_iff, Option.some.injEq,
        not_and_or]

end AuthorizationScope

/-! ## One packet -/

inductive StatusCode where
  | failedPrecondition
  | unauthenticated
  | permissionDenied
  deriving DecidableEq

/-- What a stream is broken off for. -/
inductive StreamBreak where
  | responded (receivedFrames : ℕ) (message : String)
  | aborted (status : StatusCode) (detail : String)
  /-- An exception that the stream does not handle. -/
  | raised
  deriving DecidableEq

/-- How a stream ends. -/
inductive StreamEnding where
  | completed (receivedFrames : ℕ)
  | broken (reason : StreamBreak)
  deriving DecidableEq

/-- The response of a stream that is not aborted, with its message. -/
def StreamEnding.response? : StreamEnding → Option (ℕ × String)
  | completed receivedFrames => some (receivedFrames, "collector ingest stream completed")
  | broken (.responded receivedFrames message) => some (receivedFrames, message)
  | broken (.aborted _ _) => none
  | broken .raised => none

/-- What the verifier answers when it is asked whether a credential is still active. -/
inductive Activity where
  | active
  | refused (reason : SessionTokenError)
  | raised

/-- A packet as it comes in, with the answers and the clocks of the server meanwhile. -/
structure Arrival where
  packet : FramePacket
  activity : Activity
  now : ℚ
  receivedAtMs : ℤ
  /-- Whether storing the packet and its sidecar succeeds, if it is tried. -/
  stores : Bool

/-- What a packet hands on to be stored, with what its sidecar says of the server. The content
type and the payload of the metadata are read off `metadata`. -/
structure IngestCall where
  deviceId : String
  timestampMs : ℤ
  imageBytes : List UInt8
  sequence : Option ℤ
  filename : String
  sessionId : Option String
  cameraStreamId : String
  receivedAtMs : ℤ
  metadata : FrameMetadata
  authorizationScope : Option AuthorizationScope
  serverReceiveSequence : ℕ
  gateStartTimestampMs : Option ℤ
  deriving DecidableEq

abbrev CameraCredentials :=
  Dict (String × String) (ActiveSessionCredential AuthorizedCameraIngestScope)

/-- What a stream works on: the gate and the camera credentials of the service, the devices it
has marked, in the order they came, and what it has stored. -/
structure StreamState where
  gate : IngestGate
  cameraCredentials : CameraCredentials
  streamDeviceIds : List String
  receivedFrames : ℕ
  ingested : List IngestCall

namespace StreamState

/-- Whether the credential of the stream is still good, and what ends the stream if not. -/
def assertAuthorized (s : StreamState) (authorization : Option AuthorizationScope)
    (arrival : Arrival) : StreamState × Option StreamBreak :=
  let inactive := some (.aborted .unauthenticated "Main session is no longer active")
  match authorization with
  | none => (s, none)
  | some scope =>
      match arrival.activity with
      | .refused _ => (s, inactive)
      | .raised => (s, some .raised)
      | .active =>
          match scope with
          | .session _ => (s, none)
          | .camera scope =>
              let (credentials, answer) := ActiveCameraIngestCredentialStore.assertCurrent
                s.cameraCredentials arrival.now scope
              ({ s with cameraCredentials := credentials },
                match answer with
                | .ok _ => none
                | .error _ => inactive)

def numberPacket (s : StreamState) : StreamState :=
  { s with gate := s.gate.nextServerReceiveSequence }

/-- What a packet is refused for. -/
def refusal (s : StreamState) (authorization : Option AuthorizationScope) (packet : FramePacket) :
    Option StreamBreak :=
  if packet.metadata.internalDeviceId = "" then
    some (.responded s.receivedFrames "device_id or camera_id is required")
  else if packet.metadata.deviceTimestampMs ≤ 0 then
    some (.responded s.receivedFrames "device_timestamp_ms must be greater than 0")
  else if authorization.any fun scope => !scope.admits packet then
    some (.aborted .permissionDenied "frame scope does not match Main session credentials")
  else none

/-- Count the device and the time of a packet. -/
def countPacket (s : StreamState) (metadata : FrameMetadata) : StreamState :=
  let deviceId := metadata.internalDeviceId
  let marked :=
    if deviceId ∈ s.streamDeviceIds then s
    else
      { s with
        gate := s.gate.markDeviceActive deviceId
        streamDeviceIds := s.streamDeviceIds ++ [deviceId] }
  { marked with
    gate := marked.gate.recordDeviceTimestamp deviceId metadata.deviceTimestampMs }

def ingestCall (s : StreamState) (authorization : Option AuthorizationScope) (arrival : Arrival) :
    IngestCall :=
  let metadata := arrival.packet.metadata
  { deviceId := metadata.internalDeviceId
    timestampMs := metadata.deviceTimestampMs
    imageBytes := arrival.packet.jpeg
    sequence := if metadata.frameSequence ≠ 0 then some metadata.frameSequence else none
    filename := metadata.internalDeviceId ++ "_" ++ metadata.cameraIdOrUnknown ++ "_" ++
      toString metadata.frameSequence ++ ".jpg"
    sessionId := metadata.sessionId
    cameraStreamId := metadata.cameraIdOrUnknown
    receivedAtMs := arrival.receivedAtMs
    metadata := metadata
    authorizationScope := authorization
    serverReceiveSequence := s.gate.serverReceiveSequence
    gateStartTimestampMs := s.gate.gateStartTimestampMs }

/-- Store a packet that may count, if the gate lets it through. -/
def storePacket (s : StreamState) (authorization : Option AuthorizationScope)
    (arrival : Arrival) : Round StreamState StreamBreak :=
  let metadata := arrival.packet.metadata
  let (gate, allowed) := s.gate.allowIngest metadata.internalDeviceId metadata.deviceTimestampMs
  let passed := { s with gate := gate }
  if !allowed then .next passed
  else
    let tried := { passed with
      ingested := passed.ingested ++ [passed.ingestCall authorization arrival] }
    if arrival.stores then .next { tried with receivedFrames := tried.receivedFrames + 1 }
    else .leave tried .raised

/-- One round of the loop over the packets of a stream. -/
def takePacket (authorization : Option AuthorizationScope) (s : StreamState) (arrival : Arrival) :
    Round StreamState StreamBreak :=
  match s.assertAuthorized authorization arrival with
  | (checked, some reason) => .leave checked reason
  | (checked, none) =>
      let numbered := checked.numberPacket
      match numbered.refusal authorization arrival.packet with
      | some reason => .leave numbered reason
      | none => (numbered.countPacket arrival.packet.metadata).storePacket authorization arrival

end StreamState

/-! ## A stream -/

structure GrpcIngestService where
  gate : IngestGate
  credentialStore : Dict String (ActiveSessionCredential AuthorizedSessionScope)
  cameraCredentialStore : CameraCredentials

/-- What the verifier makes of the credential that a stream presents. -/
inductive Verification where
  | accepted (token : String) (scope : AuthorizationScope)
  | refused (reason : SessionTokenError)
  | raised

/-- How a stream is opened; a service without a verifier asks for no credential. -/
structure Opening where
  verification : Option Verification
  now : ℚ

/-- What a stream leaves: the service, what it has stored and how it ended. -/
structure StreamRun where
  service : GrpcIngestService
  ingested : List IngestCall
  ending : StreamEnding

namespace GrpcIngestService

variable (service : GrpcIngestService)

/-- Register a verified credential in the store of its kind. -/
def registerCredential (now : ℚ) (token : String) :
    AuthorizationScope → GrpcIngestService × Option SessionTokenError
  | .camera scope =>
      let (credentials, answer) := ActiveCameraIngestCredentialStore.register
        service.cameraCredentialStore now token scope
      ({ service with cameraCredentialStore := credentials },
        match answer with
        | .ok _ => none
        | .error reason => some reason)
  | .session scope =>
      let (credentials, answer) := ActiveSessionCredentialStore.register
        service.credentialStore now token scope
      ({ service with credentialStore := credentials },
        match answer with
        | .ok _ => none
        | .error reason => some reason)

/-- Admit a stream: the scope of its credential, if it needs one, or what ends it. -/
def admitStream (opening : Opening) :
    GrpcIngestService × Except StreamBreak (Option AuthorizationScope) :=
  let unauthenticated := StreamBreak.aborted .unauthenticated
    "valid Main session credentials are required"
  match opening.verification with
  | none => (service, .ok none)
  | some (.refused _) => (service, .error unauthenticated)
  | some .raised => (service, .error .raised)
  | some (.accepted token scope) =>
      match service.registerCredential opening.now token scope with
      | (registered, some _) => (registered, .error unauthenticated)
      | (registered, none) =>
          match registered.gate.acquireAuthorizedCollection scope.captureSessionId with
          | none =>
              (registered, .error (.aborted .failedPrecondition
                "another capture session owns the ingest collection"))
          | some gate => ({ registered with gate := gate }, .ok (some scope))

/-- What every end of a stream does to the gate. -/
def closeStream (gate : IngestGate) (authorization : Option AuthorizationScope)
    (deviceIds : List String) (closedAtMs : ℤ) : IngestGate :=
  let closed := gate.markStreamClosed deviceIds closedAtMs
  match authorization with
  | none => closed
  | some scope => closed.releaseAuthorizedCollection scope.captureSessionId

/-- The state in which an admitted stream starts. -/
def openStream : StreamState where
  gate := service.gate
  cameraCredentials := service.cameraCredentialStore
  streamDeviceIds := []
  receivedFrames := 0
  ingested := []

/-- Take the packets of an admitted stream, and close it at the given time. -/
def serve (authorization : Option AuthorizationScope) (arrivals : List Arrival)
    (closedAtMs : ℤ) : StreamRun :=
  let (s, left) := rounds (StreamState.takePacket authorization) service.openStream arrivals
  { service := { service with
      gate := closeStream s.gate authorization s.streamDeviceIds closedAtMs
      cameraCredentialStore := s.cameraCredentials }
    ingested := s.ingested
    ending :=
      match left with
      | none => .completed s.receivedFrames
      | some reason => .broken reason }

def streamFrames (opening : Opening) (arrivals : List Arrival) (closedAtMs : ℤ) : StreamRun :=
  match service.admitStream opening with
  | (admitted, .ok authorization) => admitted.serve authorization arrivals closedAtMs
  | (admitted, .error reason) => ⟨admitted, [], .broken reason⟩

end GrpcIngestService

end ImageStream
