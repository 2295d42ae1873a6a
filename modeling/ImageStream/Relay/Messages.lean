/-
# Messages of the relay

The messages that the producer and the processor exchange, with the integer ranges of
their fields, and the JSON values that manifests are read from. Integers are ℤ in the
producer's messages, because what the code puts there may be out of a field's range, and
protobuf refuses it then.

`json.loads`, the conversions of JSON values that are not text and the size of a
serialized message are parameters.
-/

import ImageStream.Json
import ImageStream.Relay.StatusReconciliation
import Mathlib.Algebra.Order.Field.Rat

namespace ImageStream

open Base

/-! ## Exceptions -/

/-- What a connection raises. -/
inductive RelayError
  | store (e : StoreError)
  | creditRejected (message : String)
  | frameSetExpired (message : String)
  | archiveIntegrityError (message : String)
  | payloadLimitExceeded (message : String)
  | captureRunChanged (message : String)
  | permanentRelayError (message : String)
  /-- What resolving a credential raises otherwise. -/
  | credentialError (typeName message : String)
  /-- An `OSError`, with the name of its class. -/
  | osError (typeName : String)
  | jsonDecodeError
  | valueError (message : String)
  | typeError
  | attributeError
  | keyError
  | overflowError
  | rpcError (message : String)
  deriving DecidableEq, Repr

/-! ## Ranges -/

def isUint32 (n : ℤ) : Bool := 0 ≤ n ∧ n < 2 ^ 32

def isInt32 (n : ℤ) : Bool := -(2 ^ 31) ≤ n ∧ n < 2 ^ 31

def isUint64 (n : ℤ) : Bool := 0 ≤ n ∧ n < 2 ^ 64

def isInt64 (n : ℤ) : Bool := -(2 ^ 63) ≤ n ∧ n < 2 ^ 63

/-- A message, unless one of its fields is out of range. -/
def construct {α : Type} (fits : Bool) (message : α) : Except RelayError α :=
  if fits then .ok message else .error (.valueError "Value out of range")

theorem construct_eq_ok_iff {α : Type} {fits : Bool} {message built : α} :
    construct fits message = .ok built ↔ fits = true ∧ built = message := by
  unfold construct
  cases fits with
  | true => exact ⟨fun h => (by cases h; exact ⟨rfl, rfl⟩), fun h => congrArg _ h.2.symm⟩
  | false => exact ⟨fun h => (by cases h), fun h => absurd h.1 Bool.false_ne_true⟩

theorem construct_eq_ok {α : Type} {fits : Bool} {message built : α}
    (h : construct fits message = .ok built) : built = message :=
  (construct_eq_ok_iff.mp h).2

/-! ## The producer's messages -/

inductive RelayMode
  | unspecified
  | live
  | replay
  | legacy
  deriving DecidableEq, Repr

inductive RuntimeSafetyState
  | unspecified
  | starting
  | ready
  | degraded
  | unavailable
  | failsafe
  deriving DecidableEq, Repr

def FrameSetKey.fits (key : FrameSetKey) : Bool := isUint64 key.frameSetId

structure CaptureConfigSnapshot where
  cameraStreamId : String
  captureConfigDigest : String
  width : ℤ
  height : ℤ
  orientationDeg : ℤ
  mirrored : Bool
  encoding : String
  colorSpace : String
  authorizedCameraId : String
  deriving DecidableEq

def CaptureConfigSnapshot.fits (config : CaptureConfigSnapshot) : Bool :=
  isUint32 config.width && isUint32 config.height && isInt32 config.orientationDeg

structure ProducerClockHealth where
  state : RuntimeSafetyState
  maximumUncertaintyMs : ℤ
  measuredUtcMs : ℤ
  clockSource : String
  deriving DecidableEq

structure ProducerHello where
  protocolVersion : ℤ
  schemaVersion : ℤ
  producerSessionId : String
  captureSessionId : String
  captureRunId : String
  mode : RelayMode
  processingProfileDigest : Option String
  expectedCameraStreamIds : List String
  captureConfigs : List CaptureConfigSnapshot
  clockHealth : ProducerClockHealth
  unresolvedFrameSets : List FrameSetKey
  tenantId : String
  siteId : String
  authorizedSubject : String
  sessionTokenJti : String
  lastOfferedWatermark : Option FrameSetKey
  proposedProcessingJobId : Option String
  deriving DecidableEq

def ProducerHello.fits (hello : ProducerHello) : Bool :=
  isUint32 hello.protocolVersion && isUint32 hello.schemaVersion &&
    isUint64 hello.clockHealth.maximumUncertaintyMs && isInt64 hello.clockHealth.measuredUtcMs &&
    hello.unresolvedFrameSets.all (·.fits) && hello.lastOfferedWatermark.all (·.fits)

structure ClockCorrection where
  sourceClockDomain : String
  estimatedOffsetMs : ℤ
  estimatedDriftPpb : ℤ
  uncertaintyMs : ℤ
  measuredUtcMs : ℤ
  deriving DecidableEq

structure FramePayload where
  sourceFrameUid : String
  sourceSessionId : String
  cameraStreamId : String
  frameSequence : ℤ
  captureTimestampDeviceMs : ℤ
  captureTimestampCorrectedUtcMs : ℤ
  clockCorrection : ClockCorrection
  streamReceivedUtcMs : ℤ
  width : ℤ
  height : ℤ
  orientationDeg : ℤ
  mirrored : Bool
  encoding : String
  colorSpace : String
  captureConfigDigest : String
  contentSizeBytes : ℕ
  contentDigest : String
  imageBytes : List UInt8
  deriving DecidableEq

def FramePayload.fits (frame : FramePayload) : Bool :=
  isUint64 frame.frameSequence && isInt64 frame.captureTimestampDeviceMs &&
    isInt64 frame.captureTimestampCorrectedUtcMs &&
    isUint64 frame.clockCorrection.uncertaintyMs && isInt64 frame.clockCorrection.measuredUtcMs &&
    isInt64 frame.streamReceivedUtcMs && isUint32 frame.width && isUint32 frame.height &&
    isInt32 frame.orientationDeg && isUint64 frame.contentSizeBytes

structure CreditedFrameSet where
  creditScope : CreditIdentity
  processingJobId : String
  producerSessionId : String
  captureSessionId : String
  key : FrameSetKey
  mode : RelayMode
  manifestDigest : String
  contentDigest : String
  orderingAnchorUtcMs : ℤ
  freshnessOriginUtcMs : ℤ
  synchronizedUtcMs : ℤ
  offeredUtcMs : ℤ
  producerFreshnessBudgetMs : ℤ
  effectiveDeadlineUtcMs : ℤ
  synchronizationSpanMs : ℤ
  clockUncertaintyMs : ℤ
  captureConfigs : List CaptureConfigSnapshot
  frames : List FramePayload
  alertDeadlineUtcMs : ℤ
  reservedDeliveryBoundMs : ℤ
  processingProfileDigest : Option String
  tenantId : String
  siteId : String
  authorizedSubject : String
  sessionTokenJti : String
  deriving DecidableEq

def CreditedFrameSet.fits (frameSet : CreditedFrameSet) : Bool :=
  frameSet.key.fits && isInt64 frameSet.orderingAnchorUtcMs &&
    isInt64 frameSet.freshnessOriginUtcMs && isInt64 frameSet.synchronizedUtcMs &&
    isInt64 frameSet.offeredUtcMs && isUint64 frameSet.producerFreshnessBudgetMs &&
    isInt64 frameSet.effectiveDeadlineUtcMs && isUint64 frameSet.synchronizationSpanMs &&
    isUint64 frameSet.clockUncertaintyMs && isInt64 frameSet.alertDeadlineUtcMs &&
    isUint64 frameSet.reservedDeliveryBoundMs

structure NoData where
  scope : CreditIdentity
  reason : Reason
  newestKnownFrameSet : Option FrameSetKey
  deriving DecidableEq

def NoData.fits (noData : NoData) : Bool := noData.newestKnownFrameSet.all (·.fits)

structure ReconciliationRequest where
  processingJobId : String
  producerSessionId : String
  unresolvedFrameSets : List FrameSetKey
  reconciliationResumeToken : Option String
  deriving DecidableEq

def ReconciliationRequest.fits (request : ReconciliationRequest) : Bool :=
  request.unresolvedFrameSets.all (·.fits)

/-- The body of a `ProducerEnvelope`. -/
inductive ProducerEnvelope
  | hello (hello : ProducerHello)
  | frameSet (frameSet : CreditedFrameSet)
  | noData (noData : NoData)
  | reconciliation (request : ReconciliationRequest)
  deriving DecidableEq

/-! ## The processor's messages -/

structure HelloAccepted where
  protocolVersion : ℕ
  schemaVersion : ℕ
  processingJobId : String
  processorInstanceId : String
  streamEpoch : String
  maximumPayloadBytes : ℕ
  processingProfileDigest : String
  reconciliationRequired : Bool
  reconciliationResumeToken : String
  deriving DecidableEq

structure HelloRejected where
  reason : Reason
  detailCode : String
  retryable : Bool
  deriving DecidableEq

/-- A credit. Its time of issue and the key that it follows are read by nothing. -/
structure ProcessorCredit where
  scope : CreditIdentity
  creditLeaseDurationMs : ℕ
  earliestAcceptableFreshnessOriginUtcMs : ℤ
  ingressReserveMs : ℕ
  maximumPayloadBytes : ℕ
  schemaVersion : ℕ
  maximumFrameAgeMs : ℕ
  deriving DecidableEq

/-- The body of a `ProcessorEnvelope`, which may be unset. -/
inductive ProcessorEnvelope
  | helloAccepted (accepted : HelloAccepted)
  | helloRejected (rejected : HelloRejected)
  | credit (credit : ProcessorCredit)
  | status (status : FrameStatusEvent)
  | reconciliation (response : ReconciliationResponse)
  | unset

/-! ## Reading and serializing -/

/-- What the code takes from Python and from protobuf. -/
structure Codec where
  /-- `json.loads`, which raises a `JSONDecodeError` otherwise. -/
  loads : String → Option JsonValue
  /-- `int` of a text, which raises a `ValueError` otherwise. -/
  intOfText : String → Option ℤ
  /-- `str` of a value that is not a text. -/
  textOf : JsonValue → String
  /-- The length of a serialized frame set. -/
  serializedSize : CreditedFrameSet → ℕ

namespace Codec

variable (codec : Codec)

/-- `str`. -/
def text : JsonValue → String
  | .str value => value
  | value => codec.textOf value

/-- `int`. -/
def int : JsonValue → Except RelayError ℤ
  | .bool value => .ok (if value then 1 else 0)
  | .int value => .ok value
  | .float value => .ok (value.num.tdiv value.den)
  | .nan => .error (.valueError "cannot convert float NaN to integer")
  | .infinity _ => .error .overflowError
  | .str value =>
      match codec.intOfText value with
      | some n => .ok n
      | none => .error (.valueError "invalid literal for int() with base 10")
  | .null | .arr _ | .obj _ => .error .typeError

/-- `json.loads`. -/
def load (text : String) : Except RelayError JsonValue :=
  match codec.loads text with
  | some value => .ok value
  | none => .error .jsonDecodeError

/-- `str(fields.get(name) or default)`. -/
def textField (fields : JsonFields) (name default : String) : String :=
  match fields.get? name with
  | some value => if value.truthy then codec.text value else default
  | none => default

end Codec

end ImageStream
