/-
# The durable receiver of relay v2 alerts

One call of `receive` is one `BEGIN IMMEDIATE` transaction over four tables: the
hazards with their current state and version, the receipts that remember how an
idempotency key was first answered, the effects that were applied, and the
conflicts. A call that raises leaves the tables as they were, because leaving the
connection's context with an exception rolls back.

The payload stays abstract. The receiver only hashes and stores its canonical
text, and `canonicalPayload` raises on data that has none.
-/

import ImageStream.Base.Machine
import ImageStream.Base.Table
import ImageStream.Identity

namespace ImageStream.Alerts

open Base

universe u

def receiverContractVersion : ℤ := 1

def validStates : List String := ["CLEAR", "WARNING", "DANGER", "UNKNOWN"]

/-- `EXPECTED_SEVERITY`; a state outside the table has none. -/
def expectedSeverity (state : String) : Option String :=
  if state = "CLEAR" then some "info"
  else if state = "WARNING" then some "warning"
  else if state = "DANGER" then some "danger"
  else if state = "UNKNOWN" then some "warning"
  else none

inductive ReceiveStatus
  | applied
  | duplicate
  | conflict
  | rejected
  | versionGap
  deriving DecidableEq, Repr

structure RelayV2AlertEnvelope (π : Type u) where
  contractVersion : ℤ
  idempotencyKey : String
  payloadDigest : String
  processingJobId : String
  frameSetUid : String
  transitionEventId : String
  hazardKey : String
  fromState : String
  toState : String
  fromVersion : ℤ
  toVersion : ℤ
  severity : String
  observationEventUtcMs : ℤ
  deliveryDeadlineUtcMs : ℤ
  alertPayload : π

structure RelayV2ReceiveResult where
  contractVersion : ℤ
  idempotencyKey : String
  payloadDigest : String
  status : ReceiveStatus
  receiverHazardVersion : ℤ
  userVisibleEffectApplied : Bool
  receivedAtUtcMs : ℤ
  deliveryDeadlineMet : Option Bool
  deriving DecidableEq, Repr

/-! ## Tables -/

structure HazardRow where
  hazardKey : String
  state : String
  version : ℤ
  updatedAtMs : ℤ
  deriving DecidableEq, Repr

structure ReceiptRow where
  idempotencyKey : String
  payloadDigest : String
  hazardKey : String
  status : ReceiveStatus
  receiverHazardVersion : ℤ
  receivedAtMs : ℤ
  deliveryDeadlineMet : Option Bool
  deriving DecidableEq, Repr

structure EffectRow where
  idempotencyKey : String
  hazardKey : String
  hazardVersion : ℤ
  payloadJson : String
  createdAtMs : ℤ
  deliveryDeadlineMet : Bool
  deriving DecidableEq, Repr

structure ConflictRow where
  conflictId : ℕ
  idempotencyKey : String
  claimedPayloadDigest : String
  reason : String
  receivedAtMs : ℤ
  deriving DecidableEq, Repr

/-- The receiver's database. Primary keys are part of the tables' type. -/
structure AlertDb where
  hazards : Table HazardRow.hazardKey
  receipts : Table ReceiptRow.idempotencyKey
  effects : Table EffectRow.idempotencyKey
  conflicts : List ConflictRow

/-- The database that `_initialize` creates. -/
def AlertDb.initial : AlertDb := ⟨.empty, .empty, .empty, []⟩

/-- What a call can raise. -/
inductive ReceiverError
  | receiverTimeNotPositive
  | payloadNotCanonical
  | integrityError
  deriving DecidableEq, Repr

def AlertDb.hazardVersion (db : AlertDb) (hazardKey : String) : ℤ :=
  match db.hazards.find hazardKey with
  | some row => row.version
  | none => 0

/-- `INSERT` into a table with a primary key. -/
def insertRow {κ ρ : Type} [DecidableEq κ] {key : ρ → κ} (table : Table key) (row : ρ) :
    Except ReceiverError (Table key) :=
  if table.find (key row) = none then .ok (table.put row) else .error .integrityError

/-- The guarded upsert of a hazard. Under `ON CONFLICT` the `WHERE` clause may
leave the present row untouched without raising. -/
def upsertHazard (hazards : Table HazardRow.hazardKey) (row : HazardRow)
    (fromVersion : ℤ) (fromState : String) : Except ReceiverError (Table HazardRow.hazardKey) :=
  if row.version < 0 then
    .error .integrityError
  else
    match hazards.find row.hazardKey with
    | none => .ok (hazards.put row)
    | some existing =>
        if existing.version = fromVersion ∧ existing.state = fromState then
          .ok (hazards.put row)
        else
          .ok hazards

section Receiver

variable {π : Type u}

def RelayV2AlertEnvelope.result (envelope : RelayV2AlertEnvelope π) (status : ReceiveStatus)
    (version receivedAt : ℤ) (deadlineMet : Option Bool) (effectApplied : Bool) :
    RelayV2ReceiveResult where
  contractVersion := receiverContractVersion
  idempotencyKey := envelope.idempotencyKey
  payloadDigest := envelope.payloadDigest
  status := status
  receiverHazardVersion := version
  userVisibleEffectApplied := effectApplied
  receivedAtUtcMs := receivedAt
  deliveryDeadlineMet := deadlineMet

/-- The fields that must not be blank. -/
def RelayV2AlertEnvelope.required (envelope : RelayV2AlertEnvelope π) : List String :=
  [envelope.idempotencyKey, envelope.payloadDigest, envelope.processingJobId,
    envelope.frameSetUid, envelope.transitionEventId, envelope.hazardKey]

/-- The refusal of an envelope that is not even compared with the hazard. -/
def validate (envelope : RelayV2AlertEnvelope π) (actualDigest : String) :
    Option ReceiveStatus :=
  if envelope.contractVersion ≠ receiverContractVersion then some .rejected
  else if envelope.required.any fun value => strip value = "" then some .rejected
  else if actualDigest ≠ envelope.payloadDigest then some .conflict
  else if envelope.fromState ∉ validStates ∨ envelope.toState ∉ validStates then some .rejected
  else if expectedSeverity envelope.toState ≠ some envelope.severity then some .rejected
  else if envelope.fromVersion < 0 ∨ envelope.toVersion ≠ envelope.fromVersion + 1 then
    some .rejected
  else if envelope.observationEventUtcMs ≤ 0 ∨ envelope.deliveryDeadlineUtcMs ≤ 0 then
    some .rejected
  else none

def receiptRow (envelope : RelayV2AlertEnvelope π) (receivedAt : ℤ) (status : ReceiveStatus)
    (receiverHazardVersion : ℤ) (deadlineMet : Option Bool) : ReceiptRow where
  idempotencyKey := envelope.idempotencyKey
  payloadDigest := envelope.payloadDigest
  hazardKey := envelope.hazardKey
  status := status
  receiverHazardVersion := receiverHazardVersion
  receivedAtMs := receivedAt
  deliveryDeadlineMet := deadlineMet

def recordReceipt (db : AlertDb) (envelope : RelayV2AlertEnvelope π) (receivedAt : ℤ)
    (status : ReceiveStatus) (receiverHazardVersion : ℤ) (deadlineMet : Option Bool) :
    Except ReceiverError AlertDb := do
  let receipts ← insertRow db.receipts
    (receiptRow envelope receivedAt status receiverHazardVersion deadlineMet)
  return { db with receipts := receipts }

def recordRejection (db : AlertDb) (envelope : RelayV2AlertEnvelope π) (receivedAt : ℤ)
    (status : ReceiveStatus) (receiverHazardVersion : Option ℤ) : Except ReceiverError AlertDb :=
  recordReceipt db envelope receivedAt status
    (receiverHazardVersion.getD (db.hazardVersion envelope.hazardKey)) none

def recordConflict (db : AlertDb) (envelope : RelayV2AlertEnvelope π) (receivedAt : ℤ)
    (reason : String) : AlertDb :=
  { db with conflicts := db.conflicts ++
      [⟨db.conflicts.length + 1, envelope.idempotencyKey, envelope.payloadDigest, reason,
        receivedAt⟩] }

/-- The three writes of an accepted transition, committed together. -/
def applyTransition (db : AlertDb) (envelope : RelayV2AlertEnvelope π) (payloadJson : String)
    (receivedAt : ℤ) : Except ReceiverError AlertDb := do
  let deadlineMet : Bool := receivedAt < envelope.deliveryDeadlineUtcMs
  let hazards ← upsertHazard db.hazards
    ⟨envelope.hazardKey, envelope.toState, envelope.toVersion, receivedAt⟩
    envelope.fromVersion envelope.fromState
  let effects ← insertRow db.effects
    ⟨envelope.idempotencyKey, envelope.hazardKey, envelope.toVersion, payloadJson, receivedAt,
      deadlineMet⟩
  recordReceipt { db with hazards := hazards, effects := effects } envelope receivedAt
    .applied envelope.toVersion (some deadlineMet)

/-- Commit what a transaction computed, or roll back and raise. -/
def commitOr (db : AlertDb) (outcome : Except ReceiverError AlertDb)
    (result : RelayV2ReceiveResult) : AlertDb × Except ReceiverError RelayV2ReceiveResult :=
  match outcome with
  | .ok next => (next, .ok result)
  | .error e => (db, .error e)

/-- The answer to a key that has a receipt already. -/
def replay (db : AlertDb) (envelope : RelayV2AlertEnvelope π) (previous : ReceiptRow)
    (receivedAt : ℤ) : AlertDb × Except ReceiverError RelayV2ReceiveResult :=
  if previous.payloadDigest ≠ envelope.payloadDigest then
    (recordConflict db envelope receivedAt "IDEMPOTENCY_DIGEST_CONFLICT",
      .ok (envelope.result .conflict (db.hazardVersion envelope.hazardKey) receivedAt none false))
  else
    (db, .ok (envelope.result
      (if previous.status = .applied then .duplicate else previous.status)
      previous.receiverHazardVersion receivedAt previous.deliveryDeadlineMet false))

variable (canonicalPayload : π → Option String)

def receive (db : AlertDb) (envelope : RelayV2AlertEnvelope π) (receivedAt : ℤ) :
    AlertDb × Except ReceiverError RelayV2ReceiveResult :=
  if receivedAt ≤ 0 then
    (db, .error .receiverTimeNotPositive)
  else
    match canonicalPayload envelope.alertPayload with
    | none => (db, .error .payloadNotCanonical)
    | some payloadJson =>
      match db.receipts.find envelope.idempotencyKey with
      | some previous => replay db envelope previous receivedAt
      | none =>
        match validate envelope (Digest.sha256Hex (encodeUtf8 payloadJson)) with
        | some rejection =>
            commitOr db (recordRejection db envelope receivedAt rejection none)
              (envelope.result rejection (db.hazardVersion envelope.hazardKey) receivedAt none
                false)
        | none =>
          let hazard := db.hazards.find envelope.hazardKey
          let currentVersion := (hazard.map HazardRow.version).getD 0
          -- The first transition of a hazard takes its state from the envelope.
          let currentState := (hazard.map HazardRow.state).getD envelope.fromState
          if currentVersion ≠ envelope.fromVersion ∨ currentState ≠ envelope.fromState then
            commitOr db (recordRejection db envelope receivedAt .versionGap (some currentVersion))
              (envelope.result .versionGap currentVersion receivedAt none false)
          else
            commitOr db (applyTransition db envelope payloadJson receivedAt)
              (envelope.result .applied envelope.toVersion receivedAt
                (some (receivedAt < envelope.deliveryDeadlineUtcMs)) true)

end Receiver

/-- What happens to a receiver's database: a call, or a new receiver on the file,
whose `CREATE TABLE IF NOT EXISTS` finds the tables there. -/
inductive ReceiverInput (π : Type u)
  | receive (envelope : RelayV2AlertEnvelope π) (receivedAt : ℤ)
  | reopen

/-- One input of the receiver; reopening answers nothing. -/
def receiverStep {π : Type u} (canonicalPayload : π → Option String) (db : AlertDb) :
    ReceiverInput π → AlertDb × Option (Except ReceiverError RelayV2ReceiveResult)
  | .receive envelope receivedAt =>
      let answer := receive canonicalPayload db envelope receivedAt
      (answer.1, some answer.2)
  | .reopen => (db, none)

end ImageStream.Alerts
