/-
# One connection of the relay worker

`_run_connection` and what it calls, as actions on the database and on the messages that
have been enqueued. The worker's clocks, its stop event, the archive's files and the
credentials are read at successive moments, and each of its store transactions is a
moment too: what ingest threads have committed until then comes before it. The theorems
hold for every such surroundings, hence for every interleaving of ingest with the worker.

The queue is the list of the messages put into it. Counters, the channel and the stop
marker at the queue's end are left out, because nothing here reads them.
-/

import ImageStream.Relay.Protocol

namespace ImageStream

open Base LatestLive

/-! ## Surroundings -/

/-- The transactions of ingest threads and of archive reconciliation. -/
def StoreOp.isIngest : StoreOp → Bool
  | .persistFrameSetManifest _ _ _ | .updateDeliveryProjection _ _ _ _ _
  | .reconcileArchive _ _ | .writeFrames _ => true
  | _ => false

abbrev IngestOp : Type := {op : StoreOp // op.isIngest = true}

structure ProcessingRelayScope where
  tenantId : String
  siteId : String
  captureSessionId : String
  processingJobId : String
  profileDigest : String
  coordinatorSubject : String
  cameraIds : Finset String
  tokenJti : String

/-- What a credential provider's `resolve_for_claim` comes to. -/
inductive CredentialAnswer
  | issued (scope : ProcessingRelayScope)
  /-- It raises `RelayCredentialSessionInactive`. -/
  | sessionInactive
  | raised (typeName message : String)

/-- What the worker meets at each moment. -/
structure Surroundings where
  utcNowMs : ℕ → ℤ
  monotonic : ℕ → ℚ
  stopped : ℕ → Bool
  readBytes : ℕ → String → FileRead
  /-- The relay credential provider, when there is one. -/
  relayCredentialProvider : Option (ℕ → ClaimedFrameSet → CredentialAnswer)
  /-- The credential store, which raises or has a credential. -/
  credentialStore : ℕ → ClaimedFrameSet → Except RelayError Unit
  /-- What the channel factory raises. -/
  channelError : ℕ → Option RelayError
  /-- What ingest threads commit before the worker's transaction at this moment. -/
  ingest : ℕ → List IngestOp

/-- A configured client. -/
structure RelayClient where
  protocolConfig : ProtocolConfig
  codec : Codec

structure Relaying where
  db : Database
  outgoing : List ProducerEnvelope := []
  moment : ℕ := 0

abbrev RelayM : Type → Type := Action Relaying RelayError

/-- The database after transactions of ingest threads. -/
def ingested (db : Database) (ops : List IngestOp) : Database :=
  Machine.after storeStep db (ops.map Subtype.val)

def ClaimedFrameSet.authorizedCameraIds (claim : ClaimedFrameSet) : List String :=
  (claim.members.filterMap fun member =>
    if truthy member.authorizedCameraId then member.authorizedCameraId else none).insertionSort
      fun first second => first ≤ second

def ProcessingRelayScope.matchesClaim (scope : ProcessingRelayScope) (claim : ClaimedFrameSet) :
    Bool :=
  claim.tenantId = some scope.tenantId && claim.siteId = some scope.siteId &&
    claim.captureSessionId = scope.captureSessionId &&
    claim.processingJobId = some scope.processingJobId &&
    claim.profileDigest = some scope.profileDigest &&
    claim.authorizedCameraIds.toFinset = scope.cameraIds

/-- `_bind_relay_scope`. -/
def bindRelayScope (claim : ClaimedFrameSet) (scope : Option ProcessingRelayScope) :
    Except RelayError ClaimedFrameSet :=
  match scope with
  | none => .ok claim
  | some scope =>
      if ¬scope.matchesClaim claim then
        .error (.permanentRelayError
          "processing relay credential does not match current frame set")
      else
        .ok { claim with
          authorizedSubject := some scope.coordinatorSubject
          sessionTokenJti := some scope.tokenJti }

namespace RelayClient

/-! ## Readings and transactions -/

section Primitives

variable {α : Type}

/-- A reading of the surroundings. -/
def observe (reading : ℕ → α) : RelayM α := fun s =>
  .ok (reading s.moment) { s with moment := s.moment + 1 }

/-- A transaction of the store. -/
def transact (env : Surroundings) (method : Database → Database × Except StoreError α) :
    RelayM α := fun s =>
  let found := method (ingested s.db (env.ingest s.moment))
  let left : Relaying := { s with db := found.1, moment := s.moment + 1 }
  match found.2 with
  | .ok a => .ok a left
  | .error e => .error (.store e) left

/-- A transaction that writes nothing. -/
def consult (env : Surroundings) (method : Database → Except StoreError α) : RelayM α :=
  transact env fun db => (db, method db)

/-- The readings of a number of files. -/
def readFiles (env : Surroundings) (count : ℕ) : RelayM (ℕ → String → FileRead) := fun s =>
  .ok (fun index => env.readBytes (s.moment + index)) { s with moment := s.moment + count }

def put (message : ProducerEnvelope) : RelayM PUnit :=
  modify fun s => { s with outgoing := s.outgoing ++ [message] }

end Primitives

/-! ## The hello -/

/-- What a connection has settled before its first message. -/
structure Opened where
  helloSnapshot : ClaimedFrameSet
  config : ProtocolConfig
  /-- Whether there is a credential. -/
  authenticated : Bool
  relayScope : Option ProcessingRelayScope
  reconciled : Bool

/-- How the part of `_run_connection` before its loop ends, when it does not raise. -/
inductive Opening
  /-- There is nothing to announce; it waits on the stop event and returns `None`. -/
  | nothingEligible
  /-- The session of the snapshot is inactive; it returns `None`. -/
  | sessionInactive
  /-- The stop event is set; it returns `False`. -/
  | stopped
  | opened (connection : Opened)

/-- The credential for a snapshot: none, or one that may have a scope. -/
inductive Credential
  | unneeded
  | active (scope : Option ProcessingRelayScope)
  | sessionInactive

section Client

variable (env : Surroundings) (client : RelayClient)

def resolveCredential (snapshot : ClaimedFrameSet) : RelayM Credential :=
  if truthy snapshot.processingJobId then
    match env.relayCredentialProvider with
    | some resolveForClaim => do
        match ← observe fun moment => resolveForClaim moment snapshot with
        | .issued scope => return .active (some scope)
        | .sessionInactive => return .sessionInactive
        | .raised typeName message => throw (.credentialError typeName message)
    | none => do
        .ofExcept (← observe fun moment => env.credentialStore moment snapshot)
        return .active none
  else
    return .unneeded

/-- The hello, put into the queue. -/
def announce (helloSnapshot : ClaimedFrameSet) (config : ProtocolConfig)
    (relayScope : Option ProcessingRelayScope) : RelayM PUnit := do
  let authorized ← .ofExcept (bindRelayScope helloSnapshot relayScope)
  let watermark ← consult env fun db => .ok (offeredWatermark db)
  let unresolved ← consult env unresolvedKeys
  let jobId ← consult env fun db => .ok (processingJobFor db helloSnapshot.key.captureRunId)
  let measuredUtcMs ← observe env.utcNowMs
  put (← .ofExcept (buildProducerHello client.codec config authorized watermark unresolved
    (if truthy jobId then jobId else helloSnapshot.processingJobId) measuredUtcMs))

/-- The channel, unless the stop event is set. -/
def connect (helloSnapshot : ClaimedFrameSet) (config : ProtocolConfig) (authenticated : Bool)
    (relayScope : Option ProcessingRelayScope) : RelayM Opening := do
  announce env client helloSnapshot config relayScope
  match ← observe env.channelError with
  | some e => throw e
  | none =>
      if ← observe env.stopped then
        return .stopped
      else
        let unresolved ← consult env unresolvedKeys
        return .opened
          { helloSnapshot := helloSnapshot
            config := config
            authenticated := authenticated
            relayScope := relayScope
            reconciled := unresolved.isEmpty }

/-- The part of `_run_connection` before its loop. -/
def openConnection : RelayM Opening := do
  match ← consult env snapshotForHello with
  | none => return .nothingEligible
  | some helloSnapshot =>
      let config ← .ofExcept (bindAuthorizedClaim client.protocolConfig helloSnapshot)
      match ← resolveCredential env helloSnapshot with
      | .unneeded => connect env client helloSnapshot config false none
      | .active scope => connect env client helloSnapshot config true scope
      | .sessionInactive =>
          let updatedAtMs ← observe env.utcNowMs
          let _ ← transact env fun db =>
            (retireEligible db helloSnapshot.key .sessionInactive
              "RELAY_CREDENTIAL_SESSION_INACTIVE" updatedAtMs).map id .ok
          return .sessionInactive

/-! ## Credits -/

/-- The part of `_handle_credit` before the claim: the credit's identity and the run of the
set that a claim is expected to find. -/
def previewCredit (credit : ProcessorCredit) (session : NegotiatedSession)
    (expectedCaptureRunId : String) : RelayM (ℚ × CreditIdentity) := do
  let receivedMonotonic ← observe env.monotonic
  let identity ← .ofExcept (creditIdentity credit session)
  match ← consult env snapshotForHello with
  | some preview =>
      if preview.key.captureRunId ≠ expectedCaptureRunId then
        throw (.captureRunChanged "capture run changed; a new hello is required")
      else
        return (receivedMonotonic, identity)
  | none => return (receivedMonotonic, identity)

def claimForCredit (identity : CreditIdentity) : RelayM (Option ClaimedFrameSet) := do
  let offeredAtMs ← observe env.utcNowMs
  transact env fun db => claimLatest db identity offeredAtMs

def answerNoData (credit : ProcessorCredit) (reason : Reason)
    (newestKnown : Option FrameSetKey) : RelayM PUnit := do
  put (← .ofExcept (buildNoData credit reason newestKnown))

def assemblePayload (opened : Opened) (session : NegotiatedSession) (credit : ProcessorCredit)
    (receivedMonotonic : ℚ) (claim : ClaimedFrameSet) : RelayM CreditedFrameSet := do
  let nowMonotonic ← observe env.monotonic
  let nowUtcMs ← observe env.utcNowMs
  let read ← readFiles env claim.members.length
  .ofExcept (buildCreditedFrameSet client.codec claim credit session opened.config
    receivedMonotonic nowMonotonic nowUtcMs read)

/-- How a claim is released for what the payload's assembly raises: the state and the reason
of its projection, and the reason of the answer, without which the exception is raised again. -/
def released? : RelayError → Option (LiveState × String × Option Reason)
  | .frameSetExpired _ =>
      some (.expiredBeforeOffer, "DEADLINE_EXPIRED_BEFORE_SEND", some .expiredBeforeOffer)
  | .archiveIntegrityError _ =>
      some (.rejected, "INTEGRITY_ERROR:ArchiveIntegrityError", some .integrityError)
  | .osError typeName => some (.rejected, "INTEGRITY_ERROR:" ++ typeName, some .integrityError)
  | .payloadLimitExceeded _ => some (.rejected, "PAYLOAD_TOO_LARGE", some .payloadTooLarge)
  | .creditRejected _ => some (.rejected, "CREDIT_EXPIRED", none)
  | _ => none

def releaseClaim (claim : ClaimedFrameSet) (state : LiveState) (reason : String) :
    RelayM PUnit := do
  let updatedAtMs ← observe env.utcNowMs
  let _ ← transact env fun db => releaseBeforeSend db claim.key state reason updatedAtMs

/-- The handlers of what the payload's assembly raises. -/
def refuseClaim (credit : ProcessorCredit) (claim : ClaimedFrameSet) (e : RelayError) :
    RelayM PUnit :=
  match released? e with
  | some (state, reason, some answer) => do
      releaseClaim env claim state reason
      answerNoData credit answer (some claim.key)
  | some (state, reason, none) => do
      releaseClaim env claim state reason
      throw e
  | none => throw e

/-- The payload is enqueued, unless the stop event is set. -/
def sendPayload (claim : ClaimedFrameSet) (payload : CreditedFrameSet) : RelayM PUnit := do
  if ← observe env.stopped then
    let updatedAtMs ← observe env.utcNowMs
    let _ ← transact env fun db =>
      markUnresolved db claim.key "SHUTDOWN_INTERRUPTED" updatedAtMs
  else
    put (.frameSet payload)

/-- The part of `_handle_credit` after the claim. -/
def answerClaim (opened : Opened) (session : NegotiatedSession) (credit : ProcessorCredit)
    (receivedMonotonic : ℚ) (claimed : ClaimedFrameSet) : RelayM PUnit := do
  let claim ← .ofExcept (bindRelayScope claimed opened.relayScope)
  match ← (assemblePayload env client opened session credit receivedMonotonic claim).attempt with
  | .ok payload => sendPayload env claim payload
  | .error e => refuseClaim env credit claim e

def handleCredit (opened : Opened) (session : NegotiatedSession) (credit : ProcessorCredit) :
    RelayM PUnit := do
  let (receivedMonotonic, identity) ←
    previewCredit env credit session opened.helloSnapshot.key.captureRunId
  match ← claimForCredit env identity with
  | none =>
      let newestKnown ← consult env fun db => .ok (offeredWatermark db)
      answerNoData credit .noData newestKnown
  | some claim => answerClaim env client opened session credit receivedMonotonic claim

/-! ## Statuses -/

/-- `_apply_status`. -/
def applyStatus (status : FrameStatusEvent) : RelayM PUnit := do
  let _ ← transact env fun db => ImageStream.applyStatus db status

def applyStatuses : List FrameStatusEvent → RelayM PUnit
  | [] => pure ⟨⟩
  | status :: statuses => do
      applyStatus env status
      applyStatuses statuses

def reconcileUnseen (seen : List String) : List FrameSetKey → RelayM PUnit
  | [] => pure ⟨⟩
  | key :: keys =>
      if key.frameSetUid ∈ seen then
        reconcileUnseen seen keys
      else do
        let newer ← consult env fun db => .ok (hasNewerEligible db key)
        let updatedAtMs ← observe env.utcNowMs
        let _ ← transact env fun db => reconcileNotFound db key (!newer) updatedAtMs
        reconcileUnseen seen keys

/-- `_apply_reconciliation`. -/
def applyReconciliation (response : ReconciliationResponse) : RelayM Bool := do
  applyStatuses env response.canonicalStatuses
  if response.complete then
    let keys ← consult env unresolvedKeys
    reconcileUnseen env (response.canonicalStatuses.map (·.key.frameSetUid)) keys
    return true
  else
    return false

/-! ## The loop -/

/-- The variables of the loop over the responses. -/
structure Loop where
  session : Option NegotiatedSession := none
  reconciled : Bool
  connected : Bool := false
  deriving DecidableEq

/-- How one turn of the loop ends, when it does not raise. -/
inductive Turned
  | next (loop : Loop)
  /-- The stop event is set, and the loop is left. -/
  | stopped
  /-- The announced set has been retired; `_run_connection` returns `None`. -/
  | retired

/-- A rejection that is not to be tried again. -/
def finalRejection? : ProcessorEnvelope → Option HelloRejected
  | .helloRejected rejected => if rejected.retryable then none else some rejected
  | _ => none

def rejectHello (opened : Opened) (rejected : HelloRejected) : RelayM Turned :=
  let disabled : RelayError :=
    .permanentRelayError ("relay v2 disabled: " ++ rejected.detailCode)
  if opened.authenticated ∧ rejected.detailCode = "SESSION_TOKEN_SCOPE_INVALID" then do
    match ← consult env currentInFlight with
    | some _ => throw disabled
    | none =>
        let updatedAtMs ← observe env.utcNowMs
        let retired ← transact env fun db =>
          (retireEligible db opened.helloSnapshot.key .rejected "SESSION_TOKEN_SCOPE_INVALID"
            updatedAtMs).map id .ok
        if retired then
          return .retired
        else
          throw disabled
  else
    throw disabled

/-- What an acceptance says about reconciliation. -/
def reconciliationWanted : ProcessorEnvelope → Bool × String
  | .helloAccepted accepted =>
      (accepted.reconciliationRequired, accepted.reconciliationResumeToken)
  | _ => (false, "")

/-- The first response. -/
def acceptSession (opened : Opened) (loop : Loop) (envelope : ProcessorEnvelope) :
    RelayM Turned := do
  let session ← .ofExcept (acceptHello envelope opened.config)
  let updatedAtMs ← observe env.utcNowMs
  transact env fun db => bindProcessingJob db opened.helloSnapshot.key.captureRunId
    session.processingJobId updatedAtMs
  let unresolved ← consult env unresolvedKeys
  if (reconciliationWanted envelope).1 ∨ unresolved ≠ [] then
    put (← .ofExcept (buildReconciliationRequest session opened.config unresolved
      (reconciliationWanted envelope).2))
    return .next { session := some session, reconciled := unresolved.isEmpty, connected := true }
  else
    return .next { loop with session := some session, connected := true }

/-- A response after the first. -/
def respond (opened : Opened) (loop : Loop) (session : NegotiatedSession)
    (envelope : ProcessorEnvelope) : RelayM Turned := do
  match envelope with
  | .reconciliation response =>
      let reconciled ← applyReconciliation env response
      return .next { loop with reconciled := reconciled }
  | .credit credit =>
      if ¬loop.reconciled then
        throw (.creditRejected "processor issued credit before reconciliation completed")
      else
        handleCredit env client opened session credit
        return .next loop
  | .status status =>
      applyStatus env status
      return .next loop
  | .helloAccepted _ | .helloRejected _ =>
      throw (.creditRejected "processor repeated hello response")
  | .unset => return .next loop

/-- One turn of the loop over the responses. -/
def handleEnvelope (opened : Opened) (loop : Loop) (envelope : ProcessorEnvelope) :
    RelayM Turned := do
  if ← observe env.stopped then
    return .stopped
  else
    match loop.session with
    | some session => respond env client opened loop session envelope
    | none =>
        match finalRejection? envelope with
        | some rejected => rejectHello env opened rejected
        | none => acceptSession env opened loop envelope

/-! ## The connection -/

/-- How the handling of a response has ended. -/
inductive Handling
  | continued
  | stopped
  | retired
  | raised (e : RelayError)
  /-- The loop has been left before. -/
  | unread
  deriving DecidableEq

structure Connection where
  relaying : Relaying
  loop : Loop
  /-- How the loop has been left. -/
  left : Option Handling := none

/-- The loop takes the next response, unless it has been left. -/
def envelopeStep (opened : Opened) (connection : Connection) (envelope : ProcessorEnvelope) :
    Connection × Handling :=
  match connection.left with
  | some _ => (connection, .unread)
  | none =>
      match handleEnvelope env client opened connection.loop envelope connection.relaying with
      | .ok (.next loop) relaying => ({ relaying := relaying, loop := loop }, .continued)
      | .ok .stopped relaying =>
          ({ connection with relaying := relaying, left := some .stopped }, .stopped)
      | .ok .retired relaying =>
          ({ connection with relaying := relaying, left := some .retired }, .retired)
      | .error e relaying =>
          ({ connection with relaying := relaying, left := some (.raised e) }, .raised e)

/-- The connection before the first response. -/
def Opened.start (opened : Opened) (relaying : Relaying) : Connection where
  relaying := relaying
  loop := { reconciled := opened.reconciled }

/-- The `finally` block: what is in flight is unresolved. -/
def closeConnection : RelayM PUnit := do
  match ← consult env currentInFlight with
  | none => return ⟨⟩
  | some current =>
      let updatedAtMs ← observe env.utcNowMs
      let _ ← transact env fun db =>
        markUnresolved db current "TRANSPORT_DISCONNECTED" updatedAtMs

/-- How `_run_connection` ends. -/
inductive Outcome
  /-- It has waited on the stop event and returns `None`. -/
  | idle
  /-- It returns `None` at once. -/
  | retryAtOnce
  | ended (connected : Bool)
  | raised (e : RelayError)

/-- The result of a loop that has been left, or whose responses have ended, by an error of
the transport or without one. -/
def Connection.outcome (connection : Connection) (failure : Option RelayError) : Outcome :=
  match connection.left, failure with
  | some .retired, _ => .retryAtOnce
  | some (.raised e), _ => .raised e
  | none, some e => .raised e
  | _, _ => .ended connection.loop.connected

/-- The responses that a connection gets, and how their stream fails. -/
structure Responses where
  envelopes : List ProcessorEnvelope
  failure : Option RelayError := none

/-- `_run_connection`. -/
def runConnection (s : Relaying) (responses : Responses) : Relaying × Outcome :=
  match openConnection env client s with
  | .error e s' => (s', .raised e)
  | .ok .nothingEligible s' => (s', .idle)
  | .ok .sessionInactive s' => (s', .retryAtOnce)
  | .ok .stopped s' => (s', .ended false)
  | .ok (.opened opened) s' =>
      let connection := Machine.after (envelopeStep env client opened) (opened.start s')
        responses.envelopes
      match closeConnection env connection.relaying with
      | .error e s'' => (s'', .raised e)
      | .ok _ s'' => (s'', connection.outcome responses.failure)

end Client

end RelayClient

end ImageStream
