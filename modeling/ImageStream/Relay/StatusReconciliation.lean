/-
# Reconciliation with the processor's statuses

After a reconnect the processor reports the canonical statuses of unresolved frame
sets, over any number of responses. `_apply_reconciliation` applies each event to the
store, and at the complete response it treats a set in flight as not found when no event
of that response has its uid.

Two things are told apart here that the handler takes for one: an event for the exact
key in flight, which is what the store acts on, and an event with the key's uid in the
last response, which is what the handler has seen.
-/

import ImageStream.Relay.InFlight
import ImageStream.Relay.OfferOrder

namespace ImageStream

open Base LatestLive

/-! ## The messages -/

inductive ProcessingAttemptState
  | unspecified
  | accepted
  | started
  | rejected
  | completed
  | failed
  | recoveryRequired
  deriving DecidableEq, Repr

/-- `ProcessingAttemptState.Name`. -/
def ProcessingAttemptState.name : ProcessingAttemptState → String
  | .unspecified => "PROCESSING_ATTEMPT_STATE_UNSPECIFIED"
  | .accepted => "ACCEPTED"
  | .started => "STARTED"
  | .rejected => "REJECTED"
  | .completed => "COMPLETED"
  | .failed => "FAILED"
  | .recoveryRequired => "RECOVERY_REQUIRED"

/-- The live state of the same name, which the zero value has not. -/
def ProcessingAttemptState.live? : ProcessingAttemptState → Option LiveState
  | .unspecified => none
  | .accepted => some .accepted
  | .started => some .started
  | .rejected => some .rejected
  | .completed => some .completed
  | .failed => some .failed
  | .recoveryRequired => some .recoveryRequired

inductive Reason
  | unspecified
  | noData
  | supersededBeforeOffer
  | expiredBeforeOffer
  | creditExpired
  | creditInvalid
  | streamEpochFenced
  | creditCancelled
  | expiredAtAdmission
  | expiredBeforeStart
  | duplicate
  | outOfOrder
  | payloadTooLarge
  | invalidSchema
  | identityMissing
  | identityConflict
  | integrityError
  | cameraSetMismatch
  | captureConfigMismatch
  | profileMismatch
  | synchronizationSpanExceeded
  | clockUnhealthy
  | processingError
  | processingTimeout
  | spoolError
  | storeError
  | archiveIoError
  | archiveMetadataError
  | processCrashed
  | shutdownInterrupted
  | alertDeliveryTimeout
  | alertReceiverRejected
  | alertOutboxPressure
  | modelUnhealthy
  | estimatorUnhealthy
  | subjectIdentityUnsafe
  | observationGapExceeded
  | calibrationUnhealthy
  | supervisorHeartbeatExpired
  | adminDisabled
  | modeLeaseConflict
  | reconciledAfterReconnect
  deriving DecidableEq, Repr

/-- `Reason.Name`. -/
def Reason.name : Reason → String
  | .unspecified => "REASON_UNSPECIFIED"
  | .noData => "NO_DATA"
  | .supersededBeforeOffer => "SUPERSEDED_BEFORE_OFFER"
  | .expiredBeforeOffer => "EXPIRED_BEFORE_OFFER"
  | .creditExpired => "CREDIT_EXPIRED"
  | .creditInvalid => "CREDIT_INVALID"
  | .streamEpochFenced => "STREAM_EPOCH_FENCED"
  | .creditCancelled => "CREDIT_CANCELLED"
  | .expiredAtAdmission => "EXPIRED_AT_ADMISSION"
  | .expiredBeforeStart => "EXPIRED_BEFORE_START"
  | .duplicate => "DUPLICATE"
  | .outOfOrder => "OUT_OF_ORDER"
  | .payloadTooLarge => "PAYLOAD_TOO_LARGE"
  | .invalidSchema => "INVALID_SCHEMA"
  | .identityMissing => "IDENTITY_MISSING"
  | .identityConflict => "IDENTITY_CONFLICT"
  | .integrityError => "INTEGRITY_ERROR"
  | .cameraSetMismatch => "CAMERA_SET_MISMATCH"
  | .captureConfigMismatch => "CAPTURE_CONFIG_MISMATCH"
  | .profileMismatch => "PROFILE_MISMATCH"
  | .synchronizationSpanExceeded => "SYNCHRONIZATION_SPAN_EXCEEDED"
  | .clockUnhealthy => "CLOCK_UNHEALTHY"
  | .processingError => "PROCESSING_ERROR"
  | .processingTimeout => "PROCESSING_TIMEOUT"
  | .spoolError => "SPOOL_ERROR"
  | .storeError => "STORE_ERROR"
  | .archiveIoError => "ARCHIVE_IO_ERROR"
  | .archiveMetadataError => "ARCHIVE_METADATA_ERROR"
  | .processCrashed => "PROCESS_CRASHED"
  | .shutdownInterrupted => "SHUTDOWN_INTERRUPTED"
  | .alertDeliveryTimeout => "ALERT_DELIVERY_TIMEOUT"
  | .alertReceiverRejected => "ALERT_RECEIVER_REJECTED"
  | .alertOutboxPressure => "ALERT_OUTBOX_PRESSURE"
  | .modelUnhealthy => "MODEL_UNHEALTHY"
  | .estimatorUnhealthy => "ESTIMATOR_UNHEALTHY"
  | .subjectIdentityUnsafe => "SUBJECT_IDENTITY_UNSAFE"
  | .observationGapExceeded => "OBSERVATION_GAP_EXCEEDED"
  | .calibrationUnhealthy => "CALIBRATION_UNHEALTHY"
  | .supervisorHeartbeatExpired => "SUPERVISOR_HEARTBEAT_EXPIRED"
  | .adminDisabled => "ADMIN_DISABLED"
  | .modeLeaseConflict => "MODE_LEASE_CONFLICT"
  | .reconciledAfterReconnect => "RECONCILED_AFTER_RECONNECT"

/-- A status event, with the clock's reading when it is applied. -/
structure FrameStatusEvent where
  key : FrameSetKey
  state : ProcessingAttemptState
  reason : Reason := .unspecified
  updatedAtMs : ℤ
  deriving DecidableEq

structure ReconciliationResponse where
  canonicalStatuses : List FrameStatusEvent
  complete : Bool

/-! ## The handler -/

def applyStatus (db : Database) (status : FrameStatusEvent) : Database × Except StoreError Bool :=
  match status.state.live? with
  | none => (db, .error (.valueError ("unsupported relay v2 status: " ++ status.state.name)))
  | some state =>
      applyRemoteStatus db status.key state (some status.reason.name) status.updatedAtMs

/-- Apply each event in turn, up to one that raises. -/
def applyStatuses (db : Database) : List FrameStatusEvent → Database × Except StoreError Unit
  | [] => (db, .ok ())
  | status :: statuses =>
      match applyStatus db status with
      | (db', .error e) => (db', .error e)
      | (db', .ok _) => applyStatuses db' statuses

def unresolvedKeys (db : Database) : Except StoreError (List FrameSetKey) :=
  match currentInFlight db with
  | .error e => .error e
  | .ok current => .ok current.toList

/-- Reconcile the unresolved keys whose uid has not been seen. -/
def reconcileUnseen (seen : List String) (nowMs : ℤ) (db : Database) :
    List FrameSetKey → Database × Except StoreError Unit
  | [] => (db, .ok ())
  | key :: keys =>
      if key.frameSetUid ∈ seen then
        reconcileUnseen seen nowMs db keys
      else
        match reconcileNotFound db key (!hasNewerEligible db key) nowMs with
        | (db', .error e) => (db', .error e)
        | (db', .ok _) => reconcileUnseen seen nowMs db' keys

/-- What the complete response does after its events. -/
def completeReconciliation (seen : List String) (nowMs : ℤ) (db : Database) :
    Database × Except StoreError Unit :=
  match unresolvedKeys db with
  | .error e => (db, .error e)
  | .ok keys => reconcileUnseen seen nowMs db keys

/-- `_apply_reconciliation`; it answers whether the reconciliation is complete. -/
def applyReconciliation (nowMs : ℤ) (db : Database) (response : ReconciliationResponse) :
    Database × Except StoreError Bool :=
  match applyStatuses db response.canonicalStatuses with
  | (db', .error e) => (db', .error e)
  | (db', .ok ()) =>
      if response.complete then
        (completeReconciliation
          (response.canonicalStatuses.map (·.key.frameSetUid)) nowMs db').map id
            fun result => result.map fun _ => true
      else
        (db', .ok false)

/-- Consecutive responses, up to one whose handling raises. -/
def applyResponses (nowMs : ℤ) (db : Database) (responses : List ReconciliationResponse) :
    Database × Except StoreError Bool :=
  responses.foldl
    (fun reached response =>
      match reached.2 with
      | .error _ => reached
      | .ok _ => applyReconciliation nowMs reached.1 response)
    (db, .ok false)

/-- The responses of a paged answer: only the last one is complete. -/
def pagedResponses (earlier : List (List FrameStatusEvent)) (last : List FrameStatusEvent) :
    List ReconciliationResponse :=
  earlier.map (fun statuses => { canonicalStatuses := statuses, complete := false }) ++
    [{ canonicalStatuses := last, complete := true }]

/-! ## The set in flight -/

/-- The frame set in flight has this key, a manifest and a projection. -/
structure InFlightKey (db : Database) (key : FrameSetKey) : Prop where
  inFlight : db.inFlight? = some key.frameSetUid
  manifest : ∃ manifest, db.manifests.find key.frameSetUid = some manifest ∧ manifest.key = key
  projection : ∃ state, db.liveState? key.frameSetUid = some state

theorem matchesCurrent_iff {db : Database} {key : FrameSetKey} :
    matchesCurrent db key = true ↔ db.inFlight? = some key.frameSetUid ∧
      ∃ manifest, db.manifests.find key.frameSetUid = some manifest ∧ manifest.key = key := by
  constructor
  · exact fun h => ⟨inFlight?_of_matchesCurrent db h, manifest_of_matchesCurrent h⟩
  · rintro ⟨hinFlight, manifest, hfind, hkey⟩
    unfold Database.inFlight? Database.client at hinFlight
    unfold matchesCurrent
    cases hstate : db.clientState with
    | none => simp [hstate] at hinFlight
    | some state =>
        have huid : state.inFlightFrameSetUid = some key.frameSetUid := by
          simpa [hstate] using hinFlight
        simp [huid, hfind, hkey]

namespace InFlightKey

variable {db : Database} {key : FrameSetKey}

/-- The keys that match are the one in flight. -/
theorem matchesCurrent_iff_eq (h : InFlightKey db key) {other : FrameSetKey} :
    matchesCurrent db other = true ↔ other = key := by
  obtain ⟨manifest, hfind, hkey⟩ := h.manifest
  rw [matchesCurrent_iff, h.inFlight]
  constructor
  · rintro ⟨huid, manifest', hfind', hkey'⟩
    rw [← Option.some.inj huid, hfind] at hfind'
    cases hfind'
    exact hkey'.symm.trans hkey
  · rintro rfl
    exact ⟨rfl, manifest, hfind, hkey⟩

/-- A change of the set in flight goes through. -/
theorem moved (h : InFlightKey db key) (liveState : LiveState) (reason : Option String)
    (timestampMs : ℤ) (change : RelayV2ClientState → RelayV2ClientState) :
    Moved db key liveState change (moveCurrent db key liveState reason timestampMs change).1 ∧
      (moveCurrent db key liveState reason timestampMs change).2 = .ok true := by
  rcases moveCurrent_cases db key liveState reason timestampMs change with ⟨-, hanswer⟩ | hmoved
  · refine absurd ?_ hanswer
    obtain ⟨state, hstate⟩ := h.projection
    obtain ⟨projection, hfind, -⟩ := Option.map_eq_some_iff.mp hstate
    have hcurrent : matchesCurrent db key = true := h.matchesCurrent_iff_eq.mpr rfl
    simp [moveCurrent, hcurrent, hfind]
  · exact hmoved

theorem currentInFlight (h : InFlightKey db key) :
    LatestLive.currentInFlight db = .ok (some key) := by
  obtain ⟨manifest, hfind, hkey⟩ := h.manifest
  simp only [LatestLive.currentInFlight, h.inFlight, hfind, hkey]

end InFlightKey

theorem currentInFlight_of_none {db : Database} (h : db.inFlight? = none) :
    currentInFlight db = .ok none := by
  simp only [currentInFlight, h]

/-- In a sound database the set in flight has all that belongs to it. -/
theorem inFlightKey_of_currentInFlight {db : Database} {key : FrameSetKey}
    (hsound : db.InFlightSound) (h : currentInFlight db = .ok (some key)) :
    InFlightKey db key := by
  unfold currentInFlight at h
  split at h
  · cases h
  rename_i uid hinFlight
  split at h
  · cases h
  rename_i manifest hfind
  cases h
  have huid : manifest.frameSetUid = uid := db.manifests.key_of_find hfind
  obtain ⟨state, hstate, -⟩ := (hsound.agrees uid).mpr hinFlight
  exact
    { inFlight := hinFlight.trans (congrArg some huid.symm)
      manifest := ⟨manifest, (congrArg db.manifests.find huid).trans hfind, rfl⟩
      projection := ⟨state, (congrArg db.liveState? huid).trans hstate⟩ }

/-! ### One event -/

/-- Whether a reported state leaves its set in flight. -/
def ProcessingAttemptState.keepsInFlight : ProcessingAttemptState → Bool
  | .accepted | .started => true
  | _ => false

theorem ProcessingAttemptState.keepsInFlight_iff {state : ProcessingAttemptState} :
    state.keepsInFlight = true ↔ state = .accepted ∨ state = .started := by
  cases state <;> decide

theorem ProcessingAttemptState.live?_of_ne {state : ProcessingAttemptState}
    (h : state ≠ .unspecified) :
    ∃ live, state.live? = some live ∧ isRemoteStatus live = true ∧
      isReleasing live = !state.keepsInFlight ∧
      live.stage = if state.keepsInFlight then .held else .done := by
  cases state <;> first | exact absurd rfl h | exact ⟨_, rfl, rfl, rfl, rfl⟩

/-- Whether an event has one of the reported states. -/
def FrameStatusEvent.Canonical (status : FrameStatusEvent) : Prop := status.state ≠ .unspecified

/-- A canonical event moves the set that it is for, and a releasing one ends the flight. -/
theorem applyStatus_of_canonical {status : FrameStatusEvent} (h : status.Canonical) :
    ∃ live : LiveState, live.stage = (if status.state.keepsInFlight then .held else .done) ∧
      ∀ db, applyStatus db status = transitionCurrent db status.key live
        (some status.reason.name) (!status.state.keepsInFlight) status.updatedAtMs := by
  obtain ⟨live, hlive, hremote, hreleasing, hstage⟩ := ProcessingAttemptState.live?_of_ne h
  refine ⟨live, hstage, fun db => ?_⟩
  simp [applyStatus, hlive, applyRemoteStatus, hremote, hreleasing]

/-- An event for another key than the one in flight changes nothing. -/
theorem applyStatus_of_not_current {db : Database} {status : FrameStatusEvent}
    (hcanonical : status.Canonical) (h : ¬matchesCurrent db status.key = true) :
    applyStatus db status = (db, .ok false) := by
  obtain ⟨live, -, happly⟩ := applyStatus_of_canonical hcanonical
  rw [happly db, transitionCurrent, moveCurrent, if_pos h]

theorem manifests_applyStatus (db : Database) {status : FrameStatusEvent}
    (hcanonical : status.Canonical) : (applyStatus db status).1.manifests = db.manifests := by
  obtain ⟨live, -, happly⟩ := applyStatus_of_canonical hcanonical
  rw [happly db]
  exact manifests_moveCurrent db _ _ _ _ _

/-- An event for the key in flight keeps the set in flight, or ends its flight. -/
theorem applyStatus_of_current {db : Database} {key : FrameSetKey} {status : FrameStatusEvent}
    (h : InFlightKey db key) (hcanonical : status.Canonical) (hkey : status.key = key) :
    (applyStatus db status).2 = .ok true ∧
    ∃ live, (applyStatus db status).1.liveState? key.frameSetUid = some live ∧
      live ≠ .eligible ∧
      if status.state.keepsInFlight then InFlightKey (applyStatus db status).1 key
      else (applyStatus db status).1.inFlight? = none := by
  have hmanifests := manifests_applyStatus db hcanonical
  obtain ⟨live, hstage, happly⟩ := applyStatus_of_canonical hcanonical
  obtain ⟨hmoved, hanswer⟩ := h.moved live (some status.reason.name) status.updatedAtMs
    (fun state => if !status.state.keepsInFlight then state.released else state)
  rw [← hkey] at hmoved hanswer
  rw [happly db] at hmanifests ⊢
  refine ⟨hanswer, live, hkey ▸ hmoved.now, ?_, ?_⟩
  · rintro rfl
    split at hstage <;> cases hstage
  · have hinFlight := (columns_of_offer hmoved.offer).1
    cases hkeeps : status.state.keepsInFlight with
    | true =>
        rw [hkeeps] at hinFlight hmanifests hmoved
        obtain ⟨manifest, hfind, hmanifest⟩ := h.manifest
        exact ⟨hinFlight.trans h.inFlight, ⟨manifest, by rw [hmanifests, hfind], hmanifest⟩,
          ⟨live, hkey ▸ hmoved.now⟩⟩
    | false =>
        rw [hkeeps] at hinFlight
        exact hinFlight

/-! ### Many events -/

section Events

variable {db : Database} {key : FrameSetKey}

theorem applyStatuses_append (db : Database) (first second : List FrameStatusEvent) :
    applyStatuses db (first ++ second) =
      match applyStatuses db first with
      | (db', .error e) => (db', .error e)
      | (db', .ok ()) => applyStatuses db' second := by
  induction first generalizing db with
  | nil => rfl
  | cons status first ih =>
      simp only [List.cons_append, applyStatuses]
      cases happly : applyStatus db status with
      | mk db' answer =>
          cases answer with
          | error e => rfl
          | ok changed => exact ih db'

/-- With nothing in flight no event changes anything. -/
theorem applyStatuses_of_none (h : db.inFlight? = none) {statuses : List FrameStatusEvent}
    (hcanonical : ∀ status ∈ statuses, status.Canonical) :
    applyStatuses db statuses = (db, .ok ()) := by
  induction statuses with
  | nil => rfl
  | cons status statuses ih =>
      have hother : ¬matchesCurrent db status.key = true := by
        rw [matchesCurrent_iff, h]
        exact fun hcurrent => nomatch hcurrent.1
      rw [applyStatuses, applyStatus_of_not_current (hcanonical status List.mem_cons_self) hother]
      exact ih fun status' hmem => hcanonical status' (List.mem_cons_of_mem _ hmem)

/-- Whether every event for a key leaves its set in flight. -/
def Kept (key : FrameSetKey) (statuses : List FrameStatusEvent) : Prop :=
  ∀ status ∈ statuses, status.key = key → status.state.keepsInFlight = true

theorem kept_cons {status : FrameStatusEvent} {statuses : List FrameStatusEvent} :
    Kept key (status :: statuses) ↔
      (status.key = key → status.state.keepsInFlight = true) ∧ Kept key statuses :=
  List.forall_mem_cons

/-- What a list of events makes of the set in flight. -/
structure StatusesApplied (db : Database) (key : FrameSetKey) (statuses : List FrameStatusEvent)
    (result : Database × Except StoreError Unit) : Prop where
  answer : result.2 = .ok ()
  kept : Kept key statuses → InFlightKey result.1 key
  ended : ¬Kept key statuses → result.1.inFlight? = none
  untouched : (∀ status ∈ statuses, status.key ≠ key) → result.1 = db
  reported : (∃ status ∈ statuses, status.key = key) →
    ∃ live, result.1.liveState? key.frameSetUid = some live ∧ live ≠ .eligible

/-- The first event for the key in flight that does not keep it ends the flight, and what
comes after changes nothing. -/
theorem applyStatuses_of_inFlight {statuses : List FrameStatusEvent} (h : InFlightKey db key)
    (hcanonical : ∀ status ∈ statuses, status.Canonical) :
    StatusesApplied db key statuses (applyStatuses db statuses) := by
  induction statuses generalizing db with
  | nil =>
      have hkept : Kept key [] := fun status hmem => absurd hmem List.not_mem_nil
      refine ⟨rfl, fun _ => h, fun hended => absurd hkept hended, fun _ => rfl, ?_⟩
      rintro ⟨status, hmem, -⟩
      cases hmem
  | cons status statuses ih =>
      have hstatus : status.Canonical := hcanonical status List.mem_cons_self
      have hrest : ∀ status' ∈ statuses, status'.Canonical :=
        fun status' hmem => hcanonical status' (List.mem_cons_of_mem _ hmem)
      by_cases hkey : status.key = key
      · obtain ⟨hanswer, live, hlive, hne, hflight⟩ := applyStatus_of_current h hstatus hkey
        have hstep : applyStatuses db (status :: statuses) =
            applyStatuses (applyStatus db status).1 statuses := by
          rw [applyStatuses]
          cases happly : applyStatus db status with
          | mk db' answer =>
              rw [happly] at hanswer
              cases hanswer
              rfl
        rw [hstep]
        cases hkeeps : status.state.keepsInFlight with
        | true =>
            rw [if_pos hkeeps] at hflight
            have happlied := ih hflight hrest
            refine ⟨happlied.answer, fun hkept => happlied.kept (kept_cons.mp hkept).2,
              fun hended => happlied.ended fun hkept => hended (kept_cons.mpr ⟨fun _ => hkeeps, hkept⟩),
              fun hothers => absurd hkey (hothers status List.mem_cons_self), fun _ => ?_⟩
            by_cases hlater : ∃ status' ∈ statuses, status'.key = key
            · exact happlied.reported hlater
            · rw [happlied.untouched fun status' hmem heq => hlater ⟨status', hmem, heq⟩]
              exact ⟨live, hlive, hne⟩
        | false =>
            rw [hkeeps, if_neg Bool.false_ne_true] at hflight
            rw [applyStatuses_of_none hflight hrest]
            refine ⟨rfl, fun hkept => ?_, fun _ => hflight,
              fun hothers => absurd hkey (hothers status List.mem_cons_self),
              fun _ => ⟨live, hlive, hne⟩⟩
            rw [(kept_cons.mp hkept).1 hkey] at hkeeps
            cases hkeeps
      · have hother : ¬matchesCurrent db status.key = true := h.matchesCurrent_iff_eq.not.mpr hkey
        rw [applyStatuses, applyStatus_of_not_current hstatus hother]
        have happlied := ih h hrest
        refine ⟨happlied.answer, fun hkept => happlied.kept (kept_cons.mp hkept).2,
          fun hended => happlied.ended fun hkept =>
            hended (kept_cons.mpr ⟨fun heq => absurd heq hkey, hkept⟩),
          fun hothers => happlied.untouched fun status' hmem =>
            hothers status' (List.mem_cons_of_mem _ hmem), ?_⟩
        rintro ⟨status', hmem, heq⟩
        rcases List.mem_cons.mp hmem with rfl | hlater
        · exact absurd heq hkey
        · exact happlied.reported ⟨status', hlater, heq⟩

end Events

/-! ### Completion -/

section Complete

variable {db : Database} {key : FrameSetKey} {seen : List String} {nowMs : ℤ}

theorem completeReconciliation_of_none (h : db.inFlight? = none) :
    completeReconciliation seen nowMs db = (db, .ok ()) := by
  simp only [completeReconciliation, unresolvedKeys, currentInFlight_of_none h, Option.toList,
    reconcileUnseen]

theorem completeReconciliation_of_seen (h : InFlightKey db key)
    (hseen : key.frameSetUid ∈ seen) : completeReconciliation seen nowMs db = (db, .ok ()) := by
  simp only [completeReconciliation, unresolvedKeys, h.currentInFlight, Option.toList,
    reconcileUnseen, if_pos hseen]

/-- A set in flight that has not been seen is not found. -/
theorem completeReconciliation_of_unseen (nowMs : ℤ) (h : InFlightKey db key)
    (hunseen : key.frameSetUid ∉ seen) :
    completeReconciliation seen nowMs db =
        ((reconcileNotFound db key (!hasNewerEligible db key) nowMs).1, .ok ()) ∧
      (reconcileNotFound db key (!hasNewerEligible db key) nowMs).2 = .ok true ∧
      (reconcileNotFound db key (!hasNewerEligible db key) nowMs).1.inFlight? = none := by
  obtain ⟨hmoved, hmovedAnswer⟩ := h.moved _ _ nowMs _
  have hanswer : (reconcileNotFound db key (!hasNewerEligible db key) nowMs).2 = .ok true :=
    hmovedAnswer
  refine ⟨?_, hanswer, (columns_of_offer hmoved.offer).1⟩
  simp only [completeReconciliation, unresolvedKeys, h.currentInFlight, Option.toList,
    reconcileUnseen, if_neg hunseen]
  cases hresult : reconcileNotFound db key (!hasNewerEligible db key) nowMs with
  | mk db' answer =>
      rw [hresult] at hanswer
      cases hanswer
      rfl

end Complete

/-! ## Paged answers -/

/-- The store after a paged answer, and after one complete response with all its events. -/
def pagedStore (nowMs : ℤ) (db : Database) (earlier : List (List FrameStatusEvent))
    (last : List FrameStatusEvent) : Database :=
  (applyResponses nowMs db (pagedResponses earlier last)).1

def wholeStore (nowMs : ℤ) (db : Database) (earlier : List (List FrameStatusEvent))
    (last : List FrameStatusEvent) : Database :=
  (applyReconciliation nowMs db
    { canonicalStatuses := earlier.flatten ++ last, complete := true }).1

/-- What reconciliation is to make of the set in flight, however the answer is split. -/
structure ReconciledExactly (nowMs : ℤ) (db : Database) (key : FrameSetKey)
    (earlier : List (List FrameStatusEvent)) (last : List FrameStatusEvent) : Prop where
  finished : (applyResponses nowMs db (pagedResponses earlier last)).2 = .ok true
  split : pagedStore nowMs db earlier last = wholeStore nowMs db earlier last
  inFlight : currentInFlight (pagedStore nowMs db earlier last) = .ok (some key) ↔
    (∃ status ∈ earlier.flatten ++ last, status.key = key) ∧
      ∀ status ∈ earlier.flatten ++ last, status.key = key →
        status.state = .accepted ∨ status.state = .started
  notFound : (∀ status ∈ earlier.flatten ++ last, status.key ≠ key) →
    pagedStore nowMs db earlier last =
        (reconcileNotFound db key (!hasNewerEligible db key) nowMs).1 ∧
      (reconcileNotFound db key (!hasNewerEligible db key) nowMs).2 = .ok true
  notRetried : (∃ status ∈ earlier.flatten ++ last, status.key = key ∧
      (status.state = .accepted ∨ status.state = .started)) →
    (pagedStore nowMs db earlier last).liveState? key.frameSetUid ≠ some .eligible

/-- Some event ends the flight of the exact key; or no event has the key's uid; or some
event has the exact key, and some event of the last response has its uid. -/
def Distinguished (key : FrameSetKey) (earlier : List (List FrameStatusEvent))
    (last : List FrameStatusEvent) : Prop :=
  (∃ status ∈ earlier.flatten ++ last, status.key = key ∧
    status.state ≠ .accepted ∧ status.state ≠ .started) ∨
  (∀ status ∈ earlier.flatten ++ last, status.key.frameSetUid ≠ key.frameSetUid) ∨
  ((∃ status ∈ earlier.flatten ++ last, status.key = key) ∧
    ∃ status ∈ last, status.key.frameSetUid = key.frameSetUid)

section Paged

variable {db : Database} {key : FrameSetKey}
  {earlier : List (List FrameStatusEvent)} {last : List FrameStatusEvent}

theorem applyReconciliation_of_ok (nowMs : ℤ) {db' : Database} {statuses : List FrameStatusEvent}
    (h : applyStatuses db statuses = (db', .ok ())) (complete : Bool) :
    applyReconciliation nowMs db { canonicalStatuses := statuses, complete := complete } =
      if complete then
        (completeReconciliation (statuses.map (·.key.frameSetUid)) nowMs db').map id
          fun result => result.map fun _ => true
      else (db', .ok false) := by
  simp only [applyReconciliation, h]

/-- Canonical events are all applied, and the set in flight stays in flight or leaves. -/
theorem applyStatuses_settled (h : InFlightKey db key ∨ db.inFlight? = none)
    (statuses : List FrameStatusEvent) (hcanonical : ∀ status ∈ statuses, status.Canonical) :
    ∃ db', applyStatuses db statuses = (db', .ok ()) ∧
      (InFlightKey db' key ∨ db'.inFlight? = none) := by
  rcases h with hkey | hnone
  · have happlied := applyStatuses_of_inFlight hkey hcanonical
    refine ⟨(applyStatuses db statuses).1, Prod.ext rfl happlied.answer, ?_⟩
    by_cases hkept : Kept key statuses
    · exact Or.inl (happlied.kept hkept)
    · exact Or.inr (happlied.ended hkept)
  · exact ⟨db, applyStatuses_of_none hnone hcanonical, Or.inr hnone⟩

/-- Responses that are not complete only apply their events. -/
theorem applyResponses_incomplete (nowMs : ℤ) (h : InFlightKey db key ∨ db.inFlight? = none)
    (hcanonical : ∀ status ∈ earlier.flatten, status.Canonical) :
    ∃ db', applyStatuses db earlier.flatten = (db', .ok ()) ∧
      applyResponses nowMs db
          (earlier.map fun statuses => { canonicalStatuses := statuses, complete := false }) =
        (db', .ok false) := by
  induction earlier generalizing db with
  | nil => exact ⟨db, rfl, rfl⟩
  | cons statuses earlier ih =>
      obtain ⟨db₁, happly, hsettled⟩ := applyStatuses_settled h statuses
        fun status hmem => hcanonical status (by simp [hmem])
      obtain ⟨db₂, hrest, hresponses⟩ := ih hsettled fun status hmem =>
        hcanonical status (List.mem_append_right _ hmem)
      refine ⟨db₂, ?_, ?_⟩
      · rw [List.flatten_cons, applyStatuses_append, happly]
        exact hrest
      · have hfirst := applyReconciliation_of_ok nowMs happly false
        rw [if_neg Bool.false_ne_true] at hfirst
        rw [List.map_cons, applyResponses, List.foldl_cons]
        simp only [hfirst]
        exact hresponses

/-- Both ways of answering apply the same events; they differ in what has been seen when
the reconciliation completes. -/
theorem stores_eq (nowMs : ℤ) (h : InFlightKey db key)
    (hcanonical : ∀ status ∈ earlier.flatten ++ last, status.Canonical) :
    ∃ db', applyStatuses db (earlier.flatten ++ last) = (db', .ok ()) ∧
      applyResponses nowMs db (pagedResponses earlier last) =
        (completeReconciliation (last.map (·.key.frameSetUid)) nowMs db').map id
          (fun result => result.map fun _ => true) ∧
      wholeStore nowMs db earlier last =
        (completeReconciliation ((earlier.flatten ++ last).map (·.key.frameSetUid)) nowMs
          db').1 := by
  obtain ⟨db₁, hearlier, hresponses⟩ := applyResponses_incomplete nowMs
    (Or.inl h) fun status hmem => hcanonical status (List.mem_append_left _ hmem)
  have hsettled : InFlightKey db₁ key ∨ db₁.inFlight? = none := by
    obtain ⟨db₁', happly, hsettled⟩ := applyStatuses_settled (Or.inl h)
      earlier.flatten fun status hmem =>
        hcanonical status (List.mem_append_left _ hmem)
    rw [hearlier] at happly
    cases happly
    exact hsettled
  obtain ⟨db₂, hlast, -⟩ := applyStatuses_settled hsettled last
    fun status hmem => hcanonical status (List.mem_append_right _ hmem)
  have hall : applyStatuses db (earlier.flatten ++ last) = (db₂, .ok ()) := by
    rw [applyStatuses_append, hearlier]
    exact hlast
  refine ⟨db₂, hall, ?_, ?_⟩
  · have hcomplete := applyReconciliation_of_ok nowMs hlast true
    rw [if_pos rfl] at hcomplete
    rw [applyResponses] at hresponses
    rw [applyResponses, pagedResponses, List.foldl_append, hresponses, List.foldl_cons,
      List.foldl_nil]
    exact hcomplete
  · rw [wholeStore, applyReconciliation_of_ok nowMs hall true]
    rfl

theorem kept_iff {statuses : List FrameStatusEvent} : Kept key statuses ↔
    ∀ status ∈ statuses, status.key = key →
      status.state = .accepted ∨ status.state = .started := by
  simp only [Kept, ProcessingAttemptState.keepsInFlight_iff]

/-- When the flight has ended before the completion, the completion changes nothing. -/
theorem reconciled_of_ended (nowMs : ℤ) (h : InFlightKey db key)
    (hcanonical : ∀ status ∈ earlier.flatten ++ last, status.Canonical)
    (hended : ¬Kept key (earlier.flatten ++ last)) :
    ReconciledExactly nowMs db key earlier last := by
  obtain ⟨db', hall, hpaged, hwhole⟩ := stores_eq nowMs h hcanonical
  have happlied := applyStatuses_of_inFlight h hcanonical
  rw [hall] at happlied
  have hnone : db'.inFlight? = none := happlied.ended hended
  rw [completeReconciliation_of_none hnone] at hpaged hwhole
  have hstore : pagedStore nowMs db earlier last = db' := by rw [pagedStore, hpaged]; rfl
  have hexact : ∃ status ∈ earlier.flatten ++ last, status.key = key := by
    by_contra hnever
    exact hended fun status hmem hkey => absurd ⟨status, hmem, hkey⟩ hnever
  refine ⟨by rw [hpaged]; rfl, hstore.trans hwhole.symm, ?_, fun hnever => ?_, fun _ => ?_⟩
  · rw [hstore, currentInFlight_of_none hnone]
    exact ⟨fun hcurrent => (nomatch hcurrent),
      fun hkept => absurd (kept_iff.mpr hkept.2) hended⟩
  · obtain ⟨status, hmem, hkey⟩ := hexact
    exact absurd hkey (hnever status hmem)
  · obtain ⟨live, hlive, hne⟩ := happlied.reported hexact
    rw [hstore, hlive]
    exact fun heq => hne (Option.some.inj heq)

/-- When the last response has seen the uid of the set in flight, the set stays. -/
theorem reconciled_of_seen (nowMs : ℤ) (h : InFlightKey db key)
    (hcanonical : ∀ status ∈ earlier.flatten ++ last, status.Canonical)
    (hkept : Kept key (earlier.flatten ++ last))
    (hseen : ∃ status ∈ last, status.key.frameSetUid = key.frameSetUid) :
    ReconciledExactly nowMs db key earlier last ↔
      ∃ status ∈ earlier.flatten ++ last, status.key = key := by
  obtain ⟨db', hall, hpaged, hwhole⟩ := stores_eq nowMs h hcanonical
  have happlied := applyStatuses_of_inFlight h hcanonical
  rw [hall] at happlied
  have hflight : InFlightKey db' key := happlied.kept hkept
  obtain ⟨status, hmem, huid⟩ := hseen
  rw [completeReconciliation_of_seen hflight
    (List.mem_map.mpr ⟨status, hmem, huid⟩)] at hpaged
  rw [completeReconciliation_of_seen hflight
    (List.mem_map.mpr ⟨status, List.mem_append_right _ hmem, huid⟩)] at hwhole
  have hstore : pagedStore nowMs db earlier last = db' := by rw [pagedStore, hpaged]; rfl
  have hcurrent : currentInFlight (pagedStore nowMs db earlier last) = .ok (some key) := by
    rw [hstore, hflight.currentInFlight]
  constructor
  · exact fun hexactly => (hexactly.inFlight.mp hcurrent).1
  · intro hexact
    refine ⟨by rw [hpaged]; rfl, hstore.trans hwhole.symm,
      ⟨fun _ => ⟨hexact, kept_iff.mp hkept⟩, fun _ => hcurrent⟩, fun hnever => ?_, fun _ => ?_⟩
    · obtain ⟨status', hmem', hkey⟩ := hexact
      exact absurd hkey (hnever status' hmem')
    · obtain ⟨live, hlive, hne⟩ := happlied.reported hexact
      rw [hstore, hlive]
      exact fun heq => hne (Option.some.inj heq)

/-- When the last response has not seen the uid of the set in flight, the set is released,
although a complete response with all events may have seen it. -/
theorem reconciled_of_unseen (nowMs : ℤ) (h : InFlightKey db key)
    (hcanonical : ∀ status ∈ earlier.flatten ++ last, status.Canonical)
    (hkept : Kept key (earlier.flatten ++ last))
    (hunseen : ¬∃ status ∈ last, status.key.frameSetUid = key.frameSetUid) :
    ReconciledExactly nowMs db key earlier last ↔
      ∀ status ∈ earlier.flatten ++ last, status.key.frameSetUid ≠ key.frameSetUid := by
  obtain ⟨db', hall, hpaged, hwhole⟩ := stores_eq nowMs h hcanonical
  have happlied := applyStatuses_of_inFlight h hcanonical
  rw [hall] at happlied
  have hflight : InFlightKey db' key := happlied.kept hkept
  have hlast : key.frameSetUid ∉ last.map (·.key.frameSetUid) := by
    rintro hmem
    obtain ⟨status, hmem, huid⟩ := List.mem_map.mp hmem
    exact hunseen ⟨status, hmem, huid⟩
  obtain ⟨hcomplete, hanswer, hreleased⟩ :=
    completeReconciliation_of_unseen nowMs hflight hlast
  rw [hcomplete] at hpaged
  have hstore : pagedStore nowMs db earlier last =
      (reconcileNotFound db' key (!hasNewerEligible db' key) nowMs).1 := by
    rw [pagedStore, hpaged]
    rfl
  have hcurrent : currentInFlight (pagedStore nowMs db earlier last) = .ok none := by
    rw [hstore]
    exact currentInFlight_of_none hreleased
  constructor
  · intro hexactly status hmem huid
    -- One complete response has seen the uid and keeps the set in flight.
    rw [completeReconciliation_of_seen hflight (List.mem_map.mpr ⟨status, hmem, huid⟩)] at hwhole
    rw [hexactly.split, hwhole, hflight.currentInFlight] at hcurrent
    cases hcurrent
  · intro hnever
    have hnoExact : ∀ status ∈ earlier.flatten ++ last, status.key ≠ key :=
      fun status hmem hkey => hnever status hmem (by rw [hkey])
    have hsame : db' = db := happlied.untouched hnoExact
    have hall' : key.frameSetUid ∉ (earlier.flatten ++ last).map (·.key.frameSetUid) := by
      rintro hmem
      obtain ⟨status, hmem, huid⟩ := List.mem_map.mp hmem
      exact hnever status hmem huid
    rw [(completeReconciliation_of_unseen nowMs hflight hall').1] at hwhole
    rw [hsame] at hstore hanswer
    refine ⟨by rw [hpaged]; rfl, by rw [hstore, hwhole, hsame], ?_, fun _ => ⟨hstore, hanswer⟩, ?_⟩
    · rw [hcurrent]
      exact ⟨fun heq => (nomatch heq),
        fun ⟨⟨status, hmem, hkey⟩, _⟩ => absurd hkey (hnoExact status hmem)⟩
    · rintro ⟨status, hmem, hkey, -⟩
      exact absurd hkey (hnoExact status hmem)

end Paged

/-- **Reconciliation is exact, however it is split, exactly when keys and responses are
told apart.** For every database with a frame set in flight and every canonical list of
events over any number of responses: reconciliation does what it is to do if and only if
an event ends the flight of the exact key, or no event has its uid, or there is an event
for the exact key and one with its uid in the last response. -/
theorem reconciled_exactly_iff (nowMs : ℤ) (db : Database) (key : FrameSetKey)
    (h : InFlightKey db key) (earlier : List (List FrameStatusEvent))
    (last : List FrameStatusEvent)
    (hcanonical : ∀ status ∈ earlier.flatten ++ last, status.Canonical) :
    ReconciledExactly nowMs db key earlier last ↔ Distinguished key earlier last := by
  by_cases hkept : Kept key (earlier.flatten ++ last)
  · have hnotEnded : ¬∃ status ∈ earlier.flatten ++ last, status.key = key ∧
        status.state ≠ .accepted ∧ status.state ≠ .started := by
      rintro ⟨status, hmem, hkey, haccepted, hstarted⟩
      rcases kept_iff.mp hkept status hmem hkey with heq | heq
      · exact haccepted heq
      · exact hstarted heq
    by_cases hseen : ∃ status ∈ last, status.key.frameSetUid = key.frameSetUid
    · rw [reconciled_of_seen nowMs h hcanonical hkept hseen]
      constructor
      · exact fun hexact => Or.inr (Or.inr ⟨hexact, hseen⟩)
      · rintro (hended | hnever | ⟨hexact, -⟩)
        · exact absurd hended hnotEnded
        · obtain ⟨status, hmem, huid⟩ := hseen
          exact absurd huid (hnever status (List.mem_append_right _ hmem))
        · exact hexact
    · rw [reconciled_of_unseen nowMs h hcanonical hkept hseen]
      constructor
      · exact fun hnever => Or.inr (Or.inl hnever)
      · rintro (hended | hnever | ⟨-, hlast⟩)
        · exact absurd hended hnotEnded
        · exact hnever
        · exact absurd hlast hseen
  · refine iff_of_true (reconciled_of_ended nowMs h hcanonical hkept) (Or.inl ?_)
    by_contra hnone
    refine hkept (kept_iff.mpr fun status hmem hkey => ?_)
    by_contra hstate
    rw [not_or] at hstate
    exact hnone ⟨status, hmem, hkey, hstate⟩

/-! ### An accepted set that is released -/

/-- The database with one claimed frame set. -/
def claimedDatabase : Database :=
  Machine.after storeStep {}
    [.persistFrameSetManifest (numberedSet 1 "first") (some 1030) 0,
      .claimLatest someCredit 1040]

theorem claimedDatabase_inFlightKey : InFlightKey claimedDatabase (numberedKey 1 "first") :=
  inFlightKey_of_currentInFlight (inFlightSound_after _) (by decide +kernel)

/-- The processor has accepted the claimed set. -/
def acceptedEvent : FrameStatusEvent where
  key := numberedKey 1 "first"
  state := .accepted
  updatedAtMs := 1050

theorem acceptedEvent_canonical : acceptedEvent.Canonical := by
  unfold FrameStatusEvent.Canonical
  decide

/-- An accepted set whose event is not in the last response may be offered again. -/
theorem accepted_set_released :
    (pagedStore 1060 claimedDatabase [[acceptedEvent]] []).liveState? "first" =
        some .eligible ∧
      ¬ReconciledExactly 1060 claimedDatabase (numberedKey 1 "first") [[acceptedEvent]] [] := by
  have hstate : (pagedStore 1060 claimedDatabase [[acceptedEvent]] []).liveState? "first" =
      some .eligible := by
    decide +kernel
  refine ⟨hstate, fun hexactly => ?_⟩
  exact hexactly.notRetried ⟨acceptedEvent, by simp, rfl, Or.inl rfl⟩ hstate

theorem reconciled_exactly_repeated :
    ReconciledExactly 1060 claimedDatabase (numberedKey 1 "first") [[acceptedEvent]]
      [acceptedEvent] := by
  refine (reconciled_exactly_iff 1060 claimedDatabase (numberedKey 1 "first")
    claimedDatabase_inFlightKey [[acceptedEvent]] [acceptedEvent] ?_).mpr
      (Or.inr (Or.inr ⟨⟨acceptedEvent, by simp, rfl⟩, ⟨acceptedEvent, by simp, rfl⟩⟩))
  intro status hmem
  have hstatus : status = acceptedEvent := by simpa using hmem
  rw [hstatus]
  exact acceptedEvent_canonical

end ImageStream
