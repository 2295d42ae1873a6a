/-
# Persisting frame-set manifests

`persist_frame_set_manifest` in its two parts: what it reads, which settles the rows
it is going to write, and the commit of these rows by primary key. Run one after the
other on one database they are the function itself; with other transactions between
them they are what two threads do.

Nothing is flushed before the commit, so a conflict with a uniqueness constraint
shows there and rolls everything back.
-/

import ImageStream.Db.Models
import ImageStream.Sync.Matcher
import Mathlib.Data.List.MinMax

namespace ImageStream

open Base

inductive ManifestError
  /-- `ManifestIntegrityError`. -/
  | manifestIntegrity (reason : String)
  /-- The database's own `IntegrityError`. -/
  | databaseIntegrity
  /-- The `ValueError` of `min` over no members. -/
  | noMembers
  deriving DecidableEq, Repr

/-! ## Validation -/

/-- The names of the required fields without a value. -/
def missingFields (frameSet : SynchronizedFrameSet) : List String :=
  ([("capture_session_id", frameSet.captureSessionId), ("capture_run_id", frameSet.captureRunId),
      ("frame_set_uid", frameSet.frameSetUid), ("manifest_digest", frameSet.manifestDigest),
      ("manifest_json", frameSet.manifestJson)].filter fun field => !truthy field.2).map Prod.fst

/-- Whether a frame has its identity and is durably archived. -/
def StoredSyncFrame.manifestReady (frame : StoredSyncFrame) : Bool :=
  truthy frame.sourceFrameUid && truthy frame.sourceSessionId && truthy frame.cameraStreamId &&
    frame.sequence.isSome && truthy frame.contentDigest && frame.archiveState = .durable &&
    truthy frame.filePath

/-- The session scope of a set. -/
def authorizationGroupValues (frameSet : SynchronizedFrameSet) : List (Option String) :=
  [frameSet.tenantId, frameSet.siteId, frameSet.processingJobId, frameSet.profileDigest]

/-- Whether a member's scope is the set's scope. -/
def scopeMatches (frameSet : SynchronizedFrameSet) (frame : StoredSyncFrame) : Bool :=
  frame.tenantId = frameSet.tenantId && frame.siteId = frameSet.siteId &&
    frame.captureSessionId = frameSet.captureSessionId &&
    frame.processingJobId = frameSet.processingJobId &&
    frame.profileDigest = frameSet.profileDigest && truthy frame.authorizedSubject &&
    truthy frame.sessionTokenJti && truthy frame.authorizedCameraId

/-- Whether a member's participant is the set's participant, if the set has one. -/
def participantMatches (frameSet : SynchronizedFrameSet) (frame : StoredSyncFrame) : Bool :=
  frameSet.authorizedSubject = none ||
    (frame.authorizedSubject = frameSet.authorizedSubject &&
      frame.sessionTokenJti = frameSet.sessionTokenJti)

/-- The checks of one member against the scope of its set. -/
def validateMemberScope (frameSet : SynchronizedFrameSet) (frame : StoredSyncFrame) :
    Except ManifestError Unit :=
  if ¬scopeMatches frameSet frame then
    .error (.manifestIntegrity "manifest member authorization scope does not match frame set")
  else if ¬participantMatches frameSet frame then
    .error (.manifestIntegrity "manifest member participant does not match frame set")
  else
    .ok ()

/-- A check of each member in turn. -/
def validateMembers (check : StoredSyncFrame → Except ManifestError Unit) :
    List StoredSyncFrame → Except ManifestError Unit
  | [] => .ok ()
  | frame :: frames =>
      match check frame with
      | .error e => .error e
      | .ok () => validateMembers check frames

def validateV2FrameSet (frameSet : SynchronizedFrameSet) : Except ManifestError Unit :=
  if missingFields frameSet ≠ [] then
    .error (.manifestIntegrity ("v2 frame set is missing " ++
      String.intercalate ", " ((missingFields frameSet).insertionSort (· ≤ ·))))
  else if ¬frameSet.members.all StoredSyncFrame.manifestReady then
    .error (.manifestIntegrity
      "v2 manifest member is not identity-complete and archive-durable")
  else if ¬(authorizationGroupValues frameSet).any truthy then
    .ok ()
  else if ¬(authorizationGroupValues frameSet).all truthy then
    .error (.manifestIntegrity "authorized v2 frame set has an incomplete session scope")
  else if frameSet.authorizedSubject.isNone ≠ frameSet.sessionTokenJti.isNone then
    .error (.manifestIntegrity
      "frame-set participant identity must be complete or member-scoped")
  else
    validateMembers (validateMemberScope frameSet) frameSet.members

def verifyExistingManifest (existing : FrameSetManifest) (frameSet : SynchronizedFrameSet) :
    Except ManifestError Unit :=
  if some existing.manifestDigest ≠ frameSet.manifestDigest ∨
      some existing.manifestJson ≠ frameSet.manifestJson ∨
      existing.tenantId ≠ frameSet.tenantId ∨ existing.siteId ≠ frameSet.siteId ∨
      existing.processingJobId ≠ frameSet.processingJobId ∨
      existing.profileDigest ≠ frameSet.profileDigest ∨
      existing.authorizedSubject ≠ frameSet.authorizedSubject ∨
      existing.sessionTokenJti ≠ frameSet.sessionTokenJti then
    .error (.manifestIntegrity "frame_set_uid was reused with different manifest content")
  else
    .ok ()

/-! ## New rows -/

def newDeliveryProjection (frameSetUid : String) (updatedAtMs : ℤ) (liveState : LiveState)
    (reason : Option String) : FrameSetDeliveryProjection where
  frameSetUid := frameSetUid
  archiveState := .durable
  liveState := liveState
  legacyRelayState := .notEnqueued
  lastReason := reason
  updatedAtMs := updatedAtMs

/-- The members in the order of their camera streams. -/
def sortedMembers (frameSet : SynchronizedFrameSet) : List StoredSyncFrame :=
  frameSet.members.insertionSort fun first second =>
    first.cameraStreamId.getD "" ≤ second.cameraStreamId.getD ""

/-- The member row of a validated frame. -/
def newMember (frameSetUid : String) (frame : StoredSyncFrame) : FrameSetMember where
  frameSetUid := frameSetUid
  frameId := frame.frameId
  sourceFrameUid := frame.sourceFrameUid.getD ""
  sourceSessionId := frame.sourceSessionId.getD ""
  cameraStreamId := frame.cameraStreamId.getD ""
  frameSequence := frame.sequence.getD 0
  captureTimestampMs := frame.timestampMs
  contentType := frame.contentType
  imageSize := frame.imageSize
  contentDigest := frame.contentDigest.getD ""
  filePath := frame.filePath.getD ""
  authorizedCameraId := frame.authorizedCameraId
  cameraClaimId := frame.cameraClaimId
  authorizedSubject := frame.authorizedSubject
  sessionTokenJti := frame.sessionTokenJti

/-- The uid of a validated set. -/
def SynchronizedFrameSet.uid (frameSet : SynchronizedFrameSet) : String :=
  frameSet.frameSetUid.getD ""

/-- The manifest row of a validated set. -/
def newManifest (frameSet : SynchronizedFrameSet) (timestampMs : ℤ) : FrameSetManifest where
  frameSetUid := frameSet.uid
  captureSessionId := frameSet.captureSessionId.getD ""
  captureRunId := frameSet.captureRunId.getD ""
  frameSetId := frameSet.frameSetId
  anchorTimestampMs := frameSet.anchorTimestampMs
  freshnessOriginMs := earliestTimestampMs frameSet.members
  -- `span_ms or max_delta_ms`
  synchronizationSpanMs :=
    match frameSet.spanMs with
    | some spanMs => if spanMs = 0 then frameSet.maxDeltaMs else spanMs
    | none => frameSet.maxDeltaMs
  manifestDigest := frameSet.manifestDigest.getD ""
  manifestJson := frameSet.manifestJson.getD ""
  createdAtMs := timestampMs
  syncWindowMs := frameSet.syncWindowMs
  synchronizedAtMs := frameSet.synchronizedAtMs
  memberCount := frameSet.memberCount
  tenantId := frameSet.tenantId
  siteId := frameSet.siteId
  processingJobId := frameSet.processingJobId
  profileDigest := frameSet.profileDigest
  authorizedSubject := frameSet.authorizedSubject
  sessionTokenJti := frameSet.sessionTokenJti

theorem synchronizationSpanMs_newManifest {frameSet : SynchronizedFrameSet}
    (h : frameSet.spanMs = some frameSet.maxDeltaMs) (timestampMs : ℤ) :
    (newManifest frameSet timestampMs).synchronizationSpanMs = frameSet.maxDeltaMs := by
  unfold newManifest
  dsimp only
  rw [h]
  exact ite_self _

/-! ## Reading -/

/-- The rows that an insertion writes, as its reads have settled them. -/
structure InsertPlan where
  timestampMs : ℤ
  closedSessions : List String
  newSession : Option CaptureSession
  closedRuns : List String
  newRun : Option CaptureRun
  superseded : List String
  manifest : FrameSetManifest
  projection : FrameSetDeliveryProjection
  members : List FrameSetMember

inductive PersistPlan
  /-- The call ends without writing. -/
  | finished (result : Except ManifestError Bool)
  /-- The manifest is there, only its projection is missing. -/
  | addProjection (projection : FrameSetDeliveryProjection)
  | insert (plan : InsertPlan)

/-- The eligible projections with their manifests. -/
def eligibleRows (db : Database) : List (FrameSetDeliveryProjection × FrameSetManifest) :=
  (db.projections.rows.filter fun projection => projection.liveState = .eligible).filterMap
    fun projection => (db.manifests.find projection.frameSetUid).map fun manifest =>
      (projection, manifest)

/-- Whether a manifest newer than this set waits for an offer. -/
def newerEligibleExists (db : Database) (frameSet : SynchronizedFrameSet) : Bool :=
  (eligibleRows db).any fun row => frameSet.synchronizedAtMs < row.2.synchronizedAtMs

/-- The plan of inserting a new manifest. -/
def planInsert (db : Database) (frameSet : SynchronizedFrameSet) (timestampMs : ℤ) :
    InsertPlan where
  timestampMs := timestampMs
  closedSessions := (db.captureSessions.rows.filter fun session =>
    session.state = .opened ∧ some session.id ≠ frameSet.captureSessionId).map (·.id)
  newSession :=
    if db.captureSessions.find (frameSet.captureSessionId.getD "") = none then
      some
        { id := frameSet.captureSessionId.getD ""
          state := .opened
          startedAtMs := timestampMs }
    else
      none
  closedRuns := (db.captureRuns.rows.filter fun run =>
    run.state = .opened ∧ some run.id ≠ frameSet.captureRunId).map (·.id)
  newRun :=
    if db.captureRuns.find (frameSet.captureRunId.getD "") = none then
      some
        { id := frameSet.captureRunId.getD ""
          captureSessionId := frameSet.captureSessionId.getD ""
          identityMode := frameSet.identityMode
          state := .opened
          startedAtMs := timestampMs }
    else
      none
  superseded :=
    if newerEligibleExists db frameSet then [] else (eligibleRows db).map (·.1.frameSetUid)
  manifest := newManifest frameSet timestampMs
  projection :=
    if newerEligibleExists db frameSet then
      newDeliveryProjection frameSet.uid timestampMs .supersededBeforeOffer
        (some "NEWER_FRAME_SET_AVAILABLE")
    else
      newDeliveryProjection frameSet.uid timestampMs .eligible none
  members := (sortedMembers frameSet).map (newMember frameSet.uid)

/-- The part of `persist_frame_set_manifest` before its commit. -/
def persistRead (db : Database) (frameSet : SynchronizedFrameSet) (createdAtMs : Option ℤ)
    (nowMs : ℤ) : PersistPlan :=
  if frameSet.identityMode ≠ .v2 then
    .finished (.ok false)
  else
    match validateV2FrameSet frameSet with
    | .error e => .finished (.error e)
    | .ok () =>
        match db.manifests.find frameSet.uid with
        | some existing =>
            match verifyExistingManifest existing frameSet with
            | .error e => .finished (.error e)
            | .ok () =>
                if db.projections.find frameSet.uid = none then
                  .addProjection (newDeliveryProjection frameSet.uid nowMs .eligible none)
                else
                  .finished (.ok false)
        | none =>
            match db.captureRuns.find (frameSet.captureRunId.getD "") with
            | some run =>
                if some run.captureSessionId ≠ frameSet.captureSessionId then
                  .finished (.error (.manifestIntegrity
                    "capture_run_id was reused with a different capture_session_id"))
                else if frameSet.members = [] then
                  .finished (.error .noMembers)
                else
                  .insert (planInsert db frameSet (createdAtMs.getD nowMs))
            | none =>
                if frameSet.members = [] then
                  .finished (.error .noMembers)
                else
                  .insert (planInsert db frameSet (createdAtMs.getD nowMs))

/-! ## Committing -/

/-- Whether the new rows meet every uniqueness constraint. -/
structure InsertPlan.Fits (plan : InsertPlan) (db : Database) : Prop where
  session : ∀ session ∈ plan.newSession, db.captureSessions.find session.id = none
  run : ∀ run ∈ plan.newRun, db.captureRuns.find run.id = none
  manifest : db.manifests.find plan.manifest.frameSetUid = none
  digest : ∀ manifest ∈ db.manifests.rows,
    manifest.manifestDigest ≠ plan.manifest.manifestDigest
  sequence : ∀ manifest ∈ db.manifests.rows,
    ¬(manifest.captureRunId = plan.manifest.captureRunId ∧
      manifest.frameSetId = plan.manifest.frameSetId)
  projection : db.projections.find plan.projection.frameSetUid = none
  sources : ∀ member ∈ plan.members, db.members.find member.sourceFrameUid = none
  sources_nodup : (plan.members.map (·.sourceFrameUid)).Nodup
  cameras : ∀ member ∈ plan.members, ∀ other ∈ db.members.rows,
    ¬(other.frameSetUid = member.frameSetUid ∧ other.cameraStreamId = member.cameraStreamId)
  cameras_nodup : (plan.members.map fun member =>
    (member.frameSetUid, member.cameraStreamId)).Nodup

instance (plan : InsertPlan) (db : Database) : Decidable (plan.Fits db) :=
  decidable_of_iff
    ((∀ session ∈ plan.newSession, db.captureSessions.find session.id = none) ∧
      (∀ run ∈ plan.newRun, db.captureRuns.find run.id = none) ∧
      db.manifests.find plan.manifest.frameSetUid = none ∧
      (∀ manifest ∈ db.manifests.rows,
        manifest.manifestDigest ≠ plan.manifest.manifestDigest) ∧
      (∀ manifest ∈ db.manifests.rows,
        ¬(manifest.captureRunId = plan.manifest.captureRunId ∧
          manifest.frameSetId = plan.manifest.frameSetId)) ∧
      db.projections.find plan.projection.frameSetUid = none ∧
      (∀ member ∈ plan.members, db.members.find member.sourceFrameUid = none) ∧
      (plan.members.map (·.sourceFrameUid)).Nodup ∧
      (∀ member ∈ plan.members, ∀ other ∈ db.members.rows,
        ¬(other.frameSetUid = member.frameSetUid ∧
          other.cameraStreamId = member.cameraStreamId)) ∧
      (plan.members.map fun member => (member.frameSetUid, member.cameraStreamId)).Nodup)
    ⟨fun ⟨a, b, c, d, e, f, g, h, i, j⟩ => ⟨a, b, c, d, e, f, g, h, i, j⟩,
      fun ⟨a, b, c, d, e, f, g, h, i, j⟩ => ⟨a, b, c, d, e, f, g, h, i, j⟩⟩

/-- The projection of a set that a newer one has overtaken. -/
def FrameSetDeliveryProjection.supersede (timestampMs : ℤ)
    (projection : FrameSetDeliveryProjection) : FrameSetDeliveryProjection :=
  { projection with
    liveState := .supersededBeforeOffer
    lastReason := some "NEWER_FRAME_SET_AVAILABLE"
    updatedAtMs := timestampMs }

/-- Supersede the listed projections, whatever their live state has become. -/
def supersedeRows (projections : Table FrameSetDeliveryProjection.frameSetUid)
    (superseded : List String) (timestampMs : ℤ) : Table FrameSetDeliveryProjection.frameSetUid :=
  projections.mapRows
    (fun projection =>
      if projection.frameSetUid ∈ superseded then projection.supersede timestampMs
      else projection)
    fun projection => by split <;> rfl

def closeSessions (sessions : Table CaptureSession.id) (closed : List String) (timestampMs : ℤ) :
    Table CaptureSession.id :=
  sessions.mapRows
    (fun session =>
      if session.id ∈ closed then
        { session with
          state := .closed
          closedAtMs := some timestampMs
          closeReason := some "SOURCE_SESSION_SET_CHANGED" }
      else
        session)
    fun session => by split <;> rfl

def closeRuns (runs : Table CaptureRun.id) (closed : List String) (timestampMs : ℤ) :
    Table CaptureRun.id :=
  runs.mapRows
    (fun run =>
      if run.id ∈ closed then
        { run with
          state := .closed
          closedAtMs := some timestampMs
          closeReason := some "CAPTURE_RUN_ROTATED" }
      else
        run)
    fun run => by split <;> rfl

/-- Insert the rows of a list into a table. -/
def putRows {ρ κ : Type} [DecidableEq κ] {key : ρ → κ} (table : Table key) (rows : List ρ) :
    Table key :=
  rows.foldl Table.put table

/-- A key that no inserted row has is left alone. -/
theorem find_putRows_of_absent {ρ κ : Type} [DecidableEq κ] {key : ρ → κ} (table : Table key)
    {rows : List ρ} {k : κ} (h : ∀ row ∈ rows, key row ≠ k) :
    (putRows table rows).find k = table.find k := by
  induction rows generalizing table with
  | nil => rfl
  | cons row rows ih =>
      have hrest := ih (table.put row) fun row' hrow' => h row' (List.mem_cons_of_mem _ hrow')
      have hne : k ≠ key row := fun hk => h row List.mem_cons_self hk.symm
      exact hrest.trans (table.find_put_of_ne hne)

/-- A key that some inserted row has finds an inserted row. -/
theorem find_putRows_of_mem {ρ κ : Type} [DecidableEq κ] {key : ρ → κ} (table : Table key)
    {rows : List ρ} {k : κ} (h : ∃ row ∈ rows, key row = k) :
    ∃ row ∈ rows, (putRows table rows).find k = some row := by
  induction rows generalizing table with
  | nil => simp at h
  | cons row rows ih =>
      by_cases hrest : ∃ row' ∈ rows, key row' = k
      · obtain ⟨row', hmem, hfind⟩ := ih (table.put row) hrest
        exact ⟨row', List.mem_cons_of_mem _ hmem, hfind⟩
      · have habsent : ∀ row' ∈ rows, key row' ≠ k := fun row' hmem hk =>
          hrest ⟨row', hmem, hk⟩
        obtain ⟨row', hmem, rfl⟩ := h
        rcases List.mem_cons.mp hmem with rfl | hmem'
        · have hfind := find_putRows_of_absent (table.put row') habsent
          exact ⟨row', List.mem_cons_self, hfind.trans (table.find_put_self row')⟩
        · exact absurd rfl (habsent row' hmem')

/-- The database after the rows of a plan are written. -/
def InsertPlan.apply (plan : InsertPlan) (db : Database) : Database :=
  { db with
    captureSessions := putRows
      (closeSessions db.captureSessions plan.closedSessions plan.timestampMs)
      plan.newSession.toList
    captureRuns := putRows (closeRuns db.captureRuns plan.closedRuns plan.timestampMs)
      plan.newRun.toList
    manifests := db.manifests.put plan.manifest
    projections := (supersedeRows db.projections plan.superseded plan.timestampMs).put
      plan.projection
    members := putRows db.members plan.members }

/-- The commit of a plan. -/
def persistCommit (db : Database) (frameSet : SynchronizedFrameSet) :
    PersistPlan → Database × Except ManifestError Bool
  | .finished result => (db, result)
  | .addProjection projection =>
      if db.projections.find projection.frameSetUid = none then
        ({ db with projections := db.projections.put projection }, .ok false)
      else
        (db, .error .databaseIntegrity)
  | .insert plan =>
      if plan.Fits db then
        (plan.apply db, .ok true)
      else
        match db.manifests.find frameSet.uid with
        | some existing =>
            match verifyExistingManifest existing frameSet with
            | .error e => (db, .error e)
            | .ok () => (db, .ok false)
        | none =>
            (db, .error (.manifestIntegrity
              "manifest identity conflicts with existing durable data"))

def persistFrameSetManifest (db : Database) (frameSet : SynchronizedFrameSet)
    (createdAtMs : Option ℤ) (nowMs : ℤ) : Database × Except ManifestError Bool :=
  persistCommit db frameSet (persistRead db frameSet createdAtMs nowMs)

/-! ## Delivery projections -/

/-- The fields that `update_delivery_projection` is given. -/
structure ProjectionChange where
  archiveState : Option ArchiveState := none
  liveState : Option LiveState := none
  legacyRelayState : Option LegacyRelayState := none
  reason : Option String := none

def ProjectionChange.apply (change : ProjectionChange) (updatedAtMs : ℤ)
    (projection : FrameSetDeliveryProjection) : FrameSetDeliveryProjection :=
  { projection with
    archiveState := change.archiveState.getD projection.archiveState
    liveState := change.liveState.getD projection.liveState
    legacyRelayState := change.legacyRelayState.getD projection.legacyRelayState
    lastReason := change.reason.orElse fun _ => projection.lastReason
    updatedAtMs := updatedAtMs }

def updateDeliveryProjection (db : Database) (frameSetUid : String) (change : ProjectionChange)
    (updatedAtMs : ℤ) : Database × Bool :=
  match db.projections.find frameSetUid with
  | some _ => (db.updateProjection frameSetUid (change.apply updatedAtMs) fun _ => rfl, true)
  | none =>
      if db.manifests.find frameSetUid = none then
        (db, false)
      else
        ({ db with projections := db.projections.put (change.apply updatedAtMs
            (newDeliveryProjection frameSetUid updatedAtMs .eligible none)) },
          true)

/-! ## The newest eligible manifest -/

/-- Times are compared in the computable order of the integers. -/
instance offerLinearOrder : LinearOrder (ℤ ×ₗ ℤ ×ₗ String) := inferInstance

instance offerPreorder : Preorder (ℤ ×ₗ ℤ ×ₗ String) :=
  (inferInstance : LinearOrder (ℤ ×ₗ ℤ ×ₗ String)).toPreorder

/-- The order in which manifests are offered. -/
def FrameSetManifest.order (manifest : FrameSetManifest) : ℤ ×ₗ ℤ ×ₗ String :=
  toLex (manifest.synchronizedAtMs, toLex (manifest.createdAtMs, manifest.frameSetUid))

/-- Whether a manifest's projection is durable and eligible. -/
def isEligible (db : Database) (manifest : FrameSetManifest) : Bool :=
  (db.projections.find manifest.frameSetUid).any fun projection =>
    projection.archiveState = .durable && projection.liveState = .eligible

def getNewestEligibleManifest (db : Database) : Option FrameSetManifest :=
  (db.manifests.rows.filter (isEligible db)).argmax FrameSetManifest.order

end ImageStream
