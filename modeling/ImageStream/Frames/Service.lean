/-
# Frame rows

`create_frame` stores a frame or answers with the row that is there already, and makes a
degraded row durable when its payload has been archived after all. Each call sees the
committed rows; a failure is one of the query, of the commit or of the refresh behind it,
and only the last one leaves a change.
-/

import ImageStream.Db.Models

namespace ImageStream

open Base

inductive FrameError
  /-- A `ValueError` of the identity. -/
  | valueError (reason : ValueError)
  /-- `FrameIntegrityError`. -/
  | frameIntegrity (reason : String)
  /-- The database's own `IntegrityError`. -/
  | databaseIntegrity
  /-- Any other failure of the database, with its text. -/
  | database (text : String)
  deriving DecidableEq

/-- Where the database fails in one call. -/
inductive MetadataFault
  | none
  | query (text : String)
  | commit (text : String)
  | refresh (text : String)
  deriving DecidableEq

/-- The arguments of `create_frame`. -/
structure FrameArguments where
  deviceId : String
  timestamp : ℤ
  filePath : Option String
  sourceSessionId : Option String := none
  cameraStreamId : Option String := none
  frameSequence : Option ℤ := none
  contentDigest : Option String := none
  archiveState : ArchiveState := .durable
  archiveError : Option String := none
  fileSize : Option ℤ := none
  contentType : Option String := none
  receivedAtMs : Option ℤ := none
  captureConfigDigest : Option String := none
  captureMetadataJson : Option String := none
  tenantId : Option String := none
  siteId : Option String := none
  captureSessionId : Option String := none
  processingJobId : Option String := none
  profileDigest : Option String := none
  authorizedSubject : Option String := none
  sessionTokenJti : Option String := none
  authorizedCameraId : Option String := none
  cameraClaimId : Option String := none

/-! ## Identity -/

def resolveFrameIdentity (sourceSessionId cameraStreamId : Option String)
    (frameSequence : Option ℤ) (contentDigest : Option String) :
    Except ValueError (Option String × IdentityMode) :=
  match frameSequence with
  | none => .ok (none, .legacy)
  | some sequence =>
      -- A blank text is as good as none.
      if truthy (sourceSessionId.map strip) ∧ truthy (cameraStreamId.map strip) then do
        let uid ← buildSourceFrameUid (sourceSessionId.getD "") (cameraStreamId.getD "") sequence
        return (some uid, if truthy (contentDigest.map strip) then .v2 else .legacy)
      else
        .ok (none, .legacy)

def findExistingFrame (db : Database) (sourceFrameUid : Option String) (deviceId : String)
    (timestamp : ℤ) (identityMode : IdentityMode) : Option Frame :=
  match sourceFrameUid with
  | some uid => db.frames.rows.find? fun frame => frame.sourceFrameUid = some uid
  | none => db.frames.rows.find? fun frame =>
      frame.deviceId = deviceId ∧ frame.timestamp = timestamp ∧ frame.identityMode = identityMode

/-! ## Duplicates -/

/-- Only rows with a uid are checked. -/
def verifyDuplicateDigest (frame : Frame) (contentDigest : Option String) :
    Except FrameError Unit :=
  if frame.sourceFrameUid ≠ none ∧ frame.contentDigest ≠ none ∧ contentDigest ≠ none ∧
      frame.contentDigest ≠ contentDigest then
    .error (.frameIntegrity "source_frame_uid was reused with a different content digest")
  else
    .ok ()

/-- The scope columns of a row. -/
def Frame.scope (frame : Frame) : List (Option String) :=
  [frame.tenantId, frame.siteId, frame.captureSessionId, frame.processingJobId,
    frame.profileDigest, frame.authorizedSubject, frame.sessionTokenJti,
    frame.authorizedCameraId, frame.cameraClaimId]

def FrameArguments.declaredScope (args : FrameArguments) : List (Option String) :=
  [args.tenantId, args.siteId, args.captureSessionId, args.processingJobId,
    args.profileDigest, args.authorizedSubject, args.sessionTokenJti,
    args.authorizedCameraId, args.cameraClaimId]

def verifyDuplicateScope (frame : Frame) (args : FrameArguments) : Except FrameError Unit :=
  if frame.scope ≠ args.declaredScope then
    .error (.frameIntegrity "source_frame_uid was reused with a different authorization scope")
  else
    .ok ()

/-- A degraded row as a durable call leaves it. -/
def Frame.recovered (frame : Frame) (args : FrameArguments) : Frame :=
  { frame with
    filePath := args.filePath
    archiveState := args.archiveState
    archiveError := args.archiveError
    fileSize := args.fileSize }

/-- Commit a changed row and read it back. -/
def commitFrame (db : Database) (fault : MetadataFault) (frame : Frame) :
    Database × Except FrameError Frame :=
  match fault with
  | .commit text => (db, .error (.database text))
  | .refresh text => ({ db with frames := db.frames.put frame }, .error (.database text))
  | _ => ({ db with frames := db.frames.put frame }, .ok frame)

def applyArchiveRecovery (db : Database) (fault : MetadataFault) (frame : Frame)
    (args : FrameArguments) : Database × Except FrameError Frame :=
  if args.archiveState = .durable ∧ frame.archiveState ≠ .durable then
    commitFrame db fault (frame.recovered args)
  else
    (db, .ok frame)

/-- Answer with a row that is there already. -/
def reuseFrame (db : Database) (fault : MetadataFault) (existing : Frame)
    (args : FrameArguments) : Database × Except FrameError Frame :=
  match verifyDuplicateDigest existing args.contentDigest with
  | .error e => (db, .error e)
  | .ok () =>
      match verifyDuplicateScope existing args with
      | .error e => (db, .error e)
      | .ok () => applyArchiveRecovery db fault existing args

/-! ## New rows -/

/-- The next row id. -/
def Database.nextFrameId (db : Database) : ℤ :=
  (db.frames.rows.map (·.id)).foldr max 0 + 1

def FrameArguments.frame (args : FrameArguments) (id : ℤ) (sourceFrameUid : Option String)
    (identityMode : IdentityMode) : Frame where
  id := id
  deviceId := args.deviceId
  timestamp := args.timestamp
  filePath := args.filePath
  sourceSessionId := args.sourceSessionId
  cameraStreamId := args.cameraStreamId
  frameSequence := args.frameSequence
  sourceFrameUid := sourceFrameUid
  contentDigest := args.contentDigest
  identityMode := identityMode
  archiveState := args.archiveState
  archiveError := args.archiveError
  fileSize := args.fileSize
  contentType := args.contentType
  receivedAtMs := args.receivedAtMs
  captureConfigDigest := args.captureConfigDigest
  captureMetadataJson := args.captureMetadataJson
  tenantId := args.tenantId
  siteId := args.siteId
  captureSessionId := args.captureSessionId
  processingJobId := args.processingJobId
  profileDigest := args.profileDigest
  authorizedSubject := args.authorizedSubject
  sessionTokenJti := args.sessionTokenJti
  authorizedCameraId := args.authorizedCameraId
  cameraClaimId := args.cameraClaimId

/-- Whether two rows violate a uniqueness constraint. Columns without a value conflict with
nothing. -/
def Frame.Conflicts (frame other : Frame) : Prop :=
  (frame.sourceFrameUid ≠ none ∧ other.sourceFrameUid = frame.sourceFrameUid) ∨
  (frame.sourceSessionId ≠ none ∧ frame.cameraStreamId ≠ none ∧ frame.frameSequence ≠ none ∧
    other.sourceSessionId = frame.sourceSessionId ∧
    other.cameraStreamId = frame.cameraStreamId ∧ other.frameSequence = frame.frameSequence) ∨
  (frame.identityMode = .legacy ∧ other.identityMode = .legacy ∧
    other.deviceId = frame.deviceId ∧ other.timestamp = frame.timestamp)

instance conflictsDecidable (frame other : Frame) : Decidable (frame.Conflicts other) :=
  inferInstanceAs (Decidable (_ ∨ _ ∨ _))

def createFrame (db : Database) (fault : MetadataFault) (args : FrameArguments) :
    Database × Except FrameError Frame :=
  match resolveFrameIdentity args.sourceSessionId args.cameraStreamId args.frameSequence
      args.contentDigest with
  | .error e => (db, .error (.valueError e))
  | .ok (sourceFrameUid, identityMode) =>
      match fault with
      | .query text => (db, .error (.database text))
      | _ =>
          match findExistingFrame db sourceFrameUid args.deviceId args.timestamp
              identityMode with
          | some existing => reuseFrame db fault existing args
          | none =>
              let frame := args.frame db.nextFrameId sourceFrameUid identityMode
              match fault with
              | .commit text => (db, .error (.database text))
              | _ =>
                  if ∃ other ∈ db.frames.rows, frame.Conflicts other then
                    -- After the rollback of an `IntegrityError` the row is looked up again.
                    match findExistingFrame db sourceFrameUid args.deviceId args.timestamp
                        identityMode with
                    | some existing => reuseFrame db fault existing args
                    | none => (db, .error .databaseIntegrity)
                  else
                    commitFrame db fault frame

/-! ## What a call changes -/

/-- Whether the commit goes through. -/
def MetadataFault.commits : MetadataFault → Bool
  | .none => true
  | .refresh _ => true
  | _ => false

/-- Whether a call makes this degraded row durable. -/
structure RecoversFrame (db : Database) (fault : MetadataFault) (args : FrameArguments)
    (row : Frame) : Prop where
  found : ∃ uid mode,
    resolveFrameIdentity args.sourceSessionId args.cameraStreamId args.frameSequence
        args.contentDigest = .ok (uid, mode) ∧
      findExistingFrame db uid args.deviceId args.timestamp mode = some row
  digest : verifyDuplicateDigest row args.contentDigest = .ok ()
  scope : verifyDuplicateScope row args = .ok ()
  durable : args.archiveState = .durable
  degraded : row.archiveState ≠ .durable
  commits : fault.commits = true

/-- What a call may change: it recovers a row, or it adds one, or it changes nothing. -/
inductive FrameChange (db : Database) (fault : MetadataFault) (args : FrameArguments) :
    Database → Prop
  | recovered (row : Frame) (h : RecoversFrame db fault args row) (present : row ∈ db.frames.rows) :
      FrameChange db fault args { db with frames := db.frames.put (row.recovered args) }
  | added (uid : Option String) (mode : IdentityMode)
      (h : ∀ row, ¬RecoversFrame db fault args row) :
      FrameChange db fault args
        { db with frames := db.frames.put (args.frame db.nextFrameId uid mode) }
  | unchanged (h : ∀ row, ¬RecoversFrame db fault args row) : FrameChange db fault args db

theorem mem_of_findExistingFrame {db : Database} {uid : Option String} {deviceId : String}
    {timestamp : ℤ} {mode : IdentityMode} {row : Frame}
    (h : findExistingFrame db uid deviceId timestamp mode = some row) :
    row ∈ db.frames.rows := by
  unfold findExistingFrame at h
  split at h <;> exact List.mem_of_find?_eq_some h

theorem lt_nextFrameId {db : Database} {row : Frame} (h : row ∈ db.frames.rows) :
    row.id < db.nextFrameId := by
  have hle : ∀ ids : List ℤ, ∀ id ∈ ids, id ≤ ids.foldr max 0 := by
    intro ids
    induction ids with
    | nil => simp
    | cons first ids ih =>
        intro id hid
        rcases List.mem_cons.mp hid with rfl | hrest
        · exact le_max_left _ _
        · exact (ih id hrest).trans (le_max_right _ _)
  exact Int.lt_add_one_of_le (hle _ row.id (List.mem_map_of_mem h))

section Change

variable {db : Database} {fault : MetadataFault} {args : FrameArguments} {uid : Option String}
  {mode : IdentityMode}

/-- The row that a call recovers is the one that it has found. -/
theorem RecoversFrame.eq_of_found {row existing : Frame} (h : RecoversFrame db fault args row)
    (hidentity : resolveFrameIdentity args.sourceSessionId args.cameraStreamId
      args.frameSequence args.contentDigest = .ok (uid, mode))
    (hfound : findExistingFrame db uid args.deviceId args.timestamp mode = some existing) :
    row = existing := by
  obtain ⟨uid', mode', hidentity', hfound'⟩ := h.found
  rw [hidentity] at hidentity'
  cases hidentity'
  rw [hfound] at hfound'
  exact (Option.some.inj hfound').symm

theorem RecoversFrame.unique {row row' : Frame} (h : RecoversFrame db fault args row)
    (h' : RecoversFrame db fault args row') : row = row' := by
  obtain ⟨uid, mode, hidentity, hfound⟩ := h'.found
  exact h.eq_of_found hidentity hfound

/-- Answering with a row recovers it or changes nothing. -/
theorem change_reuseFrame {existing : Frame} (hquery : ∀ text, fault ≠ .query text)
    (hidentity : resolveFrameIdentity args.sourceSessionId args.cameraStreamId
      args.frameSequence args.contentDigest = .ok (uid, mode))
    (hfound : findExistingFrame db uid args.deviceId args.timestamp mode = some existing) :
    FrameChange db fault args (reuseFrame db fault existing args).1 := by
  have hnone : ¬RecoversFrame db fault args existing →
      ∀ row, ¬RecoversFrame db fault args row := by
    intro hnot row hrow
    exact hnot (hrow.eq_of_found hidentity hfound ▸ hrow)
  unfold reuseFrame
  cases hdigest : verifyDuplicateDigest existing args.contentDigest with
  | error e => exact .unchanged (hnone fun h => by rw [h.digest] at hdigest; cases hdigest)
  | ok checked =>
      cases hscope : verifyDuplicateScope existing args with
      | error e => exact .unchanged (hnone fun h => by rw [h.scope] at hscope; cases hscope)
      | ok checked =>
          dsimp only
          unfold applyArchiveRecovery
          by_cases hrecovers : args.archiveState = .durable ∧ existing.archiveState ≠ .durable
          · rw [if_pos hrecovers]
            have hrow : fault.commits = true → RecoversFrame db fault args existing := fun h =>
              ⟨⟨uid, mode, hidentity, hfound⟩, hdigest, hscope, hrecovers.1, hrecovers.2, h⟩
            have hpresent := mem_of_findExistingFrame hfound
            cases fault with
            | none => exact .recovered existing (hrow rfl) hpresent
            | refresh text => exact .recovered existing (hrow rfl) hpresent
            | query text => exact absurd rfl (hquery text)
            | commit text => exact .unchanged (hnone fun h => by cases h.commits)
          · rw [if_neg hrecovers]
            exact .unchanged (hnone fun h => hrecovers ⟨h.durable, h.degraded⟩)

/-- What `create_frame` changes. -/
theorem change_createFrame (db : Database) (fault : MetadataFault) (args : FrameArguments) :
    FrameChange db fault args (createFrame db fault args).1 := by
  unfold createFrame
  cases hidentity : resolveFrameIdentity args.sourceSessionId args.cameraStreamId
      args.frameSequence args.contentDigest with
  | error e =>
      apply FrameChange.unchanged
      intro row hrow
      obtain ⟨uid, mode, hok, -⟩ := hrow.found
      rw [hidentity] at hok
      cases hok
  | ok identity =>
      obtain ⟨uid, mode⟩ := identity
      dsimp only
      cases hfound : findExistingFrame db uid args.deviceId args.timestamp mode with
      | some existing =>
          cases fault with
          | query text => exact .unchanged fun row hrow => by cases hrow.commits
          | none => exact change_reuseFrame nofun hidentity hfound
          | commit text => exact change_reuseFrame nofun hidentity hfound
          | refresh text => exact change_reuseFrame nofun hidentity hfound
      | none =>
          have hnone : ∀ row, ¬RecoversFrame db fault args row := by
            intro row hrow
            obtain ⟨uid', mode', hidentity', hfound'⟩ := hrow.found
            rw [hidentity] at hidentity'
            cases hidentity'
            rw [hfound] at hfound'
            cases hfound'
          cases fault with
          | query text => exact .unchanged hnone
          | commit text => exact .unchanged hnone
          | none =>
              dsimp only
              split
              · exact .unchanged hnone
              · exact .added uid mode hnone
          | refresh text =>
              dsimp only
              split
              · exact .unchanged hnone
              · exact .added uid mode hnone

end Change

end ImageStream
