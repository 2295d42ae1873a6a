/-
# Archive reconciliation at startup

`reconcile_archive` checks every durable frame against its file and degrades the
frames that fail, together with the projections of the sets they are members of.
Then it looks for files that no frame refers to. The file tree is an input, and
looking at it may raise. Added rows stay unflushed until the commit, so a lookup
does not find them, and two added rows under one key make the commit fail.
-/

import ImageStream.Base.Action
import ImageStream.Sync.ManifestStore

namespace ImageStream

open Base

/-- An exception of looking at the file tree. -/
abbrev FileError := String

/-- What a path holds. -/
inductive FileContent
  | absent
  /-- `is_file()` raises, as it does where the path may not be looked at. -/
  | inaccessible (error : FileError)
  | unreadable (error : FileError)
  | payload (size : ℤ) (digest : String)

/-- A path below the archive root. -/
structure ArchivePath where
  name : String
  suffix : String
  isFile : Except FileError Bool
  resolved : Except FileError String

/-- The file tree, as the checks see it. -/
structure ArchiveFiles where
  /-- Whether resolving the archive root raises. -/
  root : Except FileError Unit
  /-- `Path(path).resolve()`, which raises on a loop of links. -/
  resolve : String → Except FileError String
  /-- Whether a resolved path lies under the archive root. -/
  inRoot : String → Bool
  content : String → FileContent
  /-- What is found below the archive root, nothing where it is no directory. -/
  entries : Except FileError (List ArchivePath)

structure ArchiveReconciliationReport where
  checkedFrames : ℕ := 0
  healthyFrames : ℕ := 0
  degradedFrames : ℕ := 0
  orphanFiles : ℕ := 0
  partialFiles : ℕ := 0
  deriving DecidableEq, Repr

/-- What a reconciliation fails with. -/
inductive ReconciliationError
  | fileSystem (error : FileError)
  /-- The database's own `IntegrityError`. -/
  | databaseIntegrity
  deriving DecidableEq, Repr

/-- The issue of a frame's file, if it has one; a healthy frame gets its missing size
and digest. -/
def validateFrameFile (files : ArchiveFiles) (frame : Frame) :
    Except FileError (Except (String × String) Frame) :=
  if ¬truthy frame.filePath then
    .ok (.error ("MISSING_FILE", "durable frame has no file path"))
  else do
    let path ← files.resolve (frame.filePath.getD "")
    if ¬files.inRoot path then
      return .error ("PATH_OUTSIDE_ARCHIVE_ROOT", "path is outside archive root: " ++ path)
    match files.content path with
    | .absent => return .error ("MISSING_FILE", "archive payload is missing: " ++ path)
    | .inaccessible error => throw error
    | .unreadable error =>
        return .error ("FILE_READ_ERROR", "archive payload cannot be read: " ++ error)
    | .payload size digest =>
        if frame.fileSize ≠ none ∧ frame.fileSize ≠ some size then
          return .error ("SIZE_MISMATCH", "expected " ++ toString (frame.fileSize.getD 0) ++
            " bytes but found " ++ toString size ++ ": " ++ path)
        else if frame.contentDigest ≠ none ∧ frame.contentDigest ≠ some digest then
          return .error ("DIGEST_MISMATCH", "content SHA-256 mismatch: " ++ path)
        else
          return .ok { frame with fileSize := some size, contentDigest := some digest }

/-- What the file tree says of a frame: the path it refers to and, for a durable frame,
whether its file is healthy. -/
structure Inspection where
  referenced : Option String
  validation : Option (Except (String × String) Frame)

/-- The resolved path of a frame's file, if it names one. -/
def referencedPath (files : ArchiveFiles) (frame : Frame) : Except FileError (Option String) :=
  if truthy frame.filePath then (files.resolve (frame.filePath.getD "")).map some else .ok none

def inspectFrame (files : ArchiveFiles) (frame : Frame) : Except FileError Inspection := do
  let referenced ← referencedPath files frame
  if frame.archiveState ≠ .durable then
    return ⟨referenced, none⟩
  let validation ← validateFrameFile files frame
  return ⟨referenced, some validation⟩

/-- A reconciliation in progress: the rows it sees, the rows it has added and the paths that
frames refer to. -/
structure Reconciling where
  db : Database
  added : List FrameSetDeliveryProjection := []
  referencedPaths : List String := []
  report : ArchiveReconciliationReport := {}

/-- A projection whose archive is degraded. -/
def FrameSetDeliveryProjection.degraded (issueType : String) (detectedAtMs : ℤ)
    (projection : FrameSetDeliveryProjection) : FrameSetDeliveryProjection :=
  { projection with
    archiveState := .degradedLiveOnly
    lastReason := some issueType
    updatedAtMs := detectedAtMs }

namespace Reconciling

/-- Degrade the projection of one set, adding it when only its manifest is there. -/
def degradeProjection (issueType : String) (detectedAtMs : ℤ) (state : Reconciling)
    (frameSetUid : String) : Reconciling :=
  match state.db.projections.find frameSetUid with
  | some _ =>
      { state with
        db := state.db.updateProjection frameSetUid (·.degraded issueType detectedAtMs)
          fun _ => rfl }
  | none =>
      if state.db.manifests.find frameSetUid = none then
        state
      else
        { state with
          added := state.added ++ [(newDeliveryProjection frameSetUid detectedAtMs .eligible
            none).degraded issueType detectedAtMs] }

def degradeFrameAndProjections (state : Reconciling) (frame : Frame) (issueType : String)
    (detectedAtMs : ℤ) : Reconciling :=
  let frames := state.db.frames.update frame.id
    (fun row =>
      { row with archiveState := .degradedLiveOnly, archiveError := some issueType })
    fun _ => rfl
  let degraded := { state with db := { state.db with frames := frames } }
  ((degraded.db.members.rows.filter fun member => member.frameId = some frame.id).map
    (·.frameSetUid)).foldl (degradeProjection issueType detectedAtMs) degraded

/-- Record what the file tree says of a frame. -/
def recordFrame (detectedAtMs : ℤ) (state : Reconciling) (frame : Frame)
    (inspection : Inspection) : Reconciling :=
  let referring := { state with
    referencedPaths := state.referencedPaths ++ inspection.referenced.toList }
  match inspection.validation with
  | none => referring
  | some validation =>
      let checked := { referring with
        report := { referring.report with checkedFrames := referring.report.checkedFrames + 1 } }
      match validation with
      | .ok healthy =>
          { checked with
            db := { checked.db with
              frames := checked.db.frames.update frame.id
                (fun row =>
                  { row with fileSize := healthy.fileSize, contentDigest := healthy.contentDigest })
                fun _ => rfl }
            report := { checked.report with
              healthyFrames := checked.report.healthyFrames + 1 } }
      | .error (issueType, _) =>
          let counted := { checked with
            report := { checked.report with
              degradedFrames := checked.report.degradedFrames + 1 } }
          counted.degradeFrameAndProjections frame issueType detectedAtMs

/-- Check one frame. -/
def checkFrame (files : ArchiveFiles) (detectedAtMs : ℤ) (state : Reconciling) (frame : Frame) :
    Except FileError Reconciling :=
  (inspectFrame files frame).map (state.recordFrame detectedAtMs frame)

end Reconciling

def payloadSuffixes : List String := [".jpg", ".jpeg", ".png", ".webp", ".bin"]

def isPartialPath (name : String) : Bool := name.startsWith "." && name.endsWith ".tmp"

/-- What a path below the root resolves to, if it is a file. -/
def inspectPath (entry : ArchivePath) : Except FileError (Option String) := do
  let isFile ← entry.isFile
  if isFile then entry.resolved.map some else return none

namespace Reconciling

/-- Count a file that a write has left behind or that no frame refers to. -/
def recordPath (state : Reconciling) (entry : ArchivePath) (resolved : Option String) :
    Reconciling :=
  match resolved with
  | none => state
  | some resolved =>
      if isPartialPath entry.name then
        { state with
          report := { state.report with partialFiles := state.report.partialFiles + 1 } }
      else if entry.suffix.toLower ∈ payloadSuffixes ∧ resolved ∉ state.referencedPaths then
        { state with
          report := { state.report with orphanFiles := state.report.orphanFiles + 1 } }
      else state

def scanPath (state : Reconciling) (entry : ArchivePath) : Except FileError Reconciling :=
  (inspectPath entry).map (state.recordPath entry)

/-- Everything a reconciliation does before it commits. -/
def run (files : ArchiveFiles) (db : Database) (detectedAtMs : ℤ) :
    Except FileError Reconciling := do
  files.root
  let checked ← db.frames.rows.foldlM (checkFrame files detectedAtMs) { db := db }
  let entries ← files.entries
  entries.foldlM scanPath checked

end Reconciling

def reconcileArchive (files : ArchiveFiles) (db : Database) (detectedAtMs : ℤ) :
    Database × Except ReconciliationError ArchiveReconciliationReport :=
  match Reconciling.run files db detectedAtMs with
  | .error error => (db, .error (.fileSystem error))
  | .ok finished =>
      if (finished.added.map (·.frameSetUid)).Nodup then
        ({ finished.db with projections := putRows finished.db.projections finished.added },
          .ok finished.report)
      else
        (db, .error .databaseIntegrity)

namespace Reconciling

/-- What every record of a frame and of a path keeps holds of a reconciliation that reaches its
commit. -/
theorem run_invariant {P : Reconciling → Prop} {files : ArchiveFiles} {db : Database}
    {detectedAtMs : ℤ} {finished : Reconciling} (hinit : P { db := db })
    (hframe : ∀ state frame inspection, P state →
      P (state.recordFrame detectedAtMs frame inspection))
    (hpath : ∀ state entry resolved, P state → P (state.recordPath entry resolved))
    (h : run files db detectedAtMs = .ok finished) : P finished := by
  obtain ⟨_, _, h⟩ := bind_eq_ok.mp h
  obtain ⟨checked, hchecked, h⟩ := bind_eq_ok.mp h
  obtain ⟨entries, _, h⟩ := bind_eq_ok.mp h
  exact foldlM_map_invariant hpath h (foldlM_map_invariant hframe hchecked hinit)

end Reconciling

end ImageStream
