/-
# Schema migrations

What the service does to the tables of its database before it starts. A table of frames from an
earlier version is rebuilt: a new one takes over its rows, in columns that are listed by hand.
All the other changes are columns that are added, also to the new table of frames.

The rows of a table are under their row ids. A frame's id is its row id, hence not a column here.
Indexes that are not unique bear on no row and are left out.
-/

import ImageStream.Base.Columns
import Mathlib.Data.Int.Notation
import Mathlib.Data.List.Sort

namespace ImageStream

open Base ColumnTable

/-! ## Tables -/

/-- A value of a column that is not `NULL`. -/
inductive SqlValue
  | integer (n : ℤ)
  | text (s : String)
  deriving DecidableEq, Repr

abbrev SqlColumn := Column String SqlValue

abbrev SqlRow := String → Option SqlValue

structure UniqueConstraint where
  name : Option String
  columns : List String

structure SqlTable extends ColumnTable ℤ String SqlValue where
  uniqueConstraints : List UniqueConstraint := []

namespace SqlTable

def uniqueNames (table : SqlTable) : List (Option String) :=
  table.uniqueConstraints.map UniqueConstraint.name

def column? (table : SqlTable) (name : String) : Option SqlColumn :=
  table.columns.find? fun column => column.name = name

/-- Whether the rows satisfy the constraints of their table. -/
def Satisfied (table : SqlTable) : Prop :=
  (∀ row ∈ table.rows.values, ∀ column ∈ table.columns,
      column.nullable = false → row column.name ≠ none) ∧
    ∀ constraint ∈ table.uniqueConstraints, UniqueOn constraint.columns table.rows.values

instance (table : SqlTable) : Decidable table.Satisfied :=
  inferInstanceAs (Decidable (_ ∧ _))

end SqlTable

inductive Dialect
  | sqlite
  | other (name : String)
  deriving DecidableEq

/-- A database and how it is spoken to: whether its driver begins a transaction before it creates
a table, or only before it inserts rows. -/
structure Engine where
  dialect : Dialect
  transactionalDdl : Bool
  tables : Dict String SqlTable

inductive MigrationError
  | runtimeError (message : String)
  | keyError (key : String)
  | tableExists (name : String)
  | noSuchColumn (name : String)
  | integrityError
  deriving DecidableEq

/-! ## Identity of frames -/

def frameV2Columns : List String :=
  ["source_session_id", "camera_stream_id", "frame_sequence", "source_frame_uid",
    "content_digest", "identity_mode", "archive_state", "archive_error", "file_size",
    "content_type", "received_at_ms", "capture_config_digest", "capture_metadata_json"]

/-- What a rebuild takes over as it is. -/
def frameBaseColumns : List String := ["device_id", "timestamp", "file_path"]

/-- The columns of `frames_v2_migration`. -/
def framesV2Columns : List SqlColumn :=
  [{ name := "device_id", nullable := false },
    { name := "timestamp", nullable := false },
    { name := "file_path" },
    { name := "source_session_id" },
    { name := "camera_stream_id" },
    { name := "frame_sequence" },
    { name := "source_frame_uid" },
    { name := "content_digest" },
    { name := "identity_mode", nullable := false, default := some (.text "LEGACY") },
    { name := "archive_state", nullable := false, default := some (.text "ARCHIVE_DURABLE") },
    { name := "archive_error" },
    { name := "file_size" },
    { name := "content_type" },
    { name := "received_at_ms" },
    { name := "capture_config_digest" },
    { name := "capture_metadata_json" }]

def framesV2UniqueConstraints : List UniqueConstraint :=
  [⟨some "uq_frame_source_uid", ["source_frame_uid"]⟩,
    ⟨some "uq_frame_source_identity",
      ["source_session_id", "camera_stream_id", "frame_sequence"]⟩]

/-- What a column is filled with: another column, a default where that has no value, or a
constant. -/
inductive SelectValue
  | column (name : String)
  | coalesce (name : String) (default : SqlValue)
  | constant (value : Option SqlValue)

def SelectValue.eval (row : SqlRow) : SelectValue → Option SqlValue
  | .column name => row name
  | .coalesce name default => some ((row name).getD default)
  | .constant value => value

/-- The default that a rebuild puts into a column. -/
def selectDefault (name : String) : Option SqlValue :=
  if name = "identity_mode" then some (.text "LEGACY")
  else if name = "archive_state" then some (.text "ARCHIVE_DURABLE")
  else none

/-- What a rebuild fills a column with. -/
def selectValue (available : List String) (name : String) : SelectValue :=
  match selectDefault name with
  | some default => if name ∈ available then .coalesce name default else .constant (some default)
  | none => if name ∈ available then .column name else .constant none

def selectRow (available : List String) (row : SqlRow) : SqlRow := fun name =>
  if name ∈ frameBaseColumns then row name else (selectValue available name).eval row

/-- The empty `frames_v2_migration`. -/
def framesV2Migration : SqlTable where
  columns := framesV2Columns
  rows := .empty
  absent _ hrow := absurd hrow List.not_mem_nil
  uniqueConstraints := framesV2UniqueConstraints

namespace SqlTable

/-- `frames_v2_migration` with the rows of the frames. -/
def filled (frames : SqlTable) : SqlTable where
  toColumnTable := frames.copied framesV2Columns
    (selectRow (frameV2Columns.filter fun name => name ∈ frames.names))
  uniqueConstraints := framesV2UniqueConstraints

/-- `INSERT INTO frames_v2_migration .. SELECT .. FROM frames`. -/
def insertSelect (frames : SqlTable) : Except MigrationError SqlTable :=
  match frameBaseColumns.find? fun name => name ∉ frames.names with
  | some name => .error (.noSuchColumn name)
  | none => if frames.filled.Satisfied then .ok frames.filled else .error .integrityError

/-- The rows on which the last index of a rebuild is unique. -/
def legacyRows (frames : SqlTable) : List SqlRow :=
  frames.rows.values.filter fun row => row "identity_mode" = some (.text "LEGACY")

end SqlTable

namespace Engine

/-- What a migration that raises leaves behind. -/
def interrupted (engine : Engine) : Engine :=
  if engine.transactionalDdl then engine
  else { engine with tables := engine.tables.set "frames_v2_migration" framesV2Migration }

/-- The rebuild of the table of frames, which the new one replaces under its name. -/
def rebuildFrames (engine : Engine) (frames : SqlTable) : Engine × Except MigrationError Bool :=
  if (engine.tables.get? "frames_v2_migration").isSome then
    (engine, .error (.tableExists "frames_v2_migration"))
  else
    match frames.insertSelect with
    | .error e => (engine.interrupted, .error e)
    | .ok filled =>
        if UniqueOn ["device_id", "timestamp"] filled.legacyRows then
          ({ engine with tables := engine.tables.set "frames" filled }, .ok true)
        else (engine.interrupted, .error .integrityError)

def migrateFrameIdentitySchema (engine : Engine) : Engine × Except MigrationError Bool :=
  match engine.tables.get? "frames" with
  | none => (engine, .ok false)
  | some frames =>
      if frameV2Columns ⊆ frames.names ∧
          some "uq_frame_device_timestamp" ∉ frames.uniqueNames then
        match frames.column? "file_path" with
        | none => (engine, .error (.keyError "file_path"))
        | some column =>
            if column.nullable then (engine, .ok false) else rebuildOnSqlite engine frames
      else rebuildOnSqlite engine frames
where
  rebuildOnSqlite (engine : Engine) (frames : SqlTable) : Engine × Except MigrationError Bool :=
    if engine.dialect ≠ .sqlite then
      (engine, .error (.runtimeError
        "automatic frame identity migration currently supports SQLite only"))
    else engine.rebuildFrames frames

end Engine

/-! ## Columns that are added -/

namespace SqlTable

/-- The required columns that a table lacks, by name. -/
def missingColumns (required : List SqlColumn) (table : SqlTable) : List SqlColumn :=
  (required.filter fun column => column.name ∉ table.names).insertionSort
    fun first second => first.name ≤ second.name

def addMissing (required : List SqlColumn) (table : SqlTable) : SqlTable :=
  { table with toColumnTable := table.addColumns (table.missingColumns required) }

end SqlTable

namespace Engine

/-- One table's part of an additive migration, with whether it has changed the table. -/
def addMissing (engine : Engine) (tableName : String) (required : List SqlColumn) :
    Engine × Bool :=
  match engine.tables.get? tableName with
  | none => (engine, false)
  | some table =>
      if (table.missingColumns required).isEmpty then (engine, false)
      else
        ({ engine with tables := engine.tables.set tableName (table.addMissing required) }, true)

def migrateManifestArchiveSchema (engine : Engine) : Engine × Bool :=
  engine.addMissing "frame_set_manifests"
    [{ name := "archive_state", nullable := false, default := some (.text "ARCHIVE_DURABLE") },
      { name := "archive_error" },
      { name := "sync_window_ms", nullable := false, default := some (.integer 0) },
      { name := "synchronized_at_ms", nullable := false, default := some (.integer 0) },
      { name := "member_count", nullable := false, default := some (.integer 0) }]

def migrateRelayV2ClientStateSchema (engine : Engine) : Engine × Bool :=
  engine.addMissing "relay_v2_client_state"
    [{ name := "reoffer_frame_set_uid" },
      { name := "processing_job_id" },
      { name := "processing_job_capture_run_id" }]

end Engine

/-- The columns of the authorization scope of a frame. -/
def frameScopeColumns : List SqlColumn :=
  [{ name := "tenant_id" }, { name := "site_id" }, { name := "capture_session_id" },
    { name := "processing_job_id" }, { name := "profile_digest" }, { name := "authorized_subject" },
    { name := "session_token_jti" }, { name := "authorized_camera_id" },
    { name := "camera_claim_id" }]

def authorizationScopeColumns : List (String × List SqlColumn) :=
  [("frames", frameScopeColumns),
    ("frame_set_manifests",
      [{ name := "tenant_id" }, { name := "site_id" }, { name := "processing_job_id" },
        { name := "profile_digest" }, { name := "authorized_subject" },
        { name := "session_token_jti" }]),
    ("frame_set_members",
      [{ name := "authorized_camera_id" }, { name := "camera_claim_id" },
        { name := "authorized_subject" }, { name := "session_token_jti" }])]

namespace Engine

def migrateAuthorizationScopeSchema (engine : Engine) : Engine × Bool :=
  authorizationScopeColumns.foldl (fun state entry =>
    let (migrated, added) := state.1.addMissing entry.1 entry.2
    (migrated, state.2 || added)) (engine, false)

/-! ## Capture runs -/

/-- What the end of a process makes of the row of a capture run. -/
def closeRow (closedAtMs : ℤ) (row : SqlRow) : SqlRow :=
  if row "state" = some (.text "OPEN") then
    Function.update (Function.update (Function.update row "state" (some (.text "CLOSED")))
      "closed_at_ms" (some (.integer closedAtMs))) "close_reason" (some (.text "PROCESS_RESTART"))
  else row

def closeOpenCaptureRunsAfterRestart (engine : Engine) (closedAtMs : ℤ) :
    Engine × Except MigrationError ℕ :=
  match engine.tables.get? "capture_runs" with
  | none => (engine, .ok 0)
  | some runs =>
      match ["state", "closed_at_ms", "close_reason"].find? fun name => name ∉ runs.names with
      | some name => (engine, .error (.noSuchColumn name))
      | none =>
          let closed : SqlTable :=
            { runs with toColumnTable := runs.copied runs.columns (closeRow closedAtMs) }
          ({ engine with tables := engine.tables.set "capture_runs" closed },
            .ok (runs.rows.values.filter fun row => row "state" = some (.text "OPEN")).length)

/-! ## The schema -/

/-- `ensure_database_schema`, at the time that the end of the capture runs is given. -/
def ensureDatabaseSchema (engine : Engine) (closedAtMs : ℤ) :
    Engine × Except MigrationError Unit :=
  match migrateFrameIdentitySchema engine with
  | (identified, .error e) => (identified, .error e)
  | (identified, .ok _) =>
      let (archived, _) := migrateManifestArchiveSchema identified
      let (relayed, _) := migrateRelayV2ClientStateSchema archived
      let (authorized, _) := migrateAuthorizationScopeSchema relayed
      let (closed, answer) := closeOpenCaptureRunsAfterRestart authorized closedAtMs
      (closed, answer.map fun _ => ())

end Engine

end ImageStream
