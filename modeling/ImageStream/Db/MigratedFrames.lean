/-
# Frames that are migrated

The columns of the authorization scope are not among those that a rebuild of the frames takes
over. A row that has a value in one of them loses it, and gets the column back without a value.
So the start keeps the frames exactly when a rebuild that succeeds finds no such value. What it
leaves, the next start leaves as it is, and the other tables carry all that they held.
-/

import ImageStream.Db.Migrations

namespace ImageStream

open Base ColumnTable

/-! ## The rows of a rebuild -/

/-- A column of a rebuild has the value of its row, or else its default. -/
theorem eval_selectValue {available : List String} {name : String} {row : SqlRow}
    (h : name ∉ available → row name = none) :
    (selectValue available name).eval row = (row name).or (selectDefault name) := by
  unfold selectValue
  by_cases hname : name ∈ available
  · cases selectDefault name with
    | none =>
        rw [Option.or_none]
        simp only [if_pos hname, SelectValue.eval]
    | some default =>
        simp only [if_pos hname, SelectValue.eval]
        cases row name <;> rfl
  · cases selectDefault name with
    | none => simp only [if_neg hname, SelectValue.eval, h hname, Option.or_none]
    | some default => simp only [if_neg hname, SelectValue.eval, h hname, Option.none_or]

theorem mem_names_framesV2Columns_iff (name : String) :
    name ∈ framesV2Columns.map Column.name ↔ name ∈ frameBaseColumns ∨ name ∈ frameV2Columns := by
  rw [← List.mem_append]
  exact Iff.rfl

theorem selectDefault_base : ∀ name ∈ frameBaseColumns, selectDefault name = none := by
  decide

namespace SqlTable

variable {frames : SqlTable}

/-- What a rebuild makes of a row. -/
def filledRow (frames : SqlTable) : SqlRow → SqlRow :=
  copyInto framesV2Columns (selectRow (frameV2Columns.filter fun name => name ∈ frames.names))

theorem filledRow_eq {row : SqlRow} (hrow : row ∈ frames.rows.values) {name : String}
    (hname : name ∈ framesV2Columns.map Column.name) :
    frames.filledRow row name = (row name).or (selectDefault name) := by
  rw [filledRow, copyInto, if_pos hname, selectRow]
  by_cases hbase : name ∈ frameBaseColumns
  · rw [if_pos hbase, selectDefault_base name hbase, Option.or_none]
  · rw [if_neg hbase]
    have hv2 := ((mem_names_framesV2Columns_iff name).mp hname).resolve_left hbase
    apply eval_selectValue
    intro habsent
    apply frames.absent row hrow
    intro hpresent
    exact habsent (List.mem_filter.mpr ⟨hv2, decide_eq_true hpresent⟩)

theorem filledRow_of_not_mem (row : SqlRow) {name : String}
    (hname : name ∉ framesV2Columns.map Column.name) : frames.filledRow row name = none :=
  if_neg hname

theorem rows_filled : frames.filled.rows = frames.rows.mapValues frames.filledRow := rfl

/-- The rows have no value that a rebuild does not take over. -/
def WithinV2 (frames : SqlTable) : Prop :=
  ∀ row ∈ frames.rows.values, ∀ name ∉ framesV2Columns.map Column.name, row name = none

/-- A rebuild carries the rows exactly when they have no value in another column. -/
theorem carries_filled_iff {table : SqlTable}
    (hrows : table.rows = frames.rows.mapValues frames.filledRow) :
    frames.Carries table.toColumnTable ↔ frames.WithinV2 := by
  rw [carries_iff_of_rows hrows]
  constructor
  · intro h row hrow name hname
    cases hvalue : row name with
    | none => rfl
    | some value =>
        have hkept := h row hrow name value hvalue
        rw [filledRow_of_not_mem row hname] at hkept
        cases hkept
  · intro h row hrow name value hvalue
    have hname : name ∈ framesV2Columns.map Column.name := by
      by_contra hname
      rw [h row hrow name hname] at hvalue
      cases hvalue
    rw [filledRow_eq hrow hname, hvalue, Option.some_or]

/-! ## When a rebuild succeeds -/

/-- Whether the rows of former frames satisfy the constraints of the new table. -/
structure Fits (frames : SqlTable) : Prop where
  deviceId : ∀ row ∈ frames.rows.values, row "device_id" ≠ none
  timestamp : ∀ row ∈ frames.rows.values, row "timestamp" ≠ none
  sourceUid : UniqueOn ["source_frame_uid"] frames.rows.values
  sourceIdentity : UniqueOn ["source_session_id", "camera_stream_id", "frame_sequence"]
    frames.rows.values
  legacy : UniqueOn ["device_id", "timestamp"]
    (frames.rows.values.filter fun row =>
      row "identity_mode" = none ∨ row "identity_mode" = some (.text "LEGACY"))

theorem uniqueOn_filled_iff {rows : List SqlRow} (hrows : ∀ row ∈ rows, row ∈ frames.rows.values)
    {names : List String}
    (hnames : ∀ name ∈ names, name ∈ framesV2Columns.map Column.name ∧ selectDefault name = none) :
    UniqueOn names (rows.map frames.filledRow) ↔ UniqueOn names rows := by
  apply uniqueOn_map_iff
  intro row hrow name hname
  rw [filledRow_eq (hrows row hrow) (hnames name hname).1, (hnames name hname).2, Option.or_none]

theorem values_filled : frames.filled.rows.values = frames.rows.values.map frames.filledRow := by
  rw [rows_filled, Dict.values_mapValues]

theorem legacyRows_filled :
    frames.filled.legacyRows =
      (frames.rows.values.filter fun row =>
        row "identity_mode" = none ∨ row "identity_mode" = some (.text "LEGACY")).map
        frames.filledRow := by
  rw [legacyRows, values_filled, List.filter_map]
  congr 1
  apply List.filter_congr
  intro row hrow
  rw [Function.comp_apply, filledRow_eq hrow (by decide)]
  have hdefault : selectDefault "identity_mode" = some (.text "LEGACY") := rfl
  rw [hdefault]
  cases row "identity_mode" with
  | none => simp
  | some mode => simp

theorem required_framesV2Columns : ∀ column ∈ framesV2Columns, column.nullable = false →
    column.name ∈ ["device_id", "timestamp"] ∨ selectDefault column.name ≠ none := by
  decide

/-- The new table takes over rows that have a device and a time. -/
theorem notNull_filledRow_iff {row : SqlRow} (hrow : row ∈ frames.rows.values) :
    (∀ column ∈ framesV2Columns, column.nullable = false →
        frames.filledRow row column.name ≠ none) ↔
      row "device_id" ≠ none ∧ row "timestamp" ≠ none := by
  constructor
  · intro h
    have hdevice := h _ List.mem_cons_self rfl
    have htime := h _ (List.mem_cons_of_mem _ List.mem_cons_self) rfl
    rw [filledRow_eq hrow (by decide), selectDefault_base _ (by decide), Option.or_none]
      at hdevice htime
    exact ⟨hdevice, htime⟩
  · rintro ⟨hdevice, htime⟩ column hcolumn hrequired
    rw [filledRow_eq hrow (List.mem_map_of_mem hcolumn), Ne, Option.or_eq_none_iff, not_and_or]
    rcases required_framesV2Columns column hcolumn hrequired with hname | hdefault
    · left
      rcases List.mem_cons.mp hname with hname | hname
      · rwa [hname]
      · rwa [List.mem_singleton.mp hname]
    · exact Or.inr hdefault

theorem fits_iff :
    frames.Fits ↔
      frames.filled.Satisfied ∧ UniqueOn ["device_id", "timestamp"] frames.filled.legacyRows := by
  have hlegacy : UniqueOn ["device_id", "timestamp"] frames.filled.legacyRows ↔
      UniqueOn ["device_id", "timestamp"] (frames.rows.values.filter fun row =>
        row "identity_mode" = none ∨ row "identity_mode" = some (.text "LEGACY")) := by
    rw [legacyRows_filled]
    exact uniqueOn_filled_iff (fun row hrow => List.mem_of_mem_filter hrow) (by decide)
  have hall : ∀ names : List String,
      (∀ name ∈ names, name ∈ framesV2Columns.map Column.name ∧ selectDefault name = none) →
      (UniqueOn names frames.filled.rows.values ↔ UniqueOn names frames.rows.values) := by
    intro names hnames
    rw [values_filled]
    exact uniqueOn_filled_iff (fun _ hrow => hrow) hnames
  have hnotNull : (∀ row ∈ frames.filled.rows.values, ∀ column ∈ framesV2Columns,
        column.nullable = false → row column.name ≠ none) ↔
      ∀ row ∈ frames.rows.values, row "device_id" ≠ none ∧ row "timestamp" ≠ none := by
    rw [values_filled, List.forall_mem_map]
    exact forall₂_congr fun row hrow => notNull_filledRow_iff hrow
  have hunique : (∀ constraint ∈ framesV2UniqueConstraints,
        UniqueOn constraint.columns frames.filled.rows.values) ↔
      UniqueOn ["source_frame_uid"] frames.rows.values ∧
        UniqueOn ["source_session_id", "camera_stream_id", "frame_sequence"]
          frames.rows.values := by
    rw [framesV2UniqueConstraints, List.forall_mem_cons, List.forall_mem_singleton,
      hall _ (by decide), hall _ (by decide)]
  rw [hlegacy]
  constructor
  · intro h
    exact ⟨⟨hnotNull.mpr fun row hrow => ⟨h.deviceId row hrow, h.timestamp row hrow⟩,
      hunique.mpr ⟨h.sourceUid, h.sourceIdentity⟩⟩, h.legacy⟩
  · rintro ⟨⟨hnull, hconstraints⟩, hlegacyRows⟩
    obtain ⟨huid, hidentity⟩ := hunique.mp hconstraints
    exact ⟨fun row hrow => (hnotNull.mp hnull row hrow).1,
      fun row hrow => (hnotNull.mp hnull row hrow).2, huid, hidentity, hlegacyRows⟩

end SqlTable

/-! ## Tables of frames -/

/-- The columns of the `Frame` model. -/
def frameColumns : List String :=
  ["device_id", "timestamp", "file_path", "source_session_id", "camera_stream_id",
    "frame_sequence", "source_frame_uid", "content_digest", "identity_mode", "archive_state",
    "archive_error", "file_size", "content_type", "received_at_ms", "capture_config_digest",
    "capture_metadata_json", "tenant_id", "site_id", "capture_session_id", "processing_job_id",
    "profile_digest", "authorized_subject", "session_token_jti", "authorized_camera_id",
    "camera_claim_id"]

theorem mem_frameColumns_iff (name : String) :
    name ∈ frameColumns ↔
      name ∈ framesV2Columns.map Column.name ∨ name ∈ frameScopeColumns.map Column.name := by
  rw [← List.mem_append]
  exact Iff.rfl

namespace SqlTable

variable {frames : SqlTable}

/-- Whether a table has the columns that a frame has always had, and no column that a frame does
not have now. -/
structure IsFrames (frames : SqlTable) : Prop where
  base : ∀ name ∈ frameBaseColumns, name ∈ frames.names
  current : ∀ name ∈ frames.names, name ∈ frameColumns

/-- Whether a table of frames is of an earlier version. -/
def IsFormer (frames : SqlTable) : Prop :=
  frameV2Columns ⊆ frames.names → some "uq_frame_device_timestamp" ∉ frames.uniqueNames →
    ∀ column ∈ frames.column? "file_path", column.nullable = false

/-- Whether the rows have no value in a column of the authorization scope. -/
def Unscoped (frames : SqlTable) : Prop :=
  ∀ row ∈ frames.rows.values, ∀ column ∈ frameScopeColumns, row column.name = none

instance (frames : SqlTable) : Decidable frames.Unscoped :=
  inferInstanceAs (Decidable (∀ row ∈ frames.rows.values, ∀ column ∈ frameScopeColumns,
    row column.name = none))

theorem scope_disjoint : ∀ column ∈ frameScopeColumns,
    column.default = none ∧ column.name ∉ framesV2Columns.map Column.name := by
  decide

theorem IsFrames.withinV2_iff (h : frames.IsFrames) : frames.WithinV2 ↔ frames.Unscoped := by
  constructor
  · intro hwithin row hrow column hcolumn
    exact hwithin row hrow column.name (scope_disjoint column hcolumn).2
  · intro hunscoped row hrow name hname
    by_cases hpresent : name ∈ frames.names
    · obtain ⟨column, hcolumn, rfl⟩ :=
        List.mem_map.mp (((mem_frameColumns_iff name).mp (h.current name hpresent)).resolve_left hname)
      exact hunscoped row hrow column hcolumn
    · exact frames.absent row hrow name hpresent

theorem exists_column_of_mem_names {table : SqlTable} {name : String}
    (h : name ∈ table.names) : ∃ column, table.column? name = some column := by
  obtain ⟨column, hcolumn, hname⟩ := List.mem_map.mp h
  apply Option.isSome_iff_exists.mp
  rw [column?, List.find?_isSome]
  exact ⟨column, hcolumn, decide_eq_true hname⟩

theorem names_missingColumns (required : List SqlColumn) (table : SqlTable) (name : String) :
    name ∈ (table.missingColumns required).map Column.name ↔
      name ∈ required.map Column.name ∧ name ∉ table.names := by
  unfold missingColumns
  simp only [List.mem_map, List.mem_insertionSort, List.mem_filter, decide_eq_true_eq]
  constructor
  · rintro ⟨column, ⟨hcolumn, hmissing⟩, rfl⟩
    exact ⟨⟨column, hcolumn, rfl⟩, hmissing⟩
  · rintro ⟨⟨column, hcolumn, rfl⟩, hmissing⟩
    exact ⟨column, ⟨hcolumn, hmissing⟩, rfl⟩

theorem mem_names_addMissing (required : List SqlColumn) (table : SqlTable) (name : String) :
    name ∈ (table.addMissing required).names ↔
      name ∈ table.names ∨ name ∈ required.map Column.name := by
  have hnames : name ∈ (table.addMissing required).names ↔
      name ∈ table.names ∨ name ∈ (table.missingColumns required).map Column.name :=
    mem_names_addColumns _ _ _
  rw [hnames, names_missingColumns]
  by_cases hname : name ∈ table.names
  · exact iff_of_true (Or.inl hname) (Or.inl hname)
  · rw [and_iff_left hname]

theorem addMissing_of_isEmpty {required : List SqlColumn} {table : SqlTable}
    (h : (table.missingColumns required).isEmpty) : table.addMissing required = table := by
  rw [addMissing, List.isEmpty_iff.mp h]
  rfl

/-- Nothing is added to a table that has the required columns. -/
theorem addMissing_of_subset {required : List SqlColumn} {table : SqlTable}
    (h : ∀ column ∈ required, column.name ∈ table.names) : table.addMissing required = table := by
  apply addMissing_of_isEmpty
  rw [List.isEmpty_iff, List.eq_nil_iff_forall_not_mem]
  intro column hcolumn
  obtain ⟨hrequired, hmissing⟩ :=
    (names_missingColumns required table column.name).mp (List.mem_map_of_mem hcolumn)
  obtain ⟨same, hsame, hname⟩ := List.mem_map.mp hrequired
  exact hmissing (hname ▸ h same hsame)

theorem carries_addMissing {required : List SqlColumn} (hrequired : (required.map Column.name).Nodup)
    (table : SqlTable) : table.Carries (table.addMissing required).toColumnTable := by
  apply carries_addColumns
  · have hperm := (List.perm_insertionSort (fun first second : SqlColumn =>
      first.name ≤ second.name) (required.filter fun column => column.name ∉ table.names)).map
        Column.name
    exact hperm.nodup_iff.mpr (hrequired.sublist (List.filter_sublist.map _))
  · intro column hcolumn
    exact ((names_missingColumns required table column.name).mp
      (List.mem_map_of_mem hcolumn)).2

theorem rows_addMissing_scope (table : SqlTable) :
    (table.addMissing frameScopeColumns).rows = table.rows := by
  apply rows_addColumns_of_absent
  intro column hcolumn
  rw [missingColumns, List.mem_insertionSort, List.mem_filter, decide_eq_true_eq] at hcolumn
  exact ⟨(scope_disjoint column hcolumn.1).1, fun row hrow =>
    table.absent row hrow column.name hcolumn.2⟩

/-- Added columns make no table of an earlier version. -/
theorem not_isFormer_addMissing {required : List SqlColumn} {table : SqlTable}
    (h : ¬table.IsFormer) : ¬(table.addMissing required).IsFormer := by
  unfold IsFormer at h ⊢
  push Not at h ⊢
  obtain ⟨hcolumns, hname, column, hcolumn, hnullable⟩ := h
  refine ⟨fun name hmem => ?_, hname, column, ?_, hnullable⟩
  · exact (mem_names_addMissing required table name).mpr (Or.inl (hcolumns hmem))
  · have hfind : (table.addMissing required).column? "file_path" =
        (table.columns ++ table.missingColumns required).find? fun column =>
          column.name = "file_path" := by
      rw [column?, addMissing, columns_addColumns]
    have hformer : table.columns.find? (fun column => column.name = "file_path") = some column :=
      hcolumn
    rw [hfind, List.find?_append, hformer]
    rfl

theorem not_isFormer_filled (frames : SqlTable) : ¬frames.filled.IsFormer := by
  have hcolumns : frameV2Columns ⊆ framesV2Columns.map Column.name := by decide
  have hname : some "uq_frame_device_timestamp" ∉
      framesV2UniqueConstraints.map UniqueConstraint.name := by decide
  intro h
  have hrequired := h hcolumns hname { name := "file_path" } rfl
  cases hrequired

end SqlTable

/-! ## One table among the others -/

namespace Engine

variable {engine : Engine}

theorem get?_addMissing (engine : Engine) (tableName : String) (required : List SqlColumn)
    (k : String) :
    (engine.addMissing tableName required).1.tables.get? k =
      if k = tableName then (engine.tables.get? k).map (SqlTable.addMissing required)
      else engine.tables.get? k := by
  unfold addMissing
  by_cases hk : k = tableName
  · rw [if_pos hk, hk]
    cases htable : engine.tables.get? tableName with
    | none => exact htable
    | some table =>
        by_cases hempty : (table.missingColumns required).isEmpty
        · simp only [hempty, if_true, Option.map_some, htable,
            SqlTable.addMissing_of_isEmpty hempty]
        · simp only [hempty, Bool.false_eq_true, if_false, Option.map_some]
          exact Dict.get?_set_self _ _ _
  · rw [if_neg hk]
    cases htable : engine.tables.get? tableName with
    | none => rfl
    | some table =>
        by_cases hempty : (table.missingColumns required).isEmpty
        · simp only [hempty, if_true]
        · simp only [hempty, Bool.false_eq_true, if_false]
          exact Dict.get?_set_of_ne _ _ hk

/-- Of the steps that follow its own migration, one adds columns to the table of frames. -/
theorem get?_frames_ensureDatabaseSchema {identified : Engine} {rebuilt : Bool}
    (h : engine.migrateFrameIdentitySchema = (identified, .ok rebuilt)) (closedAtMs : ℤ) :
    (engine.ensureDatabaseSchema closedAtMs).1.tables.get? "frames" =
      (identified.tables.get? "frames").map (SqlTable.addMissing frameScopeColumns) := by
  have hclose : ∀ engine : Engine,
      (engine.closeOpenCaptureRunsAfterRestart closedAtMs).1.tables.get? "frames" =
        engine.tables.get? "frames" := by
    intro engine
    unfold closeOpenCaptureRunsAfterRestart
    split
    · rfl
    · split
      · rfl
      · exact Dict.get?_set_of_ne _ _ (by decide)
  have hscope : ∀ engine : Engine,
      engine.migrateAuthorizationScopeSchema.1.tables.get? "frames" =
        (engine.tables.get? "frames").map (SqlTable.addMissing frameScopeColumns) := by
    intro engine
    simp only [migrateAuthorizationScopeSchema, authorizationScopeColumns, List.foldl_cons,
      List.foldl_nil]
    rw [get?_addMissing, if_neg (by decide), get?_addMissing, if_neg (by decide), get?_addMissing,
      if_pos rfl]
  simp only [ensureDatabaseSchema, h]
  rw [hclose, hscope, migrateRelayV2ClientStateSchema, get?_addMissing, if_neg (by decide),
    migrateManifestArchiveSchema, get?_addMissing, if_neg (by decide)]

/-! ## The table of frames -/

variable {frames : SqlTable}

/-- Whether a rebuild of former frames succeeds. -/
structure Rebuilds (engine : Engine) (frames : SqlTable) : Prop where
  sqlite : engine.dialect = .sqlite
  vacant : engine.tables.get? "frames_v2_migration" = none
  fits : frames.Fits

/-- A table that is not former is left as it is. -/
theorem migrateFrameIdentitySchema_of_current (hframes : engine.tables.get? "frames" = some frames)
    (hcurrent : ¬frames.IsFormer) :
    engine.migrateFrameIdentitySchema = (engine, .ok false) := by
  unfold SqlTable.IsFormer at hcurrent
  push Not at hcurrent
  obtain ⟨hcolumns, hname, column, hcolumn, hnullable⟩ := hcurrent
  have hfind : frames.column? "file_path" = some column := hcolumn
  have htrue : column.nullable = true := by simpa using hnullable
  simp only [migrateFrameIdentitySchema, hframes, hfind]
  rw [if_pos ⟨hcolumns, hname⟩, if_pos htrue]

theorem migrateFrameIdentitySchema_of_former (hframes : engine.tables.get? "frames" = some frames)
    (h : frames.IsFrames) (hformer : frames.IsFormer) :
    engine.migrateFrameIdentitySchema =
      migrateFrameIdentitySchema.rebuildOnSqlite engine frames := by
  obtain ⟨column, hcolumn⟩ :=
    SqlTable.exists_column_of_mem_names (h.base "file_path" (by decide))
  simp only [migrateFrameIdentitySchema, hframes, hcolumn]
  by_cases hcurrent : frameV2Columns ⊆ frames.names ∧
      some "uq_frame_device_timestamp" ∉ frames.uniqueNames
  · have hrequired := hformer hcurrent.1 hcurrent.2 column hcolumn
    rw [if_pos hcurrent, hrequired, if_neg Bool.false_ne_true]
  · rw [if_neg hcurrent]

theorem insertSelect_of_isFrames (h : frames.IsFrames) :
    frames.insertSelect =
      if frames.filled.Satisfied then .ok frames.filled else .error .integrityError := by
  have hnone : (frameBaseColumns.find? fun name => name ∉ frames.names) = none := by
    rw [List.find?_eq_none]
    intro name hname
    simpa using h.base name hname
  simp only [SqlTable.insertSelect, hnone]

theorem rebuildOnSqlite_of_rebuilds (h : frames.IsFrames) (hrebuilds : engine.Rebuilds frames) :
    migrateFrameIdentitySchema.rebuildOnSqlite engine frames =
      ({ engine with tables := engine.tables.set "frames" frames.filled }, .ok true) := by
  obtain ⟨hsatisfied, hlegacy⟩ := SqlTable.fits_iff.mp hrebuilds.fits
  rw [migrateFrameIdentitySchema.rebuildOnSqlite, if_neg (not_not.mpr hrebuilds.sqlite),
    rebuildFrames, hrebuilds.vacant, insertSelect_of_isFrames h, if_pos hsatisfied]
  simp only [Option.isSome_none, Bool.false_eq_true, if_false, hlegacy, if_true]

theorem get?_interrupted (engine : Engine) {k : String} (hk : k ≠ "frames_v2_migration") :
    engine.interrupted.tables.get? k = engine.tables.get? k := by
  unfold interrupted
  split
  · rfl
  · exact Dict.get?_set_of_ne _ _ hk

/-- A rebuild that raises leaves the table of frames, and the next one raises, too. -/
theorem rebuildOnSqlite_of_not_rebuilds (h : frames.IsFrames)
    (hnot : ¬engine.Rebuilds frames) :
    ∃ left e, migrateFrameIdentitySchema.rebuildOnSqlite engine frames = (left, .error e) ∧
      left.tables.get? "frames" = engine.tables.get? "frames" ∧ ¬left.Rebuilds frames := by
  unfold migrateFrameIdentitySchema.rebuildOnSqlite
  by_cases hdialect : engine.dialect ≠ .sqlite
  · rw [if_pos hdialect]
    exact ⟨engine, _, rfl, rfl, hnot⟩
  rw [if_neg hdialect, rebuildFrames]
  by_cases hstaging : (engine.tables.get? "frames_v2_migration").isSome
  · rw [if_pos hstaging]
    exact ⟨engine, _, rfl, rfl, hnot⟩
  rw [if_neg hstaging, insertSelect_of_isFrames h]
  have hfits : ¬frames.Fits := fun hfits =>
    hnot ⟨not_not.mp hdialect, by simpa using hstaging, hfits⟩
  have hleft : engine.interrupted.tables.get? "frames" = engine.tables.get? "frames" :=
    engine.get?_interrupted (by decide)
  by_cases hsatisfied : frames.filled.Satisfied
  · have hlegacy : ¬UniqueOn ["device_id", "timestamp"] frames.filled.legacyRows := fun hlegacy =>
      hfits (SqlTable.fits_iff.mpr ⟨hsatisfied, hlegacy⟩)
    rw [if_pos hsatisfied]
    simp only [hlegacy, if_false]
    exact ⟨_, _, rfl, hleft, fun hrebuilds => hfits hrebuilds.fits⟩
  · rw [if_neg hsatisfied]
    exact ⟨_, _, rfl, hleft, fun hrebuilds => hfits hrebuilds.fits⟩

/-! ## The schema of the frames -/

/-- What the start makes of the table of frames: columns are added, to a new table if it rebuilds a
former one, or nothing if the rebuild raises. -/
theorem ensureDatabaseSchema_cases (hframes : engine.tables.get? "frames" = some frames)
    (h : frames.IsFrames) (closedAtMs : ℤ) :
    (¬frames.IsFormer ∧ (engine.ensureDatabaseSchema closedAtMs).1.tables.get? "frames" =
      some (frames.addMissing frameScopeColumns)) ∨
    (frames.IsFormer ∧ engine.Rebuilds frames ∧
      (engine.ensureDatabaseSchema closedAtMs).1.tables.get? "frames" =
        some (frames.filled.addMissing frameScopeColumns)) ∨
    (frames.IsFormer ∧ ¬engine.Rebuilds frames ∧
      (engine.ensureDatabaseSchema closedAtMs).1.tables.get? "frames" = some frames ∧
      ¬(engine.ensureDatabaseSchema closedAtMs).1.Rebuilds frames) := by
  by_cases hformer : frames.IsFormer
  · right
    have hmigrate := migrateFrameIdentitySchema_of_former hframes h hformer
    by_cases hrebuilds : engine.Rebuilds frames
    · left
      rw [rebuildOnSqlite_of_rebuilds h hrebuilds] at hmigrate
      refine ⟨hformer, hrebuilds, ?_⟩
      rw [get?_frames_ensureDatabaseSchema hmigrate, Dict.get?_set_self, Option.map_some]
    · right
      obtain ⟨left, e, hraises, hleft, hnot⟩ := rebuildOnSqlite_of_not_rebuilds h hrebuilds
      have hstart : (engine.ensureDatabaseSchema closedAtMs).1 = left := by
        simp only [ensureDatabaseSchema, hmigrate, hraises]
      rw [hstart, hleft]
      exact ⟨hformer, hrebuilds, hframes, hnot⟩
  · left
    refine ⟨hformer, ?_⟩
    rw [get?_frames_ensureDatabaseSchema (migrateFrameIdentitySchema_of_current hframes hformer),
      hframes, Option.map_some]

/-- Whether no value of a frame is in a column that a rebuild does not take over. -/
def LosesNoScope (engine : Engine) (frames : SqlTable) : Prop :=
  frames.IsFormer → engine.Rebuilds frames → frames.Unscoped

/-- Whether a table of frames is as it was, or has the columns of now and carries every row. -/
def KeepsFrames (frames : SqlTable) (after : Option SqlTable) : Prop :=
  after = some frames ∨
    ∃ table, after = some table ∧ (∀ name, name ∈ table.names ↔ name ∈ frameColumns) ∧
      frames.Carries table.toColumnTable

theorem IsFrames.v2_of_current (h : frames.IsFrames) (hcurrent : ¬frames.IsFormer) :
    ∀ name ∈ framesV2Columns.map Column.name, name ∈ frames.names := by
  unfold SqlTable.IsFormer at hcurrent
  push Not at hcurrent
  obtain ⟨hcolumns, -⟩ := hcurrent
  intro name hname
  rcases (mem_names_framesV2Columns_iff name).mp hname with hbase | hv2
  · exact h.base name hbase
  · exact hcolumns hv2

/-- With the columns of the authorization scope, a table of frames has the columns of now. -/
theorem names_addMissing_scope {table : SqlTable}
    (hv2 : ∀ name ∈ framesV2Columns.map Column.name, name ∈ table.names)
    (hcurrent : ∀ name ∈ table.names, name ∈ frameColumns) (name : String) :
    name ∈ (table.addMissing frameScopeColumns).names ↔ name ∈ frameColumns := by
  rw [SqlTable.mem_names_addMissing]
  constructor
  · rintro (hname | hname)
    · exact hcurrent name hname
    · exact (mem_frameColumns_iff name).mpr (Or.inr hname)
  · intro hname
    exact ((mem_frameColumns_iff name).mp hname).imp_left (hv2 name)

theorem names_filled (frames : SqlTable) :
    frames.filled.names = framesV2Columns.map Column.name := rfl

theorem names_filled_scope (frames : SqlTable) (name : String) :
    name ∈ (frames.filled.addMissing frameScopeColumns).names ↔ name ∈ frameColumns := by
  apply names_addMissing_scope
  · exact fun _ hname => hname
  · exact fun name hname => (mem_frameColumns_iff name).mpr (Or.inl hname)

/-- The frames are kept exactly when they lose nothing of the authorization scope. -/
theorem keepsFrames_iff (hframes : engine.tables.get? "frames" = some frames)
    (h : frames.IsFrames) (closedAtMs : ℤ) :
    KeepsFrames frames ((engine.ensureDatabaseSchema closedAtMs).1.tables.get? "frames") ↔
      engine.LosesNoScope frames := by
  rcases ensureDatabaseSchema_cases hframes h closedAtMs with
    ⟨hcurrent, hafter⟩ | ⟨hformer, hrebuilds, hafter⟩ | ⟨hformer, hraises, hafter, -⟩
  · refine iff_of_true (Or.inr ⟨_, hafter, ?_, ?_⟩) fun hformer => absurd hformer hcurrent
    · exact names_addMissing_scope (IsFrames.v2_of_current h hcurrent) h.current
    · exact .of_rows (SqlTable.rows_addMissing_scope frames)
  · have hcarries : frames.Carries (frames.filled.addMissing frameScopeColumns).toColumnTable ↔
        frames.Unscoped := by
      rw [SqlTable.carries_filled_iff (SqlTable.rows_addMissing_scope frames.filled),
        h.withinV2_iff]
    constructor
    · rintro (hsame | ⟨table, htable, -, hkept⟩) - -
      · -- The table is not as it was, for it is not former any more.
        rw [hafter, Option.some.injEq] at hsame
        have hcurrent : ¬(frames.filled.addMissing frameScopeColumns).IsFormer :=
          SqlTable.not_isFormer_addMissing (SqlTable.not_isFormer_filled frames)
        rw [hsame] at hcurrent
        exact absurd hformer hcurrent
      · rw [hafter, Option.some.injEq] at htable
        exact hcarries.mp (htable ▸ hkept)
    · intro hscope
      exact Or.inr ⟨_, hafter, names_filled_scope frames,
        hcarries.mpr (hscope hformer hrebuilds)⟩
  · exact iff_of_true (Or.inl hafter) fun _ hrebuilds => absurd hrebuilds hraises

/-- The next start leaves the table of frames as it is. -/
theorem ensureDatabaseSchema_again (hframes : engine.tables.get? "frames" = some frames)
    (h : frames.IsFrames) (closedAtMs laterMs : ℤ) :
    ((engine.ensureDatabaseSchema closedAtMs).1.ensureDatabaseSchema laterMs).1.tables.get?
        "frames" =
      (engine.ensureDatabaseSchema closedAtMs).1.tables.get? "frames" := by
  have hsettled : ∀ {table : SqlTable}, (∀ name, name ∈ table.names ↔ name ∈ frameColumns) →
      ¬table.IsFormer → (engine.ensureDatabaseSchema closedAtMs).1.tables.get? "frames" =
        some table →
      ((engine.ensureDatabaseSchema closedAtMs).1.ensureDatabaseSchema laterMs).1.tables.get?
        "frames" = some table := by
    intro table hnames hcurrent htable
    rw [get?_frames_ensureDatabaseSchema
      (migrateFrameIdentitySchema_of_current htable hcurrent), htable, Option.map_some,
      SqlTable.addMissing_of_subset]
    intro column hcolumn
    rw [hnames, mem_frameColumns_iff]
    exact Or.inr (List.mem_map_of_mem hcolumn)
  rcases ensureDatabaseSchema_cases hframes h closedAtMs with
    ⟨hcurrent, hafter⟩ | ⟨hformer, hrebuilds, hafter⟩ | ⟨hformer, hraises, hafter, hagain⟩
  · rw [hafter]
    exact hsettled (names_addMissing_scope (IsFrames.v2_of_current h hcurrent) h.current)
      (SqlTable.not_isFormer_addMissing hcurrent) hafter
  · rw [hafter]
    exact hsettled (names_filled_scope frames)
      (SqlTable.not_isFormer_addMissing (SqlTable.not_isFormer_filled frames)) hafter
  · rw [hafter]
    rcases ensureDatabaseSchema_cases hafter h laterMs with
      ⟨hcurrent, -⟩ | ⟨-, hrebuilds, -⟩ | ⟨-, -, hsame, -⟩
    · exact absurd hformer hcurrent
    · exact absurd hrebuilds hagain
    · exact hsame

/-- **The schema keeps the frames.** From any table of frames, the start leaves a table as it was
or one with the columns of now that carries every row, exactly when a rebuild that succeeds finds
no value in a column of the authorization scope. The next start changes nothing. -/
theorem ensureDatabaseSchema_keepsFrames_iff {engine : Engine} {frames : SqlTable}
    (hframes : engine.tables.get? "frames" = some frames) (h : frames.IsFrames)
    (closedAtMs : ℤ) :
    (KeepsFrames frames ((engine.ensureDatabaseSchema closedAtMs).1.tables.get? "frames") ↔
        engine.LosesNoScope frames) ∧
      ∀ laterMs,
        ((engine.ensureDatabaseSchema closedAtMs).1.ensureDatabaseSchema laterMs).1.tables.get?
            "frames" =
          (engine.ensureDatabaseSchema closedAtMs).1.tables.get? "frames" :=
  ⟨keepsFrames_iff hframes h closedAtMs, ensureDatabaseSchema_again hframes h closedAtMs⟩

/-! ## The other tables -/

/-- Whether what is under a name carries what was there. -/
def CarriesAt (k : String) (engine engine' : Engine) : Prop :=
  ∀ table, engine.tables.get? k = some table →
    ∃ table', engine'.tables.get? k = some table' ∧ table.Carries table'.toColumnTable

theorem CarriesAt.of_eq {k : String} {engine' : Engine}
    (h : engine'.tables.get? k = engine.tables.get? k) : CarriesAt k engine engine' :=
  fun table htable => ⟨table, h.trans htable, .refl _⟩

theorem CarriesAt.trans {k : String} {first second third : Engine} (h : CarriesAt k first second)
    (h' : CarriesAt k second third) : CarriesAt k first third := by
  intro table htable
  obtain ⟨table', htable', hcarries⟩ := h table htable
  obtain ⟨table'', htable'', hcarries'⟩ := h' table' htable'
  exact ⟨table'', htable'', hcarries.trans hcarries'⟩

theorem carriesAt_addMissing {required : List SqlColumn}
    (hrequired : (required.map Column.name).Nodup) (engine : Engine) (tableName k : String) :
    CarriesAt k engine (engine.addMissing tableName required).1 := by
  intro table htable
  rw [get?_addMissing]
  by_cases hk : k = tableName
  · rw [if_pos hk, htable]
    exact ⟨_, rfl, SqlTable.carries_addMissing hrequired table⟩
  · rw [if_neg hk]
    exact ⟨table, htable, .refl _⟩

theorem carriesAt_migrateAuthorizationScopeSchema (engine : Engine) (k : String) :
    CarriesAt k engine engine.migrateAuthorizationScopeSchema.1 := by
  simp only [migrateAuthorizationScopeSchema, authorizationScopeColumns, List.foldl_cons,
    List.foldl_nil]
  exact (carriesAt_addMissing (by decide) engine _ k).trans
    ((carriesAt_addMissing (by decide) _ _ k).trans (carriesAt_addMissing (by decide) _ _ k))

theorem get?_migrateFrameIdentitySchema (engine : Engine) {k : String} (hframes : k ≠ "frames")
    (hstaging : k ≠ "frames_v2_migration") :
    engine.migrateFrameIdentitySchema.1.tables.get? k = engine.tables.get? k := by
  have hrebuild : ∀ frames,
      (migrateFrameIdentitySchema.rebuildOnSqlite engine frames).1.tables.get? k =
        engine.tables.get? k := by
    intro frames
    unfold migrateFrameIdentitySchema.rebuildOnSqlite rebuildFrames
    split
    · rfl
    split
    · rfl
    split
    · exact engine.get?_interrupted hstaging
    · split
      · exact Dict.get?_set_of_ne _ _ hframes
      · exact engine.get?_interrupted hstaging
  unfold migrateFrameIdentitySchema
  split
  · rfl
  split
  · split
    · rfl
    · split
      · rfl
      · exact hrebuild _
  · exact hrebuild _

/-- All other tables but that of the capture runs carry what they held, also if the rebuild of the
frames raises. -/
theorem ensureDatabaseSchema_carries (engine : Engine) (closedAtMs : ℤ) {k : String}
    (hframes : k ≠ "frames") (hstaging : k ≠ "frames_v2_migration") (hruns : k ≠ "capture_runs") :
    CarriesAt k engine (engine.ensureDatabaseSchema closedAtMs).1 := by
  have hidentified := engine.get?_migrateFrameIdentitySchema hframes hstaging
  have hclosed : ∀ engine : Engine,
      CarriesAt k engine (engine.closeOpenCaptureRunsAfterRestart closedAtMs).1 := by
    intro engine
    apply CarriesAt.of_eq
    unfold closeOpenCaptureRunsAfterRestart
    split
    · rfl
    · split
      · rfl
      · exact Dict.get?_set_of_ne _ _ hruns
  cases hmigrate : engine.migrateFrameIdentitySchema with
  | mk identified answer =>
      rw [hmigrate] at hidentified
      refine (CarriesAt.of_eq hidentified).trans ?_
      cases answer with
      | error e =>
          simp only [ensureDatabaseSchema, hmigrate]
          exact .of_eq rfl
      | ok rebuilt =>
          simp only [ensureDatabaseSchema, hmigrate]
          refine CarriesAt.trans ?_ (hclosed _)
          refine CarriesAt.trans ?_ (carriesAt_migrateAuthorizationScopeSchema _ k)
          exact (carriesAt_addMissing (by decide) identified _ k).trans
            (carriesAt_addMissing (by decide) _ _ k)

/-! ### A scope that is lost -/

/-- A frame of a table that is former, for two frames of one device may not have one time. -/
def oneFrame (columns : List SqlColumn) (row : SqlRow) : SqlTable where
  columns := columns
  rows := ⟨[(1, copyInto columns id row)], List.nodup_singleton _⟩
  absent _ hrow _ hc := by
    rw [List.mem_singleton.mp hrow]
    exact if_neg hc
  uniqueConstraints := [⟨some "uq_frame_device_timestamp", ["device_id", "timestamp"]⟩]

def frameRow : SqlRow := fun name =>
  [("device_id", .text "camera-1"), ("timestamp", .integer 1000), ("file_path", .text "1.jpg"),
    ("tenant_id", .text "tenant-1")].lookup name

/-- The columns that a frame has had from the first. -/
def firstColumns : List SqlColumn :=
  [{ name := "device_id", nullable := false }, { name := "timestamp", nullable := false },
    { name := "file_path", nullable := false }]

def sqliteWith (frames : SqlTable) : Engine where
  dialect := .sqlite
  transactionalDdl := false
  tables := Dict.set .empty "frames" frames

theorem ensureDatabaseSchema_keepsFrames_iff_first :
    KeepsFrames (oneFrame firstColumns frameRow)
        (((sqliteWith (oneFrame firstColumns frameRow)).ensureDatabaseSchema 0).1.tables.get?
          "frames") := by
  have hframes : (sqliteWith (oneFrame firstColumns frameRow)).tables.get? "frames" =
      some (oneFrame firstColumns frameRow) := rfl
  have hunscoped : (oneFrame firstColumns frameRow).Unscoped := by decide
  exact (ensureDatabaseSchema_keepsFrames_iff hframes ⟨by decide, by decide⟩ 0).1.mpr
    fun _ _ => hunscoped

/-- The tenant of a former frame is gone. -/
theorem scope_lost_by_rebuild :
    (oneFrame (firstColumns ++ [{ name := "tenant_id" }]) frameRow).IsFrames ∧
      (oneFrame (firstColumns ++ [{ name := "tenant_id" }]) frameRow).Satisfied ∧
      ¬KeepsFrames (oneFrame (firstColumns ++ [{ name := "tenant_id" }]) frameRow)
        (((sqliteWith (oneFrame (firstColumns ++ [{ name := "tenant_id" }])
          frameRow)).ensureDatabaseSchema 0).1.tables.get? "frames") := by
  refine ⟨⟨by decide, by decide⟩, by decide, ?_⟩
  have hlost : ((((sqliteWith (oneFrame (firstColumns ++ [{ name := "tenant_id" }])
      frameRow)).ensureDatabaseSchema 0).1.tables.get? "frames").bind fun table =>
        (table.rows.get? 1).bind fun row => row "tenant_id") = none := by
    decide +kernel
  have hkept : ∀ {table : SqlTable},
      (oneFrame (firstColumns ++ [{ name := "tenant_id" }]) frameRow).Carries
        table.toColumnTable →
      ((table.rows.get? 1).bind fun row => row "tenant_id") ≠ none := by
    intro table hcarries
    obtain ⟨row, hrow, hvalues⟩ := hcarries.values 1 _ rfl
    rw [hrow, Option.bind_some, hvalues "tenant_id" (.text "tenant-1") rfl]
    exact Option.some_ne_none _
  rintro (hsame | ⟨table, htable, -, hcarries⟩)
  · rw [hsame] at hlost
    exact hkept (.refl _) hlost
  · rw [htable] at hlost
    exact hkept hcarries hlost

end Engine

end ImageStream
