/-
# Runs of persisting

The manifest store on its own: a run is a list of calls of `persist_frame_set_manifest`,
each for a set that some matcher has emitted and the archive has completed. A call inserts
the rows of its set or leaves the database as it is. What is in the tables is in any case
there because of the manifests: each has one projection, and the runs, the sessions and
the members are theirs.
-/

import ImageStream.Base.Latest
import ImageStream.Base.Machine
import ImageStream.Sync.CaptureRuns
import ImageStream.Sync.Content
import ImageStream.Sync.ManifestAcceptance

namespace ImageStream

open Base

/-- A set that has been emitted and whose members may have been archived since. -/
def IsCompleted (emitted : List SynchronizedFrameSet) (frameSet : SynchronizedFrameSet) : Prop :=
  ∃ original ∈ emitted, original.SameContent frameSet

/-- A call for one of these sets. -/
structure PersistCall (emitted : List SynchronizedFrameSet) where
  frameSet : SynchronizedFrameSet
  createdAtMs : Option ℤ
  nowMs : ℤ
  isEmitted : IsCompleted emitted frameSet

/-- The time that a call writes into its rows. -/
def PersistCall.timestampMs {emitted : List SynchronizedFrameSet} (call : PersistCall emitted) :
    ℤ :=
  call.createdAtMs.getD call.nowMs

def persistStep {emitted : List SynchronizedFrameSet} (db : Database)
    (call : PersistCall emitted) : Database × Except ManifestError Bool :=
  persistFrameSetManifest db call.frameSet call.createdAtMs call.nowMs

/-- Whether a set is stored when it is persisted: the database takes it and does not have
its manifest. -/
structure Database.Inserts (db : Database) (frameSet : SynchronizedFrameSet) : Prop where
  mode : frameSet.identityMode = .v2
  takes : db.Takes frameSet
  absent : db.manifests.find frameSet.uid = none

/-! ## Rotation

Sessions and runs are kept in the same way: an insertion closes all open rows but its own
and opens its own if it is not there. -/

section Rotation

variable {ρ : Type} {key : ρ → String} (opened : ρ → Prop)

/-- The keys of the open rows. -/
def openKeys (table : Table key) : Set String :=
  {id | ∃ row, table.find id = some row ∧ opened row}

def knownKeys (table : Table key) : Set String :=
  {id | table.find id ≠ none}

/-- Close the rows with these keys. -/
def closeRows (table : Table key) (close : ρ → ρ) (hkey : ∀ row, key (close row) = key row)
    (closed : List String) : Table key :=
  table.mapRows (fun row => if key row ∈ closed then close row else row) fun row => by
    split
    · exact hkey row
    · rfl

theorem find_closeRows (table : Table key) (close : ρ → ρ)
    (hkey : ∀ row, key (close row) = key row) (closed : List String) (id : String) :
    (closeRows table close hkey closed).find id =
      (table.find id).map fun row => if id ∈ closed then close row else row := by
  unfold closeRows
  rw [Table.find_mapRows]
  cases hfind : table.find id with
  | none => rfl
  | some row => rw [Option.map_some, Option.map_some, table.key_of_find hfind]

variable {opened} {table : Table key} {close : ρ → ρ} {hkey : ∀ row, key (close row) = key row}
  {closed : List String} {c : String} {row : ρ}

theorem find_rotate (hrow : key row = c) (id : String) :
    (putRows (closeRows table close hkey closed)
        (if table.find c = none then some row else none).toList).find id =
      if id = c ∧ table.find c = none then some row
      else (table.find id).map fun row => if id ∈ closed then close row else row := by
  by_cases habsent : table.find c = none
  · rw [if_pos habsent, Option.toList_some]
    show ((closeRows table close hkey closed).put row).find id = _
    rw [Table.find_put, hrow, find_closeRows]
    by_cases hid : id = c
    · rw [if_pos hid, if_pos ⟨hid, habsent⟩]
    · rw [if_neg hid, if_neg fun h => hid h.1]
  · rw [if_neg habsent, Option.toList_none, if_neg fun h => habsent h.2]
    exact find_closeRows table close hkey closed id

theorem knownKeys_rotate (hrow : key row = c) :
    knownKeys (putRows (closeRows table close hkey closed)
      (if table.find c = none then some row else none).toList) = insert c (knownKeys table) := by
  ext id
  show _ ≠ none ↔ id = c ∨ table.find id ≠ none
  rw [find_rotate hrow]
  by_cases hid : id = c ∧ table.find c = none
  · simp [hid]
  · rw [if_neg hid, ne_eq, Option.map_eq_none_iff]
    constructor
    · exact Or.inr
    · rintro (rfl | hknown)
      · exact fun hnone => hid ⟨rfl, hnone⟩
      · exact hknown

/-- **Rotation.** Only the row of the insertion is open afterwards, if it was open before or
was not there. -/
theorem openKeys_rotate (hclose : ∀ row, ¬opened (close row))
    (hclosed : ∀ row ∈ table.rows, key row ∈ closed ↔ opened row ∧ key row ≠ c)
    (hrow : key row = c) (hopened : opened row) :
    openKeys opened (putRows (closeRows table close hkey closed)
        (if table.find c = none then some row else none).toList) =
      openAfter (openKeys opened table) (knownKeys table) c := by
  ext id
  show (∃ found, _ = some found ∧ opened found) ↔
    id = c ∧ ((∃ found, table.find id = some found ∧ opened found) ∨ ¬table.find id ≠ none)
  rw [find_rotate hrow]
  by_cases hid : id = c ∧ table.find c = none
  · obtain ⟨rfl, habsent⟩ := hid
    simp [habsent, hopened]
  · rw [if_neg hid]
    cases hfind : table.find id with
    | none =>
        have hne : id ≠ c := by
          rintro rfl
          exact hid ⟨rfl, hfind⟩
        simp [hne]
    | some found =>
        have hmem := table.mem_of_find hfind
        have hiff := hclosed found hmem
        rw [table.key_of_find hfind] at hiff
        by_cases hin : id ∈ closed
        · simp [hin, hclose, (hiff.mp hin).2]
        · have hopen : opened found → id = c := fun hopen =>
            by_contra fun hne => hin (hiff.mpr ⟨hopen, hne⟩)
          simp only [Option.map_some, hin, if_false, Option.some.injEq, exists_eq_left',
            ne_eq, reduceCtorEq, not_false_eq_true, not_true_eq_false, or_false]
          exact ⟨fun h => ⟨hopen h, h⟩, And.right⟩

end Rotation

/-! ## What an insertion does to the tables -/

/-- The keys of the rows that a filter selects. -/
theorem mem_keys_filter_iff {ρ : Type} {key : ρ → String} (table : Table key) (p : ρ → Bool)
    {row : ρ} (hrow : row ∈ table.rows) :
    key row ∈ (table.rows.filter p).map key ↔ p row = true := by
  constructor
  · intro hmem
    obtain ⟨other, hother, hkey⟩ := List.mem_map.mp hmem
    obtain ⟨hother, hp⟩ := List.mem_filter.mp hother
    rw [← table.eq_of_key_eq hother hrow hkey]
    exact hp
  · exact fun hp => List.mem_map_of_mem (List.mem_filter.mpr ⟨hrow, hp⟩)

/-- A list without repetition whose items are that of an option is this option. -/
theorem eq_toList_iff {α : Type} {items : List α} (hnodup : items.Nodup) (item : Option α) :
    items = item.toList ↔ ∀ a, a ∈ items ↔ item = some a := by
  constructor
  · rintro rfl a
    simp
  · intro h
    cases item with
    | none => exact List.eq_nil_iff_forall_not_mem.mpr fun a ha => by simpa using (h a).mp ha
    | some a =>
        refine List.perm_singleton.mp ((List.perm_ext_iff_of_nodup hnodup
          (List.nodup_singleton a)).mpr fun b => ?_)
        rw [h b, List.mem_singleton, Option.some.injEq, eq_comm]

theorem mem_putRows {ρ κ : Type} [DecidableEq κ] {key : ρ → κ} {table : Table key}
    {rows : List ρ} {row : ρ} (h : row ∈ (putRows table rows).rows) :
    row ∈ table.rows ∨ row ∈ rows := by
  have hfind := (putRows table rows).find_of_mem h
  by_cases hnew : ∃ fresh ∈ rows, key fresh = key row
  · obtain ⟨fresh, hfresh, hfound⟩ := find_putRows_of_mem table hnew
    rw [hfind] at hfound
    exact Or.inr (Option.some.inj hfound ▸ hfresh)
  · rw [find_putRows_of_absent table fun fresh hfresh hkey => hnew ⟨fresh, hfresh, hkey⟩] at hfind
    exact Or.inl (table.mem_of_find hfind)

section Insertion

variable {db : Database} {frameSet : SynchronizedFrameSet} (timestampMs : ℤ)

theorem rows_manifests_insert (habsent : db.manifests.find frameSet.uid = none) :
    ((planInsert db frameSet timestampMs).apply db).manifests.rows =
      db.manifests.rows ++ [newManifest frameSet timestampMs] :=
  Table.rows_put_of_absent (r := newManifest frameSet timestampMs) _ habsent

/-- As a set, the manifests get the one of the set. -/
theorem manifests_insert (habsent : db.manifests.find frameSet.uid = none) :
    {manifest | manifest ∈ ((planInsert db frameSet timestampMs).apply db).manifests.rows} =
      insert (newManifest frameSet timestampMs)
        {manifest | manifest ∈ db.manifests.rows} := by
  ext manifest
  rw [rows_manifests_insert timestampMs habsent]
  simp [or_comm]

theorem uid_projection_planInsert :
    (planInsert db frameSet timestampMs).projection.frameSetUid = frameSet.uid := by
  dsimp only [planInsert]
  split <;> rfl

theorem projections_insert (hfits : (planInsert db frameSet timestampMs).Fits db) :
    ((planInsert db frameSet timestampMs).apply db).projections.rows.map (·.frameSetUid) =
      db.projections.rows.map (·.frameSetUid) ++ [frameSet.uid] := by
  have habsent : (supersedeRows db.projections (planInsert db frameSet timestampMs).superseded
      timestampMs).find (planInsert db frameSet timestampMs).projection.frameSetUid = none := by
    unfold supersedeRows
    rw [Table.find_mapRows, hfits.projection]
    rfl
  have hrows := Table.rows_put_of_absent _ habsent
  have hkeys : (supersedeRows db.projections (planInsert db frameSet timestampMs).superseded
      timestampMs).rows.map (·.frameSetUid) = db.projections.rows.map (·.frameSetUid) := by
    unfold supersedeRows
    rw [Table.rows_mapRows, List.map_map]
    refine List.map_congr_left fun projection _ => ?_
    dsimp only [Function.comp_apply]
    split <;> rfl
  refine (congrArg (List.map (·.frameSetUid)) hrows).trans ?_
  rw [List.map_append, hkeys, List.map_singleton, uid_projection_planInsert]

/-- The runs are rotated to the run of the set. -/
theorem captureRuns_insert {captureRunId : String}
    (hrun : frameSet.captureRunId = some captureRunId) :
    let after := ((planInsert db frameSet timestampMs).apply db).captureRuns
    openKeys (·.state = .opened) after =
        openAfter (openKeys (·.state = .opened) db.captureRuns) (knownKeys db.captureRuns)
          captureRunId ∧
      knownKeys after = insert captureRunId (knownKeys db.captureRuns) := by
  intro after
  have hafter : after = putRows
      (closeRows db.captureRuns
        (fun run =>
          { run with
            state := .closed
            closedAtMs := some timestampMs
            closeReason := some "CAPTURE_RUN_ROTATED" })
        (fun _ => rfl) (planInsert db frameSet timestampMs).closedRuns)
      (if db.captureRuns.find captureRunId = none then
        some
          { id := captureRunId
            captureSessionId := frameSet.captureSessionId.getD ""
            identityMode := frameSet.identityMode
            state := .opened
            startedAtMs := timestampMs }
      else none).toList := by
    simp only [after, InsertPlan.apply, planInsert, hrun, Option.getD_some]
    rfl
  have hclosed : ∀ run ∈ db.captureRuns.rows,
      run.id ∈ (planInsert db frameSet timestampMs).closedRuns ↔
        run.state = .opened ∧ run.id ≠ captureRunId := by
    intro run hmem
    dsimp only [planInsert]
    rw [mem_keys_filter_iff _ _ hmem, hrun]
    simp
  rw [hafter]
  exact ⟨openKeys_rotate (fun _ h => by cases h) hclosed rfl rfl, knownKeys_rotate rfl⟩

/-- The sessions are rotated to the session of the set. -/
theorem captureSessions_insert {captureSessionId : String}
    (hsession : frameSet.captureSessionId = some captureSessionId) :
    let after := ((planInsert db frameSet timestampMs).apply db).captureSessions
    openKeys (·.state = .opened) after =
        openAfter (openKeys (·.state = .opened) db.captureSessions)
          (knownKeys db.captureSessions) captureSessionId ∧
      knownKeys after = insert captureSessionId (knownKeys db.captureSessions) := by
  intro after
  have hafter : after = putRows
      (closeRows db.captureSessions
        (fun session =>
          { session with
            state := .closed
            closedAtMs := some timestampMs
            closeReason := some "SOURCE_SESSION_SET_CHANGED" })
        (fun _ => rfl) (planInsert db frameSet timestampMs).closedSessions)
      (if db.captureSessions.find captureSessionId = none then
        some
          { id := captureSessionId
            state := .opened
            startedAtMs := timestampMs }
      else none).toList := by
    simp only [after, InsertPlan.apply, planInsert, hsession, Option.getD_some]
    rfl
  have hclosed : ∀ session ∈ db.captureSessions.rows,
      session.id ∈ (planInsert db frameSet timestampMs).closedSessions ↔
        session.state = .opened ∧ session.id ≠ captureSessionId := by
    intro session hmem
    dsimp only [planInsert]
    rw [mem_keys_filter_iff _ _ hmem, hsession]
    simp
  rw [hafter]
  exact ⟨openKeys_rotate (fun _ h => by cases h) hclosed rfl rfl, knownKeys_rotate rfl⟩

end Insertion

/-! ## One call -/

section Call

variable {db : Database} {frameSet : SynchronizedFrameSet}

theorem persist_of_inserts (h : db.Inserts frameSet) (createdAtMs : Option ℤ) (nowMs : ℤ) :
    persistFrameSetManifest db frameSet createdAtMs nowMs =
      ((planInsert db frameSet (createdAtMs.getD nowMs)).apply db, .ok true) := by
  have hread := (persistRead_of_absent h.mode h.takes.valid h.absent createdAtMs nowMs).1
    (h.takes.run h.absent) (h.takes.members h.absent)
  have hcommit := (persistCommit_of_absent h.absent (createdAtMs.getD nowMs)).1
    (h.takes.fits h.absent)
  exact (congrArg (persistCommit db frameSet) hread).trans hcommit

/-- A set whose manifest and projection are there is left alone. -/
theorem persist_of_projected (hmode : frameSet.identityMode = .v2)
    (hvalid : validateV2FrameSet frameSet = .ok ()) {existing : FrameSetManifest}
    (hexisting : db.manifests.find frameSet.uid = some existing)
    (hverified : verifyExistingManifest existing frameSet = .ok ())
    (hprojection : db.projections.find frameSet.uid ≠ none) (createdAtMs : Option ℤ)
    (nowMs : ℤ) :
    persistFrameSetManifest db frameSet createdAtMs nowMs = (db, .ok false) := by
  unfold persistFrameSetManifest persistRead
  rw [if_neg (fun hne => hne hmode), hvalid]
  dsimp only
  rw [hexisting]
  dsimp only
  rw [hverified]
  dsimp only
  rw [if_neg hprojection]
  rfl

/-- A call that does not insert leaves the database alone, as long as every manifest has its
projection. -/
theorem persist_of_not_inserts
    (hprojected : db.manifests.find frameSet.uid ≠ none → db.projections.find frameSet.uid ≠ none)
    (h : ¬db.Inserts frameSet) (createdAtMs : Option ℤ) (nowMs : ℤ) :
    ∃ result, result ≠ .ok true ∧
      persistFrameSetManifest db frameSet createdAtMs nowMs = (db, result) := by
  by_cases hmode : frameSet.identityMode = .v2
  · by_cases htakes : db.Takes frameSet
    · cases hexisting : db.manifests.find frameSet.uid with
      | none => exact absurd ⟨hmode, htakes, hexisting⟩ h
      | some existing =>
          refine ⟨.ok false, fun heq => (by cases heq), ?_⟩
          exact persist_of_projected hmode htakes.valid hexisting
            (htakes.stored existing hexisting) (hprojected (by simp [hexisting])) createdAtMs nowMs
    · obtain ⟨e, herror⟩ := persist_of_not_takes hmode htakes createdAtMs nowMs
      exact ⟨.error e, fun heq => (by cases heq), herror⟩
  · refine ⟨.ok false, fun heq => (by cases heq), ?_⟩
    unfold persistFrameSetManifest persistRead
    rw [if_pos hmode]
    rfl

end Call

/-! ## What the tables record -/

/-- Everything in the tables is there because of the manifests, which are those of sets of
this origin. -/
structure Database.Records (origin : SynchronizedFrameSet → Prop) (db : Database) : Prop where
  manifests : ∀ manifest ∈ db.manifests.rows, ∃ frameSet timestampMs, origin frameSet ∧
    validateV2FrameSet frameSet = .ok () ∧ manifest = newManifest frameSet timestampMs
  projections : db.projections.rows.map (·.frameSetUid) =
    db.manifests.rows.map (·.frameSetUid)
  runs : knownKeys db.captureRuns =
    FrameSetManifest.captureRunId '' {manifest | manifest ∈ db.manifests.rows}
  sessions : knownKeys db.captureSessions =
    FrameSetManifest.captureSessionId '' {manifest | manifest ∈ db.manifests.rows}
  founders : ∀ run ∈ db.captureRuns.rows, ∃ manifest ∈ db.manifests.rows,
    manifest.captureRunId = run.id ∧ manifest.captureSessionId = run.captureSessionId
  members : ∀ member ∈ db.members.rows, ∃ frameSet, origin frameSet ∧
    db.manifests.find frameSet.uid ≠ none ∧
      ∃ frame ∈ frameSet.members, member = newMember frameSet.uid frame

namespace Database.Records

variable {origin more : SynchronizedFrameSet → Prop} {db : Database}
  {frameSet : SynchronizedFrameSet}

theorem empty (origin : SynchronizedFrameSet → Prop) : Database.Records origin {} where
  manifests _ h := by cases h
  projections := rfl
  runs := by
    ext id
    simp [knownKeys, Table.find, Table.empty]
  sessions := by
    ext id
    simp [knownKeys, Table.find, Table.empty]
  founders _ h := by cases h
  members _ h := by cases h

theorem mono (h : db.Records origin) (hmore : ∀ frameSet, origin frameSet → more frameSet) :
    db.Records more :=
  { h with
    manifests := fun manifest hmanifest => by
      obtain ⟨frameSet, timestampMs, horigin, hrest⟩ := h.manifests manifest hmanifest
      exact ⟨frameSet, timestampMs, hmore _ horigin, hrest⟩
    members := fun member hmember => by
      obtain ⟨frameSet, horigin, hrest⟩ := h.members member hmember
      exact ⟨frameSet, hmore _ horigin, hrest⟩ }

/-- A uid has a projection exactly when it has a manifest. -/
theorem find_projections_iff (h : db.Records origin) (uid : String) :
    db.projections.find uid ≠ none ↔ db.manifests.find uid ≠ none := by
  rw [ne_eq, ne_eq, Table.find_eq_none_iff, Table.find_eq_none_iff]
  have hiff : uid ∈ db.projections.rows.map (·.frameSetUid) ↔
      uid ∈ db.manifests.rows.map (·.frameSetUid) := by rw [h.projections]
  simpa using hiff

/-- An insertion records its set. -/
theorem insert (h : db.Records origin) (horigin : origin frameSet) (hinserts : db.Inserts frameSet)
    (timestampMs : ℤ) : ((planInsert db frameSet timestampMs).apply db).Records origin := by
  obtain ⟨hsession, hrun, -⟩ := truthy_of_missingFields (missingFields_of_valid hinserts.takes.valid)
  obtain ⟨captureSessionId, hsession, -⟩ := truthy_eq_true_iff.mp hsession
  obtain ⟨captureRunId, hrun, -⟩ := truthy_eq_true_iff.mp hrun
  have hfits := (fits_planInsert_iff db frameSet 0 timestampMs).mp
    (hinserts.takes.fits hinserts.absent)
  have hrows := rows_manifests_insert timestampMs hinserts.absent
  have hset := manifests_insert timestampMs hinserts.absent
  constructor
  case manifests =>
    intro manifest hmanifest
    rw [hrows, List.mem_append, List.mem_singleton] at hmanifest
    rcases hmanifest with hold | rfl
    · exact h.manifests manifest hold
    · exact ⟨frameSet, timestampMs, horigin, hinserts.takes.valid, rfl⟩
  case projections =>
    rw [projections_insert timestampMs hfits, hrows, List.map_append, h.projections]
    rfl
  case runs =>
    rw [(captureRuns_insert timestampMs hrun).2, hset, Set.image_insert_eq, h.runs]
    simp [newManifest, hrun]
  case sessions =>
    rw [(captureSessions_insert timestampMs hsession).2, hset, Set.image_insert_eq, h.sessions]
    simp [newManifest, hsession]
  case founders =>
    intro run hrow
    rw [hrows]
    rcases mem_putRows hrow with hold | hnew
    · obtain ⟨old, hmem, rfl⟩ := List.mem_map.mp hold
      obtain ⟨manifest, hmanifest, hid, hof⟩ := h.founders old hmem
      refine ⟨manifest, List.mem_append_left _ hmanifest, ?_⟩
      split
      · exact ⟨hid, hof⟩
      · exact ⟨hid, hof⟩
    · refine ⟨newManifest frameSet timestampMs, by simp, ?_⟩
      dsimp only [planInsert] at hnew
      split at hnew
      · rw [Option.toList_some, List.mem_singleton] at hnew
        rw [hnew]
        exact ⟨rfl, rfl⟩
      · cases hnew
  case members =>
    intro member hmember
    have hkept : ∀ uid, db.manifests.find uid ≠ none ∨ uid = frameSet.uid →
        ((planInsert db frameSet timestampMs).apply db).manifests.find uid ≠ none := by
      intro uid huid
      show (db.manifests.put (newManifest frameSet timestampMs)).find uid ≠ none
      rw [Table.find_put]
      split
      · simp
      · rename_i hne
        exact huid.resolve_right hne
    rcases mem_putRows hmember with hold | hnew
    · obtain ⟨owner, howner, hstored, hof⟩ := h.members member hold
      exact ⟨owner, howner, hkept _ (Or.inl hstored), hof⟩
    · obtain ⟨frame, hframe, rfl⟩ := List.mem_map.mp hnew
      refine ⟨frameSet, horigin, hkept _ (Or.inr rfl), frame, ?_, rfl⟩
      exact (List.mem_insertionSort _).mp hframe

/-- **One call.** A call inserts its set, or it leaves the database alone and does not say
that it has inserted. -/
theorem persist (h : db.Records origin) (frameSet : SynchronizedFrameSet)
    (createdAtMs : Option ℤ) (nowMs : ℤ) :
    (db.Inserts frameSet ∧ persistFrameSetManifest db frameSet createdAtMs nowMs =
      ((planInsert db frameSet (createdAtMs.getD nowMs)).apply db, .ok true)) ∨
    (¬db.Inserts frameSet ∧ ∃ result, result ≠ .ok true ∧
      persistFrameSetManifest db frameSet createdAtMs nowMs = (db, result)) := by
  by_cases hinserts : db.Inserts frameSet
  · exact Or.inl ⟨hinserts, persist_of_inserts hinserts createdAtMs nowMs⟩
  · exact Or.inr ⟨hinserts, persist_of_not_inserts
      (h.find_projections_iff frameSet.uid).mpr hinserts createdAtMs nowMs⟩

/-- Every call keeps the record. -/
theorem persistStep {emitted : List SynchronizedFrameSet} (h : db.Records origin)
    (call : PersistCall emitted) (horigin : origin call.frameSet) :
    (ImageStream.persistStep db call).1.Records origin := by
  unfold ImageStream.persistStep
  rcases h.persist call.frameSet call.createdAtMs call.nowMs with
    ⟨hinserts, heq⟩ | ⟨-, result, -, heq⟩
  · rw [heq]
    exact h.insert horigin hinserts _
  · rw [heq]
    exact h

end Database.Records

theorem records_after {emitted : List SynchronizedFrameSet}
    (calls : List (PersistCall emitted)) :
    (Machine.after persistStep {} calls).Records (IsCompleted emitted) := by
  refine Machine.invariant_after persistStep (Database.Records.empty _) ?_ calls
  exact fun db call h => h.persistStep call call.isEmitted

/-! ## The times of the manifests -/

/-- The stored manifests. -/
def Database.manifestSet (db : Database) : Set FrameSetManifest :=
  {manifest | manifest ∈ db.manifests.rows}

theorem Database.finite_manifestSet (db : Database) : db.manifestSet.Finite :=
  db.manifests.rows.finite_toSet

section Times

variable {db : Database}

/-- What the sets that are persisted have in common: no two are synchronized at one time. -/
def TimesDistinct (origin : SynchronizedFrameSet → Prop) : Prop :=
  ∀ first second, origin first → origin second →
    first.synchronizedAtMs = second.synchronizedAtMs → first.uid = second.uid

theorem injOn_manifestSet {origin : SynchronizedFrameSet → Prop} (h : db.Records origin)
    (hdistinct : TimesDistinct origin) :
    Set.InjOn FrameSetManifest.synchronizedAtMs db.manifestSet := by
  intro manifest hmanifest other hother htime
  obtain ⟨first, _, hfirst, -, rfl⟩ := h.manifests manifest hmanifest
  obtain ⟨second, _, hsecond, -, rfl⟩ := h.manifests other hother
  exact db.manifests.eq_of_key_eq hmanifest hother (hdistinct first second hfirst hsecond htime)

end Times

theorem timesDistinct_emitted (expectedCameras : List String) (windowMs : ℤ)
    (recentLimit : ℕ) (runId : String) (ops : List MatcherOp) :
    TimesDistinct (IsCompleted
      (emittedSets (newMatcher expectedCameras windowMs recentLimit runId) ops)) := by
  rintro first second ⟨original, horiginal, hsame⟩ ⟨original', horiginal', hsame'⟩ htime
  have hnodup := (synchronizedAtMs_lt expectedCameras windowMs recentLimit runId ops).1.imp
    fun hlt => ne_of_lt hlt
  have htimes : original.synchronizedAtMs = original'.synchronizedAtMs := by
    rw [← hsame.field (·.synchronizedAtMs) fun _ => rfl,
      ← hsame'.field (·.synchronizedAtMs) fun _ => rfl]
    exact htime
  obtain rfl := List.inj_on_of_nodup_map hnodup horiginal horiginal' htimes
  rw [hsame.field (·.uid) fun _ => rfl, hsame'.field (·.uid) fun _ => rfl]

end ImageStream
