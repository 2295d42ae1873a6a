/-
# Exact reconciliation

A frame keeps its durable state exactly when its file bears it out. Every member that a frame
so degraded has in a set is one loss, and each loss degrades the set's projection. What a run
does is the fold of its losses over the projections: one by one they are looked up, changed or
added.

Two losses of a set without a projection add the same row twice, and the commit fails. Where
this does not happen and the file tree raises nothing, the run commits, its result is exact and
the next run on the same tree changes nothing.
-/

import ImageStream.Ingest.Reconciliation

namespace ImageStream

open Base

/-! ## What the file tree says -/

namespace ArchiveFiles

variable (files : ArchiveFiles)

/-- Whether a frame's file is in the archive root, can be read and is as recorded: it has this
size and this digest. -/
def Shows (frame : Frame) (size : ℤ) (digest : String) : Prop :=
  ∃ filePath path, frame.filePath = some filePath ∧ filePath ≠ "" ∧
    files.resolve filePath = .ok path ∧ files.inRoot path = true ∧
      files.content path = .payload size digest ∧
        (∀ recorded, frame.fileSize = some recorded → recorded = size) ∧
          ∀ recorded, frame.contentDigest = some recorded → recorded = digest

def Intact (frame : Frame) : Prop := ∃ size digest, files.Shows frame size digest

/-- Whether looking at the file of a frame raises nothing. -/
structure QuietFor (frame : Frame) : Prop where
  resolves : ∀ filePath, frame.filePath = some filePath → filePath ≠ "" →
    ∃ path, files.resolve filePath = .ok path
  accessible : frame.archiveState = .durable → ∀ filePath path, frame.filePath = some filePath →
    filePath ≠ "" → files.resolve filePath = .ok path → files.inRoot path = true →
      ∀ error, files.content path ≠ .inaccessible error

/-- Whether looking at the files of the frames and at the archive root raises nothing. -/
structure Quiet (frames : List Frame) : Prop where
  root : files.root = .ok ()
  frames : ∀ frame ∈ frames, files.QuietFor frame
  entries : ∃ entries, files.entries = .ok entries ∧
    ∀ entry ∈ entries, entry.isFile = .ok false ∨
      (entry.isFile = .ok true ∧ ∃ path, entry.resolved = .ok path)

/-- What a validation comes to. -/
inductive Validated (frame : Frame) : Except (String × String) Frame → Prop
  | healthy {size : ℤ} {digest : String} (shows : files.Shows frame size digest) :
      Validated frame (.ok { frame with fileSize := some size, contentDigest := some digest })
  | failed {issue : String × String} (lost : ¬ files.Intact frame) :
      Validated frame (.error issue)

variable {files} {frame : Frame}

theorem validated_of_validateFrameFile {result : Except (String × String) Frame}
    (h : validateFrameFile files frame = .ok result) : files.Validated frame result := by
  unfold validateFrameFile at h
  split at h
  case isTrue hmissing =>
    cases h
    refine .failed ?_
    rintro ⟨size, digest, filePath, path, hpath, hne, -⟩
    simp [hpath, hne] at hmissing
  case isFalse htruthy =>
    rw [not_not, truthy_eq_true_iff] at htruthy
    obtain ⟨filePath, hpath, hne⟩ := htruthy
    obtain ⟨path, hresolve, h⟩ := bind_eq_ok.mp h
    rw [hpath, Option.getD_some] at hresolve
    -- Whatever else the file is intact with, it is with this path.
    have hshown : ∀ size digest, files.Shows frame size digest →
        files.inRoot path = true ∧ files.content path = .payload size digest ∧
          (∀ recorded, frame.fileSize = some recorded → recorded = size) ∧
            ∀ recorded, frame.contentDigest = some recorded → recorded = digest := by
      rintro size digest ⟨filePath', path', hpath', -, hresolve', hshows⟩
      cases hpath.symm.trans hpath'
      cases hresolve.symm.trans hresolve'
      exact hshows
    split at h
    case isTrue houtside =>
      cases h
      refine .failed ?_
      rintro ⟨size, digest, hshows⟩
      exact houtside (hshown size digest hshows).1
    case isFalse hinside =>
      rw [not_not] at hinside
      split at h
      case h_1 hcontent =>
        cases h
        refine .failed ?_
        rintro ⟨size, digest, hshows⟩
        cases hcontent.symm.trans (hshown size digest hshows).2.1
      case h_2 hcontent => cases h
      case h_3 hcontent =>
        cases h
        refine .failed ?_
        rintro ⟨size, digest, hshows⟩
        cases hcontent.symm.trans (hshown size digest hshows).2.1
      case h_4 size digest hcontent =>
        split at h
        case isTrue hsize =>
          cases h
          refine .failed ?_
          rintro ⟨size', digest', hshows⟩
          obtain ⟨-, hcontent', hrecorded, -⟩ := hshown size' digest' hshows
          cases hcontent.symm.trans hcontent'
          obtain ⟨recorded, hsome⟩ := Option.ne_none_iff_exists'.mp hsize.1
          exact hsize.2 (hsome.trans (congrArg some (hrecorded recorded hsome)))
        case isFalse hsize =>
          split at h
          case isTrue hdigest =>
            cases h
            refine .failed ?_
            rintro ⟨size', digest', hshows⟩
            obtain ⟨-, hcontent', -, hrecorded⟩ := hshown size' digest' hshows
            cases hcontent.symm.trans hcontent'
            obtain ⟨recorded, hsome⟩ := Option.ne_none_iff_exists'.mp hdigest.1
            exact hdigest.2 (hsome.trans (congrArg some (hrecorded recorded hsome)))
          case isFalse hdigest =>
            cases h
            refine .healthy ⟨filePath, path, hpath, hne, hresolve, hinside, hcontent, ?_, ?_⟩
            · intro recorded hsome
              by_contra hother
              exact hsize ⟨by simp [hsome], by simp [hsome, hother]⟩
            · intro recorded hsome
              by_contra hother
              exact hdigest ⟨by simp [hsome], by simp [hsome, hother]⟩

/-- A validation that ends has been able to look at the file. -/
theorem exists_validateFrameFile_iff :
    (∃ result, validateFrameFile files frame = .ok result) ↔
      (∀ filePath, frame.filePath = some filePath → filePath ≠ "" →
        ∃ path, files.resolve filePath = .ok path) ∧
      ∀ filePath path, frame.filePath = some filePath → filePath ≠ "" →
        files.resolve filePath = .ok path → files.inRoot path = true →
          ∀ error, files.content path ≠ .inaccessible error := by
  constructor
  · rintro ⟨result, h⟩
    have htruthy : ∀ filePath, frame.filePath = some filePath → filePath ≠ "" →
        truthy frame.filePath = true := by
      intro filePath hpath hne
      exact truthy_eq_true_iff.mpr ⟨filePath, hpath, hne⟩
    constructor
    · intro filePath hpath hne
      unfold validateFrameFile at h
      rw [if_neg (not_not.mpr (htruthy filePath hpath hne))] at h
      obtain ⟨path, hresolve, -⟩ := bind_eq_ok.mp h
      rw [hpath, Option.getD_some] at hresolve
      exact ⟨path, hresolve⟩
    · intro filePath path hpath hne hresolve hinside error hcontent
      unfold validateFrameFile at h
      rw [if_neg (not_not.mpr (htruthy filePath hpath hne))] at h
      obtain ⟨path', hresolve', h⟩ := bind_eq_ok.mp h
      rw [hpath, Option.getD_some] at hresolve'
      cases hresolve.symm.trans hresolve'
      rw [if_neg (not_not.mpr hinside), hcontent] at h
      cases h
  · rintro ⟨hresolves, haccessible⟩
    unfold validateFrameFile
    split
    case isTrue => exact ⟨_, rfl⟩
    case isFalse htruthy =>
      rw [not_not, truthy_eq_true_iff] at htruthy
      obtain ⟨filePath, hpath, hne⟩ := htruthy
      obtain ⟨path, hresolve⟩ := hresolves filePath hpath hne
      rw [hpath, Option.getD_some, hresolve]
      change ∃ result, (if ¬files.inRoot path then _ else _) = Except.ok result
      split
      case isTrue => exact ⟨_, rfl⟩
      case isFalse hinside =>
        cases hcontent : files.content path with
        | absent => exact ⟨_, rfl⟩
        | inaccessible error =>
            exact absurd hcontent
              (haccessible filePath path hpath hne hresolve (not_not.mp hinside) error)
        | unreadable error => exact ⟨_, rfl⟩
        | payload size digest =>
            dsimp only
            split
            case isTrue => exact ⟨_, rfl⟩
            case isFalse =>
              split
              case isTrue => exact ⟨_, rfl⟩
              case isFalse => exact ⟨_, rfl⟩

/-- What an inspection comes to. -/
inductive Inspected (frame : Frame) : Option (Except (String × String) Frame) → Prop
  | unchecked (hstate : frame.archiveState ≠ .durable) : Inspected frame none
  | checked (hstate : frame.archiveState = .durable) {result : Except (String × String) Frame}
      (validated : files.Validated frame result) : Inspected frame (some result)

theorem inspected_of_inspectFrame {inspection : Inspection}
    (h : inspectFrame files frame = .ok inspection) :
    files.Inspected frame inspection.validation := by
  obtain ⟨referenced, -, h⟩ := bind_eq_ok.mp h
  split at h
  case isTrue hstate =>
    cases h
    exact .unchecked hstate
  case isFalse hstate =>
    obtain ⟨result, hresult, h⟩ := bind_eq_ok.mp h
    cases h
    exact .checked (not_not.mp hstate) (validated_of_validateFrameFile hresult)

theorem exists_referencedPath_iff :
    (∃ referenced, referencedPath files frame = .ok referenced) ↔
      ∀ filePath, frame.filePath = some filePath → filePath ≠ "" →
        ∃ path, files.resolve filePath = .ok path := by
  unfold referencedPath
  constructor
  · rintro ⟨referenced, h⟩ filePath hpath hne
    rw [if_pos (truthy_eq_true_iff.mpr ⟨filePath, hpath, hne⟩), hpath, Option.getD_some] at h
    cases hresolve : files.resolve filePath with
    | error error =>
        rw [hresolve] at h
        cases h
    | ok path => exact ⟨path, rfl⟩
  · intro hresolves
    split
    case isTrue htruthy =>
      obtain ⟨filePath, hpath, hne⟩ := truthy_eq_true_iff.mp htruthy
      obtain ⟨path, hresolve⟩ := hresolves filePath hpath hne
      rw [hpath, Option.getD_some, hresolve]
      exact ⟨some path, rfl⟩
    case isFalse => exact ⟨none, rfl⟩

/-- A frame can be inspected exactly when looking at its file raises nothing. -/
theorem exists_inspectFrame_iff :
    (∃ inspection, inspectFrame files frame = .ok inspection) ↔ files.QuietFor frame := by
  constructor
  · rintro ⟨inspection, h⟩
    obtain ⟨referenced, hreferenced, h⟩ := bind_eq_ok.mp h
    refine ⟨exists_referencedPath_iff.mp ⟨referenced, hreferenced⟩, ?_⟩
    intro hstate
    rw [if_neg (not_not.mpr hstate)] at h
    obtain ⟨result, hresult, -⟩ := bind_eq_ok.mp h
    exact (exists_validateFrameFile_iff.mp ⟨result, hresult⟩).2
  · intro hquiet
    obtain ⟨referenced, hreferenced⟩ := exists_referencedPath_iff.mpr hquiet.resolves
    unfold inspectFrame
    rw [hreferenced]
    by_cases hstate : frame.archiveState = .durable
    · obtain ⟨result, hresult⟩ :=
        exists_validateFrameFile_iff.mpr ⟨hquiet.resolves, hquiet.accessible hstate⟩
      refine ⟨⟨referenced, some result⟩, ?_⟩
      change (if frame.archiveState ≠ .durable then _ else _) = _
      rw [if_neg (not_not.mpr hstate), hresult]
      rfl
    · refine ⟨⟨referenced, none⟩, ?_⟩
      change (if frame.archiveState ≠ .durable then _ else _) = _
      rw [if_pos hstate]
      rfl

/-- Whether a reconciliation degrades a frame. -/
def Loses (files : ArchiveFiles) (frame : Frame) : Prop :=
  frame.archiveState = .durable ∧ ¬ files.Intact frame

end ArchiveFiles

/-- What the inspection of a frame comes to, where it can be looked at. -/
def inspection (files : ArchiveFiles) (frame : Frame) : Inspection :=
  match inspectFrame files frame with
  | .ok inspection => inspection
  | .error _ => ⟨none, none⟩

/-- What a frame is degraded for. -/
def Inspection.issueType? (inspection : Inspection) : Option String :=
  match inspection.validation with
  | some (.error (issueType, _)) => some issueType
  | _ => none

/-- What becomes of the row of an inspected frame. -/
def Inspection.revise (inspection : Inspection) (row : Frame) : Frame :=
  match inspection.validation with
  | none => row
  | some (.ok healthy) =>
      { row with fileSize := healthy.fileSize, contentDigest := healthy.contentDigest }
  | some (.error (issueType, _)) =>
      { row with archiveState := .degradedLiveOnly, archiveError := some issueType }

theorem Inspection.id_revise (inspection : Inspection) (row : Frame) :
    (inspection.revise row).id = row.id := by
  unfold Inspection.revise
  split <;> rfl

theorem inspectFrame_eq {files : ArchiveFiles} {frame : Frame} (h : files.QuietFor frame) :
    inspectFrame files frame = .ok (inspection files frame) := by
  obtain ⟨result, hresult⟩ := ArchiveFiles.exists_inspectFrame_iff.mpr h
  simp only [inspection, hresult]

theorem inspected {files : ArchiveFiles} {frame : Frame} (h : files.QuietFor frame) :
    files.Inspected frame (inspection files frame).validation :=
  ArchiveFiles.inspected_of_inspectFrame (inspectFrame_eq h)

/-- The frames that are degraded are the durable ones that are not intact. -/
theorem exists_issueType?_iff {files : ArchiveFiles} {frame : Frame} (h : files.QuietFor frame) :
    (∃ issueType, (inspection files frame).issueType? = some issueType) ↔ files.Loses frame := by
  have hinspected := inspected h
  unfold Inspection.issueType? ArchiveFiles.Loses
  cases hvalidation : (inspection files frame).validation with
  | none =>
      rw [hvalidation] at hinspected
      cases hinspected with
      | unchecked hstate =>
          constructor
          · rintro ⟨issueType, hnone⟩
            cases hnone
          · exact fun hloses => absurd hloses.1 hstate
  | some validation =>
      rw [hvalidation] at hinspected
      cases hinspected with
      | checked hstate hvalidated =>
          cases hvalidated with
          | healthy hshows =>
              constructor
              · rintro ⟨issueType, hnone⟩
                cases hnone
              · exact fun hloses => absurd ⟨_, _, hshows⟩ hloses.2
          | failed hlost => exact ⟨fun _ => ⟨hstate, hlost⟩, fun _ => ⟨_, rfl⟩⟩

/-- A revised row is durable if its frame was and its file bears it out. -/
theorem archiveState_revise_iff {files : ArchiveFiles} {frame : Frame} (h : files.QuietFor frame) :
    ((inspection files frame).revise frame).archiveState = .durable ↔
      frame.archiveState = .durable ∧ files.Intact frame := by
  have hinspected := inspected h
  unfold Inspection.revise
  cases hvalidation : (inspection files frame).validation with
  | none =>
      rw [hvalidation] at hinspected
      cases hinspected with
      | unchecked hstate => exact ⟨fun h => absurd h hstate, fun h => absurd h.1 hstate⟩
  | some validation =>
      rw [hvalidation] at hinspected
      cases hinspected with
      | checked hstate hvalidated =>
          cases hvalidated with
          | healthy hshows => exact ⟨fun h => ⟨hstate, _, _, hshows⟩, fun _ => hstate⟩
          | failed hlost =>
              exact ⟨fun h => ArchiveState.noConfusion h, fun h => absurd h.2 hlost⟩

/-! ## Losses -/

/-- One member of a set that is lost, with what its frame is degraded for. -/
structure Loss where
  issueType : String
  member : FrameSetMember

namespace Loss

def frameSetUid (loss : Loss) : String := loss.member.frameSetUid

/-- The projection that a loss adds. -/
def addition (detectedAtMs : ℤ) (loss : Loss) : FrameSetDeliveryProjection :=
  (newDeliveryProjection loss.frameSetUid detectedAtMs .eligible none).degraded loss.issueType
    detectedAtMs

/-- A projection after some losses, of which those of its own set count. -/
def degrade (detectedAtMs : ℤ) (losses : List Loss) (frameSetUid : String)
    (projection : FrameSetDeliveryProjection) : FrameSetDeliveryProjection :=
  losses.foldl (fun projection loss =>
    if loss.frameSetUid = frameSetUid then projection.degraded loss.issueType detectedAtMs
    else projection) projection

theorem degrade_append (detectedAtMs : ℤ) (first second : List Loss) (frameSetUid : String)
    (projection : FrameSetDeliveryProjection) :
    degrade detectedAtMs (first ++ second) frameSetUid projection =
      degrade detectedAtMs second frameSetUid (degrade detectedAtMs first frameSetUid projection) :=
  List.foldl_append ..

/-- The losses of other sets leave a projection alone. -/
theorem degrade_of_forall_ne (detectedAtMs : ℤ) {losses : List Loss} {frameSetUid : String}
    (h : ∀ loss ∈ losses, loss.frameSetUid ≠ frameSetUid)
    (projection : FrameSetDeliveryProjection) :
    degrade detectedAtMs losses frameSetUid projection = projection := by
  induction losses with
  | nil => rfl
  | cons loss losses ih =>
      have hrest := ih fun loss' hloss' => h loss' (List.mem_cons_of_mem _ hloss')
      rw [degrade, List.foldl_cons, if_neg (h loss List.mem_cons_self)]
      exact hrest

theorem liveState_degrade (detectedAtMs : ℤ) (losses : List Loss) (frameSetUid : String)
    (projection : FrameSetDeliveryProjection) :
    (degrade detectedAtMs losses frameSetUid projection).liveState = projection.liveState := by
  unfold degrade
  refine List.foldlRecOn losses _
    (motive := fun after : FrameSetDeliveryProjection => after.liveState = projection.liveState)
    rfl ?_
  intro after hafter loss _
  split
  case isTrue => exact hafter
  case isFalse => exact hafter

/-- A projection that some loss is of is degraded. -/
theorem archiveState_degrade (detectedAtMs : ℤ) {losses : List Loss} {frameSetUid : String}
    (h : ∃ loss ∈ losses, loss.frameSetUid = frameSetUid)
    (projection : FrameSetDeliveryProjection) :
    (degrade detectedAtMs losses frameSetUid projection).archiveState = .degradedLiveOnly := by
  obtain ⟨loss, hmem, huid⟩ := h
  obtain ⟨before, after, rfl⟩ := List.append_of_mem hmem
  rw [degrade_append, degrade, List.foldl_cons, if_pos huid]
  refine List.foldlRecOn after _
    (motive := fun projection : FrameSetDeliveryProjection =>
      projection.archiveState = .degradedLiveOnly) rfl ?_
  intro projection hprojection loss' _
  split
  case isTrue => rfl
  case isFalse => exact hprojection

end Loss

/-- What the degraded members of one frame come to. -/
def frameLosses (files : ArchiveFiles) (members : List FrameSetMember) (frame : Frame) :
    List Loss :=
  match (inspection files frame).issueType? with
  | none => []
  | some issueType =>
      (members.filter fun member => member.frameId = some frame.id).map (Loss.mk issueType)

/-- Everything that a reconciliation finds lost, in its order. -/
def losses (files : ArchiveFiles) (db : Database) : List Loss :=
  db.frames.rows.flatMap (frameLosses files db.members.rows)

namespace Reconciling

/-- Whether a set has a manifest and no projection. -/
def missesProjection (db : Database) (frameSetUid : String) : Bool :=
  (db.projections.find frameSetUid).isNone && (db.manifests.find frameSetUid).isSome

/-- A reconciliation that has come to the losses so far. -/
structure After (db : Database) (detectedAtMs : ℤ) (losses : List Loss) (state : Reconciling) :
    Prop where
  manifests : state.db.manifests = db.manifests
  members : state.db.members = db.members
  projections : ∀ frameSetUid, state.db.projections.find frameSetUid =
    (db.projections.find frameSetUid).map (Loss.degrade detectedAtMs losses frameSetUid)
  added : state.added = (losses.filter fun loss => missesProjection db loss.frameSetUid).map
    (Loss.addition detectedAtMs)

variable {db : Database} {detectedAtMs : ℤ} {found : List Loss} {state : Reconciling}

theorem After.start : After db detectedAtMs [] { db := db } where
  manifests := rfl
  members := rfl
  projections _ := Option.map_id'.symm
  added := rfl

/-- One more loss. -/
theorem After.degradeProjection (h : state.After db detectedAtMs found) (loss : Loss) :
    (degradeProjection loss.issueType detectedAtMs state loss.frameSetUid).After db detectedAtMs
      (found ++ [loss]) := by
  have hlast : ∀ frameSetUid projection,
      Loss.degrade detectedAtMs (found ++ [loss]) frameSetUid projection =
        if loss.frameSetUid = frameSetUid then
          (Loss.degrade detectedAtMs found frameSetUid projection).degraded loss.issueType
            detectedAtMs
        else Loss.degrade detectedAtMs found frameSetUid projection := by
    intro frameSetUid projection
    rw [Loss.degrade_append]
    rfl
  unfold Reconciling.degradeProjection
  cases hfind : state.db.projections.find loss.frameSetUid with
  | some projection =>
      have hpresent : missesProjection db loss.frameSetUid = false := by
        rw [h.projections, Option.map_eq_some_iff] at hfind
        obtain ⟨before, hbefore, -⟩ := hfind
        simp [missesProjection, hbefore]
      refine ⟨h.manifests, h.members, ?_, ?_⟩
      · intro frameSetUid
        have hnow := state.db.projections.find_update loss.frameSetUid
          (·.degraded loss.issueType detectedAtMs) (fun _ => rfl) frameSetUid
        refine hnow.trans ?_
        rw [h.projections]
        by_cases huid : frameSetUid = loss.frameSetUid
        · rw [if_pos huid, Option.map_map]
          congr 1
          funext before
          rw [hlast, if_pos huid.symm]
          rfl
        · rw [if_neg huid]
          congr 1
          funext before
          rw [hlast, if_neg fun h => huid h.symm]
      · rw [List.filter_append, List.filter_singleton, hpresent]
        simpa using h.added
  | none =>
      have habsent : db.projections.find loss.frameSetUid = none := by
        rwa [h.projections, Option.map_eq_none_iff] at hfind
      -- The projection is not there, so nothing of it is looked up or changed.
      have hprojections : ∀ frameSetUid, state.db.projections.find frameSetUid =
          (db.projections.find frameSetUid).map
            (Loss.degrade detectedAtMs (found ++ [loss]) frameSetUid) := by
        intro frameSetUid
        rw [h.projections]
        by_cases huid : frameSetUid = loss.frameSetUid
        · rw [huid, habsent]
          rfl
        · congr 1
          funext before
          rw [hlast, if_neg fun h => huid h.symm]
      dsimp only
      split
      case isTrue hmanifest =>
        have hmissing : missesProjection db loss.frameSetUid = false := by
          rw [h.manifests] at hmanifest
          simp [missesProjection, hmanifest]
        refine ⟨h.manifests, h.members, hprojections, ?_⟩
        rw [List.filter_append, List.filter_singleton, hmissing]
        simpa using h.added
      case isFalse hmanifest =>
        have hmissing : missesProjection db loss.frameSetUid = true := by
          rw [h.manifests] at hmanifest
          simp [missesProjection, habsent, Option.isSome_iff_ne_none, hmanifest]
        refine ⟨h.manifests, h.members, hprojections, ?_⟩
        rw [List.filter_append, List.filter_singleton, hmissing, List.map_append, ← h.added]
        rfl

/-- The losses of one frame, one after the other. -/
theorem After.foldl_degradeProjection (h : state.After db detectedAtMs found) (issueType : String)
    (members : List FrameSetMember) :
    ((members.map (·.frameSetUid)).foldl (Reconciling.degradeProjection issueType detectedAtMs)
      state).After db detectedAtMs (found ++ members.map (Loss.mk issueType)) := by
  induction members generalizing state found with
  | nil =>
      rw [List.map_nil, List.append_nil]
      exact h
  | cons member members ih =>
      have hnext := h.degradeProjection ⟨issueType, member⟩
      rw [List.map_cons, List.map_cons, List.foldl_cons, List.append_cons]
      exact ih hnext

theorem After.writeFrames (h : state.After db detectedAtMs found) (frames : Table Frame.id)
    (referencedPaths : List String) (report : ArchiveReconciliationReport) :
    ({ state with
        db := { state.db with frames := frames }
        referencedPaths := referencedPaths
        report := report } : Reconciling).After db detectedAtMs found :=
  ⟨h.manifests, h.members, h.projections, h.added⟩

theorem After.recordFrame (h : state.After db detectedAtMs found) (files : ArchiveFiles)
    (frame : Frame) :
    (state.recordFrame detectedAtMs frame (inspection files frame)).After db detectedAtMs
      (found ++ frameLosses files db.members.rows frame) := by
  unfold Reconciling.recordFrame frameLosses Inspection.issueType?
  cases (inspection files frame).validation with
  | none =>
      rw [List.append_nil]
      exact h.writeFrames state.db.frames _ state.report
  | some validation =>
      cases validation with
      | ok healthy =>
          rw [List.append_nil]
          exact h.writeFrames _ _ _
      | error issue =>
          rw [← h.members]
          exact (h.writeFrames _ _ _).foldl_degradeProjection issue.1 _

/-! ## A whole run -/

/-- The reconciliation when every frame is checked. -/
def checked (files : ArchiveFiles) (db : Database) (detectedAtMs : ℤ) : Reconciling :=
  db.frames.rows.foldl (fun state frame =>
    state.recordFrame detectedAtMs frame (inspection files frame)) { db := db }

theorem after_foldl_recordFrame (files : ArchiveFiles) (frames : List Frame)
    (h : state.After db detectedAtMs found) :
    (frames.foldl (fun state frame =>
      state.recordFrame detectedAtMs frame (inspection files frame)) state).After db detectedAtMs
        (found ++ frames.flatMap (frameLosses files db.members.rows)) := by
  induction frames generalizing state found with
  | nil =>
      rw [List.flatMap_nil, List.append_nil]
      exact h
  | cons frame frames ih =>
      rw [List.foldl_cons, List.flatMap_cons, ← List.append_assoc]
      exact ih (h.recordFrame files frame)

theorem after_checked (files : ArchiveFiles) (db : Database) (detectedAtMs : ℤ) :
    (checked files db detectedAtMs).After db detectedAtMs (losses files db) :=
  after_foldl_recordFrame files db.frames.rows After.start

theorem frames_degradeProjection (issueType : String) (detectedAtMs : ℤ) (state : Reconciling)
    (frameSetUid : String) :
    (degradeProjection issueType detectedAtMs state frameSetUid).db.frames = state.db.frames := by
  unfold degradeProjection
  split
  · rfl
  split
  · rfl
  · rfl

theorem frames_recordFrame (state : Reconciling) (detectedAtMs : ℤ) (frame : Frame)
    (inspection : Inspection) :
    (state.recordFrame detectedAtMs frame inspection).db.frames =
      state.db.frames.update frame.id inspection.revise inspection.id_revise := by
  unfold recordFrame
  cases hvalidation : inspection.validation with
  | none =>
      have hsame : inspection.revise = id := by
        funext row
        simp only [Inspection.revise, hvalidation, id]
      apply Table.ext
      simp [Table.update, hsame]
  | some validation =>
      cases validation with
      | ok healthy =>
          have hrevise : inspection.revise = fun row : Frame =>
              { row with fileSize := healthy.fileSize, contentDigest := healthy.contentDigest } := by
            funext row
            simp only [Inspection.revise, hvalidation]
          simp only [hrevise]
      | error issue =>
          have hrevise : inspection.revise = fun row : Frame =>
              { row with archiveState := .degradedLiveOnly, archiveError := some issue.1 } := by
            funext row
            simp only [Inspection.revise, hvalidation]
          dsimp only [degradeFrameAndProjections]
          simp only [hrevise]
          refine List.foldlRecOn _ _ (motive := fun after : Reconciling =>
            after.db.frames = state.db.frames.update frame.id _ _) rfl ?_
          intro after hafter frameSetUid _
          rw [frames_degradeProjection, hafter]

/-- Every frame is revised by its own inspection. -/
theorem find_frames_checked (files : ArchiveFiles) (db : Database) (detectedAtMs : ℤ) (id : ℤ) :
    (checked files db detectedAtMs).db.frames.find id =
      (db.frames.find id).map fun frame => (inspection files frame).revise frame := by
  have hfold := @List.foldl_hom _ _ _ (fun state : Reconciling => state.db.frames)
    (fun state frame => state.recordFrame detectedAtMs frame (inspection files frame))
    (fun frames frame => frames.update (Frame.id frame) (inspection files frame).revise
      (inspection files frame).id_revise)
    db.frames.rows { db := db } fun state frame =>
      (state.frames_recordFrame detectedAtMs frame _).symm
  rw [checked, ← hfold]
  exact db.frames.find_foldl_update_rows _ (fun frame => (inspection files frame).id_revise) id

theorem degradedFrames_recordFrame {inspection : Inspection} (h : inspection.issueType? = none)
    (state : Reconciling) (detectedAtMs : ℤ) (frame : Frame) :
    (state.recordFrame detectedAtMs frame inspection).report.degradedFrames =
      state.report.degradedFrames := by
  unfold recordFrame
  unfold Inspection.issueType? at h
  cases hvalidation : inspection.validation with
  | none => rfl
  | some validation =>
      cases validation with
      | ok healthy => rfl
      | error issue =>
          rw [hvalidation] at h
          cases h

/-- The state that a scan of the archive leaves alone. -/
theorem recordPath_keeps (state : Reconciling) (entry : ArchivePath) (resolved : Option String) :
    (state.recordPath entry resolved).db = state.db ∧
      (state.recordPath entry resolved).added = state.added ∧
        (state.recordPath entry resolved).report.degradedFrames = state.report.degradedFrames := by
  unfold recordPath
  split
  · exact ⟨rfl, rfl, rfl⟩
  split
  · exact ⟨rfl, rfl, rfl⟩
  split
  · exact ⟨rfl, rfl, rfl⟩
  · exact ⟨rfl, rfl, rfl⟩

theorem exists_inspectPath_iff {entry : ArchivePath} :
    (∃ resolved, inspectPath entry = .ok resolved) ↔
      entry.isFile = .ok false ∨ (entry.isFile = .ok true ∧ ∃ path, entry.resolved = .ok path) := by
  unfold inspectPath
  cases entry.isFile with
  | error error =>
      constructor
      · rintro ⟨resolved, h⟩
        cases h
      · rintro (h | ⟨h, -⟩) <;> cases h
  | ok isFile =>
      cases isFile with
      | false => exact ⟨fun _ => Or.inl rfl, fun _ => ⟨none, rfl⟩⟩
      | true =>
          cases hresolved : entry.resolved with
          | error error =>
              constructor
              · rintro ⟨resolved, h⟩
                cases h
              · rintro (h | ⟨-, path, h⟩) <;> cases h
          | ok path => exact ⟨fun _ => Or.inr ⟨rfl, path, rfl⟩, fun _ => ⟨some path, rfl⟩⟩

/-- A run that ends has been able to look at everything. -/
theorem quiet_of_run {files : ArchiveFiles} {finished : Reconciling}
    (h : run files db detectedAtMs = .ok finished) : files.Quiet db.frames.rows := by
  obtain ⟨_, hroot, h⟩ := bind_eq_ok.mp h
  obtain ⟨checked, hchecked, h⟩ := bind_eq_ok.mp h
  obtain ⟨entries, hentries, h⟩ := bind_eq_ok.mp h
  refine ⟨hroot, ?_, entries, hentries, ?_⟩
  · intro frame hframe
    exact ArchiveFiles.exists_inspectFrame_iff.mp (ok_of_foldlM_map hchecked frame hframe)
  · intro entry hentry
    exact exists_inspectPath_iff.mp (ok_of_foldlM_map h entry hentry)

/-- A run that can look at everything ends with what its frames come to. -/
theorem run_of_quiet {files : ArchiveFiles} (h : files.Quiet db.frames.rows) (detectedAtMs : ℤ) :
    ∃ finished, run files db detectedAtMs = .ok finished ∧
      finished.db = (checked files db detectedAtMs).db ∧
        finished.added = (checked files db detectedAtMs).added ∧
          finished.report.degradedFrames =
            (checked files db detectedAtMs).report.degradedFrames := by
  obtain ⟨entries, hentries, hpaths⟩ := h.entries
  have hchecked : db.frames.rows.foldlM (checkFrame files detectedAtMs) { db := db } =
      .ok (checked files db detectedAtMs) :=
    foldlM_map_of_ok fun frame hframe => inspectFrame_eq (h.frames frame hframe)
  have hread : ∀ entry ∈ entries, inspectPath entry = .ok ((inspectPath entry).toOption.getD none) := by
    intro entry hentry
    obtain ⟨resolved, hresolved⟩ := exists_inspectPath_iff.mpr (hpaths entry hentry)
    rw [hresolved]
    rfl
  refine ⟨entries.foldl (fun state entry =>
    state.recordPath entry ((inspectPath entry).toOption.getD none))
      (checked files db detectedAtMs), ?_, ?_⟩
  · unfold run
    rw [h.root, hentries, hchecked]
    exact foldlM_map_of_ok hread
  · refine List.foldlRecOn entries _ (motive := fun finished : Reconciling =>
      finished.db = (checked files db detectedAtMs).db ∧
        finished.added = (checked files db detectedAtMs).added ∧
          finished.report.degradedFrames = (checked files db detectedAtMs).report.degradedFrames)
      ⟨rfl, rfl, rfl⟩ ?_
    intro state hstate entry _
    obtain ⟨hdb, hadded, hdegraded⟩ :=
      state.recordPath_keeps entry ((inspectPath entry).toOption.getD none)
    exact ⟨hdb.trans hstate.1, hadded.trans hstate.2.1, hdegraded.trans hstate.2.2⟩

end Reconciling

/-! ## The members that are lost -/

namespace Database

variable (db : Database) (files : ArchiveFiles)

/-- Whether the frame of a member is degraded. -/
def LosesMember (member : FrameSetMember) : Prop :=
  ∃ frame ∈ db.frames.rows, member.frameId = some frame.id ∧ files.Loses frame

/-- Whether a set has a member whose frame is degraded. -/
def LosesSet (frameSetUid : String) : Prop :=
  ∃ member ∈ db.members.rows, member.frameSetUid = frameSetUid ∧ db.LosesMember files member

/-- Whether no set with a manifest and without a projection has two members whose frames are
degraded. -/
def AddsOnce : Prop :=
  ∀ first ∈ db.members.rows, ∀ second ∈ db.members.rows,
    db.LosesMember files first → db.LosesMember files second →
      first.frameSetUid = second.frameSetUid →
        db.manifests.find first.frameSetUid ≠ none →
          db.projections.find first.frameSetUid = none → first = second

end Database

section Losses

variable {files : ArchiveFiles} {db : Database}

theorem mem_frameLosses_iff {frame : Frame} {member : FrameSetMember} :
    (∃ loss ∈ frameLosses files db.members.rows frame, loss.member = member) ↔
      (∃ issueType, (inspection files frame).issueType? = some issueType) ∧
        member ∈ db.members.rows ∧ member.frameId = some frame.id := by
  unfold frameLosses
  cases (inspection files frame).issueType? with
  | none => simp
  | some issueType => simp

/-- The losses are the members whose frames are degraded. -/
theorem mem_losses_iff (hquiet : files.Quiet db.frames.rows) {member : FrameSetMember} :
    (∃ loss ∈ losses files db, loss.member = member) ↔
      member ∈ db.members.rows ∧ db.LosesMember files member := by
  unfold losses Database.LosesMember
  constructor
  · rintro ⟨loss, hloss, rfl⟩
    obtain ⟨frame, hframe, hmem⟩ := List.mem_flatMap.mp hloss
    obtain ⟨hissue, hmember, hid⟩ := mem_frameLosses_iff.mp ⟨loss, hmem, rfl⟩
    exact ⟨hmember, frame, hframe, hid,
      (exists_issueType?_iff (hquiet.frames frame hframe)).mp hissue⟩
  · rintro ⟨hmember, frame, hframe, hid, hloses⟩
    have hissue := (exists_issueType?_iff (hquiet.frames frame hframe)).mpr hloses
    obtain ⟨loss, hmem, heq⟩ := mem_frameLosses_iff.mpr ⟨hissue, hmember, hid⟩
    exact ⟨loss, List.mem_flatMap.mpr ⟨frame, hframe, hmem⟩, heq⟩

theorem losesSet_iff (hquiet : files.Quiet db.frames.rows) {frameSetUid : String} :
    db.LosesSet files frameSetUid ↔ ∃ loss ∈ losses files db, loss.frameSetUid = frameSetUid := by
  constructor
  · rintro ⟨member, hmember, rfl, hloses⟩
    obtain ⟨loss, hloss, rfl⟩ := (mem_losses_iff hquiet).mpr ⟨hmember, hloses⟩
    exact ⟨loss, hloss, rfl⟩
  · rintro ⟨loss, hloss, rfl⟩
    obtain ⟨hmember, hloses⟩ := (mem_losses_iff hquiet).mp ⟨loss, hloss, rfl⟩
    exact ⟨loss.member, hmember, rfl, hloses⟩

theorem nodup_frameLosses (frame : Frame) :
    ((frameLosses files db.members.rows frame).map Loss.member).Nodup := by
  unfold frameLosses
  cases (inspection files frame).issueType? with
  | none => exact List.nodup_nil
  | some issueType =>
      have hmembers : db.members.rows.Nodup := db.members.keys_nodup.of_map
      rw [List.map_map]
      exact (hmembers.filter _).map fun _ _ h => h

/-- A member is lost once. -/
theorem nodup_losses : ((losses files db).map Loss.member).Nodup := by
  unfold losses
  rw [List.map_flatMap, List.nodup_flatMap]
  constructor
  · exact fun frame _ => nodup_frameLosses frame
  · have hids : db.frames.rows.Pairwise fun first second => first.id ≠ second.id :=
      List.pairwise_map.mp db.frames.keys_nodup
    refine hids.imp fun {first second} hne => ?_
    intro member hfirst hsecond
    obtain ⟨-, -, hid⟩ := mem_frameLosses_iff.mp (List.mem_map.mp hfirst)
    obtain ⟨-, -, hid'⟩ := mem_frameLosses_iff.mp (List.mem_map.mp hsecond)
    exact hne (Option.some.inj (hid.symm.trans hid'))

/-- The rows that a run adds have keys of their own exactly when no set is added twice. -/
theorem nodup_added_iff (hquiet : files.Quiet db.frames.rows) (detectedAtMs : ℤ) :
    ((Reconciling.checked files db detectedAtMs).added.map (·.frameSetUid)).Nodup ↔
      db.AddsOnce files := by
  let missing := (losses files db).filter fun loss =>
    Reconciling.missesProjection db loss.frameSetUid
  have hkeys : (Reconciling.checked files db detectedAtMs).added.map (·.frameSetUid) =
      (missing.map Loss.member).map (·.frameSetUid) := by
    rw [(Reconciling.after_checked files db detectedAtMs).added, List.map_map, List.map_map]
    rfl
  have hnodup : (missing.map Loss.member).Nodup :=
    nodup_losses.sublist (List.filter_sublist.map Loss.member)
  have hmem : ∀ member, member ∈ missing.map Loss.member ↔
      (member ∈ db.members.rows ∧ db.LosesMember files member) ∧
        db.manifests.find member.frameSetUid ≠ none ∧
          db.projections.find member.frameSetUid = none := by
    intro member
    rw [← mem_losses_iff hquiet, List.mem_map]
    simp only [missing, List.mem_filter, Reconciling.missesProjection, Bool.and_eq_true,
      Option.isNone_iff_eq_none, Option.isSome_iff_ne_none, Loss.frameSetUid]
    constructor
    · rintro ⟨loss, ⟨hloss, hprojection, hmanifest⟩, rfl⟩
      exact ⟨⟨loss, hloss, rfl⟩, hmanifest, hprojection⟩
    · rintro ⟨⟨loss, hloss, rfl⟩, hmanifest, hprojection⟩
      exact ⟨loss, ⟨hloss, hprojection, hmanifest⟩, rfl⟩
  rw [hkeys, List.nodup_map_iff_inj_on hnodup]
  constructor
  · intro hinj first hfirst second hsecond hloses hloses' heq hmanifest hprojection
    refine hinj first ((hmem first).mpr ⟨⟨hfirst, hloses⟩, hmanifest, hprojection⟩) second
      ((hmem second).mpr ⟨⟨hsecond, hloses'⟩, ?_⟩) heq
    rw [← heq]
    exact ⟨hmanifest, hprojection⟩
  · intro honce first hfirst second hsecond heq
    obtain ⟨⟨hfirst, hloses⟩, hmanifest, hprojection⟩ := (hmem first).mp hfirst
    obtain ⟨⟨hsecond, hloses'⟩, -⟩ := (hmem second).mp hsecond
    exact honce first hfirst second hsecond hloses hloses' heq hmanifest hprojection

end Losses

/-! ## The result -/

section Result

variable {files : ArchiveFiles} {db : Database}

/-- A reconciliation commits exactly when nothing raises and no set is added twice. -/
theorem commits_iff (files : ArchiveFiles) (db : Database) (detectedAtMs : ℤ) :
    (∃ report, (reconcileArchive files db detectedAtMs).2 = .ok report) ↔
      files.Quiet db.frames.rows ∧ db.AddsOnce files := by
  unfold reconcileArchive
  constructor
  · rintro ⟨report, h⟩
    cases hrun : Reconciling.run files db detectedAtMs with
    | error error =>
        rw [hrun] at h
        cases h
    | ok finished =>
        have hquiet := Reconciling.quiet_of_run hrun
        obtain ⟨finished', hrun', -, hadded, -⟩ := Reconciling.run_of_quiet hquiet detectedAtMs
        cases hrun.symm.trans hrun'
        simp only [hrun] at h
        split at h
        case isTrue hnodup =>
          rw [hadded] at hnodup
          exact ⟨hquiet, (nodup_added_iff hquiet detectedAtMs).mp hnodup⟩
        case isFalse => cases h
  · rintro ⟨hquiet, honce⟩
    obtain ⟨finished, hrun, -, hadded, -⟩ := Reconciling.run_of_quiet hquiet detectedAtMs
    have hnodup := (nodup_added_iff hquiet detectedAtMs).mpr honce
    simp only [hrun]
    rw [if_pos (hadded ▸ hnodup)]
    exact ⟨finished.report, rfl⟩

/-- What a reconciliation leaves when it commits. -/
theorem reconcileArchive_eq (hquiet : files.Quiet db.frames.rows) (honce : db.AddsOnce files)
    (detectedAtMs : ℤ) :
    ∃ report, reconcileArchive files db detectedAtMs =
      ({ (Reconciling.checked files db detectedAtMs).db with
          projections := putRows (Reconciling.checked files db detectedAtMs).db.projections
            (Reconciling.checked files db detectedAtMs).added }, .ok report) ∧
        report.degradedFrames =
          (Reconciling.checked files db detectedAtMs).report.degradedFrames := by
  obtain ⟨finished, hrun, hdb, hadded, hdegraded⟩ :=
    Reconciling.run_of_quiet hquiet detectedAtMs
  have hnodup := (nodup_added_iff hquiet detectedAtMs).mpr honce
  refine ⟨finished.report, ?_, hdegraded⟩
  unfold reconcileArchive
  simp only [hrun, hdb, hadded]
  rw [if_pos hnodup]

/-- The frames that a committed reconciliation leaves. -/
theorem find_frames_reconcileArchive (hquiet : files.Quiet db.frames.rows)
    (honce : db.AddsOnce files) (detectedAtMs : ℤ) (id : ℤ) :
    (reconcileArchive files db detectedAtMs).1.frames.find id =
      (db.frames.find id).map fun frame => (inspection files frame).revise frame := by
  obtain ⟨report, heq, -⟩ := reconcileArchive_eq hquiet honce detectedAtMs
  rw [heq]
  exact Reconciling.find_frames_checked files db detectedAtMs id

/-- The projection of a set that is not added. -/
theorem find_projections_of_not_missing (hquiet : files.Quiet db.frames.rows)
    (honce : db.AddsOnce files) (detectedAtMs : ℤ) {frameSetUid : String}
    (h : ∀ loss ∈ losses files db, loss.frameSetUid = frameSetUid →
      Reconciling.missesProjection db frameSetUid = false) :
    (reconcileArchive files db detectedAtMs).1.projections.find frameSetUid =
      (db.projections.find frameSetUid).map
        (Loss.degrade detectedAtMs (losses files db) frameSetUid) := by
  obtain ⟨report, heq, -⟩ := reconcileArchive_eq hquiet honce detectedAtMs
  have hafter := Reconciling.after_checked files db detectedAtMs
  rw [heq]
  refine (find_putRows_of_absent _ ?_).trans (hafter.projections frameSetUid)
  intro projection hadded huid
  rw [hafter.added, List.mem_map] at hadded
  obtain ⟨loss, hloss, rfl⟩ := hadded
  obtain ⟨hmem, hmissing⟩ := List.mem_filter.mp hloss
  have hset : loss.frameSetUid = frameSetUid := huid
  rw [hset, h loss hmem hset] at hmissing
  cases hmissing

theorem missesProjection_of_some {frameSetUid : String} {projection : FrameSetDeliveryProjection}
    (h : db.projections.find frameSetUid = some projection) :
    Reconciling.missesProjection db frameSetUid = false := by
  simp [Reconciling.missesProjection, h]

/-- A projection that was there keeps its live state. -/
theorem liveState_reconcileArchive (hquiet : files.Quiet db.frames.rows)
    (honce : db.AddsOnce files) (detectedAtMs : ℤ) {frameSetUid : String}
    {projection : FrameSetDeliveryProjection}
    (h : db.projections.find frameSetUid = some projection) :
    ∃ after, (reconcileArchive files db detectedAtMs).1.projections.find frameSetUid = some after ∧
      after.liveState = projection.liveState := by
  rw [find_projections_of_not_missing hquiet honce detectedAtMs
    fun _ _ _ => missesProjection_of_some h, h]
  exact ⟨_, rfl, Loss.liveState_degrade detectedAtMs (losses files db) frameSetUid projection⟩

/-- The projection of a set that loses no member is left alone. -/
theorem find_projections_of_not_losesSet (hquiet : files.Quiet db.frames.rows)
    (honce : db.AddsOnce files) (detectedAtMs : ℤ) {frameSetUid : String}
    (h : ¬ db.LosesSet files frameSetUid) :
    (reconcileArchive files db detectedAtMs).1.projections.find frameSetUid =
      db.projections.find frameSetUid := by
  have hother : ∀ loss ∈ losses files db, loss.frameSetUid ≠ frameSetUid := by
    intro loss hloss huid
    exact h ((losesSet_iff hquiet).mpr ⟨loss, hloss, huid⟩)
  rw [find_projections_of_not_missing hquiet honce detectedAtMs
    fun loss hloss huid => absurd huid (hother loss hloss)]
  have hsame : Loss.degrade detectedAtMs (losses files db) frameSetUid = id := by
    funext projection
    exact Loss.degrade_of_forall_ne detectedAtMs hother projection
  rw [hsame, Option.map_id, id]

/-- A set with a manifest that loses a member has a degraded projection. -/
theorem archiveState_reconcileArchive (hquiet : files.Quiet db.frames.rows)
    (honce : db.AddsOnce files) (detectedAtMs : ℤ) {frameSetUid : String}
    (hmanifest : db.manifests.find frameSetUid ≠ none) (h : db.LosesSet files frameSetUid) :
    ∃ after, (reconcileArchive files db detectedAtMs).1.projections.find frameSetUid = some after ∧
      after.archiveState = .degradedLiveOnly := by
  have hloss := (losesSet_iff hquiet).mp h
  cases hfind : db.projections.find frameSetUid with
  | some projection =>
      rw [find_projections_of_not_missing hquiet honce detectedAtMs
        fun _ _ _ => missesProjection_of_some hfind, hfind]
      exact ⟨_, rfl, Loss.archiveState_degrade detectedAtMs hloss projection⟩
  | none =>
      obtain ⟨report, heq, -⟩ := reconcileArchive_eq hquiet honce detectedAtMs
      have hafter := Reconciling.after_checked files db detectedAtMs
      have hadded : ∃ projection ∈ (Reconciling.checked files db detectedAtMs).added,
          projection.frameSetUid = frameSetUid := by
        obtain ⟨loss, hmem, huid⟩ := hloss
        have hmissing : Reconciling.missesProjection db loss.frameSetUid = true := by
          simp [Reconciling.missesProjection, huid, hfind, Option.isSome_iff_ne_none, hmanifest]
        refine ⟨loss.addition detectedAtMs, ?_, huid⟩
        rw [hafter.added]
        exact List.mem_map_of_mem (List.mem_filter.mpr ⟨hmem, hmissing⟩)
      obtain ⟨after, hmem, hput⟩ := find_putRows_of_mem
        (Reconciling.checked files db detectedAtMs).db.projections hadded
      rw [heq]
      refine ⟨after, hput, ?_⟩
      rw [hafter.added, List.mem_map] at hmem
      obtain ⟨loss, -, rfl⟩ := hmem
      rfl

end Result

/-! ## The next run -/

section Again

variable {files : ArchiveFiles} {db : Database}

/-- Whether a durable frame has its size and its digest recorded, and its file shows them. -/
def ArchiveFiles.Settled (files : ArchiveFiles) (frame : Frame) : Prop :=
  frame.archiveState = .durable → ∃ size digest, frame.fileSize = some size ∧
    frame.contentDigest = some digest ∧ files.Shows frame size digest

/-- A revised row is settled, and looking at its file raises nothing. -/
theorem settled_revise {frame : Frame} (h : files.QuietFor frame) :
    files.Settled ((inspection files frame).revise frame) ∧
      files.QuietFor ((inspection files frame).revise frame) := by
  have hinspected := inspected h
  unfold Inspection.revise
  cases hvalidation : (inspection files frame).validation with
  | none =>
      rw [hvalidation] at hinspected
      cases hinspected with
      | unchecked hstate => exact ⟨fun hdurable => absurd hdurable hstate, h⟩
  | some validation =>
      rw [hvalidation] at hinspected
      cases hinspected with
      | checked hstate hvalidated =>
          cases hvalidated with
          | healthy hshows =>
              obtain ⟨filePath, path, hpath, hne, hresolve, hinside, hcontent, -, -⟩ := hshows
              refine ⟨fun _ => ⟨_, _, rfl, rfl, filePath, path, hpath, hne, hresolve, hinside,
                hcontent, ?_, ?_⟩, h.resolves, h.accessible⟩
              · exact fun recorded hrecorded => (Option.some.inj hrecorded).symm
              · exact fun recorded hrecorded => (Option.some.inj hrecorded).symm
          | failed hlost =>
              exact ⟨fun hdurable => ArchiveState.noConfusion hdurable, h.resolves,
                fun hdurable => ArchiveState.noConfusion hdurable⟩

/-- A settled row is kept as it is. -/
theorem inspection_of_settled {frame : Frame} (hquiet : files.QuietFor frame)
    (h : files.Settled frame) :
    (inspection files frame).issueType? = none ∧ (inspection files frame).revise frame = frame := by
  have hinspected := inspected hquiet
  unfold Inspection.issueType? Inspection.revise
  cases hvalidation : (inspection files frame).validation with
  | none => exact ⟨rfl, rfl⟩
  | some validation =>
      rw [hvalidation] at hinspected
      cases hinspected with
      | checked hstate hvalidated =>
          obtain ⟨size, digest, hsize, hdigest, hshows⟩ := h hstate
          cases hvalidated with
          | healthy hshows' =>
              obtain ⟨_, _, -, -, -, -, -, hsize', hdigest'⟩ := hshows'
              refine ⟨rfl, ?_⟩
              dsimp only
              rw [← hsize' size hsize, ← hdigest' digest hdigest, ← hsize, ← hdigest]
          | failed hlost => exact absurd ⟨size, digest, hshows⟩ hlost

/-- What a reconciliation finds settled it leaves alone. -/
theorem reconcileArchive_of_settled (hquiet : files.Quiet db.frames.rows)
    (h : ∀ frame ∈ db.frames.rows, files.Settled frame) (detectedAtMs : ℤ) :
    (∃ report, (reconcileArchive files db detectedAtMs).2 = .ok report ∧
        report.degradedFrames = 0) ∧
      (∀ id, (reconcileArchive files db detectedAtMs).1.frames.find id = db.frames.find id) ∧
        ∀ frameSetUid, (reconcileArchive files db detectedAtMs).1.projections.find frameSetUid =
          db.projections.find frameSetUid := by
  have hkept : ∀ frame ∈ db.frames.rows, (inspection files frame).issueType? = none ∧
      (inspection files frame).revise frame = frame :=
    fun frame hframe => inspection_of_settled (hquiet.frames frame hframe) (h frame hframe)
  have hnone : ∀ member, ¬ db.LosesMember files member := by
    rintro member ⟨frame, hframe, -, hloses⟩
    obtain ⟨issueType, hissue⟩ := (exists_issueType?_iff (hquiet.frames frame hframe)).mpr hloses
    rw [(hkept frame hframe).1] at hissue
    cases hissue
  have honce : db.AddsOnce files := fun first _ _ _ hloses => absurd hloses (hnone first)
  refine ⟨?_, ?_, ?_⟩
  · obtain ⟨report, heq, hdegraded⟩ := reconcileArchive_eq hquiet honce detectedAtMs
    refine ⟨report, by rw [heq], hdegraded.trans ?_⟩
    refine List.foldlRecOn db.frames.rows _
      (motive := fun state : Reconciling => state.report.degradedFrames = 0) rfl ?_
    intro state hstate frame hframe
    rw [Reconciling.degradedFrames_recordFrame (hkept frame hframe).1, hstate]
  · intro id
    rw [find_frames_reconcileArchive hquiet honce detectedAtMs id]
    cases hfind : db.frames.find id with
    | none => rfl
    | some frame =>
        rw [Option.map_some, (hkept frame (db.frames.mem_of_find hfind)).2]
  · intro frameSetUid
    refine find_projections_of_not_losesSet hquiet honce detectedAtMs ?_
    rintro ⟨member, -, -, hloses⟩
    exact hnone member hloses

/-- The rows that a committed reconciliation leaves are settled. -/
theorem settled_reconcileArchive (hquiet : files.Quiet db.frames.rows)
    (honce : db.AddsOnce files) (detectedAtMs : ℤ) :
    files.Quiet (reconcileArchive files db detectedAtMs).1.frames.rows ∧
      ∀ frame ∈ (reconcileArchive files db detectedAtMs).1.frames.rows, files.Settled frame := by
  have hrevised : ∀ row ∈ (reconcileArchive files db detectedAtMs).1.frames.rows,
      ∃ frame ∈ db.frames.rows, (inspection files frame).revise frame = row := by
    intro row hrow
    have hfind := Table.find_of_mem _ hrow
    rw [find_frames_reconcileArchive hquiet honce, Option.map_eq_some_iff] at hfind
    obtain ⟨frame, hframe, hrevise⟩ := hfind
    exact ⟨frame, Table.mem_of_find _ hframe, hrevise⟩
  refine ⟨⟨hquiet.root, ?_, hquiet.entries⟩, ?_⟩
  · intro row hrow
    obtain ⟨frame, hframe, rfl⟩ := hrevised row hrow
    exact (settled_revise (hquiet.frames frame hframe)).2
  · intro row hrow
    obtain ⟨frame, hframe, rfl⟩ := hrevised row hrow
    exact (settled_revise (hquiet.frames frame hframe)).1

end Again

/-! ## Exactness -/

/-- A reconciliation that commits, is exact and is idempotent. -/
structure ReconcilesExactly (files : ArchiveFiles) (db : Database) (detectedAtMs againAtMs : ℤ) :
    Prop where
  commits : ∃ report, (reconcileArchive files db detectedAtMs).2 = .ok report
  durable : ∀ id, (∃ after, (reconcileArchive files db detectedAtMs).1.frames.find id =
      some after ∧ after.archiveState = .durable) ↔
    ∃ frame, db.frames.find id = some frame ∧ frame.archiveState = .durable ∧ files.Intact frame
  degraded : ∀ frameSetUid, db.manifests.find frameSetUid ≠ none →
    db.LosesSet files frameSetUid →
      ∃ after, (reconcileArchive files db detectedAtMs).1.projections.find frameSetUid =
        some after ∧ after.archiveState = .degradedLiveOnly
  live : ∀ frameSetUid projection, db.projections.find frameSetUid = some projection →
    ∃ after, (reconcileArchive files db detectedAtMs).1.projections.find frameSetUid =
      some after ∧ after.liveState = projection.liveState
  others : ∀ frameSetUid, ¬ db.LosesSet files frameSetUid →
    (reconcileArchive files db detectedAtMs).1.projections.find frameSetUid =
      db.projections.find frameSetUid
  commitsAgain : ∃ report, (reconcileArchive files (reconcileArchive files db detectedAtMs).1
    againAtMs).2 = .ok report ∧ report.degradedFrames = 0
  framesAgain : ∀ id, (reconcileArchive files (reconcileArchive files db detectedAtMs).1
    againAtMs).1.frames.find id = (reconcileArchive files db detectedAtMs).1.frames.find id
  projectionsAgain : ∀ frameSetUid, (reconcileArchive files
    (reconcileArchive files db detectedAtMs).1 againAtMs).1.projections.find frameSetUid =
      (reconcileArchive files db detectedAtMs).1.projections.find frameSetUid

/-- A set with a manifest and without a projection that has two members whose files are gone. -/
def lostPair : Database where
  manifests := Table.empty.put
    { frameSetUid := "set", captureSessionId := "session", captureRunId := "run", frameSetId := 1
      anchorTimestampMs := 1000, freshnessOriginMs := 1000, synchronizationSpanMs := 0
      manifestDigest := "digest", manifestJson := "\x7b\x7d", createdAtMs := 1000 }
  members := (Table.empty.put (lostMember 1 "left")).put (lostMember 2 "right")
  frames := (Table.empty.put (lostFrame 1 "left")).put (lostFrame 2 "right")
where
  lostMember (frameId : ℤ) (camera : String) : FrameSetMember :=
    { frameSetUid := "set", frameId := some frameId, sourceFrameUid := camera
      sourceSessionId := camera, cameraStreamId := camera, frameSequence := 1
      captureTimestampMs := 1000, contentType := "image/jpeg", imageSize := 1
      contentDigest := "digest", filePath := "/archive/" ++ camera ++ ".jpg" }
  lostFrame (id : ℤ) (camera : String) : Frame :=
    { id := id, deviceId := camera, timestamp := 1000
      filePath := some ("/archive/" ++ camera ++ ".jpg") }

/-- An archive directory that is empty. -/
def emptyArchive : ArchiveFiles where
  root := .ok ()
  resolve path := .ok path
  inRoot _ := true
  content _ := .absent
  entries := .ok []

end ImageStream
