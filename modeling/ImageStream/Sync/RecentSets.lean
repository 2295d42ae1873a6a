/-
# The recent frame sets

Late archive completions reach a set through the recent list, where it is addressed by
its run and number, and a frame through the payload index, where it is filed under its
buffer key. Neither is changed by a completion: it replaces a set by one of the same run
and number, and a frame by one of the same key. As long as the run ids that are drawn
are fresh, no two recent sets share run and number.
-/

import ImageStream.Sync.Service
import Mathlib.Data.List.Nodup

namespace ImageStream

open Base

/-- What a set is addressed by in the recent list. -/
def SynchronizedFrameSet.number (frameSet : SynchronizedFrameSet) : Option String × ℤ :=
  (frameSet.captureRunId, frameSet.frameSetId)

/-! ## The payload index -/

/-- Every indexed frame is filed under its own key. -/
def SyncFrameBufferManager.Filed (manager : SyncFrameBufferManager) : Prop :=
  ∀ key frame, manager.framesByKey.get? key = some frame → frame.bufferKey = key

namespace SyncFrameBufferManager

theorem get?_foldl_pop {keys : List String} {index : Dict String StoredSyncFrame} {key : String}
    {frame : StoredSyncFrame}
    (h : (keys.foldl (fun index key => index.pop key) index).get? key = some frame) :
    index.get? key = some frame := by
  rw [Dict.get?_foldl_pop] at h
  split at h
  · cases h
  · exact h

theorem Filed.retain {manager : SyncFrameBufferManager} (h : manager.Filed)
    (stored : StoredSyncFrame) : (manager.retain stored).Filed := by
  intro key frame hframe
  have hset : (manager.framesByKey.set stored.bufferKey stored).get? key = some frame :=
    get?_foldl_pop hframe
  rw [Dict.get?_set] at hset
  split at hset
  · rename_i hkey
    cases hset
    exact hkey.symm
  · exact h key frame hset

theorem Filed.finalizeArchive {manager : SyncFrameBufferManager} (h : manager.Filed)
    (frameKey : String) (frameId : Option ℤ) (filePath : Option String)
    (archiveState : ArchiveState) (archiveError : Option String) :
    (manager.finalizeArchive frameKey frameId filePath archiveState archiveError).1.Filed := by
  unfold SyncFrameBufferManager.finalizeArchive
  split
  · exact h
  · rename_i stored hstored
    intro key frame hframe
    dsimp only at hframe
    rw [Dict.get?_set] at hframe
    split at hframe
    · rename_i hkey
      cases hframe
      rw [hkey, StoredSyncFrame.bufferKey_withArchive]
      exact h frameKey stored hstored
    · exact h key frame hframe

theorem framesByKey_consumeThrough (manager : SyncFrameBufferManager)
    (selected : Dict String StoredSyncFrame) :
    (manager.consumeThrough selected).1.framesByKey = manager.framesByKey := by
  have hfold : ∀ (rows : List (String × StoredSyncFrame)) (state : SyncFrameBufferManager × ℕ),
      (rows.foldl consumeCamera state).1.framesByKey = state.1.framesByKey := by
    intro rows
    induction rows with
    | nil => exact fun _ => rfl
    | cons row rows ih =>
        intro state
        rw [List.foldl_cons, ih]
        unfold consumeCamera
        split <;> rfl
  exact hfold selected.rows (manager, 0)

theorem framesByKey_dropFramesOlderThan (manager : SyncFrameBufferManager)
    (deviceIds : List String) (timestampMs : ℤ) (excluded : List String) :
    (manager.dropFramesOlderThan deviceIds timestampMs excluded).1.framesByKey =
      manager.framesByKey := by
  have hfold : ∀ (devices : List String) (state : SyncFrameBufferManager × ℕ),
      (devices.foldl (dropCamera timestampMs excluded) state).1.framesByKey =
        state.1.framesByKey := by
    intro devices
    induction devices with
    | nil => exact fun _ => rfl
    | cons device devices ih =>
        intro state
        rw [List.foldl_cons, ih]
        unfold dropCamera
        split <;> rfl
  exact hfold deviceIds (manager, 0)

end SyncFrameBufferManager

theorem SyncMatcher.framesByKey_dropStaleFrames (matcher : SyncMatcher)
    (manager : SyncFrameBufferManager) :
    (matcher.dropStaleFrames manager).2.framesByKey = manager.framesByKey := by
  unfold dropStaleFrames
  dsimp only
  split
  · rfl
  · exact manager.framesByKey_dropFramesOlderThan _ _ _

theorem TryMatchOutcome.framesByKey {matcher : SyncMatcher} {manager : SyncFrameBufferManager}
    {nowMs : ℤ} {freshRunId : String}
    {result : SyncMatcher × SyncFrameBufferManager × Except ValueError (Option SynchronizedFrameSet)}
    (h : TryMatchOutcome matcher manager nowMs freshRunId result) :
    result.2.1.framesByKey = manager.framesByKey := by
  cases h with
  | ignored => rfl
  | missed recorded => exact recorded.framesByKey_dropStaleFrames manager
  | emitted selected =>
      exact (SyncMatcher.framesByKey_dropStaleFrames _ _).trans
        (manager.framesByKey_consumeThrough selected)

/-! ## Runs and numbers -/

/-- The recent sets have distinct numbers from runs that have been drawn. -/
structure SyncMatcher.Numbered (matcher : SyncMatcher) (drawn : List String) : Prop where
  current : matcher.captureRunId ∈ drawn
  distinct : (matcher.recentFrameSets.map SynchronizedFrameSet.number).Nodup
  known : ∀ number ∈ matcher.recentFrameSets.map SynchronizedFrameSet.number,
    ∃ runId ∈ drawn, number.1 = some runId ∧
      (runId = matcher.captureRunId → number.2 < matcher.nextFrameSetId)

namespace SyncMatcher

theorem Numbered.of_same {first second : SyncMatcher} {drawn : List String}
    (h : first.Numbered drawn)
    (hnumbers : second.recentFrameSets.map SynchronizedFrameSet.number =
      first.recentFrameSets.map SynchronizedFrameSet.number)
    (hrun : second.captureRunId = first.captureRunId)
    (hnext : second.nextFrameSetId = first.nextFrameSetId) : second.Numbered drawn where
  current := hrun ▸ h.current
  distinct := hnumbers ▸ h.distinct
  known := by
    rw [hnumbers, hrun, hnext]
    exact h.known

theorem Numbered.of_sameSets {first second : SyncMatcher} {drawn : List String}
    (h : first.Numbered drawn) (hsame : first.SameSets second) : second.Numbered drawn :=
  h.of_same (by rw [hsame.recentFrameSets]) hsame.captureRunId hsame.nextFrameSetId

theorem Numbered.mono {matcher : SyncMatcher} {drawn more : List String}
    (h : matcher.Numbered drawn) (hsubset : ∀ runId ∈ drawn, runId ∈ more) :
    matcher.Numbered more where
  current := hsubset _ h.current
  distinct := h.distinct
  known number hnumber := by
    obtain ⟨runId, hrunId, hof⟩ := h.known number hnumber
    exact ⟨runId, hsubset runId hrunId, hof⟩

/-- A set takes the place of those of its number. -/
theorem numbers_replaceRecentFrameSet (matcher : SyncMatcher) (updated : SynchronizedFrameSet) :
    (matcher.replaceRecentFrameSet updated).recentFrameSets.map SynchronizedFrameSet.number =
      matcher.recentFrameSets.map SynchronizedFrameSet.number := by
  unfold replaceRecentFrameSet
  rw [List.map_map]
  refine List.map_congr_left fun item _ => ?_
  by_cases h : item.captureRunId = updated.captureRunId ∧ item.frameSetId = updated.frameSetId
  · simp [h, SynchronizedFrameSet.number]
  · simp only [Function.comp_apply, if_neg h]

theorem Numbered.recordArchive {matcher : SyncMatcher} {drawn : List String}
    (h : matcher.Numbered drawn) (frameSet updated : SynchronizedFrameSet) :
    (matcher.recordArchive frameSet updated).Numbered drawn :=
  h.of_same (numbers_replaceRecentFrameSet _ updated) rfl rfl

theorem Numbered.replaceRecentFrameMember {matcher : SyncMatcher} {drawn : List String}
    (h : matcher.Numbered drawn) (frame : StoredSyncFrame) :
    (matcher.replaceRecentFrameMember frame).1.Numbered drawn := by
  unfold SyncMatcher.replaceRecentFrameMember
  split
  · exact h.recordArchive _ _
  · exact h

/-- The next capture keeps its run and number, or starts a fresh run. -/
theorem enterCapture_cases (matcher : SyncMatcher) (identity : CaptureIdentity)
    (freshRunId : String) :
    (matcher.enterCapture identity freshRunId).recentFrameSets = matcher.recentFrameSets ∧
      (((matcher.enterCapture identity freshRunId).captureRunId = matcher.captureRunId ∧
          (matcher.enterCapture identity freshRunId).nextFrameSetId = matcher.nextFrameSetId) ∨
        ((matcher.enterCapture identity freshRunId).captureRunId = freshRunId ∧
          (matcher.enterCapture identity freshRunId).nextFrameSetId = 1)) := by
  unfold enterCapture
  dsimp only
  by_cases hchanges : matcher.changesCapture identity <;>
    by_cases hsession : identity.captureSessionId ≠ none <;> simp [hchanges, hsession]

theorem Numbered.enterCapture {matcher : SyncMatcher} {drawn : List String}
    (h : matcher.Numbered drawn) (identity : CaptureIdentity) {freshRunId : String}
    (hfresh : freshRunId ∉ drawn) :
    (matcher.enterCapture identity freshRunId).Numbered (drawn ++ [freshRunId]) := by
  obtain ⟨hrecent, ⟨hrun, hnext⟩ | ⟨hrun, hnext⟩⟩ :=
    matcher.enterCapture_cases identity freshRunId
  · have hsame := h.of_same (congrArg (List.map SynchronizedFrameSet.number) hrecent) hrun hnext
    exact hsame.mono fun runId hrunId => List.mem_append_left _ hrunId
  · refine ⟨by simp [hrun], by rw [hrecent]; exact h.distinct, ?_⟩
    rw [hrecent, hrun, hnext]
    intro number hnumber
    obtain ⟨runId, hrunId, hof, -⟩ := h.known number hnumber
    exact ⟨runId, List.mem_append_left _ hrunId, hof,
      fun heq => absurd (heq ▸ hrunId) hfresh⟩

/-- A set that takes the next number has a number of its own. -/
theorem Numbered.recordMatch {matcher : SyncMatcher} {drawn : List String}
    (h : matcher.Numbered drawn) {frameSet : SynchronizedFrameSet}
    (hnumber : frameSet.number = (some matcher.captureRunId, matcher.nextFrameSetId)) :
    (matcher.recordMatch frameSet).Numbered drawn := by
  have hsublist : ((matcher.recordMatch frameSet).recentFrameSets.map
      SynchronizedFrameSet.number).Sublist
        (matcher.recentFrameSets.map SynchronizedFrameSet.number ++ [frameSet.number]) := by
    have hpushed := (pushBounded_sublist matcher.recentLimit matcher.recentFrameSets
      frameSet).map SynchronizedFrameSet.number
    rwa [List.map_append] at hpushed
  refine ⟨h.current, List.Nodup.sublist hsublist ?_, fun number hmem => ?_⟩
  · rw [List.nodup_append_comm]
    refine List.nodup_cons.mpr ⟨fun hmem => ?_, h.distinct⟩
    obtain ⟨runId, -, hrunId, hlt⟩ := h.known _ hmem
    rw [hnumber] at hrunId hlt
    exact lt_irrefl _ (hlt (Option.some.inj hrunId).symm)
  · show ∃ runId ∈ drawn, number.1 = some runId ∧
      (runId = matcher.captureRunId → number.2 < matcher.nextFrameSetId + 1)
    rcases List.mem_append.mp (hsublist.subset hmem) with hold | hnew
    · obtain ⟨runId, hrunId, hof, hlt⟩ := h.known number hold
      exact ⟨runId, hrunId, hof, fun heq => lt_trans (hlt heq) (Int.lt_succ _)⟩
    · rw [List.mem_singleton.mp hnew, hnumber]
      exact ⟨matcher.captureRunId, h.current, rfl, fun _ => Int.lt_succ _⟩

/-- The matcher before it records the set that it emits. -/
def entered (matcher : SyncMatcher) (manager : SyncFrameBufferManager)
    (identity : CaptureIdentity) (selected : Dict String StoredSyncFrame) (freshRunId : String) :
    SyncMatcher :=
  { matcher with
    droppedSupersededCount :=
      matcher.droppedSupersededCount + (manager.consumeThrough selected).2 }.enterCapture identity
    freshRunId

/-- The set that is emitted is the last one that is recorded. -/
theorem emit_recorded (matcher : SyncMatcher) (manager : SyncFrameBufferManager)
    (identity : CaptureIdentity) (selected : Dict String StoredSyncFrame) (spanMs nowMs : ℤ)
    (freshRunId : String) :
    ∃ frameSet,
      (matcher.emit manager identity selected spanMs nowMs freshRunId).2.2 =
        .ok (some frameSet) ∧
      frameSet.number =
        (some (matcher.entered manager identity selected freshRunId).captureRunId,
          (matcher.entered manager identity selected freshRunId).nextFrameSetId) ∧
      ((matcher.entered manager identity selected freshRunId).recordMatch frameSet).SameSets
        (matcher.emit manager identity selected spanMs nowMs freshRunId).1 :=
  ⟨_, rfl, rfl, SyncMatcher.sameSets_dropStaleFrames _ _⟩

/-- What is emitted is built from the selection. -/
theorem emit_built (matcher : SyncMatcher) (manager : SyncFrameBufferManager)
    (identity : CaptureIdentity) (selected : Dict String StoredSyncFrame) (spanMs nowMs : ℤ)
    (freshRunId : String) :
    ∃ entered : SyncMatcher, ∃ synchronizedAtMs : ℤ,
      (matcher.emit manager identity selected spanMs nowMs freshRunId).2.2 =
        .ok (some (entered.buildFrameSet identity selected spanMs synchronizedAtMs)) :=
  ⟨_, _, rfl⟩

theorem Numbered.emit {matcher : SyncMatcher} {drawn : List String} (h : matcher.Numbered drawn)
    (manager : SyncFrameBufferManager) (identity : CaptureIdentity)
    (selected : Dict String StoredSyncFrame) (spanMs nowMs : ℤ) {freshRunId : String}
    (hfresh : freshRunId ∉ drawn) :
    (matcher.emit manager identity selected spanMs nowMs freshRunId).1.Numbered
      (drawn ++ [freshRunId]) := by
  obtain ⟨frameSet, -, hnumber, hsame⟩ :=
    matcher.emit_recorded manager identity selected spanMs nowMs freshRunId
  have hcounted : Numbered
      { matcher with
        droppedSupersededCount :=
          matcher.droppedSupersededCount + (manager.consumeThrough selected).2 } drawn :=
    h.of_same rfl rfl rfl
  have hentered : (matcher.entered manager identity selected freshRunId).Numbered
      (drawn ++ [freshRunId]) :=
    hcounted.enterCapture identity hfresh
  exact (hentered.recordMatch hnumber).of_sameSets hsame

end SyncMatcher

/-! ## Every run of the service -/

/-- The run id that a call may draw. -/
def freshRunId? : ServiceOp → Option String
  | .handleFrame _ _ freshRunId => some freshRunId
  | _ => none

/-- The run ids that a run may draw, together with the first one. -/
def drawnRunIds (runId : String) (ops : List ServiceOp) : List String :=
  runId :: ops.filterMap freshRunId?

/-- What every run of the service keeps. -/
structure StreamSyncService.Addressed (service : StreamSyncService) (drawn : List String) :
    Prop where
  filed : service.bufferManager.Filed
  numbered : ∀ matcher, service.matcher = some matcher → matcher.Numbered drawn

namespace StreamSyncService.Addressed

variable {service : StreamSyncService} {drawn : List String}

theorem mono (h : service.Addressed drawn) {more : List String}
    (hsubset : ∀ runId ∈ drawn, runId ∈ more) : service.Addressed more :=
  ⟨h.filed, fun matcher hmatcher => (h.numbered matcher hmatcher).mono hsubset⟩

theorem handleFrame (h : service.Addressed drawn) (frame : SyncInputFrame) (nowMs : ℤ)
    {freshRunId : String} (hfresh : freshRunId ∉ drawn) :
    (service.handleFrame frame nowMs freshRunId).1.Addressed (drawn ++ [freshRunId]) := by
  have hmore := h.mono fun runId hrunId => List.mem_append_left [freshRunId] hrunId
  have houtcome := handleFrame_outcome service frame nowMs freshRunId
  generalize accepted? service (.handleFrame frame nowMs freshRunId) = stored at houtcome
  generalize service.handleFrame frame nowMs freshRunId = result at houtcome ⊢
  cases houtcome with
  | disabled => exact hmore
  | dropped matcher hmatcher hadmits manager hbuffers hindex =>
      refine ⟨fun key stored hstored => ?_, hmore.numbered⟩
      rw [hindex] at hstored
      exact h.filed key stored hstored
  | accepted matcher hmatcher hadmits result hresult =>
      refine ⟨fun key stored hstored => ?_, fun matcher' hmatcher' => ?_⟩
      · rw [hresult.framesByKey] at hstored
        exact h.filed.retain frame.stored key stored hstored
      · cases hmatcher'
        have hnumbered := h.numbered matcher hmatcher
        have hkept := hmore.numbered matcher hmatcher
        cases hresult with
        | ignored recorded answer hrecorded => exact hkept.of_sameSets hrecorded
        | missed recorded hrecorded =>
            exact (hkept.of_sameSets hrecorded).of_sameSets
              (recorded.sameSets_dropStaleFrames _)
        | emitted selected spanMs identity =>
            exact hnumbered.emit _ identity selected spanMs nowMs hfresh

theorem finalizeArchiveState (h : service.Addressed drawn) (frameSet : SynchronizedFrameSet)
    (state : ArchiveState) (error : Option String) :
    (service.finalizeArchiveState frameSet state error).1.Addressed drawn := by
  unfold StreamSyncService.finalizeArchiveState
  split
  · exact h
  · rename_i matcher hmatcher
    refine ⟨h.filed, fun matcher' hmatcher' => ?_⟩
    cases hmatcher'
    exact (h.numbered matcher hmatcher).recordArchive _ _

theorem finalizeFrameArchive (h : service.Addressed drawn) (frame : SyncInputFrame)
    (frameSet : Option SynchronizedFrameSet) (frameId : Option ℤ) (filePath : Option String)
    (archiveState : ArchiveState) (archiveError : Option String) :
    (service.finalizeFrameArchive frame frameSet frameId filePath archiveState
      archiveError).1.Addressed drawn := by
  have hfiled := h.filed.finalizeArchive (buildBufferKey frame) frameId filePath archiveState
    archiveError
  unfold StreamSyncService.finalizeFrameArchive
  dsimp only
  split
  · rename_i hnone
    exact ⟨hfiled, fun matcher hmatcher => h.numbered matcher hmatcher⟩
  · rename_i matcher hmatcher
    have hnumbered := h.numbered matcher hmatcher
    split
    · exact ⟨hfiled, fun matcher hmatcher => h.numbered matcher hmatcher⟩
    · rename_i stored hstored
      have hreplaced := hnumbered.replaceRecentFrameMember stored
      split
      · rename_i replaced updated hresult
        rw [hresult] at hreplaced
        refine ⟨hfiled, fun matcher' hmatcher' => ?_⟩
        cases hmatcher'
        exact hreplaced
      · refine ⟨hfiled, fun matcher' hmatcher' => ?_⟩
        cases hmatcher'
        exact hnumbered.recordArchive _ _
      · exact ⟨hfiled, fun matcher hmatcher => h.numbered matcher hmatcher⟩

end StreamSyncService.Addressed

theorem addressed_configuredService (expectedCameras : List String) (windowMs : ℤ)
    (bufferSize recentLimit : ℕ) (runId : String) :
    (configuredService expectedCameras windowMs bufferSize recentLimit runId).Addressed
      [runId] := by
  unfold configuredService StreamSyncService.configure
  dsimp only
  split
  · refine ⟨fun key frame hframe => ?_, fun matcher hmatcher => ?_⟩
    · cases hframe
    · cases hmatcher
      exact ⟨by simp, List.nodup_nil, fun number hnumber => absurd hnumber List.not_mem_nil⟩
  · refine ⟨fun key frame hframe => ?_, fun matcher hmatcher => ?_⟩
    · cases hframe
    · cases hmatcher

/-- As long as the run ids that are drawn are fresh, every indexed frame is filed under
its key and every recent set has a run and number of its own. -/
theorem addressed_after (expectedCameras : List String) (windowMs : ℤ)
    (bufferSize recentLimit : ℕ) (runId : String) {ops : List ServiceOp}
    (hfresh : (drawnRunIds runId ops).Nodup) :
    (Machine.after serviceStep
      (configuredService expectedCameras windowMs bufferSize recentLimit runId) ops).Addressed
        (drawnRunIds runId ops) := by
  induction ops using List.reverseRecOn with
  | nil => exact addressed_configuredService _ _ _ _ _
  | append_singleton ops op ih =>
      have hsplit : drawnRunIds runId (ops ++ [op]) =
          drawnRunIds runId ops ++ (freshRunId? op).toList := by
        cases op <;> simp [drawnRunIds, freshRunId?]
      rw [hsplit] at hfresh ⊢
      have hbefore := ih (List.Nodup.of_append_left hfresh)
      rw [Machine.after_snoc]
      cases op with
      | handleFrame frame nowMs freshRunId =>
          refine hbefore.handleFrame frame nowMs fun hmem => ?_
          exact (List.disjoint_of_nodup_append hfresh) hmem (by simp [freshRunId?])
      | finalizeFrameArchive frame frameSet frameId filePath archiveState archiveError =>
          simp only [freshRunId?, Option.toList_none, List.append_nil]
          exact hbefore.finalizeFrameArchive frame frameSet frameId filePath archiveState
            archiveError
      | finalizeArchiveState frameSet state error =>
          simp only [freshRunId?, Option.toList_none, List.append_nil]
          exact hbefore.finalizeArchiveState frameSet state error

/-! ## The set that has just been emitted -/

/-- A bounded list that is not empty ends with what has just been pushed. -/
theorem exists_pushBounded_eq {α : Type} {maxlen : ℕ} {items : List α} {item : α}
    (h : pushBounded maxlen items item ≠ []) :
    ∃ earlier, pushBounded maxlen items item = earlier ++ [item] := by
  have hpos : 0 < maxlen := by
    by_contra hzero
    obtain rfl : maxlen = 0 := by omega
    simp [pushBounded] at h
  refine ⟨items.drop (items.length + 1 - maxlen), ?_⟩
  exact List.drop_append_of_le_length (by omega)

/-- A set that an exchange has emitted stands last in the recent list, if that has room
for it. -/
theorem recentFrameSets_of_emitted {service : StreamSyncService} {op : ServiceOp}
    {frameSet : SynchronizedFrameSet}
    (hemitted : emitted? (Machine.exchange serviceStep service op) = some frameSet)
    (hrecent : (serviceStep service op).1.recentFrameSets ≠ []) :
    ∃ matcher earlier, (serviceStep service op).1.matcher = some matcher ∧
      matcher.recentFrameSets = earlier ++ [frameSet] := by
  cases op with
  | finalizeFrameArchive => cases hemitted
  | finalizeArchiveState => cases hemitted
  | handleFrame frame nowMs freshRunId =>
      have hanswer := answer_of_emitted hemitted
      change (service.handleFrame frame nowMs freshRunId).1.recentFrameSets ≠ [] at hrecent
      show ∃ matcher earlier,
        (service.handleFrame frame nowMs freshRunId).1.matcher = some matcher ∧
          matcher.recentFrameSets = earlier ++ [frameSet]
      have houtcome := handleFrame_outcome service frame nowMs freshRunId
      generalize accepted? service (.handleFrame frame nowMs freshRunId) = stored at houtcome
      generalize service.handleFrame frame nowMs freshRunId = result at houtcome hanswer hrecent ⊢
      cases houtcome with
      | disabled => cases hanswer
      | dropped => cases hanswer
      | accepted matcher hmatcher hadmits result hresult =>
          cases hresult with
          | ignored recorded answer hrecorded hnone => exact absurd hanswer (hnone frameSet)
          | missed recorded hrecorded => cases hanswer
          | emitted selected spanMs identity hselected hidentity =>
              obtain ⟨frameSet', hemit, -, hsame⟩ := matcher.emit_recorded
                (service.bufferManager.retain frame.stored) identity selected spanMs nowMs
                freshRunId
              rw [hemit] at hanswer
              cases hanswer
              have hpushed := hsame.recentFrameSets
              change (matcher.emit _ identity selected spanMs nowMs
                freshRunId).1.recentFrameSets ≠ [] at hrecent
              rw [hpushed] at hrecent
              obtain ⟨earlier, hearlier⟩ := exists_pushBounded_eq hrecent
              exact ⟨_, earlier, rfl, hpushed.trans hearlier⟩

/-- A V2 set has its uid, its digest and its manifest. -/
theorem SyncMatcher.digests_buildFrameSet (matcher : SyncMatcher) {identity : CaptureIdentity}
    (hmode : identity.identityMode = .v2) (selected : Dict String StoredSyncFrame)
    (spanMs synchronizedAtMs : ℤ) :
    let frameSet := matcher.buildFrameSet identity selected spanMs synchronizedAtMs
    truthy frameSet.frameSetUid ∧ truthy frameSet.manifestDigest ∧
      truthy frameSet.manifestJson := by
  have hjson : ∀ fields, canonicalJson (.obj fields) ≠ "" := by
    intro fields hempty
    have hlist := congrArg String.toList hempty
    simp [canonicalJson] at hlist
  dsimp only [buildFrameSet]
  rw [if_pos hmode, buildFrameSetUid_buildManifestDigest]
  simp only [Except.toOption, truthy, bne_iff_ne]
  exact ⟨Digest.Uuid.text_ne_empty _, buildManifestDigest_ne_empty _, hjson _⟩

theorem digests_of_emitted {service : StreamSyncService} {op : ServiceOp}
    {frameSet : SynchronizedFrameSet}
    (hemitted : emitted? (Machine.exchange serviceStep service op) = some frameSet)
    (hmode : frameSet.identityMode = .v2) :
    truthy frameSet.frameSetUid ∧ truthy frameSet.manifestDigest ∧
      truthy frameSet.manifestJson := by
  cases op with
  | finalizeFrameArchive => cases hemitted
  | finalizeArchiveState => cases hemitted
  | handleFrame frame nowMs freshRunId =>
      have hanswer := answer_of_emitted hemitted
      have houtcome := handleFrame_outcome service frame nowMs freshRunId
      generalize accepted? service (.handleFrame frame nowMs freshRunId) = stored at houtcome
      generalize service.handleFrame frame nowMs freshRunId = result at houtcome hanswer
      cases houtcome with
      | disabled => cases hanswer
      | dropped => cases hanswer
      | accepted matcher hmatcher hadmits result hresult =>
          cases hresult with
          | ignored recorded answer hrecorded hnone => exact absurd hanswer (hnone frameSet)
          | missed recorded hrecorded => cases hanswer
          | emitted selected spanMs identity hselected hidentity =>
              obtain ⟨entered, synchronizedAtMs, hemit⟩ := matcher.emit_built
                (service.bufferManager.retain frame.stored) identity selected spanMs nowMs
                freshRunId
              rw [hemit] at hanswer
              cases hanswer
              exact entered.digests_buildFrameSet hmode selected spanMs synchronizedAtMs

end ImageStream
