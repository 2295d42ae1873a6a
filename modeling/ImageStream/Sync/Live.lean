/-
# The live part of the synchronization service

Archive completions are written back into the buffers, the index and the recent sets: a row
id, a file path and an archive state into a frame, an archive state into a set. The rest of
the service is live. `live` blots out what the archive writes, and every operation commutes
with it: the live part of a service is the service that no completion tells anything.
-/

import ImageStream.Sync.FrameMaps
import ImageStream.Sync.Service

namespace ImageStream

open Base

/-! ## Frames and sets -/

/-- What the archive writes into a frame, blotted out. -/
def liveMap : FrameMap where
  toFun frame := frame.withArchive none none .pending none
  deviceId _ := rfl
  timestampMs _ := rfl
  sequence _ := rfl
  source _ := rfl
  identityMode _ := rfl
  bufferKey _ := rfl

/-- A set as it would be if its archive were still pending. -/
def SynchronizedFrameSet.live (frameSet : SynchronizedFrameSet) : SynchronizedFrameSet :=
  { frameSet with
    frames := frameSet.frames.mapValues liveMap.toFun
    archiveState := .pending
    archiveError := none }

/-- A matcher as it would be if all archives were still pending. -/
def SyncMatcher.live (matcher : SyncMatcher) : SyncMatcher :=
  { matcher with
    recentFrameSets := matcher.recentFrameSets.map SynchronizedFrameSet.live
    lastArchiveState := matcher.lastArchiveState.map fun _ => .pending
    lastArchiveError := none
    archiveDegradedCount := 0 }

/-- The service without what the archive has written into it. -/
def StreamSyncService.live (service : StreamSyncService) : StreamSyncService :=
  { service with
    bufferManager := service.bufferManager.mapFrames liveMap
    matcher := service.matcher.map SyncMatcher.live }

theorem members_live (frameSet : SynchronizedFrameSet) :
    frameSet.live.members = frameSet.members.map liveMap.toFun :=
  Dict.values_mapValues _ _

section Members

variable (frames : List StoredSyncFrame)

theorem archiveStateOf_live : archiveStateOf (frames.map liveMap.toFun) = .pending := by
  unfold archiveStateOf
  rw [if_neg]
  simp [liveMap, StoredSyncFrame.withArchive]

theorem archiveErrorOf_live : archiveErrorOf (frames.map liveMap.toFun) = none := by
  have hnone : (frames.map liveMap.toFun).filter
      (fun member => member.archiveState = .degradedLiveOnly) = [] := by
    simp [liveMap, StoredSyncFrame.withArchive]
  unfold archiveErrorOf
  rw [hnone]

/-- Sorting looks at live fields only. -/
theorem insertionSort_live (r : StoredSyncFrame → StoredSyncFrame → Prop) [DecidableRel r]
    (hr : ∀ first second, r (liveMap.toFun first) (liveMap.toFun second) ↔ r first second) :
    (frames.map liveMap.toFun).insertionSort r = (frames.insertionSort r).map liveMap.toFun := by
  symm
  apply List.map_insertionSort
  intro first _ second _
  exact (hr first second).symm

end Members

/-! ## The decisions of the matcher -/

theorem resolveAuthorization_live (frames : List StoredSyncFrame) :
    resolveAuthorization (frames.map liveMap.toFun) = resolveAuthorization frames := by
  have hcarries : (frames.map liveMap.toFun).filter StoredSyncFrame.carriesScope =
      (frames.filter StoredSyncFrame.carriesScope).map liveMap.toFun := by
    rw [List.filter_map]
    rfl
  unfold resolveAuthorization
  simp only [hcarries, List.map_map, List.all_map, List.any_map]
  rfl

theorem resolveCaptureIdentity_live (frames : List StoredSyncFrame) :
    resolveCaptureIdentity (frames.map liveMap.toFun) = resolveCaptureIdentity frames := by
  have hconfig : captureConfigKey (frames.map liveMap.toFun) = captureConfigKey frames := by
    unfold captureConfigKey
    rw [List.map_map]
    rfl
  unfold resolveCaptureIdentity
  rw [resolveAuthorization_live, hconfig, List.all_map, List.map_map]
  rfl

/-- The manifest says nothing about the archive. -/
theorem buildManifestPayload_live (identity : CaptureIdentity) (frames : List StoredSyncFrame)
    (syncWindowMs synchronizationSpanMs anchorTimestampMs : ℤ) :
    buildManifestPayload identity (frames.map liveMap.toFun) syncWindowMs synchronizationSpanMs
        anchorTimestampMs =
      buildManifestPayload identity frames syncWindowMs synchronizationSpanMs
        anchorTimestampMs := by
  have hearliest : earliestTimestampMs (frames.map liveMap.toFun) = earliestTimestampMs frames := by
    unfold earliestTimestampMs
    rw [List.map_map]
    rfl
  unfold buildManifestPayload
  rw [hearliest, insertionSort_live frames _ fun _ _ => Iff.rfl, List.map_map]
  rfl

theorem latestTimestampMs_live (frames : List StoredSyncFrame) :
    latestTimestampMs (frames.map liveMap.toFun) = latestTimestampMs frames := by
  unfold latestTimestampMs
  rw [List.map_map]
  rfl

namespace SyncMatcher

variable (matcher : SyncMatcher) (manager : SyncFrameBufferManager)

theorem selectMinSpanCandidate_live :
    matcher.live.selectMinSpanCandidate (manager.mapFrames liveMap) =
      ((matcher.selectMinSpanCandidate manager).1.map (Dict.mapValues liveMap.toFun),
        (matcher.selectMinSpanCandidate manager).2) :=
  matcher.selectMinSpanCandidate_mapFrames liveMap manager

theorem dropStaleFrames_live :
    matcher.live.dropStaleFrames (manager.mapFrames liveMap) =
      ((matcher.dropStaleFrames manager).1.live,
        (matcher.dropStaleFrames manager).2.mapFrames liveMap) := by
  have hcameras : matcher.live.expectedCameras = matcher.expectedCameras := rfl
  unfold dropStaleFrames
  dsimp only
  rw [hcameras, SyncFrameBufferManager.latestTimestamps_mapFrames,
    SyncFrameBufferManager.dropFramesOlderThan_mapFrames]
  split <;> rfl

theorem miss_live (triggerFrame : StoredSyncFrame) (reason : String) (missing : List String) :
    matcher.live.miss (manager.mapFrames liveMap) (liveMap.toFun triggerFrame) reason missing =
      ((matcher.miss manager triggerFrame reason missing).1.live,
        (matcher.miss manager triggerFrame reason missing).2.1.mapFrames liveMap,
        .ok none) := by
  have hrecord : matcher.live.recordMiss (liveMap.toFun triggerFrame) reason missing =
      (matcher.recordMiss triggerFrame reason missing).live := rfl
  unfold miss
  rw [hrecord, dropStaleFrames_live]

theorem enterCapture_live (identity : CaptureIdentity) (freshRunId : String) :
    matcher.live.enterCapture identity freshRunId =
      (matcher.enterCapture identity freshRunId).live := by
  have hchanges : matcher.live.changesCapture identity = matcher.changesCapture identity := rfl
  unfold enterCapture
  rw [hchanges]
  split <;> split <;> rfl

theorem buildFrameSet_live (identity : CaptureIdentity) (selected : Dict String StoredSyncFrame)
    (spanMs synchronizedAtMs : ℤ) :
    matcher.live.buildFrameSet identity (selected.mapValues liveMap.toFun) spanMs
        synchronizedAtMs =
      (matcher.buildFrameSet identity selected spanMs synchronizedAtMs).live := by
  unfold buildFrameSet SynchronizedFrameSet.live
  dsimp only
  rw [Dict.values_mapValues, buildManifestPayload_live, latestTimestampMs_live,
    archiveStateOf_live, archiveErrorOf_live, Dict.rows_mapValues, List.length_map]
  rfl

theorem recordMatch_live (frameSet : SynchronizedFrameSet) :
    matcher.live.recordMatch frameSet.live = (matcher.recordMatch frameSet).live := by
  unfold recordMatch live
  dsimp only
  rw [CameraSyncBuffer.pushBounded_map]
  rfl

theorem emit_live (identity : CaptureIdentity) (selected : Dict String StoredSyncFrame)
    (spanMs nowMs : ℤ) (freshRunId : String) :
    matcher.live.emit (manager.mapFrames liveMap) identity (selected.mapValues liveMap.toFun)
        spanMs nowMs freshRunId =
      ((matcher.emit manager identity selected spanMs nowMs freshRunId).1.live,
        (matcher.emit manager identity selected spanMs nowMs freshRunId).2.1.mapFrames liveMap,
        (matcher.emit manager identity selected spanMs nowMs freshRunId).2.2.map
          (Option.map SynchronizedFrameSet.live)) := by
  have hcounted : ∀ superseded : ℕ,
      { matcher.live with
        droppedSupersededCount := matcher.live.droppedSupersededCount + superseded } =
        live { matcher with
          droppedSupersededCount := matcher.droppedSupersededCount + superseded } :=
    fun _ => rfl
  have hlast : matcher.live.lastSynchronizedAtMs = matcher.lastSynchronizedAtMs := rfl
  unfold emit
  dsimp only
  rw [SyncFrameBufferManager.consumeThrough_mapFrames, hcounted, hlast, enterCapture_live,
    buildFrameSet_live, recordMatch_live, dropStaleFrames_live]
  rfl

theorem tryMatch_live (triggerFrame : StoredSyncFrame) (nowMs : ℤ) (freshRunId : String) :
    matcher.live.tryMatch (manager.mapFrames liveMap) (liveMap.toFun triggerFrame) nowMs
        freshRunId =
      ((matcher.tryMatch manager triggerFrame nowMs freshRunId).1.live,
        (matcher.tryMatch manager triggerFrame nowMs freshRunId).2.1.mapFrames liveMap,
        (matcher.tryMatch manager triggerFrame nowMs freshRunId).2.2.map
          (Option.map SynchronizedFrameSet.live)) := by
  have hcameras : matcher.live.expectedCameras = matcher.expectedCameras := rfl
  have hmiss := matcher.miss_live manager triggerFrame
  unfold tryMatch
  rw [hcameras, liveMap.deviceId, selectMinSpanCandidate_live]
  split
  · rfl
  · split
    · rfl
    · obtain ⟨selected, spanMs, missing⟩ := matcher.selectMinSpanCandidate manager
      dsimp only
      cases missing with
      | cons camera missing => exact hmiss _ _
      | nil =>
          cases selected with
          | none => cases spanMs <;> exact hmiss _ _
          | some selected =>
              cases spanMs with
              | none => exact hmiss _ _
              | some spanMs =>
                  dsimp only [Option.map_some]
                  rw [Dict.values_mapValues, resolveCaptureIdentity_live]
                  cases resolveCaptureIdentity selected.values with
                  | ok identity =>
                      exact matcher.emit_live manager identity selected spanMs nowMs freshRunId
                  | error conflict =>
                      cases conflict with
                      | frameScopeConflict reason => exact hmiss _ _
                      | valueError reason => rfl

end SyncMatcher

/-! ## Archive completion -/

namespace SyncFrameBufferManager

variable (manager : SyncFrameBufferManager)

theorem finalizeArchive_live (frameKey : String) (frameId : Option ℤ) (filePath : Option String)
    (archiveState : ArchiveState) (archiveError : Option String) :
    (manager.mapFrames liveMap).finalizeArchive frameKey none none .pending none =
      ((manager.finalizeArchive frameKey frameId filePath archiveState
          archiveError).1.mapFrames liveMap,
        (manager.finalizeArchive frameKey frameId filePath archiveState archiveError).2.map
          liveMap.toFun) := by
  have hindex : (manager.mapFrames liveMap).framesByKey.get? frameKey =
      (manager.framesByKey.get? frameKey).map liveMap.toFun := Dict.get?_mapValues _ _ _
  unfold finalizeArchive
  rw [hindex]
  cases manager.framesByKey.get? frameKey with
  | none => rfl
  | some stored =>
      let replaced : CameraSyncBuffer → CameraSyncBuffer := fun buffer =>
        { buffer with frames := buffer.frames.map fun item =>
          if item.bufferKey = frameKey then liveMap.toFun stored else item }
      dsimp only [Option.map_some, mapFrames]
      rw [Dict.mapValues_set, Dict.mapValues_modify _ replaced]
      · rfl
      · intro buffer
        unfold CameraSyncBuffer.mapFrames
        dsimp only [replaced]
        rw [List.map_map, List.map_map]
        congr 1
        apply List.map_congr_left
        intro item _
        dsimp only [Function.comp_apply]
        rw [liveMap.bufferKey]
        split <;> rfl

end SyncFrameBufferManager

namespace SynchronizedFrameSet

variable (frameSet : SynchronizedFrameSet)

theorem entryOf_live (bufferKey : String) :
    frameSet.live.entryOf bufferKey =
      (frameSet.entryOf bufferKey).map fun entry => (entry.1, liveMap.toFun entry.2) := by
  unfold entryOf live
  rw [Dict.rows_mapValues, List.find?_map]
  rfl

theorem withMember_live (frame : StoredSyncFrame) :
    frameSet.live.withMember (liveMap.toFun frame) = (frameSet.withMember frame).live := by
  unfold withMember
  rw [liveMap.bufferKey, entryOf_live]
  unfold live
  cases frameSet.entryOf frame.bufferKey with
  | none =>
      dsimp only [Option.map_none]
      rw [Dict.values_mapValues, archiveStateOf_live, archiveErrorOf_live]
  | some entry =>
      dsimp only [Option.map_some]
      rw [← Dict.mapValues_set, Dict.values_mapValues, archiveStateOf_live, archiveErrorOf_live]

/-- Whether a set has a member with a key is live. -/
theorem any_bufferKey_live (bufferKey : String) :
    (frameSet.live.members.any fun member => member.bufferKey = bufferKey) =
      frameSet.members.any fun member => member.bufferKey = bufferKey := by
  rw [members_live, List.any_map]
  rfl

end SynchronizedFrameSet

namespace SyncMatcher

variable (matcher : SyncMatcher)

theorem replaceRecentFrameSet_live (updated : SynchronizedFrameSet) :
    matcher.live.replaceRecentFrameSet updated.live =
      (matcher.replaceRecentFrameSet updated).live := by
  unfold replaceRecentFrameSet live
  dsimp only
  rw [List.map_map, List.map_map]
  congr 1
  apply List.map_congr_left
  intro item _
  exact (apply_ite SynchronizedFrameSet.live
    (item.captureRunId = updated.captureRunId ∧ item.frameSetId = updated.frameSetId) _ _).symm

theorem recordArchive_live (frameSet updated : SynchronizedFrameSet) :
    matcher.live.recordArchive frameSet.live updated.live =
      (matcher.recordArchive frameSet updated).live := by
  unfold recordArchive
  dsimp only
  rw [← replaceRecentFrameSet_live]
  rfl

theorem finalizeArchiveState_live (frameSet : SynchronizedFrameSet) (state : ArchiveState)
    (error : Option String) :
    matcher.live.finalizeArchiveState frameSet.live .pending none =
      ((matcher.finalizeArchiveState frameSet state error).1.live,
        (matcher.finalizeArchiveState frameSet state error).2.live) := by
  unfold finalizeArchiveState
  dsimp only
  rw [← recordArchive_live]
  rfl

theorem replaceFrameMember_live (frameSet : SynchronizedFrameSet) (frame : StoredSyncFrame) :
    matcher.live.replaceFrameMember frameSet.live (liveMap.toFun frame) =
      ((matcher.replaceFrameMember frameSet frame).1.live,
        (matcher.replaceFrameMember frameSet frame).2.live) := by
  unfold replaceFrameMember
  dsimp only
  rw [frameSet.withMember_live, recordArchive_live]

theorem recentSetOf_live (bufferKey : String) :
    matcher.live.recentSetOf bufferKey =
      (matcher.recentSetOf bufferKey).map SynchronizedFrameSet.live := by
  unfold recentSetOf live
  dsimp only
  rw [← List.map_reverse, List.find?_map]
  simp only [Function.comp_def, SynchronizedFrameSet.any_bufferKey_live]

theorem replaceRecentFrameMember_live (frame : StoredSyncFrame) :
    matcher.live.replaceRecentFrameMember (liveMap.toFun frame) =
      ((matcher.replaceRecentFrameMember frame).1.live,
        (matcher.replaceRecentFrameMember frame).2.map SynchronizedFrameSet.live) := by
  unfold replaceRecentFrameMember
  rw [liveMap.bufferKey, recentSetOf_live]
  cases matcher.recentSetOf frame.bufferKey with
  | none => rfl
  | some frameSet =>
      dsimp only [Option.map_some]
      rw [replaceFrameMember_live]

end SyncMatcher

/-! ## The service -/

namespace StreamSyncService

variable (service : StreamSyncService) (frame : SyncInputFrame)

/-- A frame of which the archive has said nothing yet is taken alike. -/
theorem handleFrame_live (hframe : liveMap.toFun frame.stored = frame.stored) (nowMs : ℤ)
    (freshRunId : String) :
    service.live.handleFrame frame nowMs freshRunId =
      ((service.handleFrame frame nowMs freshRunId).1.live,
        (service.handleFrame frame nowMs freshRunId).2.map
          (Option.map SynchronizedFrameSet.live)) := by
  obtain ⟨enabled, cameras, windowMs, manager, matcher⟩ := service
  have hadd : (manager.mapFrames liveMap).addFrame frame =
      ((manager.addFrame frame).1.mapFrames liveMap,
        (manager.addFrame frame).2.map liveMap.toFun) := by
    rw [SyncFrameBufferManager.addFrame_eq_addStored, SyncFrameBufferManager.addFrame_eq_addStored,
      ← SyncFrameBufferManager.addStored_mapFrames, hframe]
  unfold handleFrame live
  dsimp only
  cases enabled with
  | false => rfl
  | true =>
      cases matcher with
      | none => rfl
      | some matcher =>
          dsimp only [Option.map_some]
          rw [hadd]
          obtain ⟨kept, stored⟩ := manager.addFrame frame
          cases stored with
          | none => rfl
          | some stored =>
              dsimp only [Option.map_some]
              rw [matcher.tryMatch_live]

theorem finalizeArchiveState_live (frameSet : SynchronizedFrameSet) (state : ArchiveState)
    (error : Option String) :
    service.live.finalizeArchiveState frameSet.live .pending none =
      ((service.finalizeArchiveState frameSet state error).1.live,
        (service.finalizeArchiveState frameSet state error).2.live) := by
  obtain ⟨enabled, cameras, windowMs, manager, matcher⟩ := service
  unfold finalizeArchiveState live
  cases matcher with
  | none => rfl
  | some matcher =>
      dsimp only [Option.map_some]
      rw [matcher.finalizeArchiveState_live frameSet state error]

theorem retainedMember_live (matcher : SyncMatcher) (frameSet : Option SynchronizedFrameSet)
    (bufferKey : String) :
    retainedMember matcher.live (frameSet.map SynchronizedFrameSet.live) bufferKey =
      (retainedMember matcher frameSet bufferKey).map liveMap.toFun := by
  have hsets : matcher.live.recentFrameSets ++
        (frameSet.map SynchronizedFrameSet.live).toList =
      (matcher.recentFrameSets ++ frameSet.toList).map SynchronizedFrameSet.live := by
    rw [List.map_append]
    cases frameSet <;> rfl
  unfold retainedMember
  rw [hsets, List.flatMap_map]
  simp only [members_live]
  rw [← List.map_flatMap, List.find?_map]
  rfl

/-- Whatever a completion reports, the live part only finds the frame again. -/
theorem finalizeFrameArchive_live (frameSet : Option SynchronizedFrameSet) (frameId : Option ℤ)
    (filePath : Option String) (archiveState : ArchiveState) (archiveError : Option String) :
    service.live.finalizeFrameArchive frame (frameSet.map SynchronizedFrameSet.live) none
        none .pending none =
      ((service.finalizeFrameArchive frame frameSet frameId filePath archiveState
          archiveError).1.live,
        (service.finalizeFrameArchive frame frameSet frameId filePath archiveState
          archiveError).2.map SynchronizedFrameSet.live) := by
  obtain ⟨enabled, cameras, windowMs, manager, matcher⟩ := service
  unfold finalizeFrameArchive live
  dsimp only
  rw [manager.finalizeArchive_live _ frameId filePath archiveState archiveError]
  obtain ⟨finalized, indexed⟩ := manager.finalizeArchive (buildBufferKey frame) frameId filePath
    archiveState archiveError
  cases matcher with
  | none => rfl
  | some matcher =>
      dsimp only [Option.map_some]
      rw [retainedMember_live]
      have hstored : ((indexed.map liveMap.toFun).orElse fun _ =>
          ((retainedMember matcher frameSet (buildBufferKey frame)).map liveMap.toFun).map
            fun member => member.withArchive none none .pending none) =
          (indexed.orElse fun _ =>
            (retainedMember matcher frameSet (buildBufferKey frame)).map fun member =>
              member.withArchive frameId filePath archiveState archiveError).map
            liveMap.toFun := by
        cases indexed with
        | some stored => rfl
        | none =>
            cases retainedMember matcher frameSet (buildBufferKey frame) <;> rfl
      rw [hstored]
      cases indexed.orElse fun _ =>
        (retainedMember matcher frameSet (buildBufferKey frame)).map fun member =>
          member.withArchive frameId filePath archiveState archiveError with
      | none => rfl
      | some stored =>
          dsimp only [Option.map_some]
          rw [matcher.replaceRecentFrameMember_live]
          obtain ⟨replaced, updated⟩ := matcher.replaceRecentFrameMember stored
          cases updated with
          | some updated => rfl
          | none =>
              cases frameSet with
              | none => rfl
              | some frameSet =>
                  dsimp only [Option.map_some, Option.map_none]
                  rw [matcher.replaceFrameMember_live]

end StreamSyncService

end ImageStream
