/-
# Rewriting buffered frames

The buffers and the sweep read the device, the source, the time, the sequence number, the
mode and the key of a frame, and nothing else. A rewriting of frames that keeps these is a
`FrameMap`, and it commutes with every operation of the buffers and with the sweep. Two
runs whose frames differ in other fields are compared through the map that blots these
fields out.
-/

import ImageStream.Sync.Matcher

namespace ImageStream

open Base

/-- A rewriting of frames that keeps what the buffers and the sweep read. -/
structure FrameMap where
  toFun : StoredSyncFrame → StoredSyncFrame
  deviceId : ∀ frame, (toFun frame).deviceId = frame.deviceId
  timestampMs : ∀ frame, (toFun frame).timestampMs = frame.timestampMs
  sequence : ∀ frame, (toFun frame).sequence = frame.sequence
  source : ∀ frame, (toFun frame).source = frame.source
  identityMode : ∀ frame, (toFun frame).identityMode = frame.identityMode
  bufferKey : ∀ frame, (toFun frame).bufferKey = frame.bufferKey

attribute [simp] FrameMap.deviceId FrameMap.timestampMs FrameMap.sequence FrameMap.source
  FrameMap.identityMode FrameMap.bufferKey

variable (φ : FrameMap)

/-! ## One camera -/

namespace CameraSyncBuffer

/-- A buffer with its frames rewritten. -/
def mapFrames (buffer : CameraSyncBuffer) : CameraSyncBuffer :=
  { buffer with frames := buffer.frames.map φ.toFun }

theorem isOutOfOrder_mapFrames (buffer : CameraSyncBuffer) (frame : StoredSyncFrame) :
    (buffer.mapFrames φ).isOutOfOrder (φ.toFun frame) = buffer.isOutOfOrder frame := by
  unfold isOutOfOrder
  simp only [FrameMap.identityMode, FrameMap.source, FrameMap.sequence, FrameMap.timestampMs]
  rfl

theorem follow_mapFrames (buffer : CameraSyncBuffer) (source : SourceIdentity) :
    (buffer.mapFrames φ).follow source = (buffer.follow source).mapFrames φ := by
  unfold follow
  have hsource : (buffer.mapFrames φ).sourceIdentity = buffer.sourceIdentity := rfl
  rw [hsource]
  split <;> rfl

theorem pushBounded_map {α β : Type} (f : α → β) (maxlen : ℕ) (items : List α) (item : α) :
    pushBounded maxlen (items.map f) (f item) = (pushBounded maxlen items item).map f := by
  simp [pushBounded, List.map_drop]

theorem append_mapFrames (buffer : CameraSyncBuffer) (frame : StoredSyncFrame) :
    (buffer.mapFrames φ).append (φ.toFun frame) = (buffer.append frame).mapFrames φ := by
  have hgap : ∀ following : CameraSyncBuffer,
      (following.mapFrames φ).gap (φ.toFun frame) = following.gap frame := by
    intro following
    unfold gap
    rw [FrameMap.sequence]
    rfl
  unfold append
  simp only [FrameMap.source, FrameMap.sequence, FrameMap.timestampMs, follow_mapFrames, hgap]
  unfold mapFrames
  simp only [pushBounded_map]

theorem candidateLe_map (first second : StoredSyncFrame) :
    candidateLe (φ.toFun first) (φ.toFun second) = candidateLe first second := by
  simp [candidateLe]

theorem availableFrames_mapFrames (buffer : CameraSyncBuffer) (excludeFrameKeys : List String) :
    (buffer.mapFrames φ).availableFrames excludeFrameKeys =
      (buffer.availableFrames excludeFrameKeys).map φ.toFun := by
  have hsort : ∀ frames : List StoredSyncFrame,
      (frames.map φ.toFun).insertionSort (fun first second => candidateLe first second) =
        (frames.insertionSort fun first second => candidateLe first second).map φ.toFun := by
    intro frames
    symm
    apply List.map_insertionSort
    intro first _ second _
    rw [candidateLe_map]
  unfold availableFrames mapFrames
  rw [← hsort, List.filter_map]
  simp [Function.comp_def]

theorem dropFramesOlderThan_mapFrames (buffer : CameraSyncBuffer) (timestampMs : ℤ)
    (counted : List String) :
    (buffer.mapFrames φ).dropFramesOlderThan timestampMs counted =
      ((buffer.dropFramesOlderThan timestampMs counted).1.mapFrames φ,
        (buffer.dropFramesOlderThan timestampMs counted).2) := by
  simp [dropFramesOlderThan, mapFrames, List.filter_map, Function.comp_def]

theorem consumeThrough_mapFrames (buffer : CameraSyncBuffer) (chosen : StoredSyncFrame) :
    (buffer.mapFrames φ).consumeThrough (φ.toFun chosen) =
      ((buffer.consumeThrough chosen).1.mapFrames φ, (buffer.consumeThrough chosen).2) := by
  simp [consumeThrough, mapFrames, List.filter_map, Function.comp_def]

end CameraSyncBuffer

/-! ## All cameras -/

namespace SyncFrameBufferManager

/-- A manager with all its frames rewritten. -/
def mapFrames (manager : SyncFrameBufferManager) : SyncFrameBufferManager :=
  { manager with
    buffers := manager.buffers.mapValues (CameraSyncBuffer.mapFrames φ)
    framesByKey := manager.framesByKey.mapValues φ.toFun }

@[simp]
theorem get?_buffers_mapFrames (manager : SyncFrameBufferManager) (deviceId : String) :
    (manager.mapFrames φ).buffers.get? deviceId =
      (manager.buffers.get? deviceId).map (CameraSyncBuffer.mapFrames φ) :=
  Dict.get?_mapValues _ _ _

theorem bufferOf_mapFrames (manager : SyncFrameBufferManager) (deviceId : String) :
    (manager.mapFrames φ).bufferOf deviceId = (manager.bufferOf deviceId).mapFrames φ := by
  unfold bufferOf
  rw [get?_buffers_mapFrames]
  cases manager.buffers.get? deviceId <;> rfl

theorem evictKeys_mapValues (size : ℕ) (framesByKey : Dict String StoredSyncFrame)
    (retainedKeys : List String) :
    evictKeys size (framesByKey.mapValues φ.toFun) retainedKeys =
      ((evictKeys size framesByKey retainedKeys).1.mapValues φ.toFun,
        (evictKeys size framesByKey retainedKeys).2) := by
  have hpops : ∀ keys : List String,
      keys.foldl (fun index key => index.pop key) (framesByKey.mapValues φ.toFun) =
        (keys.foldl (fun index key => index.pop key) framesByKey).mapValues φ.toFun := by
    intro keys
    apply List.foldl_hom (Dict.mapValues φ.toFun)
    intro index key
    exact (index.mapValues_pop φ.toFun key).symm
  unfold evictKeys
  dsimp only
  rw [hpops]

theorem retain_mapFrames (manager : SyncFrameBufferManager) (stored : StoredSyncFrame) :
    (manager.mapFrames φ).retain (φ.toFun stored) = (manager.retain stored).mapFrames φ := by
  have hset : (manager.mapFrames φ).framesByKey.set stored.bufferKey (φ.toFun stored) =
      (manager.framesByKey.set stored.bufferKey stored).mapValues φ.toFun :=
    (manager.framesByKey.mapValues_set φ.toFun stored.bufferKey stored).symm
  have hlength : ((manager.bufferOf stored.deviceId).mapFrames φ).frames.length =
      (manager.bufferOf stored.deviceId).frames.length := List.length_map _
  unfold retain
  rw [φ.deviceId, φ.bufferKey, bufferOf_mapFrames]
  dsimp only
  rw [CameraSyncBuffer.append_mapFrames, hset, hlength, evictKeys_mapValues]
  unfold mapFrames
  dsimp only
  rw [Dict.mapValues_set]
  rfl

/-- Taking a frame in its stored form. -/
def addStored (manager : SyncFrameBufferManager) (stored : StoredSyncFrame) :
    SyncFrameBufferManager × Option StoredSyncFrame :=
  if manager.framesByKey.get? stored.bufferKey ≠ none then
    ({ manager with duplicateFrameCount := manager.duplicateFrameCount + 1 }, none)
  else if (manager.bufferOf stored.deviceId).isOutOfOrder stored then
    ({ manager with outOfOrderFrameCount := manager.outOfOrderFrameCount + 1 }, none)
  else
    (manager.retain stored, some stored)

theorem addFrame_eq_addStored (manager : SyncFrameBufferManager) (frame : SyncInputFrame) :
    manager.addFrame frame = manager.addStored frame.stored := rfl

theorem addStored_mapFrames (manager : SyncFrameBufferManager) (stored : StoredSyncFrame) :
    (manager.mapFrames φ).addStored (φ.toFun stored) =
      ((manager.addStored stored).1.mapFrames φ, (manager.addStored stored).2.map φ.toFun) := by
  have hindex : (manager.mapFrames φ).framesByKey.get? stored.bufferKey = none ↔
      manager.framesByKey.get? stored.bufferKey = none := by
    simp [mapFrames]
  unfold addStored
  rw [φ.bufferKey, φ.deviceId, bufferOf_mapFrames, CameraSyncBuffer.isOutOfOrder_mapFrames,
    retain_mapFrames]
  by_cases hkey : manager.framesByKey.get? stored.bufferKey = none
  · rw [if_neg (not_not.mpr (hindex.mpr hkey)), if_neg (not_not.mpr hkey)]
    split <;> rfl
  · rw [if_pos (mt hindex.mp hkey), if_pos hkey]
    rfl

/-- Managers that agree up to a rewriting take frames that agree up to it alike. -/
theorem addFrame_congr {first second : SyncFrameBufferManager}
    (hsame : second.mapFrames φ = first.mapFrames φ) {frame frame' : SyncInputFrame}
    (hframe : φ.toFun frame'.stored = φ.toFun frame.stored) :
    (second.addFrame frame').1.mapFrames φ = (first.addFrame frame).1.mapFrames φ ∧
      (second.addFrame frame').2.map φ.toFun = (first.addFrame frame).2.map φ.toFun := by
  rw [addFrame_eq_addStored, addFrame_eq_addStored, ← Prod.mk.injEq, ← addStored_mapFrames,
    ← addStored_mapFrames, hsame, hframe]

theorem availableFrames_mapFrames (manager : SyncFrameBufferManager) (deviceId : String)
    (excludeFrameKeys : List String) :
    (manager.mapFrames φ).availableFrames deviceId excludeFrameKeys =
      (manager.availableFrames deviceId excludeFrameKeys).map φ.toFun := by
  unfold availableFrames
  rw [get?_buffers_mapFrames]
  cases manager.buffers.get? deviceId with
  | none => rfl
  | some buffer => exact buffer.availableFrames_mapFrames φ excludeFrameKeys

theorem latestTimestamps_mapFrames (manager : SyncFrameBufferManager) (deviceIds : List String) :
    (manager.mapFrames φ).latestTimestamps deviceIds = manager.latestTimestamps deviceIds := by
  unfold latestTimestamps
  congr 1
  funext latest deviceId
  rw [get?_buffers_mapFrames]
  cases manager.buffers.get? deviceId <;> rfl

/-- Setting a mapped buffer is mapping the manager after the buffer is set. -/
theorem set_mapFrames (manager : SyncFrameBufferManager) (deviceId : String)
    (buffer : CameraSyncBuffer) :
    { manager.mapFrames φ with
        buffers := (manager.mapFrames φ).buffers.set deviceId (buffer.mapFrames φ) } =
      mapFrames φ { manager with buffers := manager.buffers.set deviceId buffer } := by
  unfold mapFrames
  dsimp only
  rw [Dict.mapValues_set]

theorem dropCamera_mapFrames (timestampMs : ℤ) (counted : List String)
    (state : SyncFrameBufferManager × ℕ) (deviceId : String) :
    dropCamera timestampMs counted (state.1.mapFrames φ, state.2) deviceId =
      ((dropCamera timestampMs counted state deviceId).1.mapFrames φ,
        (dropCamera timestampMs counted state deviceId).2) := by
  unfold dropCamera
  dsimp only
  rw [get?_buffers_mapFrames]
  cases state.1.buffers.get? deviceId with
  | none => rfl
  | some buffer =>
      dsimp only [Option.map_some]
      rw [CameraSyncBuffer.dropFramesOlderThan_mapFrames]
      dsimp only
      rw [set_mapFrames]

theorem dropFramesOlderThan_mapFrames (manager : SyncFrameBufferManager)
    (deviceIds : List String) (timestampMs : ℤ) (counted : List String) :
    (manager.mapFrames φ).dropFramesOlderThan deviceIds timestampMs counted =
      ((manager.dropFramesOlderThan deviceIds timestampMs counted).1.mapFrames φ,
        (manager.dropFramesOlderThan deviceIds timestampMs counted).2) := by
  unfold dropFramesOlderThan
  exact @List.foldl_hom _ _ _
    (fun state : SyncFrameBufferManager × ℕ => (state.1.mapFrames φ, state.2)) _ _ deviceIds
    (manager, 0) (dropCamera_mapFrames φ timestampMs counted)

theorem consumeCamera_mapFrames (state : SyncFrameBufferManager × ℕ)
    (chosen : String × StoredSyncFrame) :
    consumeCamera (state.1.mapFrames φ, state.2) (chosen.1, φ.toFun chosen.2) =
      ((consumeCamera state chosen).1.mapFrames φ, (consumeCamera state chosen).2) := by
  unfold consumeCamera
  dsimp only
  rw [get?_buffers_mapFrames]
  cases state.1.buffers.get? chosen.1 with
  | none => rfl
  | some buffer =>
      dsimp only [Option.map_some]
      rw [CameraSyncBuffer.consumeThrough_mapFrames]
      dsimp only
      rw [set_mapFrames]

theorem consumeThrough_mapFrames (manager : SyncFrameBufferManager)
    (selected : Dict String StoredSyncFrame) :
    (manager.mapFrames φ).consumeThrough (selected.mapValues φ.toFun) =
      ((manager.consumeThrough selected).1.mapFrames φ,
        (manager.consumeThrough selected).2) := by
  unfold consumeThrough
  rw [Dict.rows_mapValues, List.foldl_map]
  exact @List.foldl_hom _ _ _
    (fun state : SyncFrameBufferManager × ℕ => (state.1.mapFrames φ, state.2)) _ _ selected.rows
    (manager, 0) (consumeCamera_mapFrames φ)

end SyncFrameBufferManager

/-! ## The sweep -/

/-- A heap entry with its frame rewritten. -/
def HeapEntry.mapFrames (entry : HeapEntry) : HeapEntry :=
  { entry with frame := φ.toFun entry.frame }

theorem heappush_mapFrames (heap : List HeapEntry) (entry : HeapEntry) :
    heappush (heap.map (HeapEntry.mapFrames φ)) (entry.mapFrames φ) =
      (heappush heap entry).map (HeapEntry.mapFrames φ) := by
  symm
  apply List.map_orderedInsert
  · intro _ _
    exact Iff.rfl
  · intro _ _
    exact Iff.rfl

namespace SweepState

/-- A state of the sweep with its frames rewritten. -/
def mapFrames (state : SweepState) : SweepState where
  heap := state.heap.map (HeapEntry.mapFrames φ)
  currentFrames := state.currentFrames.mapValues φ.toFun
  currentMaxTimestampMs := state.currentMaxTimestampMs
  best := state.best.map fun best => (best.1.mapValues φ.toFun, best.2)

theorem enter_mapFrames (state : SweepState) (deviceId : String) (frame : StoredSyncFrame) :
    (state.mapFrames φ).enter deviceId (φ.toFun frame) =
      (state.enter deviceId frame).mapFrames φ := by
  unfold enter mapFrames
  dsimp only
  rw [φ.timestampMs, φ.bufferKey, Dict.mapValues_set, ← heappush_mapFrames]
  rfl

theorem advance_mapFrames (state : SweepState) (heap : List HeapEntry) (currentMax : ℤ)
    (deviceId : String) (nextIndex : ℕ) (next : StoredSyncFrame) :
    (state.mapFrames φ).advance (heap.map (HeapEntry.mapFrames φ)) currentMax deviceId nextIndex
        (φ.toFun next) =
      (state.advance heap currentMax deviceId nextIndex next).mapFrames φ := by
  unfold advance mapFrames
  dsimp only
  rw [φ.timestampMs, φ.bufferKey, Dict.mapValues_set, ← heappush_mapFrames]
  rfl

theorem improvedBy_mapFrames (state : SweepState) (spanMs : ℤ) :
    (state.mapFrames φ).improvedBy spanMs = state.improvedBy spanMs := by
  unfold improvedBy mapFrames
  cases state.best <;> rfl

theorem remember_mapFrames (state : SweepState) (spanMs : ℤ) :
    (state.mapFrames φ).remember spanMs = (state.remember spanMs).mapFrames φ := by
  unfold remember
  rw [improvedBy_mapFrames]
  split <;> rfl

theorem enterFirst_mapFrames (state : SweepState) (entry : String × List StoredSyncFrame) :
    (state.mapFrames φ).enterFirst (entry.1, entry.2.map φ.toFun) =
      (state.enterFirst entry).mapFrames φ := by
  unfold enterFirst
  cases entry.2 with
  | nil => rfl
  | cons frame frames => exact state.enter_mapFrames φ entry.1 frame

end SweepState

theorem sweepStart_mapFrames (lists : Dict String (List StoredSyncFrame)) :
    sweepStart (lists.mapValues (List.map φ.toFun)) = (sweepStart lists).mapFrames φ := by
  unfold sweepStart
  rw [Dict.rows_mapValues, List.foldl_map]
  exact @List.foldl_hom _ _ _ (SweepState.mapFrames φ) _ _ lists.rows {}
    (SweepState.enterFirst_mapFrames φ)

theorem sweep_mapFrames (lists : Dict String (List StoredSyncFrame)) (fuel : ℕ)
    (state : SweepState) :
    sweep (lists.mapValues (List.map φ.toFun)) fuel (state.mapFrames φ) =
      (sweep lists fuel state).mapFrames φ := by
  induction fuel generalizing state with
  | zero => rfl
  | succ fuel ih =>
      have hheap : (state.mapFrames φ).heap = state.heap.map (HeapEntry.mapFrames φ) := rfl
      have hmax : (state.mapFrames φ).currentMaxTimestampMs = state.currentMaxTimestampMs := rfl
      unfold sweep
      rw [hheap, hmax]
      cases state.heap with
      | nil => rfl
      | cons entry heap =>
          cases state.currentMaxTimestampMs with
          | none => rfl
          | some currentMax =>
              have hnext : (((lists.mapValues (List.map φ.toFun)).get? entry.deviceId).getD
                  [])[entry.index + 1]? =
                  (((lists.get? entry.deviceId).getD [])[entry.index + 1]?).map φ.toFun := by
                rw [Dict.get?_mapValues]
                cases lists.get? entry.deviceId <;> simp
              rw [List.map_cons]
              dsimp only [HeapEntry.mapFrames]
              rw [SweepState.improvedBy_mapFrames, SweepState.remember_mapFrames, hnext]
              split
              · rfl
              · cases ((lists.get? entry.deviceId).getD [])[entry.index + 1]? with
                | none => rfl
                | some next =>
                    dsimp only [Option.map_some]
                    rw [SweepState.advance_mapFrames]
                    exact ih _

theorem candidateCount_mapFrames (lists : Dict String (List StoredSyncFrame)) :
    candidateCount (lists.mapValues (List.map φ.toFun)) = candidateCount lists := by
  unfold candidateCount
  rw [Dict.values_mapValues, List.map_map]
  congr 1
  apply List.map_congr_left
  intro frames _
  exact List.length_map _

theorem candidateLists_mapFrames (expectedCameras : List String)
    (manager : SyncFrameBufferManager) :
    candidateLists expectedCameras (manager.mapFrames φ) =
      (candidateLists expectedCameras manager).mapValues (List.map φ.toFun) := by
  unfold candidateLists
  rw [← Dict.mapValues_empty (List.map φ.toFun)]
  apply List.foldl_hom (f := Dict.mapValues (List.map φ.toFun))
  intro lists deviceId
  simp only [SyncFrameBufferManager.availableFrames_mapFrames, List.map_eq_nil_iff]
  split
  · rfl
  · rw [Dict.mapValues_set]

theorem missingCameras_mapFrames (expectedCameras : List String)
    (manager : SyncFrameBufferManager) :
    missingCameras expectedCameras (manager.mapFrames φ) =
      missingCameras expectedCameras manager := by
  unfold missingCameras
  simp only [SyncFrameBufferManager.availableFrames_mapFrames, List.map_eq_nil_iff]

theorem SyncMatcher.selectMinSpanCandidate_mapFrames (matcher : SyncMatcher)
    (manager : SyncFrameBufferManager) :
    matcher.selectMinSpanCandidate (manager.mapFrames φ) =
      ((matcher.selectMinSpanCandidate manager).1.map (Dict.mapValues φ.toFun),
        (matcher.selectMinSpanCandidate manager).2) := by
  unfold SyncMatcher.selectMinSpanCandidate
  dsimp only
  rw [missingCameras_mapFrames, candidateLists_mapFrames, candidateCount_mapFrames,
    sweepStart_mapFrames, sweep_mapFrames]
  split
  · rfl
  · generalize sweep _ _ _ = swept
    unfold SweepState.mapFrames
    cases hbest : swept.best with
    | none => rfl
    | some best =>
        dsimp only [Option.map_some]
        split <;> rfl

end ImageStream
