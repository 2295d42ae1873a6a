/-
# Bounded frame buffers

One buffer per device holds the candidate frames, the high-water mark of the
source that the device currently sends, and the keys whose payloads are retained.
The manager indexes retained payloads by key. Deques with a maximum length drop
from the front.
-/

import ImageStream.Sync.Models

namespace ImageStream

open Base

/-- `deque.append` on a deque of bounded length. -/
def pushBounded {α : Type} (maxlen : ℕ) (items : List α) (item : α) : List α :=
  (items ++ [item]).drop (items.length + 1 - maxlen)

/-- The source that a device's frames come from. -/
abbrev SourceIdentity := Option String × Option String

def SyncInputFrame.source (frame : SyncInputFrame) : SourceIdentity :=
  (frame.sourceSessionId, frame.cameraStreamId)

def buildBufferKey (frame : SyncInputFrame) : String :=
  match frame.sourceFrameUid, frame.frameId with
  | some uid, frameId =>
      if uid ≠ "" then "source:" ++ uid
      else
        match frameId with
        | some id => "db:" ++ toString id
        | none => legacyKey
  | none, some id => "db:" ++ toString id
  | none, none => legacyKey
where
  legacyKey : String :=
    let digest :=
      match frame.contentDigest with
      | some digest => if digest ≠ "" then digest else sha256Bytes frame.imageBytes
      | none => sha256Bytes frame.imageBytes
    let sequence :=
      match frame.sequence with
      | some n => toString n
      | none => "-"
    "legacy:" ++ frame.deviceId ++ ":" ++ toString frame.timestampMs ++ ":" ++ sequence ++ ":" ++
      digest

/-- The stored form of an input frame. -/
def SyncInputFrame.stored (frame : SyncInputFrame) : StoredSyncFrame :=
  { frame with
    imageSize := frame.imageBytes.length
    bufferKey := buildBufferKey frame }

@[simp]
theorem SyncInputFrame.toSyncInputFrame_stored (frame : SyncInputFrame) :
    frame.stored.toSyncInputFrame = frame := rfl

@[simp]
theorem SyncInputFrame.bufferKey_stored (frame : SyncInputFrame) :
    frame.stored.bufferKey = buildBufferKey frame := rfl

/-! ## One camera -/

structure CameraSyncBuffer where
  maxFrames : ℕ
  frames : List StoredSyncFrame := []
  receivedCount : ℕ := 0
  lastSequence : Option ℤ := none
  lastTimestampMs : Option ℤ := none
  sequenceGapCount : ℤ := 0
  sourceIdentity : Option SourceIdentity := none
  retainedKeys : List String := []

/-- The order in which candidates are swept: by time, then by key. -/
def candidateLe (first second : StoredSyncFrame) : Bool :=
  first.timestampMs < second.timestampMs ||
    (first.timestampMs == second.timestampMs && first.bufferKey ≤ second.bufferKey)

namespace CameraSyncBuffer

def isOutOfOrder (buffer : CameraSyncBuffer) (frame : StoredSyncFrame) : Bool :=
  decide (frame.identityMode = .v2) && decide (some frame.source = buffer.sourceIdentity) &&
    ((match frame.sequence, buffer.lastSequence with
      | some sequence, some lastSequence => decide (sequence ≤ lastSequence)
      | _, _ => false) ||
      match buffer.lastTimestampMs with
      | some lastTimestampMs => decide (frame.timestampMs < lastTimestampMs)
      | none => false)

/-- The buffer as it is when a frame of this source is appended: another source
starts afresh. -/
def follow (buffer : CameraSyncBuffer) (source : SourceIdentity) : CameraSyncBuffer :=
  if some source ≠ buffer.sourceIdentity then
    { buffer with
      frames := []
      lastSequence := none
      lastTimestampMs := none
      sourceIdentity := some source }
  else
    buffer

/-- How many sequence numbers a frame skips. -/
def gap (buffer : CameraSyncBuffer) (frame : StoredSyncFrame) : ℤ :=
  match buffer.lastSequence, frame.sequence with
  | some lastSequence, some sequence =>
      if lastSequence + 1 < sequence then sequence - lastSequence - 1 else 0
  | _, _ => 0

def append (buffer : CameraSyncBuffer) (frame : StoredSyncFrame) : CameraSyncBuffer :=
  let following := buffer.follow frame.source
  { following with
    sequenceGapCount := following.sequenceGapCount + following.gap frame
    frames := pushBounded following.maxFrames following.frames frame
    receivedCount := following.receivedCount + 1
    lastSequence :=
      match frame.sequence with
      | some sequence => some sequence
      | none => following.lastSequence
    lastTimestampMs := some frame.timestampMs }

theorem lastSequence_append {buffer : CameraSyncBuffer} {frame : StoredSyncFrame} {sequence : ℤ}
    (h : frame.sequence = some sequence) :
    (buffer.append frame).lastSequence = some sequence := by
  unfold append
  dsimp only
  rw [h]

def availableFrames (buffer : CameraSyncBuffer) (excludeFrameKeys : List String) :
    List StoredSyncFrame :=
  (buffer.frames.filter fun frame => frame.bufferKey ∉ excludeFrameKeys).insertionSort
    fun first second => candidateLe first second

/-- Drop the frames before a time, with the number of those that count. -/
def dropFramesOlderThan (buffer : CameraSyncBuffer) (timestampMs : ℤ)
    (countedExcludeFrameKeys : List String) : CameraSyncBuffer × ℕ :=
  ({ buffer with frames := buffer.frames.filter fun frame => timestampMs ≤ frame.timestampMs },
    (buffer.frames.filter fun frame =>
      frame.timestampMs < timestampMs ∧ frame.bufferKey ∉ countedExcludeFrameKeys).length)

/-- Drop the frames up to a chosen one, with the number of the others dropped. -/
def consumeThrough (buffer : CameraSyncBuffer) (chosen : StoredSyncFrame) :
    CameraSyncBuffer × ℕ :=
  ({ buffer with frames := buffer.frames.filter fun frame =>
      chosen.timestampMs < frame.timestampMs },
    (buffer.frames.filter fun frame =>
      frame.timestampMs ≤ chosen.timestampMs ∧ frame.bufferKey ≠ chosen.bufferKey).length)

end CameraSyncBuffer

/-! ## All cameras -/

/-- The size that a manager has by default is one that its constructor takes. -/
theorem defaultBufferSize_pos : 0 < 120 := by decide

/-- The manager of all buffers. Its size is positive, as its constructor demands. -/
structure SyncFrameBufferManager where
  bufferSize : ℕ
  bufferSize_pos : 0 < bufferSize
  buffers : Dict String CameraSyncBuffer := .empty
  framesByKey : Dict String StoredSyncFrame := .empty
  receivedCount : ℕ := 0
  duplicateFrameCount : ℕ := 0
  outOfOrderFrameCount : ℕ := 0
  evictedFrameCount : ℕ := 0

namespace SyncFrameBufferManager

/-- The buffer of a device, a fresh one for a device not seen before. -/
def bufferOf (manager : SyncFrameBufferManager) (deviceId : String) : CameraSyncBuffer :=
  (manager.buffers.get? deviceId).getD { maxFrames := manager.bufferSize }

/-- Forget the oldest retained keys until at most `size` are left. -/
def evictKeys (size : ℕ) (framesByKey : Dict String StoredSyncFrame)
    (retainedKeys : List String) : Dict String StoredSyncFrame × List String :=
  let surplus := retainedKeys.length - size
  ((retainedKeys.take surplus).foldl (fun index key => index.pop key) framesByKey,
    retainedKeys.drop surplus)

/-- Append an accepted frame to its device's buffer and index its payload. -/
def retain (manager : SyncFrameBufferManager) (stored : StoredSyncFrame) :
    SyncFrameBufferManager :=
  let buffer := manager.bufferOf stored.deviceId
  let appended := buffer.append stored
  let (framesByKey, retainedKeys) := evictKeys manager.bufferSize
    (manager.framesByKey.set stored.bufferKey stored)
    (appended.retainedKeys ++ [stored.bufferKey])
  { manager with
    buffers := manager.buffers.set stored.deviceId { appended with retainedKeys := retainedKeys }
    framesByKey := framesByKey
    evictedFrameCount := manager.evictedFrameCount +
      if buffer.frames.length = manager.bufferSize then 1 else 0
    receivedCount := manager.receivedCount + 1 }

def addFrame (manager : SyncFrameBufferManager) (frame : SyncInputFrame) :
    SyncFrameBufferManager × Option StoredSyncFrame :=
  let stored := frame.stored
  if manager.framesByKey.get? stored.bufferKey ≠ none then
    ({ manager with duplicateFrameCount := manager.duplicateFrameCount + 1 }, none)
  else if (manager.bufferOf stored.deviceId).isOutOfOrder stored then
    ({ manager with outOfOrderFrameCount := manager.outOfOrderFrameCount + 1 }, none)
  else
    (manager.retain stored, some stored)

def availableFrames (manager : SyncFrameBufferManager) (deviceId : String)
    (excludeFrameKeys : List String) : List StoredSyncFrame :=
  match manager.buffers.get? deviceId with
  | some buffer => buffer.availableFrames excludeFrameKeys
  | none => []

def latestTimestamps (manager : SyncFrameBufferManager) (deviceIds : List String) :
    Dict String ℤ :=
  deviceIds.foldl (fun latest deviceId =>
    match (manager.buffers.get? deviceId).bind CameraSyncBuffer.lastTimestampMs with
    | some lastTimestampMs => latest.set deviceId lastTimestampMs
    | none => latest) .empty

/-- One camera's part of a drop, with the running count. -/
def dropCamera (timestampMs : ℤ) (countedExcludeFrameKeys : List String)
    (state : SyncFrameBufferManager × ℕ) (deviceId : String) : SyncFrameBufferManager × ℕ :=
  match state.1.buffers.get? deviceId with
  | some buffer =>
      let (kept, dropped) := buffer.dropFramesOlderThan timestampMs countedExcludeFrameKeys
      ({ state.1 with buffers := state.1.buffers.set deviceId kept }, state.2 + dropped)
  | none => state

def dropFramesOlderThan (manager : SyncFrameBufferManager) (deviceIds : List String)
    (timestampMs : ℤ) (countedExcludeFrameKeys : List String) : SyncFrameBufferManager × ℕ :=
  deviceIds.foldl (dropCamera timestampMs countedExcludeFrameKeys) (manager, 0)

/-- One camera's part of a consumption. The selection was read from these buffers
under the same lock, so the camera is there. -/
def consumeCamera (state : SyncFrameBufferManager × ℕ) (chosen : String × StoredSyncFrame) :
    SyncFrameBufferManager × ℕ :=
  match state.1.buffers.get? chosen.1 with
  | some buffer =>
      let (kept, superseded) := buffer.consumeThrough chosen.2
      ({ state.1 with buffers := state.1.buffers.set chosen.1 kept }, state.2 + superseded)
  | none => state

/-- Do not let older candidates overtake an emitted live frame-set. -/
def consumeThrough (manager : SyncFrameBufferManager) (selected : Dict String StoredSyncFrame) :
    SyncFrameBufferManager × ℕ :=
  selected.rows.foldl consumeCamera (manager, 0)

def finalizeArchive (manager : SyncFrameBufferManager) (frameKey : String)
    (frameId : Option ℤ) (filePath : Option String) (archiveState : ArchiveState)
    (archiveError : Option String) : SyncFrameBufferManager × Option StoredSyncFrame :=
  match manager.framesByKey.get? frameKey with
  | none => (manager, none)
  | some stored =>
      let updated := stored.withArchive frameId filePath archiveState archiveError
      ({ manager with
          framesByKey := manager.framesByKey.set frameKey updated
          buffers := manager.buffers.modify stored.deviceId fun buffer =>
            { buffer with frames := buffer.frames.map fun item =>
              if item.bufferKey = frameKey then updated else item } },
        some updated)

end SyncFrameBufferManager

/-! ## Shapes of the operations -/

theorem pushBounded_sublist {α : Type} (maxlen : ℕ) (items : List α) (item : α) :
    (pushBounded maxlen items item).Sublist (items ++ [item]) :=
  List.drop_sublist _ _

theorem CameraSyncBuffer.frames_append_sublist (buffer : CameraSyncBuffer)
    (frame : StoredSyncFrame) :
    (buffer.append frame).frames.Sublist (buffer.frames ++ [frame]) := by
  refine (pushBounded_sublist _ _ _).trans (List.Sublist.append_right ?_ _)
  unfold follow
  split
  · exact List.nil_sublist _
  · exact List.Sublist.refl _

namespace SyncFrameBufferManager

/-- Whether the buffers take a frame: its key is not retained, and it is in order. -/
def Admits (manager : SyncFrameBufferManager) (frame : SyncInputFrame) : Prop :=
  manager.framesByKey.get? (buildBufferKey frame) = none ∧
    (manager.bufferOf frame.deviceId).isOutOfOrder frame.stored = false

theorem addFrame_of_admits {manager : SyncFrameBufferManager} {frame : SyncInputFrame}
    (h : manager.Admits frame) :
    manager.addFrame frame = (manager.retain frame.stored, some frame.stored) := by
  obtain ⟨hkey, horder⟩ := h
  simp [addFrame, hkey, horder]

theorem buffers_retain (manager : SyncFrameBufferManager) (stored : StoredSyncFrame) :
    ∃ retainedKeys, (manager.retain stored).buffers = manager.buffers.set stored.deviceId
      { (manager.bufferOf stored.deviceId).append stored with retainedKeys := retainedKeys } :=
  ⟨_, rfl⟩

/-- A frame that is not taken leaves the buffers and the index alone. -/
theorem addFrame_of_not_admits {manager : SyncFrameBufferManager} {frame : SyncInputFrame}
    (h : ¬manager.Admits frame) :
    (manager.addFrame frame).2 = none ∧
      (manager.addFrame frame).1.buffers = manager.buffers ∧
      (manager.addFrame frame).1.framesByKey = manager.framesByKey := by
  by_cases hkey : manager.framesByKey.get? (buildBufferKey frame) = none
  · have horder : (manager.bufferOf frame.deviceId).isOutOfOrder frame.stored = true := by
      by_contra hin
      exact h ⟨hkey, by simpa using hin⟩
    simp [addFrame, hkey, horder]
  · simp [addFrame, hkey]

theorem addFrame_eq_some_iff {manager : SyncFrameBufferManager} {frame : SyncInputFrame}
    {stored : StoredSyncFrame} :
    (manager.addFrame frame).2 = some stored ↔ manager.Admits frame ∧ stored = frame.stored := by
  by_cases h : manager.Admits frame
  · simp [addFrame_of_admits h, h, eq_comm]
  · simp [(addFrame_of_not_admits h).1, h]

end SyncFrameBufferManager

end ImageStream
