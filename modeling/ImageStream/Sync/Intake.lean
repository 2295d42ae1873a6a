/-
# The intake of the buffers

Whether a frame is taken depends on the retained keys, on the high-water mark of its
device's source and on nothing else. Two managers that agree on these take the same
frames, whatever their buffers hold. `SameIntake` is this agreement.

When a device keeps one source, its V2 frames are taken in the order of time. Then every
buffer is in order, and what is taken next is not before its latest frame.
-/

import ImageStream.Sync.Availability

namespace ImageStream

open Base

/-! ## What decides the acceptance of frames -/

/-- A buffer without its frames. -/
def CameraSyncBuffer.outline (buffer : CameraSyncBuffer) : CameraSyncBuffer :=
  { buffer with frames := [] }

namespace SyncFrameBufferManager

/-- Two managers that differ in the buffered frames and in counters only. -/
structure SameIntake (first second : SyncFrameBufferManager) : Prop where
  bufferSize : second.bufferSize = first.bufferSize
  framesByKey : second.framesByKey = first.framesByKey
  outline : ∀ c, (second.buffers.get? c).map CameraSyncBuffer.outline =
    (first.buffers.get? c).map CameraSyncBuffer.outline

/-- The time of the latest frame of a device. -/
def lastTimestamp? (manager : SyncFrameBufferManager) (c : String) : Option ℤ :=
  (manager.buffers.get? c).bind CameraSyncBuffer.lastTimestampMs

/-- The index and the retained keys once a frame is retained. -/
def evictedBy (manager : SyncFrameBufferManager) (stored : StoredSyncFrame) :
    Dict String StoredSyncFrame × List String :=
  evictKeys manager.bufferSize (manager.framesByKey.set stored.bufferKey stored)
    (((manager.bufferOf stored.deviceId).append stored).retainedKeys ++ [stored.bufferKey])

theorem buffers_retain_eq (manager : SyncFrameBufferManager) (stored : StoredSyncFrame) :
    (manager.retain stored).buffers = manager.buffers.set stored.deviceId
      { (manager.bufferOf stored.deviceId).append stored with
        retainedKeys := (manager.evictedBy stored).2 } := rfl

namespace SameIntake

variable {first second third : SyncFrameBufferManager}

theorem refl (manager : SyncFrameBufferManager) : manager.SameIntake manager :=
  ⟨rfl, rfl, fun _ => rfl⟩

theorem symm (h : first.SameIntake second) : second.SameIntake first :=
  ⟨h.bufferSize.symm, h.framesByKey.symm, fun c => (h.outline c).symm⟩

theorem trans (h : first.SameIntake second) (h' : second.SameIntake third) :
    first.SameIntake third :=
  ⟨h'.bufferSize.trans h.bufferSize, h'.framesByKey.trans h.framesByKey,
    fun c => (h'.outline c).trans (h.outline c)⟩

theorem of_buffers (hsize : second.bufferSize = first.bufferSize)
    (hindex : second.framesByKey = first.framesByKey) (hbuffers : second.buffers = first.buffers) :
    first.SameIntake second :=
  ⟨hsize, hindex, fun c => by rw [hbuffers]⟩

theorem bufferOf (h : first.SameIntake second) (c : String) :
    (second.bufferOf c).outline = (first.bufferOf c).outline := by
  have houtline := h.outline c
  unfold SyncFrameBufferManager.bufferOf
  cases hfirst : first.buffers.get? c with
  | none =>
      rw [hfirst, Option.map_none, Option.map_eq_none_iff] at houtline
      rw [houtline, h.bufferSize]
  | some buffer =>
      rw [hfirst, Option.map_some, Option.map_eq_some_iff] at houtline
      obtain ⟨other, hsecond, hsame⟩ := houtline
      rw [hsecond]
      exact hsame

theorem lastTimestamp? (h : first.SameIntake second) (c : String) :
    second.lastTimestamp? c = first.lastTimestamp? c := by
  have hlast : ∀ buffer : Option CameraSyncBuffer, buffer.bind CameraSyncBuffer.lastTimestampMs =
      (buffer.map CameraSyncBuffer.outline).bind CameraSyncBuffer.lastTimestampMs := by
    intro buffer
    cases buffer <;> rfl
  unfold SyncFrameBufferManager.lastTimestamp?
  rw [hlast (second.buffers.get? c), hlast (first.buffers.get? c), h.outline c]

/-- The same frames are admitted. -/
theorem admits_iff (h : first.SameIntake second) (frame : SyncInputFrame) :
    second.Admits frame ↔ first.Admits frame := by
  have horder : ∀ buffer : CameraSyncBuffer,
      buffer.isOutOfOrder frame.stored = buffer.outline.isOutOfOrder frame.stored :=
    fun _ => rfl
  unfold Admits
  rw [h.framesByKey, horder, horder (first.bufferOf _), h.bufferOf]

theorem outline_append (buffer : CameraSyncBuffer) (frame : StoredSyncFrame) :
    (buffer.append frame).outline = (buffer.outline.append frame).outline := by
  have hfollow : (buffer.follow frame.source).outline =
      (buffer.outline.follow frame.source).outline := by
    unfold CameraSyncBuffer.follow
    by_cases hsource : some frame.source ≠ buffer.sourceIdentity
    · rw [if_pos hsource, if_pos (show some frame.source ≠ buffer.outline.sourceIdentity from hsource)]
      rfl
    · rw [if_neg hsource, if_neg (show ¬some frame.source ≠ buffer.outline.sourceIdentity from hsource)]
      rfl
  have happend : ∀ first second : CameraSyncBuffer, first.outline = second.outline →
      first.gap frame = second.gap frame ∧ first.lastSequence = second.lastSequence := by
    intro first second hsame
    have hlast : first.outline.lastSequence = second.outline.lastSequence := by
      rw [hsame]
    have hlast' : first.lastSequence = second.lastSequence := hlast
    unfold CameraSyncBuffer.gap
    rw [hlast']
    exact ⟨rfl, rfl⟩
  obtain ⟨hgap, hlast⟩ := happend _ _ hfollow
  unfold CameraSyncBuffer.append
  dsimp only
  rw [hgap, hlast]
  generalize buffer.follow frame.source = following at hfollow ⊢
  generalize buffer.outline.follow frame.source = following' at hfollow ⊢
  cases following
  cases following'
  simp only [CameraSyncBuffer.outline, CameraSyncBuffer.mk.injEq] at hfollow ⊢
  grind

theorem retain (h : first.SameIntake second) (stored : StoredSyncFrame) :
    (first.retain stored).SameIntake (second.retain stored) := by
  have happended : ((second.bufferOf stored.deviceId).append stored).outline =
      ((first.bufferOf stored.deviceId).append stored).outline := by
    rw [outline_append, h.bufferOf, ← outline_append]
  have hkeys : ((second.bufferOf stored.deviceId).append stored).outline.retainedKeys =
      ((first.bufferOf stored.deviceId).append stored).outline.retainedKeys := by
    rw [happended]
  have hevicted : second.evictedBy stored = first.evictedBy stored := by
    unfold evictedBy
    rw [h.bufferSize, h.framesByKey]
    exact congrArg (fun keys : List String => evictKeys first.bufferSize
      (first.framesByKey.set stored.bufferKey stored) (keys ++ [stored.bufferKey])) hkeys
  constructor
  case bufferSize => exact h.bufferSize
  case framesByKey => exact congrArg Prod.fst hevicted
  case outline =>
    intro c
    rw [second.buffers_retain_eq, first.buffers_retain_eq, Dict.get?_set, Dict.get?_set, hevicted]
    by_cases hc : c = stored.deviceId
    · rw [if_pos hc, if_pos hc, Option.map_some, Option.map_some]
      exact congrArg (fun buffer : CameraSyncBuffer =>
        some { buffer with retainedKeys := (first.evictedBy stored).2 }) happended
    · rw [if_neg hc, if_neg hc]
      exact h.outline c

/-- Replacing the frames of one buffer leaves the intake. -/
theorem of_set {manager result : SyncFrameBufferManager} {c : String}
    {buffer : CameraSyncBuffer} (buffer' : CameraSyncBuffer) (hget : manager.buffers.get? c = some buffer)
    (houtline : buffer'.outline = buffer.outline)
    (hresult : result = { manager with buffers := manager.buffers.set c buffer' }) :
    manager.SameIntake result := by
  subst hresult
  refine ⟨rfl, rfl, fun d => ?_⟩
  show ((manager.buffers.set c buffer').get? d).map CameraSyncBuffer.outline = _
  rw [Dict.get?_set]
  by_cases hd : d = c
  · rw [if_pos hd, hd, hget, Option.map_some, Option.map_some, houtline]
  · rw [if_neg hd]

theorem dropFramesOlderThan (manager : SyncFrameBufferManager) (deviceIds : List String)
    (timestampMs : ℤ) (excluded : List String) :
    manager.SameIntake (manager.dropFramesOlderThan deviceIds timestampMs excluded).1 := by
  unfold SyncFrameBufferManager.dropFramesOlderThan
  induction deviceIds using List.reverseRecOn with
  | nil => exact refl manager
  | append_singleton deviceIds deviceId ih =>
      rw [List.foldl_concat]
      apply ih.trans
      generalize deviceIds.foldl (dropCamera timestampMs excluded) (manager, 0) = state
      cases hget : state.1.buffers.get? deviceId with
      | none =>
          simp only [dropCamera, hget]
          exact refl _
      | some buffer =>
          apply of_set (buffer.dropFramesOlderThan timestampMs excluded).1 hget rfl
          simp only [dropCamera, hget]

theorem consumeThrough (manager : SyncFrameBufferManager)
    (selected : Dict String StoredSyncFrame) :
    manager.SameIntake (manager.consumeThrough selected).1 := by
  unfold SyncFrameBufferManager.consumeThrough
  induction selected.rows using List.reverseRecOn with
  | nil => exact refl manager
  | append_singleton rows row ih =>
      rw [List.foldl_concat]
      apply ih.trans
      generalize rows.foldl consumeCamera (manager, 0) = state
      cases hget : state.1.buffers.get? row.1 with
      | none =>
          simp only [consumeCamera, hget]
          exact refl _
      | some buffer =>
          apply of_set (buffer.consumeThrough row.2).1 hget rfl
          simp only [consumeCamera, hget]

end SameIntake

end SyncFrameBufferManager

theorem SyncMatcher.dropStaleFrames_sameIntake (matcher : SyncMatcher)
    (manager : SyncFrameBufferManager) :
    manager.SameIntake (matcher.dropStaleFrames manager).2 := by
  unfold dropStaleFrames
  dsimp only
  split
  · exact .refl manager
  · exact .dropFramesOlderThan manager _ _ _

/-! ## Devices that keep one source -/

/-- A buffer of one source: its frames are in the order of time, up to the latest one. -/
structure CameraSyncBuffer.InOrder (buffer : CameraSyncBuffer) (source : SourceIdentity) :
    Prop where
  source : buffer.sourceIdentity = some source
  latest : ∃ last, buffer.lastTimestampMs = some last ∧
    ∀ frame ∈ buffer.frames, frame.timestampMs ≤ last
  ordered : buffer.frames.Pairwise fun first second => first.timestampMs ≤ second.timestampMs

/-- The buffers of these devices are each of one source. -/
def SyncFrameBufferManager.OneSource (manager : SyncFrameBufferManager) (devices : List String)
    (sourceOf : String → SourceIdentity) : Prop :=
  ∀ c ∈ devices, ∀ buffer, manager.buffers.get? c = some buffer → buffer.InOrder (sourceOf c)

namespace SyncFrameBufferManager

variable {manager : SyncFrameBufferManager} {devices : List String}
  {sourceOf : String → SourceIdentity}

theorem OneSource.pairwise (h : manager.OneSource devices sourceOf) {c : String}
    (hc : c ∈ devices) :
    (manager.buffered c).Pairwise fun first second => first.timestampMs ≤ second.timestampMs := by
  unfold buffered
  cases hget : manager.buffers.get? c with
  | none => exact List.Pairwise.nil
  | some buffer => exact (h c hc buffer hget).ordered

/-- Taking frames out of the buffers keeps them in order. -/
theorem OneSource.of_sublist (h : manager.OneSource devices sourceOf)
    {smaller : SyncFrameBufferManager} (hintake : manager.SameIntake smaller)
    (hsub : ∀ c ∈ devices, (smaller.buffered c).Sublist (manager.buffered c)) :
    smaller.OneSource devices sourceOf := by
  intro c hc buffer hget
  have houtline := hintake.outline c
  have hbuffered := hsub c hc
  unfold buffered at hbuffered
  rw [hget, Option.map_some] at houtline
  cases hget' : manager.buffers.get? c with
  | none =>
      rw [hget'] at houtline
      cases houtline
  | some old =>
      rw [hget', Option.map_some, Option.some.injEq] at houtline
      rw [hget, hget'] at hbuffered
      obtain ⟨hsource, ⟨last, hlast, hle⟩, hordered⟩ := h c hc old hget'
      have hsource' : buffer.outline.sourceIdentity = old.outline.sourceIdentity := by
        rw [houtline]
      have hlast' : buffer.outline.lastTimestampMs = old.outline.lastTimestampMs := by
        rw [houtline]
      exact ⟨hsource'.trans hsource,
        ⟨last, hlast'.trans hlast, fun frame hframe => hle frame (hbuffered.subset hframe)⟩,
        hordered.sublist hbuffered⟩

/-- An admitted V2 frame of the device's source is not before the latest one. -/
theorem OneSource.last_le (h : manager.OneSource devices sourceOf) {frame : SyncInputFrame}
    (hadmits : manager.Admits frame) (hmode : frame.identityMode = .v2)
    (hdevice : frame.deviceId ∈ devices) (hsource : frame.source = sourceOf frame.deviceId)
    {last : ℤ} (hlast : manager.lastTimestamp? frame.deviceId = some last) :
    last ≤ frame.timestampMs := by
  unfold lastTimestamp? at hlast
  cases hget : manager.buffers.get? frame.deviceId with
  | none =>
      rw [hget] at hlast
      cases hlast
  | some buffer =>
      rw [hget, Option.bind_some] at hlast
      have horder := hadmits.2
      unfold bufferOf at horder
      rw [hget, Option.getD_some] at horder
      have hidentity := (h _ hdevice buffer hget).source
      simp only [CameraSyncBuffer.isOutOfOrder, SyncInputFrame.toSyncInputFrame_stored, hmode,
        hsource, hidentity, hlast, decide_true, Bool.true_and, Bool.or_eq_false_iff] at horder
      exact not_lt.mp (of_decide_eq_false horder.2)

/-- A buffer that is fresh or of this source is not started afresh by the source. -/
theorem follow_frames {c : String} {source : SourceIdentity}
    (h : ∀ buffer, manager.buffers.get? c = some buffer →
      buffer.sourceIdentity = some source) :
    ((manager.bufferOf c).follow source).frames = manager.buffered c := by
  unfold bufferOf buffered CameraSyncBuffer.follow
  cases hget : manager.buffers.get? c with
  | none => split <;> rfl
  | some buffer =>
      rw [Option.getD_some, if_neg (not_not.mpr (h buffer hget).symm)]

theorem lastTimestamp?_retain (stored : StoredSyncFrame) (c : String) :
    (manager.retain stored).lastTimestamp? c =
      if c = stored.deviceId then some stored.timestampMs else manager.lastTimestamp? c := by
  unfold lastTimestamp?
  rw [manager.buffers_retain_eq, Dict.get?_set]
  by_cases hc : c = stored.deviceId
  · rw [if_pos hc, if_pos hc]
    rfl
  · rw [if_neg hc, if_neg hc]

/-- Retaining the next frame of a source keeps the buffers in order. -/
theorem OneSource.retain (h : manager.OneSource devices sourceOf) {frame : SyncInputFrame}
    (hadmits : manager.Admits frame) (hmode : frame.identityMode = .v2)
    (hsource : frame.deviceId ∈ devices → frame.source = sourceOf frame.deviceId) :
    (manager.retain frame.stored).OneSource devices sourceOf := by
  intro c hc buffer hget
  rw [manager.buffers_retain_eq, Dict.get?_set] at hget
  by_cases hdevice : c = frame.stored.deviceId
  · rw [if_pos hdevice] at hget
    cases hget
    have hdevice' : frame.deviceId ∈ devices := by
      rw [hdevice] at hc
      exact hc
    have hframes : ((manager.bufferOf frame.deviceId).append frame.stored).frames.Sublist
        (manager.buffered frame.deviceId ++ [frame.stored]) := by
      rw [manager.buffered_eq]
      exact (manager.bufferOf frame.deviceId).frames_append_sublist frame.stored
    have hold : ∀ old ∈ manager.buffered frame.deviceId,
        old.timestampMs ≤ frame.timestampMs := by
      intro old hmem
      unfold buffered at hmem
      cases hget : manager.buffers.get? frame.deviceId with
      | none =>
          rw [hget] at hmem
          cases hmem
      | some buffer =>
          rw [hget] at hmem
          obtain ⟨last, hlast, hle⟩ := (h _ hdevice' buffer hget).latest
          have hlast' : manager.lastTimestamp? frame.deviceId = some last := by
            unfold lastTimestamp?
            rw [hget]
            exact hlast
          exact (hle old hmem).trans (h.last_le hadmits hmode hdevice' (hsource hdevice') hlast')
    constructor
    case source =>
      have hfollow : ((manager.bufferOf frame.deviceId).follow frame.source).sourceIdentity =
          some frame.source := by
        unfold CameraSyncBuffer.follow
        split
        · rfl
        case isFalse hsame => exact (not_not.mp hsame).symm
      rw [hdevice]
      exact hfollow.trans (congrArg some (hsource hdevice'))
    case latest =>
      refine ⟨frame.timestampMs, rfl, fun old hmem => ?_⟩
      rcases List.mem_append.mp (hframes.subset hmem) with hmem | hnew
      · exact hold old hmem
      · rw [List.mem_singleton.mp hnew]
        exact le_refl _
    case ordered =>
      apply List.Pairwise.sublist hframes
      rw [List.pairwise_append]
      refine ⟨h.pairwise hdevice', List.pairwise_singleton _ _, fun old hmem new hnew => ?_⟩
      rw [List.mem_singleton.mp hnew]
      exact hold old hmem
  · rw [if_neg hdevice] at hget
    exact h c hc buffer hget

end SyncFrameBufferManager

end ImageStream
