/-
# The balance of accepted frames

A frame that the buffers take is a candidate until it is emitted, superseded by an
emission, dropped as stale or pushed out of a full buffer, and each of these ways out is
counted. Two ways out are not: the first frame of another source empties its camera's
buffer, and an emission that finds its chosen frame twice in one buffer takes both out and
counts one. The counters of a run therefore balance exactly when no step takes one of them.
-/

import ImageStream.Sync.Emission
import ImageStream.Sync.Intake

namespace ImageStream

open Base SyncFrameBufferManager

namespace SyncFrameBufferManager

/-! ## What the status reports -/

/-- The sum of the cameras' `buffered_count`. -/
def bufferedCount (manager : SyncFrameBufferManager) : ℕ :=
  (manager.buffers.values.map fun buffer => buffer.frames.length).sum

/-- The candidates of the other cameras. -/
def othersCount (manager : SyncFrameBufferManager) (c : String) : ℕ :=
  ((manager.buffers.pop c).gather CameraSyncBuffer.frames).length

theorem bufferedCount_eq_gather (manager : SyncFrameBufferManager) :
    manager.bufferedCount = (manager.buffers.gather CameraSyncBuffer.frames).length := by
  simp [bufferedCount, Dict.gather, List.length_flatMap]

/-- The candidates are those of one camera and those of the others. -/
theorem bufferedCount_eq (manager : SyncFrameBufferManager) (c : String) :
    manager.bufferedCount = (manager.buffered c).length + manager.othersCount c := by
  have hone : ((manager.buffers.get? c).toList.flatMap CameraSyncBuffer.frames).length =
      (manager.buffered c).length := by
    cases hget : manager.buffers.get? c <;> simp [buffered, hget]
  rw [bufferedCount_eq_gather, (manager.buffers.gather_perm CameraSyncBuffer.frames c).length_eq,
    List.length_append, hone, othersCount]

theorem bufferedCount_of_set {manager result : SyncFrameBufferManager} {c : String}
    {buffer : CameraSyncBuffer} (h : result.buffers = manager.buffers.set c buffer) :
    result.bufferedCount = buffer.frames.length + manager.othersCount c := by
  rw [bufferedCount_eq_gather, h,
    (manager.buffers.gather_set_perm CameraSyncBuffer.frames c buffer).length_eq,
    List.length_append, othersCount]

/-! ## The size of the buffers -/

/-- Every buffer has the configured size and keeps to it. -/
structure Bounded (manager : SyncFrameBufferManager) : Prop where
  maxFrames_eq : ∀ c, (manager.bufferOf c).maxFrames = manager.bufferSize
  length_le : ∀ c, (manager.buffered c).length ≤ manager.bufferSize

/-- An operation that only takes frames out of the buffers keeps them bounded. -/
theorem Bounded.of_sublist {first second : SyncFrameBufferManager} (h : first.Bounded)
    (hintake : first.SameIntake second)
    (hsublist : ∀ c, (second.buffered c).Sublist (first.buffered c)) : second.Bounded where
  maxFrames_eq c := by
    have houtline := congrArg CameraSyncBuffer.maxFrames (hintake.bufferOf c)
    have hmax : (second.bufferOf c).maxFrames = (first.bufferOf c).maxFrames := houtline
    rw [hmax, h.maxFrames_eq, hintake.bufferSize]
  length_le c := by
    have hle := (hsublist c).length_le.trans (h.length_le c)
    rwa [hintake.bufferSize]

theorem length_pushBounded {α : Type} (maxlen : ℕ) (items : List α) (item : α) :
    (pushBounded maxlen items item).length = min (items.length + 1) maxlen := by
  rw [pushBounded, List.length_drop, List.length_append, List.length_singleton]
  omega

theorem maxFrames_follow (buffer : CameraSyncBuffer) (source : SourceIdentity) :
    (buffer.follow source).maxFrames = buffer.maxFrames := by
  unfold CameraSyncBuffer.follow
  split <;> rfl

theorem frames_follow (buffer : CameraSyncBuffer) (source : SourceIdentity) :
    (buffer.follow source).frames =
      if some source = buffer.sourceIdentity then buffer.frames else [] := by
  unfold CameraSyncBuffer.follow
  by_cases hsource : some source = buffer.sourceIdentity
  · rw [if_neg (not_not.mpr hsource), if_pos hsource]
  · rw [if_pos hsource, if_neg hsource]

/-- How many candidates a camera has after one more frame of a source. -/
theorem length_frames_append (buffer : CameraSyncBuffer) (frame : StoredSyncFrame) :
    (buffer.append frame).frames.length =
      min ((if some frame.source = buffer.sourceIdentity then buffer.frames.length else 0) + 1)
        buffer.maxFrames := by
  have hframes : (buffer.append frame).frames =
      pushBounded (buffer.follow frame.source).maxFrames (buffer.follow frame.source).frames
        frame := rfl
  rw [hframes, length_pushBounded, maxFrames_follow, frames_follow]
  split <;> rfl

theorem bufferOf_retain (manager : SyncFrameBufferManager) (stored : StoredSyncFrame)
    (c : String) :
    ((manager.retain stored).bufferOf c).maxFrames = (manager.bufferOf c).maxFrames := by
  unfold bufferOf
  rw [buffers_retain_eq, Dict.get?_set]
  by_cases hc : c = stored.deviceId
  · rw [if_pos hc, hc]
    exact maxFrames_follow _ _
  · rw [if_neg hc]
    rfl

theorem Bounded.retain {manager : SyncFrameBufferManager} (h : manager.Bounded)
    (stored : StoredSyncFrame) : (manager.retain stored).Bounded where
  maxFrames_eq c := by rw [bufferOf_retain, h.maxFrames_eq]; rfl
  length_le c := by
    rw [buffered_retain]
    split
    · rw [length_frames_append, h.maxFrames_eq]
      exact min_le_right _ _
    · exact h.length_le c

/-! ## A frame that is taken -/

/-- Whether a frame that is taken leaves the camera its candidates, but for an overflow: it
comes from the source that the camera sends, the camera has no candidate, or the buffers
hold one frame each. -/
def KeepsCandidates (manager : SyncFrameBufferManager) (frame : SyncInputFrame) : Prop :=
  some frame.source = (manager.bufferOf frame.deviceId).sourceIdentity ∨
    manager.buffered frame.deviceId = [] ∨ manager.bufferSize = 1

/-- The candidates that are cleared with their source, less the one that is counted as
evicted when the buffer was full. -/
def clearedCount (manager : SyncFrameBufferManager) (frame : SyncInputFrame) : ℕ :=
  if some frame.source = (manager.bufferOf frame.deviceId).sourceIdentity then 0
  else
    (manager.buffered frame.deviceId).length -
      if (manager.buffered frame.deviceId).length = manager.bufferSize then 1 else 0

theorem clearedCount_eq_zero_iff {manager : SyncFrameBufferManager} (h : manager.Bounded)
    (frame : SyncInputFrame) :
    manager.clearedCount frame = 0 ↔ manager.KeepsCandidates frame := by
  have hle := h.length_le frame.deviceId
  have hpos := manager.bufferSize_pos
  unfold clearedCount KeepsCandidates
  rw [← List.length_eq_zero_iff]
  by_cases hsource : some frame.source = (manager.bufferOf frame.deviceId).sourceIdentity
  · simp [hsource]
  · rw [if_neg hsource]
    simp only [hsource, false_or]
    split <;> omega

/-- A frame that is taken is a candidate, in the place of those evicted and cleared. -/
theorem bufferedCount_retain {manager : SyncFrameBufferManager} (h : manager.Bounded)
    (frame : SyncInputFrame) :
    (manager.retain frame.stored).bufferedCount + (manager.retain frame.stored).evictedFrameCount +
        manager.clearedCount frame =
      manager.bufferedCount + manager.evictedFrameCount + 1 := by
  have hle := h.length_le frame.deviceId
  have hpos := manager.bufferSize_pos
  have hframes : (manager.bufferOf frame.deviceId).frames = manager.buffered frame.deviceId :=
    (manager.buffered_eq _).symm
  have hevicted : (manager.retain frame.stored).evictedFrameCount = manager.evictedFrameCount +
      if (manager.buffered frame.deviceId).length = manager.bufferSize then 1 else 0 := by
    rw [← hframes]
    rfl
  have hcount := bufferedCount_of_set (manager.buffers_retain_eq frame.stored)
  have hlength : ((manager.bufferOf frame.deviceId).append frame.stored).frames.length =
      min ((if some frame.source = (manager.bufferOf frame.deviceId).sourceIdentity then
        (manager.buffered frame.deviceId).length else 0) + 1) manager.bufferSize := by
    rw [length_frames_append, h.maxFrames_eq, hframes]
    rfl
  have hretained : (manager.retain frame.stored).bufferedCount =
      ((manager.bufferOf frame.deviceId).append frame.stored).frames.length +
        manager.othersCount frame.deviceId := hcount
  rw [hretained, hlength, hevicted, manager.bufferedCount_eq frame.deviceId, clearedCount]
  split <;> split <;> omega

/-! ## Frames that are dropped -/

/-- Every frame that is dropped as stale is counted. -/
theorem bufferedCount_dropFramesOlderThan (manager : SyncFrameBufferManager)
    (deviceIds : List String) (timestampMs : ℤ) :
    (manager.dropFramesOlderThan deviceIds timestampMs []).1.bufferedCount +
        (manager.dropFramesOlderThan deviceIds timestampMs []).2 = manager.bufferedCount := by
  unfold dropFramesOlderThan
  induction deviceIds using List.reverseRecOn with
  | nil => rfl
  | append_singleton deviceIds deviceId ih =>
      rw [List.foldl_concat, ← ih]
      generalize deviceIds.foldl (dropCamera timestampMs []) (manager, 0) = state
      cases hget : state.1.buffers.get? deviceId with
      | none => simp only [dropCamera, hget]
      | some buffer =>
          have hbuffered : state.1.buffered deviceId = buffer.frames := by simp [buffered, hget]
          have hset : (dropCamera timestampMs [] state deviceId).1.buffers =
              state.1.buffers.set deviceId (buffer.dropFramesOlderThan timestampMs []).1 := by
            simp [dropCamera, hget]
          have hcounted : (dropCamera timestampMs [] state deviceId).2 =
              state.2 + (buffer.dropFramesOlderThan timestampMs []).2 := by
            simp [dropCamera, hget]
          have hsplit : (buffer.dropFramesOlderThan timestampMs []).1.frames.length +
              (buffer.dropFramesOlderThan timestampMs []).2 = buffer.frames.length := by
            have hbefore : (fun frame : StoredSyncFrame =>
                  decide (frame.timestampMs < timestampMs ∧ frame.bufferKey ∉ [])) =
                fun frame => !decide (timestampMs ≤ frame.timestampMs) := by
              funext frame
              exact Bool.eq_iff_iff.mpr (by simp)
            simp only [CameraSyncBuffer.dropFramesOlderThan, hbefore]
            exact (List.length_eq_length_filter_add _).symm
          rw [bufferedCount_of_set hset, hcounted, state.1.bufferedCount_eq deviceId, hbuffered]
          omega

theorem dropFramesOlderThan_frame (manager : SyncFrameBufferManager) (deviceIds : List String)
    (timestampMs : ℤ) (excluded : List String) :
    ∃ buffers, (manager.dropFramesOlderThan deviceIds timestampMs excluded).1 =
      { manager with buffers := buffers } := by
  unfold dropFramesOlderThan
  induction deviceIds using List.reverseRecOn with
  | nil => exact ⟨_, rfl⟩
  | append_singleton deviceIds deviceId ih =>
      obtain ⟨buffers, hbuffers⟩ := ih
      rw [List.foldl_concat, dropCamera, hbuffers]
      split
      · exact ⟨_, rfl⟩
      · exact ⟨buffers, hbuffers⟩

/-! ## Frames that are consumed -/

/-- How often a chosen frame is among the candidates that its emission takes out. -/
def chosenCount (frames : List StoredSyncFrame) (chosen : StoredSyncFrame) : ℕ :=
  (frames.filter fun frame =>
    frame.timestampMs ≤ chosen.timestampMs ∧ frame.bufferKey = chosen.bufferKey).length

theorem chosenCount_pos {frames : List StoredSyncFrame} {chosen : StoredSyncFrame}
    (h : chosen ∈ frames) : 0 < chosenCount frames chosen := by
  apply List.length_pos_of_mem
  exact List.mem_filter.mpr ⟨h, by simp⟩

theorem length_consumeThrough (buffer : CameraSyncBuffer) (chosen : StoredSyncFrame) :
    (buffer.consumeThrough chosen).1.frames.length + (buffer.consumeThrough chosen).2 +
      chosenCount buffer.frames chosen = buffer.frames.length := by
  simp only [CameraSyncBuffer.consumeThrough, chosenCount, ne_eq]
  induction buffer.frames with
  | nil => rfl
  | cons frame frames ih =>
      simp only [List.filter_cons, List.length_cons]
      by_cases hlate : chosen.timestampMs < frame.timestampMs
      · simp only [hlate, not_le.mpr hlate, false_and, decide_true, decide_false, if_true,
          Bool.false_eq_true, if_false, List.length_cons]
        omega
      · by_cases hkey : frame.bufferKey = chosen.bufferKey
        · simp only [hlate, not_lt.mp hlate, hkey, not_true_eq_false, and_false, and_self,
            decide_true, decide_false, if_true, Bool.false_eq_true, if_false, List.length_cons]
          omega
        · simp only [hlate, not_lt.mp hlate, hkey, not_false_eq_true, and_false, and_self,
            decide_true, decide_false, if_true, Bool.false_eq_true, if_false, List.length_cons]
          omega

theorem bufferedCount_consumeCamera (state : SyncFrameBufferManager × ℕ)
    (row : String × StoredSyncFrame) (h : row.2 ∈ state.1.buffered row.1) :
    (consumeCamera state row).1.bufferedCount + (consumeCamera state row).2 +
        chosenCount (state.1.buffered row.1) row.2 =
      state.1.bufferedCount + state.2 := by
  cases hget : state.1.buffers.get? row.1 with
  | none => simp [buffered, hget] at h
  | some buffer =>
      have hbuffered : state.1.buffered row.1 = buffer.frames := by simp [buffered, hget]
      have hset : (consumeCamera state row).1.buffers =
          state.1.buffers.set row.1 (buffer.consumeThrough row.2).1 := by
        simp [consumeCamera, hget]
      have hcounted : (consumeCamera state row).2 =
          state.2 + (buffer.consumeThrough row.2).2 := by
        simp [consumeCamera, hget]
      have hsplit := length_consumeThrough buffer row.2
      rw [bufferedCount_of_set hset, hcounted, state.1.bufferedCount_eq row.1, hbuffered]
      omega

/-- The candidates that a consumption takes out are counted as superseded, but for those
with the key of a chosen frame. -/
theorem bufferedCount_consumeThrough (manager : SyncFrameBufferManager)
    (selected : Dict String StoredSyncFrame)
    (hbuffered : ∀ row ∈ selected.rows, row.2 ∈ manager.buffered row.1) :
    (manager.consumeThrough selected).1.bufferedCount + (manager.consumeThrough selected).2 +
        (selected.rows.map fun row => chosenCount (manager.buffered row.1) row.2).sum =
      manager.bufferedCount := by
  have hrows : ∀ (rows : List (String × StoredSyncFrame)) (state : SyncFrameBufferManager × ℕ),
      (rows.map Prod.fst).Nodup → (∀ row ∈ rows, row.2 ∈ state.1.buffered row.1) →
      (rows.foldl consumeCamera state).1.bufferedCount + (rows.foldl consumeCamera state).2 +
          (rows.map fun row => chosenCount (state.1.buffered row.1) row.2).sum =
        state.1.bufferedCount + state.2 := by
    intro rows
    induction rows with
    | nil => intro state _ _; rfl
    | cons row rows ih =>
        intro state hnodup hmem
        rw [List.map_cons, List.nodup_cons] at hnodup
        -- The later rows are of other cameras, whose candidates this row leaves alone.
        have hsame : ∀ later ∈ rows,
            (consumeCamera state row).1.buffered later.1 = state.1.buffered later.1 := by
          intro later hlater
          have hne : later.1 ≠ row.1 := fun heq => hnodup.1 (heq ▸ List.mem_map_of_mem hlater)
          rw [buffered_consumeCamera, if_neg hne]
          rfl
        have hone := bufferedCount_consumeCamera state row (hmem row List.mem_cons_self)
        have hrest := ih (consumeCamera state row) hnodup.2 fun later hlater =>
          hsame later hlater ▸ hmem later (List.mem_cons_of_mem _ hlater)
        have hsum : (rows.map fun later =>
              chosenCount ((consumeCamera state row).1.buffered later.1) later.2) =
            rows.map fun later => chosenCount (state.1.buffered later.1) later.2 :=
          List.map_congr_left fun later hlater => by rw [hsame later hlater]
        rw [hsum] at hrest
        rw [List.foldl_cons, List.map_cons, List.sum_cons]
        omega
  exact hrows selected.rows (manager, 0) selected.keys_nodup hbuffered

theorem consumeThrough_frame (manager : SyncFrameBufferManager)
    (selected : Dict String StoredSyncFrame) :
    ∃ buffers, (manager.consumeThrough selected).1 = { manager with buffers := buffers } := by
  unfold consumeThrough
  induction selected.rows using List.reverseRecOn with
  | nil => exact ⟨_, rfl⟩
  | append_singleton rows row ih =>
      obtain ⟨buffers, hbuffers⟩ := ih
      rw [List.foldl_concat, consumeCamera, hbuffers]
      split
      · exact ⟨_, rfl⟩
      · exact ⟨buffers, hbuffers⟩

end SyncFrameBufferManager

/-! ## What one call moves -/

namespace SyncMatcher

/-- The accepted frames that were emitted or counted as dropped by the matcher. -/
def settledCount (matcher : SyncMatcher) : ℕ :=
  matcher.droppedStaleCount + matcher.droppedSupersededCount +
    matcher.matchedCount * matcher.expectedCameras.dedup.length

/-- A step from one matcher and its buffers to others that takes frames out of the buffers
and counts all but `lost` of them. -/
structure Settles (matcher : SyncMatcher) (manager : SyncFrameBufferManager) (lost : ℕ)
    (settled : SyncMatcher) (kept : SyncFrameBufferManager) : Prop where
  intake : manager.SameIntake kept
  sublist : ∀ c, (kept.buffered c).Sublist (manager.buffered c)
  frame : ∃ buffers, kept = { manager with buffers := buffers }
  expectedCameras : settled.expectedCameras = matcher.expectedCameras
  balance : kept.bufferedCount + settled.settledCount + lost =
    manager.bufferedCount + matcher.settledCount

variable {matcher settled : SyncMatcher} {manager kept : SyncFrameBufferManager}

theorem Settles.of_same (hcount : settled.settledCount = matcher.settledCount)
    (hexpected : settled.expectedCameras = matcher.expectedCameras) :
    matcher.Settles manager 0 settled manager where
  intake := .refl manager
  sublist _ := List.Sublist.refl _
  frame := ⟨manager.buffers, rfl⟩
  expectedCameras := hexpected
  balance := by rw [hcount, add_zero]

theorem Settles.trans {later : SyncMatcher} {left : SyncFrameBufferManager} {lost lost' : ℕ}
    (h : matcher.Settles manager lost settled kept) (h' : settled.Settles kept lost' later left) :
    matcher.Settles manager (lost + lost') later left where
  intake := h.intake.trans h'.intake
  sublist c := (h'.sublist c).trans (h.sublist c)
  frame := by
    obtain ⟨buffers, hkept⟩ := h.frame
    obtain ⟨buffers', hleft⟩ := h'.frame
    exact ⟨buffers', by rw [hleft, hkept]⟩
  expectedCameras := h'.expectedCameras.trans h.expectedCameras
  balance := by
    have hfirst := h.balance
    have hsecond := h'.balance
    omega

theorem settles_dropStaleFrames (matcher : SyncMatcher) (manager : SyncFrameBufferManager) :
    matcher.Settles manager 0 (matcher.dropStaleFrames manager).1
      (matcher.dropStaleFrames manager).2 where
  intake := matcher.dropStaleFrames_sameIntake manager
  sublist := matcher.dropStaleFrames_sublist manager
  frame := by
    unfold dropStaleFrames
    dsimp only
    split
    · exact ⟨manager.buffers, rfl⟩
    · exact manager.dropFramesOlderThan_frame _ _ _
  expectedCameras := (matcher.dropStaleFrames_sameCourse manager).expectedCameras
  balance := by
    unfold dropStaleFrames
    dsimp only
    split
    · rfl
    · have hdropped := manager.bufferedCount_dropFramesOlderThan matcher.expectedCameras
        ((manager.latestTimestamps matcher.expectedCameras).values.min?.getD 0 -
          matcher.windowMs)
      simp only [settledCount]
      omega

theorem settles_miss (matcher : SyncMatcher) (manager : SyncFrameBufferManager)
    (triggerFrame : StoredSyncFrame) (reason : String) (missing : List String) :
    matcher.Settles manager 0 (matcher.miss manager triggerFrame reason missing).1
      (matcher.miss manager triggerFrame reason missing).2.1 :=
  have hrecorded : matcher.Settles manager 0 (matcher.recordMiss triggerFrame reason missing)
      manager := .of_same rfl rfl
  hrecorded.trans (settles_dropStaleFrames _ _)

theorem settledCount_enterCapture (matcher : SyncMatcher) (identity : CaptureIdentity)
    (freshRunId : String) :
    (matcher.enterCapture identity freshRunId).settledCount = matcher.settledCount ∧
      (matcher.enterCapture identity freshRunId).expectedCameras = matcher.expectedCameras := by
  unfold enterCapture
  dsimp only
  split <;> split <;> exact ⟨rfl, rfl⟩

/-- The candidates that an emission of this selection takes out uncounted. -/
def twinCount (manager : SyncFrameBufferManager) (selected : Dict String StoredSyncFrame) : ℕ :=
  (selected.rows.map fun row => chosenCount (manager.buffered row.1) row.2 - 1).sum

/-- The selection has one buffered frame of each distinct expected camera. -/
theorem selected_rows {selected : Dict String StoredSyncFrame} {spanMs : ℤ}
    (hexpected : matcher.expectedCameras ≠ [])
    (hselect : matcher.selectMinSpanCandidate manager = (some selected, some spanMs, [])) :
    (∀ row ∈ selected.rows, row.2 ∈ manager.buffered row.1) ∧
      selected.rows.length = matcher.expectedCameras.dedup.length := by
  obtain ⟨choice, hmatch, hchoice⟩ := isWindowMatch_of_select hexpected hselect
  constructor
  · intro row hrow
    obtain ⟨hmem, heq⟩ := (hchoice row.1 row.2).mp ((Dict.get?_eq_some_iff selected).mpr hrow)
    rw [heq]
    exact hmatch.mem row.1 hmem
  · have hkeys : selected.keys.Perm matcher.expectedCameras.dedup := by
      rw [List.perm_ext_iff_of_nodup selected.keys_nodup (List.nodup_dedup _)]
      intro c
      rw [Dict.mem_keys_iff, List.mem_dedup]
      constructor
      · rintro ⟨frame, hget⟩
        exact ((hchoice c frame).mp hget).1
      · exact fun hmem => ⟨choice c, (hchoice c _).mpr ⟨hmem, rfl⟩⟩
    rw [← hkeys.length_eq, Dict.keys, List.length_map]

theorem settles_emit {selected : Dict String StoredSyncFrame} {spanMs : ℤ}
    (hexpected : matcher.expectedCameras ≠ [])
    (hselect : matcher.selectMinSpanCandidate manager = (some selected, some spanMs, []))
    (identity : CaptureIdentity) (nowMs : ℤ) (freshRunId : String) :
    matcher.Settles manager (twinCount manager selected)
      (matcher.emit manager identity selected spanMs nowMs freshRunId).1
      (matcher.emit manager identity selected spanMs nowMs freshRunId).2.1 := by
  obtain ⟨hbuffered, hrows⟩ := selected_rows hexpected hselect
  have htwins : (selected.rows.map fun row => chosenCount (manager.buffered row.1) row.2).sum =
      twinCount manager selected + selected.rows.length := by
    have hsplit : ∀ rows : List (String × StoredSyncFrame),
        (∀ row ∈ rows, row.2 ∈ manager.buffered row.1) →
        (rows.map fun row => chosenCount (manager.buffered row.1) row.2).sum =
          (rows.map fun row => chosenCount (manager.buffered row.1) row.2 - 1).sum +
            rows.length := by
      intro rows hmem
      induction rows with
      | nil => rfl
      | cons row rows ih =>
          have hpos := chosenCount_pos (hmem row List.mem_cons_self)
          have hrest := ih fun later hlater => hmem later (List.mem_cons_of_mem _ hlater)
          simp only [List.map_cons, List.sum_cons, List.length_cons]
          omega
    exact hsplit selected.rows hbuffered
  have hconsumed : ∀ frameSet : SynchronizedFrameSet,
      matcher.Settles manager (twinCount manager selected)
        ((matcher.entered manager identity selected freshRunId).recordMatch frameSet)
        (manager.consumeThrough selected).1 := by
    intro frameSet
    obtain ⟨hsettled, hcameras⟩ := settledCount_enterCapture
      { matcher with droppedSupersededCount :=
          matcher.droppedSupersededCount + (manager.consumeThrough selected).2 }
      identity freshRunId
    have hrecorded : ((matcher.entered manager identity selected freshRunId).recordMatch
          frameSet).settledCount =
        (matcher.entered manager identity selected freshRunId).settledCount +
          matcher.expectedCameras.dedup.length := by
      have hdistinct : (matcher.entered manager identity selected
          freshRunId).expectedCameras.dedup.length = matcher.expectedCameras.dedup.length :=
        congrArg (fun cameras => cameras.dedup.length) hcameras
      simp only [settledCount, recordMatch, Nat.add_mul, Nat.one_mul, hdistinct]
      omega
    have hentered : (matcher.entered manager identity selected freshRunId).settledCount =
        matcher.settledCount + (manager.consumeThrough selected).2 := by
      rw [entered, hsettled]
      simp only [settledCount]
      omega
    refine ⟨.consumeThrough manager selected, fun c => ?_, manager.consumeThrough_frame selected,
      hcameras, ?_⟩
    · rw [buffered_consumeThrough]
      exact remaining_sublist _ _
    · have hconsumed := manager.bufferedCount_consumeThrough selected hbuffered
      rw [hrecorded, hentered]
      omega
  exact (hconsumed _).trans (settles_dropStaleFrames _ _)

/-- The frames that a call emits: those that the sweep selects for a frame of an expected
camera, unless their identities conflict. -/
def chosen? (matcher : SyncMatcher) (manager : SyncFrameBufferManager)
    (triggerFrame : StoredSyncFrame) : Option (Dict String StoredSyncFrame) :=
  if triggerFrame.deviceId ∈ matcher.expectedCameras then
    match matcher.selectMinSpanCandidate manager with
    | (some selected, some _, []) =>
        match resolveCaptureIdentity selected.values with
        | .ok _ => some selected
        | .error _ => none
    | _ => none
  else none

/-- Whether each frame that a call emits is the only candidate of its key that the emission
takes out. -/
def EmitsSingly (matcher : SyncMatcher) (manager : SyncFrameBufferManager)
    (triggerFrame : StoredSyncFrame) : Prop :=
  ∀ selected, matcher.chosen? manager triggerFrame = some selected →
    ∀ row ∈ selected.rows, chosenCount (manager.buffered row.1) row.2 = 1

/-- The candidates that a call takes out uncounted. -/
def lostCount (matcher : SyncMatcher) (manager : SyncFrameBufferManager)
    (triggerFrame : StoredSyncFrame) : ℕ :=
  ((matcher.chosen? manager triggerFrame).map (twinCount manager)).getD 0

theorem settles_tryMatch (matcher : SyncMatcher) (manager : SyncFrameBufferManager)
    (triggerFrame : StoredSyncFrame) (nowMs : ℤ) (freshRunId : String) :
    matcher.Settles manager (matcher.lostCount manager triggerFrame)
      (matcher.tryMatch manager triggerFrame nowMs freshRunId).1
      (matcher.tryMatch manager triggerFrame nowMs freshRunId).2.1 := by
  unfold tryMatch lostCount chosen?
  by_cases hdevice : triggerFrame.deviceId ∈ matcher.expectedCameras
  · have hexpected := List.ne_nil_of_mem hdevice
    rw [if_neg hexpected, if_neg (not_not.mpr hdevice), if_pos hdevice]
    rcases hselect : matcher.selectMinSpanCandidate manager with ⟨_ | selected, _ | spanMs, _ | _⟩
    case some.some.nil =>
      cases hidentity : resolveCaptureIdentity selected.values with
      | ok identity =>
          simp only [hidentity, Option.map_some, Option.getD_some]
          exact settles_emit hexpected hselect identity nowMs freshRunId
      | error error =>
          cases error with
          | frameScopeConflict reason =>
              simp only [hidentity]
              exact settles_miss matcher manager triggerFrame reason []
          | valueError reason =>
              simp only [hidentity]
              exact .of_same rfl rfl
    all_goals exact settles_miss matcher manager triggerFrame _ _
  · rw [if_neg hdevice]
    by_cases hexpected : matcher.expectedCameras = []
    · rw [if_pos hexpected]
      exact .of_same rfl rfl
    · rw [if_neg hexpected, if_pos hdevice]
      exact .of_same rfl rfl

/-- Nothing is taken out uncounted exactly when the call emits singly. -/
theorem lostCount_eq_zero_iff (matcher : SyncMatcher) (manager : SyncFrameBufferManager)
    (triggerFrame : StoredSyncFrame) :
    matcher.lostCount manager triggerFrame = 0 ↔ matcher.EmitsSingly manager triggerFrame := by
  have hbuffered : ∀ selected, matcher.chosen? manager triggerFrame = some selected →
      ∀ row ∈ selected.rows, row.2 ∈ manager.buffered row.1 := by
    intro selected hchosen
    unfold chosen? at hchosen
    split at hchosen
    case isFalse => cases hchosen
    case isTrue hdevice =>
      split at hchosen
      case h_2 => cases hchosen
      case h_1 hselect =>
        split at hchosen
        case h_2 => cases hchosen
        case h_1 =>
          cases hchosen
          exact (selected_rows (List.ne_nil_of_mem hdevice) hselect).1
  unfold lostCount EmitsSingly
  cases hchosen : matcher.chosen? manager triggerFrame with
  | none => simp
  | some selected =>
      simp only [Option.map_some, Option.getD_some, Option.some.injEq, forall_eq', twinCount,
        List.sum_eq_zero_iff, List.forall_mem_map]
      apply forall₂_congr
      intro row hrow
      have hpos := chosenCount_pos (hbuffered selected hchosen row hrow)
      omega

end SyncMatcher

/-! ## Runs -/

namespace StreamSyncService

/-- Whether the counters of the status balance: each accepted frame is still a candidate, or
was emitted or counted as evicted, stale or superseded. -/
def Accounted (service : StreamSyncService) : Prop :=
  service.bufferManager.receivedCount =
    service.bufferManager.bufferedCount + service.bufferManager.evictedFrameCount +
      (service.matcher.map SyncMatcher.settledCount).getD 0

instance (service : StreamSyncService) : Decidable service.Accounted :=
  inferInstanceAs (Decidable (_ = _))

/-- Whether a call takes no accepted frame out of the buffers uncounted: a frame of another
source finds no candidates of its camera, and what is emitted is in the buffers once. -/
def LosesNothing (service : StreamSyncService) (call : FrameCall) : Prop :=
  ∀ matcher, service.matcher = some matcher → service.Takes call.frame →
    service.bufferManager.KeepsCandidates call.frame ∧
      matcher.EmitsSingly (service.bufferManager.retain call.frame.stored) call.frame.stored

end StreamSyncService

/-- A frame that is not taken is counted as a duplicate or as out of order at most. -/
theorem frameStep_of_not_takes {service : StreamSyncService} {call : FrameCall}
    (htakes : ¬service.Takes call.frame) :
    ∃ duplicates outOfOrder, (frameStep service call).1 = { service with
      bufferManager := { service.bufferManager with
        duplicateFrameCount := duplicates
        outOfOrderFrameCount := outOfOrder } } := by
  unfold frameStep StreamSyncService.handleFrame
  split
  case h_2 => exact ⟨_, _, rfl⟩
  case h_1 matcher henabled hmatcher =>
    have hadmits : ¬service.bufferManager.Admits call.frame := fun hadmits =>
      htakes ⟨henabled, by rw [hmatcher]; rfl, hadmits⟩
    have hnone := (addFrame_of_not_admits hadmits).1
    have hcounted : ∃ duplicates outOfOrder, (service.bufferManager.addFrame call.frame).1 =
        { service.bufferManager with
          duplicateFrameCount := duplicates
          outOfOrderFrameCount := outOfOrder } := by
      unfold addFrame
      dsimp only
      split
      · exact ⟨_, _, rfl⟩
      · split
        · exact ⟨_, _, rfl⟩
        · rename_i hkey horder
          exact absurd ⟨not_not.mp hkey, by simpa using horder⟩ hadmits
    obtain ⟨duplicates, outOfOrder, hmanager⟩ := hcounted
    cases hadd : service.bufferManager.addFrame call.frame with
    | mk manager stored =>
        rw [hadd] at hnone hmanager
        cases hnone
        exact ⟨duplicates, outOfOrder, by rw [← hmanager]⟩

/-- A frame that is taken is retained and given to the matcher. -/
theorem frameStep_of_takes {service : StreamSyncService} {matcher : SyncMatcher}
    {call : FrameCall} (hmatcher : service.matcher = some matcher)
    (htakes : service.Takes call.frame) :
    ∃ (settled : SyncMatcher) (kept : SyncFrameBufferManager),
      (frameStep service call).1 =
        { service with matcher := some settled, bufferManager := kept } ∧
      matcher.Settles (service.bufferManager.retain call.frame.stored)
        (matcher.lostCount (service.bufferManager.retain call.frame.stored) call.frame.stored)
        settled kept := by
  have hstep := (handleFrameWith_of_takes staleRule hmatcher htakes call.nowMs
    call.freshRunId).2
  rw [StreamSyncService.handleFrameWith_staleRule, SyncMatcher.tryMatchWith_staleRule] at hstep
  exact ⟨_, _, congrArg Prod.fst hstep, matcher.settles_tryMatch _ _ _ _⟩

theorem frameStep_bounded {service : StreamSyncService} (call : FrameCall)
    (hbounded : service.bufferManager.Bounded) :
    (frameStep service call).1.bufferManager.Bounded := by
  by_cases htakes : service.Takes call.frame
  · obtain ⟨matcher, hmatcher⟩ := Option.isSome_iff_exists.mp htakes.2.1
    obtain ⟨settled, kept, hstep, hsettles⟩ := frameStep_of_takes hmatcher htakes
    rw [hstep]
    exact (hbounded.retain _).of_sublist hsettles.intake hsettles.sublist
  · obtain ⟨duplicates, outOfOrder, hstep⟩ := frameStep_of_not_takes htakes
    rw [hstep]
    exact ⟨hbounded.maxFrames_eq, hbounded.length_le⟩

/-- One call keeps the balance exactly when it loses nothing. -/
theorem frameStep_accounted {service : StreamSyncService} (call : FrameCall)
    (hbounded : service.bufferManager.Bounded) (haccounted : service.Accounted) :
    (frameStep service call).1.Accounted ↔ service.LosesNothing call := by
  by_cases htakes : service.Takes call.frame
  · obtain ⟨matcher, hmatcher⟩ := Option.isSome_iff_exists.mp htakes.2.1
    obtain ⟨settled, kept, hstep, hsettles⟩ := frameStep_of_takes hmatcher htakes
    obtain ⟨buffers, hkept⟩ := hsettles.frame
    have hreceived : kept.receivedCount = service.bufferManager.receivedCount + 1 := by
      rw [hkept]
      rfl
    have hevicted : kept.evictedFrameCount =
        (service.bufferManager.retain call.frame.stored).evictedFrameCount := by rw [hkept]
    have hbefore : service.bufferManager.receivedCount = service.bufferManager.bufferedCount +
        service.bufferManager.evictedFrameCount + matcher.settledCount := by
      have h := haccounted
      unfold StreamSyncService.Accounted at h
      rwa [hmatcher] at h
    have hloses : service.LosesNothing call ↔
        service.bufferManager.clearedCount call.frame = 0 ∧
          matcher.lostCount (service.bufferManager.retain call.frame.stored)
            call.frame.stored = 0 := by
      rw [clearedCount_eq_zero_iff hbounded, SyncMatcher.lostCount_eq_zero_iff]
      unfold StreamSyncService.LosesNothing
      simp only [hmatcher, Option.some.injEq, forall_eq', htakes, true_imp_iff]
    -- The balance is off by what the two uncounted ways out take.
    have hretained := bufferedCount_retain hbounded call.frame
    have hbalance := hsettles.balance
    rw [hloses, hstep]
    simp only [StreamSyncService.Accounted, Option.map_some, Option.getD_some, hreceived, hevicted]
    omega
  · obtain ⟨duplicates, outOfOrder, hstep⟩ := frameStep_of_not_takes htakes
    have hloses : service.LosesNothing call := fun _ _ h => absurd h htakes
    rw [hstep]
    exact iff_of_true haccounted hloses

theorem accounted_configure {service : StreamSyncService} {enabled : Bool}
    {expectedCameras : List String} {windowMs : ℤ} {bufferSize recentLimit : ℕ} {runId : String}
    (hconfigured : (service.configure enabled expectedCameras windowMs bufferSize recentLimit
      runId).2 = .ok ()) :
    (service.configure enabled expectedCameras windowMs bufferSize recentLimit
        runId).1.bufferManager.Bounded ∧
      (service.configure enabled expectedCameras windowMs bufferSize recentLimit
        runId).1.Accounted := by
  unfold StreamSyncService.configure at hconfigured ⊢
  split
  case isFalse hsize =>
    rw [dif_neg hsize] at hconfigured
    cases hconfigured
  case isTrue =>
    refine ⟨⟨fun _ => rfl, fun _ => Nat.zero_le _⟩, ?_⟩
    cases enabled <;> simp [StreamSyncService.Accounted, bufferedCount, Dict.values,
      SyncMatcher.settledCount]

/-- **The balance of the counters.** In every run of a service that has been configured, all
states are accounted for exactly when every call loses nothing. -/
theorem accounted_iff_losesNothing (service : StreamSyncService) (enabled : Bool)
    (expectedCameras : List String) (windowMs : ℤ) (bufferSize recentLimit : ℕ) (runId : String)
    (hconfigured : (service.configure enabled expectedCameras windowMs bufferSize recentLimit
      runId).2 = .ok ()) (calls : List FrameCall) :
    (∀ e ∈ Machine.history frameStep (service.configure enabled expectedCameras windowMs bufferSize
        recentLimit runId).1 calls, e.after.Accounted) ↔
      Machine.EachStep frameStep (fun _ => StreamSyncService.LosesNothing)
        (service.configure enabled expectedCameras windowMs bufferSize recentLimit runId).1
        calls := by
  have hinit := accounted_configure hconfigured
  rw [← Machine.forall_history_iff frameStep
    (P := fun t => t.bufferManager.Bounded ∧ t.Accounted) (Q := fun _ => True) _ hinit]
  · constructor
    · intro haccounted e he
      obtain ⟨hbounded, hexchange⟩ := Machine.invariant_before_of_mem_history frameStep
        (I := fun t => t.bufferManager.Bounded) hinit.1
        (fun t call => @frameStep_bounded t call) he
      have hafter := frameStep_bounded e.input hbounded
      refine ⟨⟨?_, haccounted e he⟩, trivial⟩
      rw [hexchange]
      exact hafter
    · exact fun h e he => (h e he).1.2
  · rintro t call ⟨hbounded, haccounted⟩
    rw [← frameStep_accounted call hbounded haccounted]
    exact ⟨fun h => h.1.2, fun h => ⟨⟨frameStep_bounded call hbounded, h⟩, trivial⟩⟩

/-! ### A camera that starts a new session -/

/-- The first frame of one session of the left camera. -/
def sessionCall (sourceSessionId : String) (timestampMs : ℤ) : FrameCall where
  frame :=
    { frameId := none
      deviceId := "left"
      timestampMs := timestampMs
      sequence := some 1
      contentType := "image/jpeg"
      imageBytes := [1]
      filePath := none
      sourceSessionId := some sourceSessionId
      cameraStreamId := some "left"
      sourceFrameUid := some (sourceSessionId ++ "/left/1")
      contentDigest := some "digest"
      identityMode := .v2 }
  nowMs := timestampMs
  freshRunId := "run-2"

/-- Two frames of the left camera, which are of one session. -/
def steadyCalls : List FrameCall :=
  [sessionCall "first" 1000, { sessionCall "first" 1100 with
    frame := { (sessionCall "first" 1100).frame with
      sequence := some 2
      sourceFrameUid := some "first/left/2" } }]

theorem accounted_iff_losesNothing_steady :
    (({} : StreamSyncService).configure true ["left", "right"] 50 120 20 "run-1").2 = .ok () ∧
      Machine.EachStep frameStep (fun _ => StreamSyncService.LosesNothing)
        (({} : StreamSyncService).configure true ["left", "right"] 50 120 20 "run-1").1
        steadyCalls :=
  ⟨rfl, (accounted_iff_losesNothing {} true ["left", "right"] 50 120 20 "run-1" rfl
    steadyCalls).mp (by decide +kernel)⟩

/-- The candidate of the first session is cleared, and no counter says so. -/
theorem restarted_session_unaccounted :
    ¬∀ e ∈ Machine.history frameStep
        (({} : StreamSyncService).configure true ["left", "right"] 50 120 20 "run-1").1
        [sessionCall "first" 1000, sessionCall "second" 2000], e.after.Accounted := by
  decide +kernel

/-! ### A frame that is sent again -/

/-- The key of the first frame is forgotten while the frame is still a candidate, so it is
taken a second time. -/
def resentCalls : List FrameCall :=
  [legacyCall "left" 1000, legacyCall "left" 1, legacyCall "right" 1, legacyCall "left" 2,
    legacyCall "right" 2, legacyCall "left" 1000, legacyCall "right" 1000]

example :
    ¬∀ e ∈ Machine.history frameStep
        (({} : StreamSyncService).configure true ["left", "right"] 50 2 20 "run-1").1
        resentCalls, e.after.Accounted := by
  decide +kernel

end ImageStream
