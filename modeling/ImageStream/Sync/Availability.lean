/-
# No available match is left behind

One call of `handle_frame` emits at most one set, and yet no call leaves a match in the
buffers. A frame that is taken completes matches only with itself, and an emission
consumes it. All else that happens to the buffers (a full deque, a change of source, the
dropping of stale frames) only takes frames out.

None of this depends on which frames are dropped as stale. So the calls are restated
with the dropping as a parameter, `DropRule`, and the results are about any rule.
-/

import ImageStream.Base.Matching
import ImageStream.Sync.MinSpanSelect
import ImageStream.Sync.Service

namespace ImageStream

open Base Base.Matching

/-- The buffered frames of every device. -/
def SyncFrameBufferManager.pool (manager : SyncFrameBufferManager) (deviceId : String) :
    Set StoredSyncFrame :=
  {frame | frame ∈ manager.buffered deviceId}

@[simp]
theorem SyncFrameBufferManager.mem_pool {manager : SyncFrameBufferManager} {deviceId : String}
    {frame : StoredSyncFrame} :
    frame ∈ manager.pool deviceId ↔ frame ∈ manager.buffered deviceId := Iff.rfl

/-- One buffered frame for each expected camera, with a span of at most the window. -/
abbrev IsWindowMatch (manager : SyncFrameBufferManager) (expectedCameras : List String)
    (windowMs : ℤ) (choice : String → StoredSyncFrame) : Prop :=
  IsMatch (fun frame : StoredSyncFrame => frame.timestampMs) {c | c ∈ expectedCameras} windowMs
    manager.pool choice

/-- Whether some choice of buffered frames is within the window. -/
def HasMatch (manager : SyncFrameBufferManager) (expectedCameras : List String)
    (windowMs : ℤ) : Prop :=
  ∃ choice, IsWindowMatch manager expectedCameras windowMs choice

/-! ## What the operations do to the buffers -/

namespace SyncFrameBufferManager

theorem buffered_eq (manager : SyncFrameBufferManager) (c : String) :
    manager.buffered c = (manager.bufferOf c).frames := by
  unfold buffered bufferOf
  cases manager.buffers.get? c <;> rfl

theorem buffered_of_buffers {first second : SyncFrameBufferManager}
    (h : first.buffers = second.buffers) (c : String) : first.buffered c = second.buffered c := by
  unfold buffered
  rw [h]

theorem buffered_set {manager result : SyncFrameBufferManager} {deviceId : String}
    {buffer : CameraSyncBuffer} (h : result.buffers = manager.buffers.set deviceId buffer)
    (c : String) :
    result.buffered c = if c = deviceId then buffer.frames else manager.buffered c := by
  unfold buffered
  rw [h, Dict.get?_set]
  by_cases hc : c = deviceId
  · rw [if_pos hc, if_pos hc]
  · rw [if_neg hc, if_neg hc]

theorem buffered_retain (manager : SyncFrameBufferManager) (stored : StoredSyncFrame)
    (c : String) :
    (manager.retain stored).buffered c =
      if c = stored.deviceId then ((manager.bufferOf c).append stored).frames
      else manager.buffered c := by
  obtain ⟨retainedKeys, hbuffers⟩ := manager.buffers_retain stored
  rw [buffered_set hbuffers]
  by_cases hc : c = stored.deviceId
  · rw [if_pos hc, if_pos hc, hc]
  · rw [if_neg hc, if_neg hc]

/-- A retained frame is the only one that is new. -/
theorem pool_retain (manager : SyncFrameBufferManager) (stored : StoredSyncFrame) :
    GrownBy manager.pool (manager.retain stored).pool stored.deviceId stored := by
  intro c frame hframe
  have hmem : frame ∈ (manager.retain stored).buffered c := hframe
  rw [buffered_retain] at hmem
  split at hmem
  case isTrue hc =>
    have hsub := ((manager.bufferOf c).frames_append_sublist stored).subset hmem
    rw [← buffered_eq, List.mem_append, List.mem_singleton] at hsub
    exact hsub.imp_right fun heq => ⟨hc, heq⟩
  case isFalse => exact Or.inl hmem

theorem buffered_dropCamera (timestampMs : ℤ) (excluded : List String)
    (state : SyncFrameBufferManager × ℕ) (deviceId c : String) :
    (dropCamera timestampMs excluded state deviceId).1.buffered c =
      if c = deviceId then
        (state.1.buffered c).filter fun frame => timestampMs ≤ frame.timestampMs
      else state.1.buffered c := by
  cases hget : state.1.buffers.get? deviceId with
  | none =>
      by_cases hc : c = deviceId
      · simp [dropCamera, buffered, hc, hget]
      · simp [dropCamera, hc, hget]
  | some buffer =>
      have hbuffers : (dropCamera timestampMs excluded state deviceId).1.buffers =
          state.1.buffers.set deviceId (buffer.dropFramesOlderThan timestampMs excluded).1 := by
        simp [dropCamera, hget]
      rw [buffered_set hbuffers]
      by_cases hc : c = deviceId
      · simp [buffered, hc, hget, CameraSyncBuffer.dropFramesOlderThan]
      · rw [if_neg hc, if_neg hc]

/-- The frames before the time are taken out of these devices' buffers. -/
theorem buffered_dropFramesOlderThan (manager : SyncFrameBufferManager)
    (deviceIds : List String) (timestampMs : ℤ) (excluded : List String) (c : String) :
    (manager.dropFramesOlderThan deviceIds timestampMs excluded).1.buffered c =
      if c ∈ deviceIds then
        (manager.buffered c).filter fun frame => timestampMs ≤ frame.timestampMs
      else manager.buffered c := by
  unfold dropFramesOlderThan
  induction deviceIds using List.reverseRecOn with
  | nil => rfl
  | append_singleton deviceIds deviceId ih =>
      rw [List.foldl_concat, buffered_dropCamera, ih]
      rcases eq_or_ne c deviceId with rfl | hc
      · by_cases hmem : c ∈ deviceIds
        · simp [hmem]
        · simp [hmem]
      · simp [hc]

/-- What a consumption leaves of one device's frames. -/
def remaining (frames : List StoredSyncFrame) : Option StoredSyncFrame → List StoredSyncFrame
  | some chosen => frames.filter fun frame => chosen.timestampMs < frame.timestampMs
  | none => frames

theorem remaining_sublist (frames : List StoredSyncFrame) (chosen : Option StoredSyncFrame) :
    (remaining frames chosen).Sublist frames := by
  cases chosen with
  | none => exact List.Sublist.refl _
  | some chosen => exact List.filter_sublist

theorem buffered_consumeCamera (state : SyncFrameBufferManager × ℕ)
    (chosen : String × StoredSyncFrame) (c : String) :
    (consumeCamera state chosen).1.buffered c =
      remaining (state.1.buffered c) (if c = chosen.1 then some chosen.2 else none) := by
  cases hget : state.1.buffers.get? chosen.1 with
  | none =>
      by_cases hc : c = chosen.1
      · simp [consumeCamera, buffered, hc, hget, remaining]
      · simp [consumeCamera, hc, hget, remaining]
  | some buffer =>
      have hbuffers : (consumeCamera state chosen).1.buffers =
          state.1.buffers.set chosen.1 (buffer.consumeThrough chosen.2).1 := by
        simp [consumeCamera, hget]
      rw [buffered_set hbuffers]
      by_cases hc : c = chosen.1
      · simp [buffered, hc, hget, remaining, CameraSyncBuffer.consumeThrough]
      · simp [hc, remaining]

/-- The frames up to the selected one are taken out of every selected device's buffer. -/
theorem buffered_consumeThrough (manager : SyncFrameBufferManager)
    (selected : Dict String StoredSyncFrame) (c : String) :
    (manager.consumeThrough selected).1.buffered c =
      remaining (manager.buffered c) (selected.get? c) := by
  have hrows : ∀ (rows : List (String × StoredSyncFrame)) (state : SyncFrameBufferManager × ℕ),
      (rows.map Prod.fst).Nodup → ∀ chosen : Option StoredSyncFrame,
      (∀ frame, chosen = some frame ↔ (c, frame) ∈ rows) →
      (rows.foldl consumeCamera state).1.buffered c = remaining (state.1.buffered c) chosen := by
    intro rows
    induction rows with
    | nil =>
        intro state _ chosen hchosen
        have hnone : chosen = none := Option.eq_none_iff_forall_ne_some.mpr fun frame h =>
          List.not_mem_nil ((hchosen frame).mp h)
        rw [hnone]
        rfl
    | cons row rows ih =>
        intro state hnodup chosen hchosen
        rw [List.map_cons, List.nodup_cons] at hnodup
        by_cases hc : c = row.1
        · -- The row of this device is the only one, so the later rows leave it alone.
          have hsome : chosen = some row.2 := by
            rw [hchosen, hc]
            exact List.mem_cons_self
          rw [List.foldl_cons, ih _ hnodup.2 none, buffered_consumeCamera, if_pos hc, hsome]
          · rfl
          · intro frame
            refine ⟨fun h => (by cases h), fun hmem => absurd ?_ hnodup.1⟩
            rw [← hc]
            exact List.mem_map_of_mem hmem
        · rw [List.foldl_cons, ih _ hnodup.2 chosen, buffered_consumeCamera, if_neg hc]
          · rfl
          · intro frame
            rw [hchosen, List.mem_cons]
            refine ⟨fun h => h.resolve_left fun heq => hc ?_, Or.inr⟩
            rw [← heq]
  exact hrows selected.rows (manager, 0) selected.keys_nodup _ fun frame =>
    selected.get?_eq_some_iff

end SyncFrameBufferManager

theorem HasMatch.mono {manager smaller : SyncFrameBufferManager} {expectedCameras : List String}
    {windowMs : ℤ} (h : HasMatch smaller expectedCameras windowMs)
    (hsub : ∀ c, (smaller.buffered c).Sublist (manager.buffered c)) :
    HasMatch manager expectedCameras windowMs :=
  Matchable.mono h fun c _ _ hframe => (hsub c).subset hframe

/-! ## The calls with the dropping as a parameter -/

/-- What later sets are made by: everything in a matcher but its statistics. -/
structure SyncMatcher.SameCourse (first second : SyncMatcher) : Prop extends
    first.SameSets second where
  windowMs : second.windowMs = first.windowMs
  recentLimit : second.recentLimit = first.recentLimit
  captureSessionId : second.captureSessionId = first.captureSessionId
  captureConfigKey : second.captureConfigKey = first.captureConfigKey
  authorizationKey : second.authorizationKey = first.authorizationKey
  lastSynchronizedAtMs : second.lastSynchronizedAtMs = first.lastSynchronizedAtMs

theorem SyncMatcher.SameCourse.trans {first second third : SyncMatcher}
    (h : first.SameCourse second) (h' : second.SameCourse third) : first.SameCourse third where
  expectedCameras := h'.expectedCameras.trans h.expectedCameras
  recentFrameSets := h'.recentFrameSets.trans h.recentFrameSets
  captureRunId := h'.captureRunId.trans h.captureRunId
  nextFrameSetId := h'.nextFrameSetId.trans h.nextFrameSetId
  windowMs := h'.windowMs.trans h.windowMs
  recentLimit := h'.recentLimit.trans h.recentLimit
  captureSessionId := h'.captureSessionId.trans h.captureSessionId
  captureConfigKey := h'.captureConfigKey.trans h.captureConfigKey
  authorizationKey := h'.authorizationKey.trans h.authorizationKey
  lastSynchronizedAtMs := h'.lastSynchronizedAtMs.trans h.lastSynchronizedAtMs

/-- A way of dropping frames at the end of a call: it only takes frames out of the
buffers and counts. -/
structure DropRule where
  drop : SyncMatcher → SyncFrameBufferManager → SyncMatcher × SyncFrameBufferManager
  sameCourse : ∀ (matcher : SyncMatcher) (manager : SyncFrameBufferManager),
    matcher.SameCourse (drop matcher manager).1
  buffered_sublist : ∀ (matcher : SyncMatcher) (manager : SyncFrameBufferManager) (c : String),
    ((drop matcher manager).2.buffered c).Sublist (manager.buffered c)

theorem SyncMatcher.dropStaleFrames_sameCourse (matcher : SyncMatcher)
    (manager : SyncFrameBufferManager) :
    matcher.SameCourse (matcher.dropStaleFrames manager).1 := by
  unfold dropStaleFrames
  dsimp only
  split
  · exact ⟨⟨rfl, rfl, rfl, rfl⟩, rfl, rfl, rfl, rfl, rfl, rfl⟩
  · exact ⟨⟨rfl, rfl, rfl, rfl⟩, rfl, rfl, rfl, rfl, rfl, rfl⟩

theorem SyncMatcher.dropStaleFrames_sublist (matcher : SyncMatcher)
    (manager : SyncFrameBufferManager) (c : String) :
    ((matcher.dropStaleFrames manager).2.buffered c).Sublist (manager.buffered c) := by
  unfold dropStaleFrames
  dsimp only
  split
  · exact List.Sublist.refl _
  · rw [SyncFrameBufferManager.buffered_dropFramesOlderThan]
    split
    · exact List.filter_sublist
    · exact List.Sublist.refl _

/-- `_drop_stale_frames`. -/
def staleRule : DropRule where
  drop := SyncMatcher.dropStaleFrames
  sameCourse := SyncMatcher.dropStaleFrames_sameCourse
  buffered_sublist := SyncMatcher.dropStaleFrames_sublist

/-- `_drop_stale_frames` replaced by a no-op. -/
def keepRule : DropRule where
  drop := fun matcher manager => (matcher, manager)
  sameCourse := fun _ _ => ⟨⟨rfl, rfl, rfl, rfl⟩, rfl, rfl, rfl, rfl, rfl, rfl⟩
  buffered_sublist := fun _ _ _ => List.Sublist.refl _

section Calls

variable (rule : DropRule)

namespace SyncMatcher

def missWith (matcher : SyncMatcher) (manager : SyncFrameBufferManager)
    (triggerFrame : StoredSyncFrame) (reason : String) (missing : List String) :
    SyncMatcher × SyncFrameBufferManager × Except ValueError (Option SynchronizedFrameSet) :=
  let (matcher, manager) := rule.drop (matcher.recordMiss triggerFrame reason missing) manager
  (matcher, manager, .ok none)

def emitWith (matcher : SyncMatcher) (manager : SyncFrameBufferManager)
    (identity : CaptureIdentity) (selected : Dict String StoredSyncFrame) (spanMs nowMs : ℤ)
    (freshRunId : String) :
    SyncMatcher × SyncFrameBufferManager × Except ValueError (Option SynchronizedFrameSet) :=
  let (consumed, superseded) := manager.consumeThrough selected
  let counted : SyncMatcher := { matcher with
    droppedSupersededCount := matcher.droppedSupersededCount + superseded }
  let entered := counted.enterCapture identity freshRunId
  let frameSet := entered.buildFrameSet identity selected spanMs
    (max nowMs (matcher.lastSynchronizedAtMs + 1))
  let (finished, kept) := rule.drop (entered.recordMatch frameSet) consumed
  (finished, kept, .ok (some frameSet))

def tryMatchWith (matcher : SyncMatcher) (manager : SyncFrameBufferManager)
    (triggerFrame : StoredSyncFrame) (nowMs : ℤ) (freshRunId : String) :
    SyncMatcher × SyncFrameBufferManager × Except ValueError (Option SynchronizedFrameSet) :=
  if matcher.expectedCameras = [] then
    (matcher.recordMiss triggerFrame "expected cameras are not configured" [], manager, .ok none)
  else if triggerFrame.deviceId ∉ matcher.expectedCameras then
    ({ matcher with
        ignoredCount := matcher.ignoredCount + 1
        lastAnchorTimestampMs := some triggerFrame.timestampMs
        lastMissingCameras := []
        lastReason := some ("unexpected camera: " ++ triggerFrame.deviceId) },
      manager, .ok none)
  else
    match matcher.selectMinSpanCandidate manager with
    | (_, _, missing@(_ :: _)) =>
        matcher.missWith rule manager triggerFrame "missing cameras inside sync window" missing
    | (some selected, some spanMs, []) =>
        match resolveCaptureIdentity selected.values with
        | .error (.frameScopeConflict reason) =>
            matcher.missWith rule manager triggerFrame reason []
        | .error (.valueError reason) => (matcher, manager, .error reason)
        | .ok identity => matcher.emitWith rule manager identity selected spanMs nowMs freshRunId
    | _ => matcher.missWith rule manager triggerFrame "no frame set inside sync window" []

/-- With the rule of the code the call is the one of the code. -/
theorem tryMatchWith_staleRule : tryMatchWith staleRule = tryMatch := rfl

end SyncMatcher

def StreamSyncService.handleFrameWith (service : StreamSyncService) (frame : SyncInputFrame)
    (nowMs : ℤ) (freshRunId : String) :
    StreamSyncService × Except ValueError (Option SynchronizedFrameSet) :=
  match service.enabled, service.matcher with
  | true, some matcher =>
      match service.bufferManager.addFrame frame with
      | (manager, none) => ({ service with bufferManager := manager }, .ok none)
      | (manager, some stored) =>
          let (matched, kept, answer) :=
            matcher.tryMatchWith rule manager stored nowMs freshRunId
          ({ service with matcher := some matched, bufferManager := kept }, answer)
  | _, _ => (service, .ok none)

theorem StreamSyncService.handleFrameWith_staleRule :
    StreamSyncService.handleFrameWith staleRule = StreamSyncService.handleFrame := rfl

end Calls

/-! ## What a call does -/

/-- What resolving the selection raises. A scope conflict is caught by the caller. -/
def SyncMatcher.raised? (matcher : SyncMatcher) (manager : SyncFrameBufferManager)
    (triggerFrame : StoredSyncFrame) : Option MatchError :=
  if triggerFrame.deviceId ∈ matcher.expectedCameras then
    match matcher.selectMinSpanCandidate manager with
    | (some selected, some _, []) =>
        match resolveCaptureIdentity selected.values with
        | .error raised => some raised
        | .ok _ => none
    | _ => none
  else
    none

/-- What resolving the selection of a call raises. -/
def StreamSyncService.raised? (service : StreamSyncService) (frame : SyncInputFrame) :
    Option MatchError :=
  match service.enabled, service.matcher with
  | true, some matcher =>
      match service.bufferManager.addFrame frame with
      | (manager, some stored) => matcher.raised? manager stored
      | (_, none) => none
  | _, _ => none

/-- The ways that a call of the matcher goes, with what it raises and what it leaves. -/
inductive MatchCase (rule : DropRule) (matcher : SyncMatcher) (manager : SyncFrameBufferManager)
    (triggerFrame : StoredSyncFrame) (nowMs : ℤ) (freshRunId : String) : Option MatchError →
      SyncMatcher × SyncFrameBufferManager × Except ValueError (Option SynchronizedFrameSet) → Prop
  | unexpected (hdevice : triggerFrame.deviceId ∉ matcher.expectedCameras)
      (recorded : SyncMatcher) (hrecorded : matcher.SameCourse recorded) :
      MatchCase rule matcher manager triggerFrame nowMs freshRunId none
        (recorded, manager, .ok none)
  | missed (hdevice : triggerFrame.deviceId ∈ matcher.expectedCameras)
      (hselect : ∀ selected spanMs,
        matcher.selectMinSpanCandidate manager ≠ (some selected, some spanMs, []))
      (recorded : SyncMatcher) (hrecorded : matcher.SameCourse recorded) :
      MatchCase rule matcher manager triggerFrame nowMs freshRunId none
        ((rule.drop recorded manager).1, (rule.drop recorded manager).2, .ok none)
  | conflict (selected : Dict String StoredSyncFrame) (spanMs : ℤ)
      (hselect : matcher.selectMinSpanCandidate manager = (some selected, some spanMs, []))
      (reason : String) (recorded : SyncMatcher) (hrecorded : matcher.SameCourse recorded) :
      MatchCase rule matcher manager triggerFrame nowMs freshRunId
        (some (.frameScopeConflict reason))
        ((rule.drop recorded manager).1, (rule.drop recorded manager).2, .ok none)
  | raised (selected : Dict String StoredSyncFrame) (spanMs : ℤ)
      (hselect : matcher.selectMinSpanCandidate manager = (some selected, some spanMs, []))
      (reason : ValueError) :
      MatchCase rule matcher manager triggerFrame nowMs freshRunId (some (.valueError reason))
        (matcher, manager, .error reason)
  | emitted (hdevice : triggerFrame.deviceId ∈ matcher.expectedCameras)
      (selected : Dict String StoredSyncFrame) (spanMs : ℤ) (identity : CaptureIdentity)
      (hselect : matcher.selectMinSpanCandidate manager = (some selected, some spanMs, []))
      (hidentity : resolveCaptureIdentity selected.values = .ok identity) :
      MatchCase rule matcher manager triggerFrame nowMs freshRunId none
        (matcher.emitWith rule manager identity selected spanMs nowMs freshRunId)

theorem SyncMatcher.recordMiss_sameCourse (matcher : SyncMatcher)
    (triggerFrame : StoredSyncFrame) (reason : String) (missing : List String) :
    matcher.SameCourse (matcher.recordMiss triggerFrame reason missing) :=
  ⟨⟨rfl, rfl, rfl, rfl⟩, rfl, rfl, rfl, rfl, rfl, rfl⟩

theorem tryMatchWith_case (rule : DropRule) (matcher : SyncMatcher)
    (manager : SyncFrameBufferManager) (triggerFrame : StoredSyncFrame) (nowMs : ℤ)
    (freshRunId : String) :
    MatchCase rule matcher manager triggerFrame nowMs freshRunId
      (matcher.raised? manager triggerFrame)
      (matcher.tryMatchWith rule manager triggerFrame nowMs freshRunId) := by
  unfold SyncMatcher.raised? SyncMatcher.tryMatchWith
  by_cases hdevice : triggerFrame.deviceId ∈ matcher.expectedCameras
  · rw [if_pos hdevice, if_neg (List.ne_nil_of_mem hdevice), if_neg (not_not.mpr hdevice)]
    have hmiss := matcher.recordMiss_sameCourse triggerFrame
    rcases hselect : matcher.selectMinSpanCandidate manager with ⟨_ | selected, _ | spanMs, _ | _⟩
    case some.some.nil =>
      cases hidentity : resolveCaptureIdentity selected.values with
      | ok identity =>
          simp only [hidentity]
          exact .emitted hdevice selected spanMs identity hselect hidentity
      | error error =>
          cases error with
          | frameScopeConflict reason =>
              simp only [hidentity]
              exact .conflict selected spanMs hselect reason _ (hmiss reason [])
          | valueError reason =>
              simp only [hidentity]
              exact .raised selected spanMs hselect reason
    all_goals
      exact .missed hdevice (fun _ _ h => by rw [hselect] at h; cases h) _ (hmiss _ _)
  · rw [if_neg hdevice]
    by_cases hexpected : matcher.expectedCameras = []
    · rw [if_pos hexpected]
      exact .unexpected hdevice _ (matcher.recordMiss_sameCourse _ _ _)
    · rw [if_neg hexpected, if_pos hdevice]
      exact .unexpected hdevice _ ⟨⟨rfl, rfl, rfl, rfl⟩, rfl, rfl, rfl, rfl, rfl, rfl⟩

section Takes

variable {service : StreamSyncService} {frame : SyncInputFrame}

/-- A frame that the service takes is retained and given to the matcher. -/
theorem handleFrameWith_of_takes (rule : DropRule) {matcher : SyncMatcher}
    (hmatcher : service.matcher = some matcher) (htakes : service.Takes frame) (nowMs : ℤ)
    (freshRunId : String) :
    service.raised? frame =
        matcher.raised? (service.bufferManager.retain frame.stored) frame.stored ∧
      service.handleFrameWith rule frame nowMs freshRunId =
        let result := matcher.tryMatchWith rule (service.bufferManager.retain frame.stored)
          frame.stored nowMs freshRunId
        ({ service with matcher := some result.1, bufferManager := result.2.1 }, result.2.2) := by
  obtain ⟨henabled, -, hadmits⟩ := htakes
  unfold StreamSyncService.raised? StreamSyncService.handleFrameWith
  rw [henabled, hmatcher, SyncFrameBufferManager.addFrame_of_admits hadmits]
  exact ⟨rfl, rfl⟩

/-- Any other frame changes neither the buffers nor the index, and raises nothing. -/
theorem handleFrameWith_of_not_takes (rule : DropRule) (htakes : ¬service.Takes frame)
    (nowMs : ℤ) (freshRunId : String) :
    service.raised? frame = none ∧ ∃ manager : SyncFrameBufferManager,
      manager.buffers = service.bufferManager.buffers ∧
      manager.framesByKey = service.bufferManager.framesByKey ∧
      manager.bufferSize = service.bufferManager.bufferSize ∧
      service.handleFrameWith rule frame nowMs freshRunId =
        ({ service with bufferManager := manager }, .ok none) := by
  unfold StreamSyncService.raised? StreamSyncService.handleFrameWith
  split
  case h_2 => exact ⟨rfl, service.bufferManager, rfl, rfl, rfl, rfl⟩
  case h_1 matcher henabled hmatcher =>
    have hadmits : ¬service.bufferManager.Admits frame := by
      intro hadmits
      apply htakes
      exact ⟨henabled, by rw [hmatcher]; rfl, hadmits⟩
    obtain ⟨hnone, hbuffers, hindex⟩ := SyncFrameBufferManager.addFrame_of_not_admits hadmits
    have hsize : (service.bufferManager.addFrame frame).1.bufferSize =
        service.bufferManager.bufferSize := by
      unfold SyncFrameBufferManager.addFrame
      dsimp only
      split
      · rfl
      · split <;> rfl
    cases hadd : service.bufferManager.addFrame frame with
    | mk manager stored =>
        rw [hadd] at hnone hbuffers hindex hsize
        cases hnone
        exact ⟨rfl, manager, hbuffers, hindex, hsize, rfl⟩

end Takes

/-- A call raises an error exactly when resolving its selection does, scope conflicts
excepted. -/
theorem raised?_eq_valueError_iff (service : StreamSyncService) (frame : SyncInputFrame)
    (nowMs : ℤ) (freshRunId : String) (reason : ValueError) :
    service.raised? frame = some (.valueError reason) ↔
      (service.handleFrame frame nowMs freshRunId).2 = .error reason := by
  rw [← StreamSyncService.handleFrameWith_staleRule]
  by_cases htakes : service.Takes frame
  · obtain ⟨matcher, hmatcher⟩ := Option.isSome_iff_exists.mp htakes.2.1
    obtain ⟨hraised, hresult⟩ :=
      handleFrameWith_of_takes staleRule hmatcher htakes nowMs freshRunId
    rw [hraised, hresult]
    have hcase := tryMatchWith_case staleRule matcher
      (service.bufferManager.retain frame.stored) frame.stored nowMs freshRunId
    generalize matcher.raised? (service.bufferManager.retain frame.stored) frame.stored = raised
      at hcase ⊢
    generalize matcher.tryMatchWith staleRule (service.bufferManager.retain frame.stored)
      frame.stored nowMs freshRunId = result at hcase ⊢
    cases hcase with
    | unexpected => simp
    | missed => simp
    | conflict => simp
    | raised => simp
    | emitted => simp [SyncMatcher.emitWith]
  · obtain ⟨hraised, manager, -, -, -, hresult⟩ :=
      handleFrameWith_of_not_takes staleRule htakes nowMs freshRunId
    simp [hraised, hresult]

/-! ## The selection and the match -/

theorem availableFrames_ne_nil {expectedCameras : List String}
    {manager : SyncFrameBufferManager} (h : missingCameras expectedCameras manager = []) :
    ∀ c ∈ expectedCameras, manager.availableFrames c [] ≠ [] := by
  intro c hc hnil
  have hmem : c ∈ missingCameras expectedCameras manager :=
    List.mem_filter.mpr ⟨hc, decide_eq_true hnil⟩
  rw [h] at hmem
  cases hmem

theorem mem_toFinset_eq (expectedCameras : List String) :
    (expectedCameras.toFinset : Set String) = {c | c ∈ expectedCameras} := by
  ext c
  simp

/-- A selection is a match, frame by frame. -/
theorem isWindowMatch_of_select {matcher : SyncMatcher} {manager : SyncFrameBufferManager}
    (hexpected : matcher.expectedCameras ≠ []) {selected : Dict String StoredSyncFrame}
    {spanMs : ℤ} (h : matcher.selectMinSpanCandidate manager = (some selected, some spanMs, [])) :
    ∃ choice, IsWindowMatch manager matcher.expectedCameras matcher.windowMs choice ∧
      ∀ c frame, selected.get? c = some frame ↔
        c ∈ matcher.expectedCameras ∧ frame = choice c := by
  dsimp only [SyncMatcher.selectMinSpanCandidate] at h
  split at h
  case isTrue => cases h
  case isFalse hnone =>
    rw [not_not] at hnone
    have hne : matcher.expectedCameras.toFinset.Nonempty :=
      (List.toFinset_nonempty_iff _).mpr hexpected
    obtain ⟨frames, spanMs', choice, hbest, hexact⟩ :=
      exists_best hexpected (availableFrames_ne_nil hnone) hne
    simp only [hbest] at h
    split at h
    · cases h
    case isFalse hwithin =>
      cases h
      refine ⟨choice, ⟨hexact.isChoice, ?_⟩, hexact.selected⟩
      rw [← mem_toFinset_eq, ← span_le_iff hne]
      rw [not_lt, hexact.span_eq] at hwithin
      exact hwithin

/-- Where there is a match, something is selected. -/
theorem select_of_hasMatch {matcher : SyncMatcher} {manager : SyncFrameBufferManager}
    (hexpected : matcher.expectedCameras ≠ [])
    (h : HasMatch manager matcher.expectedCameras matcher.windowMs) :
    ∃ selected spanMs,
      matcher.selectMinSpanCandidate manager = (some selected, some spanMs, []) := by
  obtain ⟨choice, hmem, hwithin⟩ := h
  have hmissing : missingCameras matcher.expectedCameras manager = [] := by
    apply List.filter_eq_nil_iff.mpr
    intro c hc hnil
    have hbuffered := (manager.availableFrames_eq_nil c).mp (of_decide_eq_true hnil)
    have hframe : choice c ∈ manager.buffered c := hmem c hc
    rw [hbuffered] at hframe
    cases hframe
  have hne : matcher.expectedCameras.toFinset.Nonempty :=
    (List.toFinset_nonempty_iff _).mpr hexpected
  obtain ⟨selected, spanMs, best, hbest, hexact⟩ :=
    exists_best hexpected (availableFrames_ne_nil hmissing) hne
  have hspan : spanMs ≤ matcher.windowMs := by
    rw [← mem_toFinset_eq] at hwithin
    exact (hexact.minimal choice hmem).trans ((span_le_iff hne).mpr hwithin)
  refine ⟨selected, spanMs, ?_⟩
  simp [SyncMatcher.selectMinSpanCandidate, hmissing, hbest, not_lt_of_ge hspan]

/-! ## One call -/

/-- What the configuration of a service fixes for all of its calls. -/
def ConfiguredFor (service : StreamSyncService) (expectedCameras : List String) (windowMs : ℤ) :
    Prop :=
  ∀ matcher, service.matcher = some matcher →
    matcher.expectedCameras = expectedCameras ∧ matcher.windowMs = windowMs

/-- Whether a frame that is taken completes a match. -/
def Completes (service : StreamSyncService) (frame : SyncInputFrame)
    (expectedCameras : List String) (windowMs : ℤ) : Prop :=
  service.Takes frame ∧ frame.deviceId ∈ expectedCameras ∧
    ∃ choice, IsWindowMatch (service.bufferManager.retain frame.stored) expectedCameras windowMs
      choice ∧ choice frame.deviceId = frame.stored

/-- What holds after a call: no match is left, and a set was emitted if the frame
completed one. -/
structure Drained (service : StreamSyncService) (frame : SyncInputFrame)
    (expectedCameras : List String) (windowMs : ℤ)
    (result : StreamSyncService × Except ValueError (Option SynchronizedFrameSet)) : Prop where
  configured : ConfiguredFor result.1 expectedCameras windowMs
  no_match : ¬HasMatch result.1.bufferManager expectedCameras windowMs
  emitted_iff : (∃ frameSet, result.2 = .ok (some frameSet)) ↔
    Completes service frame expectedCameras windowMs

theorem SyncMatcher.enterCapture_settings (matcher : SyncMatcher) (identity : CaptureIdentity)
    (freshRunId : String) :
    (matcher.enterCapture identity freshRunId).expectedCameras = matcher.expectedCameras ∧
      (matcher.enterCapture identity freshRunId).windowMs = matcher.windowMs := by
  unfold enterCapture
  dsimp only
  split <;> split <;> exact ⟨rfl, rfl⟩

theorem SyncMatcher.emitWith_settings (rule : DropRule) (matcher : SyncMatcher)
    (manager : SyncFrameBufferManager) (identity : CaptureIdentity)
    (selected : Dict String StoredSyncFrame) (spanMs nowMs : ℤ) (freshRunId : String) :
    let finished := (matcher.emitWith rule manager identity selected spanMs nowMs freshRunId).1
    finished.expectedCameras = matcher.expectedCameras ∧ finished.windowMs = matcher.windowMs := by
  intro finished
  obtain ⟨⟨hexpected, -, -, -⟩, hwindow, -⟩ := rule.sameCourse _ _
  obtain ⟨hexpected', hwindow'⟩ := SyncMatcher.enterCapture_settings
    { matcher with
      droppedSupersededCount :=
        matcher.droppedSupersededCount + (manager.consumeThrough selected).2 }
    identity freshRunId
  exact ⟨hexpected.trans hexpected', hwindow.trans hwindow'⟩

/-- **One call.** When there is no match before a call that raises nothing, there is
none after it, and a set is emitted exactly when the frame completes a match. -/
theorem drained_handleFrameWith (rule : DropRule) {service : StreamSyncService}
    {frame : SyncInputFrame} {expectedCameras : List String} {windowMs : ℤ} (nowMs : ℤ)
    (freshRunId : String) (hconfigured : ConfiguredFor service expectedCameras windowMs)
    (hnone : ¬HasMatch service.bufferManager expectedCameras windowMs)
    (hraised : service.raised? frame = none) :
    Drained service frame expectedCameras windowMs
      (service.handleFrameWith rule frame nowMs freshRunId) := by
  by_cases htakes : service.Takes frame
  · obtain ⟨matcher, hmatcher⟩ := Option.isSome_iff_exists.mp htakes.2.1
    obtain ⟨rfl, rfl⟩ := hconfigured matcher hmatcher
    obtain ⟨hraised', hresult⟩ := handleFrameWith_of_takes rule hmatcher htakes nowMs freshRunId
    have hgrown := service.bufferManager.pool_retain frame.stored
    have hcase := tryMatchWith_case rule matcher
      (service.bufferManager.retain frame.stored) frame.stored nowMs freshRunId
    rw [← hraised', hraised] at hcase
    rw [hresult]
    generalize hmanager : service.bufferManager.retain frame.stored = manager at hcase hgrown ⊢
    generalize matcher.tryMatchWith rule manager frame.stored nowMs freshRunId = result at hcase ⊢
    have hcompletes : Completes service frame matcher.expectedCameras matcher.windowMs ↔
        HasMatch manager matcher.expectedCameras matcher.windowMs := by
      constructor
      · rintro ⟨-, -, choice, hchoice, -⟩
        rw [← hmanager]
        exact ⟨choice, hchoice⟩
      · rintro ⟨choice, hchoice⟩
        obtain ⟨hdevice, hnew⟩ := hchoice.uses_new hnone hgrown
        rw [← hmanager] at hchoice
        exact ⟨htakes, hdevice, choice, hchoice, hnew⟩
    cases hcase with
    | unexpected hdevice recorded hrecorded =>
        have hno : ¬HasMatch manager matcher.expectedCameras matcher.windowMs := by
          rintro ⟨choice, hchoice⟩
          exact hdevice (hchoice.uses_new hnone hgrown).1
        refine ⟨?_, hno, ?_⟩
        · intro later hlater
          cases hlater
          exact ⟨hrecorded.expectedCameras, hrecorded.windowMs⟩
        · rw [hcompletes]
          simp [hno]
    | missed hdevice hselect recorded hrecorded =>
        have hno : ¬HasMatch manager matcher.expectedCameras matcher.windowMs := by
          intro hmatch
          obtain ⟨selected, spanMs, hselected⟩ :=
            select_of_hasMatch (List.ne_nil_of_mem hdevice) hmatch
          exact hselect selected spanMs hselected
        refine ⟨?_, fun h => hno (h.mono (rule.buffered_sublist recorded manager)), ?_⟩
        · intro later hlater
          cases hlater
          have hdropped := rule.sameCourse recorded manager
          exact ⟨hdropped.expectedCameras.trans hrecorded.expectedCameras,
            hdropped.windowMs.trans hrecorded.windowMs⟩
        · rw [hcompletes]
          simp [hno]
    | emitted hdevice selected spanMs identity hselect hidentity =>
        obtain ⟨choice, hchoice, hselected⟩ :=
          isWindowMatch_of_select (List.ne_nil_of_mem hdevice) hselect
        obtain ⟨-, hnew⟩ := hchoice.uses_new hnone hgrown
        refine ⟨?_, ?_, ?_⟩
        · intro later hlater
          cases hlater
          exact matcher.emitWith_settings rule manager identity selected spanMs nowMs freshRunId
        · -- The match used the new frame, and the consumption has taken it out.
          intro hmatch
          have hconsumed : HasMatch (manager.consumeThrough selected).1 matcher.expectedCameras
              matcher.windowMs := hmatch.mono (rule.buffered_sublist _ _)
          apply not_matchable_of_taken hnone hgrown _ _ hconsumed
          · intro c _ left hleft
            have hmem : left ∈ (manager.consumeThrough selected).1.buffered c := hleft
            rw [SyncFrameBufferManager.buffered_consumeThrough] at hmem
            exact (SyncFrameBufferManager.remaining_sublist _ _).subset hmem
          · intro htaken
            have hmem : frame.stored ∈
                (manager.consumeThrough selected).1.buffered frame.stored.deviceId := htaken
            rw [SyncFrameBufferManager.buffered_consumeThrough,
              (hselected _ _).mpr ⟨hdevice, hnew.symm⟩] at hmem
            simp [SyncFrameBufferManager.remaining] at hmem
        · rw [hcompletes]
          exact ⟨fun _ => ⟨choice, hchoice⟩, fun _ => ⟨_, rfl⟩⟩
  · obtain ⟨-, manager, hbuffers, -, -, hresult⟩ :=
      handleFrameWith_of_not_takes rule htakes nowMs freshRunId
    rw [hresult]
    refine ⟨hconfigured, fun h => hnone (h.mono fun c => ?_), ?_⟩
    · rw [SyncFrameBufferManager.buffered_of_buffers hbuffers c]
    · constructor
      · rintro ⟨frameSet, hanswer⟩
        cases hanswer
      · rintro ⟨htakes', -⟩
        exact absurd htakes' htakes

/-! ## Runs of `handle_frame` -/

/-- The inputs of one call. -/
structure FrameCall where
  frame : SyncInputFrame
  nowMs : ℤ
  freshRunId : String

def frameStepWith (rule : DropRule) (service : StreamSyncService) (call : FrameCall) :
    StreamSyncService × Except ValueError (Option SynchronizedFrameSet) :=
  service.handleFrameWith rule call.frame call.nowMs call.freshRunId

def frameStep (service : StreamSyncService) (call : FrameCall) :
    StreamSyncService × Except ValueError (Option SynchronizedFrameSet) :=
  service.handleFrame call.frame call.nowMs call.freshRunId

theorem frameStepWith_staleRule : frameStepWith staleRule = frameStep := rfl

/-- Whether a call raises nothing, neither a scope conflict nor another error. -/
def RaisesNothing (service : StreamSyncService) (call : FrameCall) : Prop :=
  service.raised? call.frame = none

theorem configuredFor_configuredService (expectedCameras : List String) (windowMs : ℤ)
    (bufferSize recentLimit : ℕ) (runId : String) :
    ConfiguredFor (configuredService expectedCameras windowMs bufferSize recentLimit runId)
      expectedCameras windowMs := by
  intro matcher hmatcher
  unfold configuredService StreamSyncService.configure at hmatcher
  dsimp only at hmatcher
  split at hmatcher
  · cases hmatcher
    exact ⟨rfl, rfl⟩
  · cases hmatcher

theorem not_hasMatch_configuredService {expectedCameras : List String}
    (hexpected : expectedCameras ≠ []) (windowMs : ℤ) (bufferSize recentLimit : ℕ)
    (runId : String) :
    ¬HasMatch (configuredService expectedCameras windowMs bufferSize recentLimit
      runId).bufferManager expectedCameras windowMs := by
  rintro ⟨choice, hchoice, -⟩
  obtain ⟨c, hc⟩ := List.exists_mem_of_ne_nil _ hexpected
  have hframe : choice c ∈ (configuredService expectedCameras windowMs bufferSize recentLimit
    runId).bufferManager.buffered c := hchoice c hc
  unfold SyncFrameBufferManager.buffered at hframe
  rw [buffers_configuredService] at hframe
  cases hframe

/-- Along a run that raises nothing no call leaves a match. -/
theorem drained_run (rule : DropRule) {service : StreamSyncService}
    {expectedCameras : List String} {windowMs : ℤ}
    (hconfigured : ConfiguredFor service expectedCameras windowMs)
    (hnone : ¬HasMatch service.bufferManager expectedCameras windowMs) {calls : List FrameCall}
    (hraised : Machine.EachStep (frameStepWith rule) (fun _ => RaisesNothing) service calls) :
    ∀ e ∈ Machine.history (frameStepWith rule) service calls,
      Drained e.before e.input.frame expectedCameras windowMs (e.after, e.output) := by
  refine (Machine.history_invariant_of (frameStepWith rule)
    (I := fun past current => (∀ e ∈ past,
      Drained e.before e.input.frame expectedCameras windowMs (e.after, e.output)) ∧
      ConfiguredFor current expectedCameras windowMs ∧
      ¬HasMatch current.bufferManager expectedCameras windowMs) ?_ ?_ hraised).1
  · exact ⟨fun e he => (by cases he), hconfigured, hnone⟩
  · rintro past current call ⟨hpast, hconfigured, hnone⟩ hraised
    have hstep := drained_handleFrameWith rule call.nowMs call.freshRunId hconfigured hnone hraised
    refine ⟨fun e he => ?_, hstep.configured, hstep.no_match⟩
    rcases List.mem_append.mp he with hold | hnew
    · exact hpast e hold
    · rw [List.mem_singleton.mp hnew]
      exact hstep

/-- **No available match is left behind.** In every run of `handle_frame` in which no
call raises anything, no choice of one buffered frame per expected camera is within the
window after a call, and a call emits a set if and only if the frame that it takes
completes such a choice. -/
theorem no_match_left_behind (expectedCameras : List String) (hexpected : expectedCameras ≠ [])
    (windowMs : ℤ) (bufferSize recentLimit : ℕ) (runId : String) (calls : List FrameCall)
    (hraised : Machine.EachStep frameStep (fun _ => RaisesNothing)
      (configuredService expectedCameras windowMs bufferSize recentLimit runId) calls) :
    ∀ e ∈ Machine.history frameStep
        (configuredService expectedCameras windowMs bufferSize recentLimit runId) calls,
      ¬HasMatch e.after.bufferManager expectedCameras windowMs ∧
        ((∃ frameSet, e.output = .ok (some frameSet)) ↔
          Completes e.before e.input.frame expectedCameras windowMs) := by
  intro e he
  rw [← frameStepWith_staleRule] at he hraised
  have hdrained := drained_run staleRule (configuredFor_configuredService _ _ _ _ _)
    (not_hasMatch_configuredService hexpected _ _ _ _) hraised e he
  exact ⟨hdrained.no_match, hdrained.emitted_iff⟩

/-- Whether an exchange emits a set. -/
def emits (e : Exchange StreamSyncService FrameCall
    (Except ValueError (Option SynchronizedFrameSet))) : Bool :=
  match e.output with
  | .ok (some _) => true
  | _ => false

theorem exists_of_emits {e : Exchange StreamSyncService FrameCall
    (Except ValueError (Option SynchronizedFrameSet))} (h : emits e = true) :
    ∃ frameSet, e.output = .ok (some frameSet) := by
  unfold emits at h
  split at h
  case h_1 frameSet houtput => exact ⟨frameSet, houtput⟩
  case h_2 => cases h

/-- A frame of one camera with no identity but its key. -/
def legacyCall (deviceId : String) (timestampMs : ℤ) : FrameCall where
  frame :=
    { frameId := none
      deviceId := deviceId
      timestampMs := timestampMs
      sequence := none
      contentType := "image/jpeg"
      imageBytes := []
      filePath := none
      sourceFrameUid := some (deviceId ++ toString timestampMs) }
  nowMs := timestampMs
  freshRunId := "run-2"

/-- Two frames of one camera and then one of the other. -/
def backlogCalls : List FrameCall :=
  [legacyCall "left" 1000, legacyCall "left" 1020, legacyCall "right" 1030]

theorem no_match_left_behind_backlog :
    (∃ e ∈ Machine.history frameStep (configuredService ["left", "right"] 50 120 20 "run-1")
        backlogCalls, ∃ frameSet, e.output = .ok (some frameSet)) ∧
      ∀ e ∈ Machine.history frameStep (configuredService ["left", "right"] 50 120 20 "run-1")
        backlogCalls, ¬HasMatch e.after.bufferManager ["left", "right"] 50 := by
  constructor
  · have hemitted : ((Machine.history frameStep
        (configuredService ["left", "right"] 50 120 20 "run-1") backlogCalls).any emits) =
          true := by
      decide +kernel
    obtain ⟨e, he, hanswer⟩ := List.any_eq_true.mp hemitted
    exact ⟨e, he, exists_of_emits hanswer⟩
  · have hraised : Machine.EachStep frameStep (fun _ => RaisesNothing)
        (configuredService ["left", "right"] 50 120 20 "run-1") backlogCalls := by
      have hsplit : backlogCalls = [] ++ [legacyCall "left" 1000] ++ [legacyCall "left" 1020] ++
        [legacyCall "right" 1030] := rfl
      rw [hsplit, Machine.eachStep_snoc, Machine.eachStep_snoc, Machine.eachStep_snoc]
      refine ⟨⟨⟨Machine.eachStep_nil _, ?_⟩, ?_⟩, ?_⟩
      all_goals
        show StreamSyncService.raised? _ _ = none
        decide +kernel
    exact fun e he => (no_match_left_behind ["left", "right"] (by decide) 50 120 20 "run-1"
      backlogCalls hraised e he).1

/-! ### A session that is blank -/

/-- A V2 frame of one camera whose source session is a blank. -/
def blankSessionCall : FrameCall where
  frame :=
    { frameId := none
      deviceId := "left"
      timestampMs := 1000
      sequence := some 1
      contentType := "image/jpeg"
      imageBytes := [1]
      filePath := none
      sourceSessionId := some " "
      cameraStreamId := some "left"
      sourceFrameUid := some "uid-1"
      contentDigest := some (sha256Bytes [1])
      identityMode := .v2 }
  nowMs := 1010
  freshRunId := "run-2"

/-- The session id is refused while the selection's capture is identified. No scope
conflict is raised, and the match is still in the buffer. -/
theorem blank_session_left_behind :
    let service := configuredService ["left"] 50 120 20 "run-1"
    Machine.EachStep frameStep
        (fun _ service call => ∀ reason,
          service.raised? call.frame ≠ some (.frameScopeConflict reason))
        service [blankSessionCall] ∧
      ∃ e ∈ Machine.history frameStep service [blankSessionCall],
        HasMatch e.after.bufferManager ["left"] 50 := by
  intro service
  have hraised : service.raised? blankSessionCall.frame =
      some (.valueError "source_session_id must not be empty") := by
    decide +kernel
  have hbuffered :
      (Machine.exchange frameStep service blankSessionCall).after.bufferManager.buffered "left" =
        [blankSessionCall.frame.stored] := by
    decide +kernel
  constructor
  · have hsplit : [blankSessionCall] = [] ++ [blankSessionCall] := rfl
    rw [hsplit, Machine.eachStep_snoc]
    refine ⟨Machine.eachStep_nil _, fun reason h => ?_⟩
    rw [Machine.after_nil, hraised] at h
    cases h
  · refine ⟨Machine.exchange frameStep service blankSessionCall, List.mem_cons_self,
      fun _ => blankSessionCall.frame.stored, fun c hc => ?_, fun c _ d _ => ?_⟩
    · obtain rfl : c = "left" := List.mem_singleton.mp hc
      rw [SyncFrameBufferManager.mem_pool, hbuffered]
      exact List.mem_cons_self
    · rw [sub_self]
      decide

end ImageStream
