/-
# Emissions of the matcher

The matcher takes its buffers from the service, and what it emits depends on them. Here
it stands on its own: a run of the matcher is a list of its operations, and each call of
`try_match` finds whatever buffers it finds. A call emits a set in one way only, which
`SyncMatcher.Emission` keeps with all that was found out on the way. Every other
operation leaves the capture, the run, the numbers and the time of the matcher alone.
-/

import ImageStream.Sync.Availability
import ImageStream.Sync.CaptureIdentity
import ImageStream.Sync.RecentSets

namespace ImageStream

open Base Base.MinSpan

/-! ## One emission -/

/-- A selection that is identified, at the buffers that a call finds. -/
structure SyncMatcher.Emission (matcher : SyncMatcher) (manager : SyncFrameBufferManager) where
  selected : Dict String StoredSyncFrame
  spanMs : ℤ
  identity : CaptureIdentity
  select : matcher.selectMinSpanCandidate manager = (some selected, some spanMs, [])
  identified : IdentifiedAs selected.values identity

namespace SyncMatcher.Emission

variable {matcher : SyncMatcher} {manager : SyncFrameBufferManager}

/-- When the set is synchronized: at the clock's time, but after the last set. -/
def synchronizedAtMs (_ : matcher.Emission manager) (nowMs : ℤ) : ℤ :=
  max nowMs (matcher.lastSynchronizedAtMs + 1)

/-- The matcher in the capture of the set. -/
def entered (emission : matcher.Emission manager) (freshRunId : String) : SyncMatcher :=
  matcher.entered manager emission.identity emission.selected freshRunId

def frameSet (emission : matcher.Emission manager) (nowMs : ℤ) (freshRunId : String) :
    SynchronizedFrameSet :=
  (emission.entered freshRunId).buildFrameSet emission.identity emission.selected emission.spanMs
    (emission.synchronizedAtMs nowMs)

/-- What the call returns. -/
def result (emission : matcher.Emission manager) (nowMs : ℤ) (freshRunId : String) :
    SyncMatcher × SyncFrameBufferManager × Except ValueError (Option SynchronizedFrameSet) :=
  matcher.emit manager emission.identity emission.selected emission.spanMs nowMs freshRunId

@[simp]
theorem answer_result (emission : matcher.Emission manager) (nowMs : ℤ) (freshRunId : String) :
    (emission.result nowMs freshRunId).2.2 = .ok (some (emission.frameSet nowMs freshRunId)) :=
  rfl

/-- The set is recorded, and nothing else that matters to later sets is changed. -/
theorem sameCourse_result (emission : matcher.Emission manager) (nowMs : ℤ)
    (freshRunId : String) :
    ((emission.entered freshRunId).recordMatch
      (emission.frameSet nowMs freshRunId)).SameCourse (emission.result nowMs freshRunId).1 :=
  SyncMatcher.dropStaleFrames_sameCourse _ _

end SyncMatcher.Emission

/-! ## What is selected -/

namespace SyncMatcher.Emission

variable {matcher : SyncMatcher} {manager : SyncFrameBufferManager}

theorem expectedCameras_ne_nil (emission : matcher.Emission manager) :
    matcher.expectedCameras ≠ [] := by
  intro hnil
  have hnone : matcher.selectMinSpanCandidate manager = (none, none, []) := by
    unfold SyncMatcher.selectMinSpanCandidate
    rw [hnil]
    rfl
  have hselect := emission.select
  rw [hnone] at hselect
  cases hselect

/-- The selection has a buffered frame of each expected camera. -/
theorem get?_selected (emission : matcher.Emission manager) :
    ∃ choice : String → StoredSyncFrame, ∀ c frame, emission.selected.get? c = some frame ↔
      c ∈ matcher.expectedCameras ∧ frame = choice c :=
  let ⟨choice, _, hchoice⟩ := isWindowMatch_of_select emission.expectedCameras_ne_nil
    emission.select
  ⟨choice, hchoice⟩

theorem selected_ne_nil (emission : matcher.Emission manager) :
    emission.selected.values ≠ [] := by
  obtain ⟨c, hc⟩ := List.exists_mem_of_ne_nil _ emission.expectedCameras_ne_nil
  obtain ⟨choice, hchoice⟩ := emission.get?_selected
  exact List.ne_nil_of_mem (Dict.mem_values_of_get? _ ((hchoice c (choice c)).mpr ⟨hc, rfl⟩))

end SyncMatcher.Emission

/-- The times of some frames. -/
def timesOfFrames (frames : List StoredSyncFrame) : Set ℤ :=
  {timestampMs | ∃ frame ∈ frames, frame.timestampMs = timestampMs}

theorem isGreatest_latestTimestampMs {frames : List StoredSyncFrame} (hne : frames ≠ []) :
    IsGreatest (timesOfFrames frames) (latestTimestampMs frames) := by
  obtain ⟨latest, hlatest⟩ : ∃ latest, (frames.map (·.timestampMs)).max? = some latest := by
    rw [← Option.ne_none_iff_exists', ne_eq, List.max?_eq_none_iff, List.map_eq_nil_iff]
    exact hne
  obtain ⟨hmem, hle⟩ := List.max?_eq_some_iff.mp hlatest
  unfold latestTimestampMs
  rw [hlatest]
  refine ⟨List.mem_map.mp hmem, ?_⟩
  rintro _ ⟨frame, hframe, rfl⟩
  exact hle _ (List.mem_map_of_mem hframe)

theorem isLeast_earliestTimestampMs {frames : List StoredSyncFrame} (hne : frames ≠ []) :
    IsLeast (timesOfFrames frames) (earliestTimestampMs frames) := by
  obtain ⟨earliest, hearliest⟩ :
      ∃ earliest, (frames.map (·.timestampMs)).min? = some earliest := by
    rw [← Option.ne_none_iff_exists', ne_eq, List.min?_eq_none_iff, List.map_eq_nil_iff]
    exact hne
  obtain ⟨hmem, hle⟩ := List.min?_eq_some_iff.mp hearliest
  unfold earliestTimestampMs
  rw [hearliest]
  refine ⟨List.mem_map.mp hmem, ?_⟩
  rintro _ ⟨frame, hframe, rfl⟩
  exact hle _ (List.mem_map_of_mem hframe)

/-- **The span of a selection.** It is the time from the earliest to the latest selected
frame, and within the window. -/
theorem SyncMatcher.Emission.spanMs_eq {matcher : SyncMatcher} {manager : SyncFrameBufferManager}
    (emission : matcher.Emission manager) :
    emission.spanMs = latestTimestampMs emission.selected.values -
        earliestTimestampMs emission.selected.values ∧
      emission.spanMs ≤ matcher.windowMs := by
  have hexpected := emission.expectedCameras_ne_nil
  have hne : matcher.expectedCameras.toFinset.Nonempty :=
    (List.toFinset_nonempty_iff _).mpr hexpected
  have hselect := emission.select
  obtain ⟨hmissing, hnone⟩ := selectMinSpanCandidate_exact matcher manager hexpected
  by_cases hall : (matcher.expectedCameras.filter fun c => manager.buffered c = []) = []
  case neg =>
    rw [hmissing hall] at hselect
    cases hselect
  case pos =>
    obtain ⟨smallest, -, hbeyond, hwithin⟩ := hnone hall
    by_cases hwindow : smallest ≤ matcher.windowMs
    case neg =>
      rw [hbeyond (not_le.mp hwindow)] at hselect
      cases hselect
    case pos =>
      obtain ⟨selected, choice, hselected, hexact⟩ := hwithin hwindow
      rw [hselected] at hselect
      obtain ⟨hframes, hspan⟩ : selected = emission.selected ∧ smallest = emission.spanMs := by
        simpa using hselect
      rw [← hframes, ← hspan]
      refine ⟨?_, hwindow⟩
      -- The times of the selected frames are those of the choice.
      have htimes : timesOfFrames selected.values =
          Set.image (choiceTimes choice) {c | c ∈ matcher.expectedCameras} := by
        ext timestampMs
        constructor
        · rintro ⟨frame, hframe, rfl⟩
          obtain ⟨c, hget⟩ := (Dict.mem_values_iff _).mp hframe
          obtain ⟨hc, rfl⟩ := (hexact.selected c frame).mp hget
          exact ⟨c, hc, rfl⟩
        · rintro ⟨c, hc, rfl⟩
          exact ⟨choice c, Dict.mem_values_of_get? _ ((hexact.selected c _).mpr ⟨hc, rfl⟩), rfl⟩
      have hvalues : selected.values ≠ [] := by
        rw [hframes]
        exact emission.selected_ne_nil
      have hlatest := isGreatest_latestTimestampMs hvalues
      have hearliest := isLeast_earliestTimestampMs hvalues
      rw [htimes, ← mem_toFinset_eq] at hlatest hearliest
      rw [hexact.span_eq]
      unfold span
      rw [(isGreatest_latest hne).unique hlatest, (isLeast_earliest hne).unique hearliest]

/-! ## One call -/

/-- Whether a call emits, and how. -/
inductive SyncMatcher.Emits (matcher : SyncMatcher) (manager : SyncFrameBufferManager)
    (nowMs : ℤ) (freshRunId : String) :
    SyncMatcher × SyncFrameBufferManager × Except ValueError (Option SynchronizedFrameSet) → Prop
  | nothing (result : SyncMatcher × SyncFrameBufferManager ×
        Except ValueError (Option SynchronizedFrameSet))
      (same : matcher.SameCourse result.1)
      (answer : ∀ frameSet, result.2.2 ≠ .ok (some frameSet)) :
      SyncMatcher.Emits matcher manager nowMs freshRunId result
  | frameSet (emission : matcher.Emission manager) :
      SyncMatcher.Emits matcher manager nowMs freshRunId (emission.result nowMs freshRunId)

/-- Every call emits a set of a selection, or leaves the matcher's course alone. -/
theorem SyncMatcher.tryMatch_emits (matcher : SyncMatcher) (manager : SyncFrameBufferManager)
    (triggerFrame : StoredSyncFrame) (nowMs : ℤ) (freshRunId : String) :
    matcher.Emits manager nowMs freshRunId
      (matcher.tryMatch manager triggerFrame nowMs freshRunId) := by
  have hcase := tryMatchWith_case staleRule matcher manager triggerFrame nowMs freshRunId
  rw [SyncMatcher.tryMatchWith_staleRule] at hcase
  generalize matcher.tryMatch manager triggerFrame nowMs freshRunId = result at hcase ⊢
  generalize matcher.raised? manager triggerFrame = raised at hcase
  cases hcase with
  | unexpected hdevice recorded hrecorded =>
      exact .nothing _ hrecorded fun _ h => by cases h
  | missed hdevice hselect recorded hrecorded =>
      exact .nothing _ (hrecorded.trans (recorded.dropStaleFrames_sameCourse manager))
        fun _ h => by cases h
  | conflict selected spanMs hselect reason recorded hrecorded =>
      exact .nothing _ (hrecorded.trans (recorded.dropStaleFrames_sameCourse manager))
        fun _ h => by cases h
  | raised =>
      exact .nothing _ ⟨⟨rfl, rfl, rfl, rfl⟩, rfl, rfl, rfl, rfl, rfl, rfl⟩ fun _ h => by cases h
  | emitted hdevice selected spanMs identity hselect hidentity =>
      exact .frameSet ⟨selected, spanMs, identity, hselect, identifiedAs_of_resolve hidentity⟩

/-! ## Runs of the matcher -/

/-- An operation of the matcher. -/
inductive MatcherOp
  | tryMatch (manager : SyncFrameBufferManager) (triggerFrame : StoredSyncFrame) (nowMs : ℤ)
      (freshRunId : String)
  | finalizeArchiveState (frameSet : SynchronizedFrameSet) (state : ArchiveState)
      (error : Option String)
  | replaceFrameMember (frameSet : SynchronizedFrameSet) (frame : StoredSyncFrame)
  | replaceRecentFrameMember (frame : StoredSyncFrame)

/-- The matcher after an operation, with the set that `try_match` returns. -/
def matcherStep (matcher : SyncMatcher) :
    MatcherOp → SyncMatcher × Option SynchronizedFrameSet
  | .tryMatch manager triggerFrame nowMs freshRunId =>
      let result := matcher.tryMatch manager triggerFrame nowMs freshRunId
      (result.1, result.2.2.toOption.join)
  | .finalizeArchiveState frameSet state error =>
      ((matcher.finalizeArchiveState frameSet state error).1, none)
  | .replaceFrameMember frameSet frame => ((matcher.replaceFrameMember frameSet frame).1, none)
  | .replaceRecentFrameMember frame => ((matcher.replaceRecentFrameMember frame).1, none)

/-- `SyncMatcher(...)`, with the run id that it draws. -/
def newMatcher (expectedCameras : List String) (windowMs : ℤ) (recentLimit : ℕ)
    (runId : String) : SyncMatcher :=
  { expectedCameras := expectedCameras
    windowMs := windowMs
    recentLimit := recentLimit
    captureRunId := runId }

/-- The sets that are emitted along a run, in the order of emission. -/
def emittedSets (matcher : SyncMatcher) (ops : List MatcherOp) : List SynchronizedFrameSet :=
  (Machine.history matcherStep matcher ops).filterMap (·.output)

/-- The run ids that an operation may draw. -/
def MatcherOp.drawn : MatcherOp → List String
  | .tryMatch _ _ _ freshRunId => [freshRunId]
  | _ => []

/-- What an operation does to the numbers and the time of the matcher. -/
inductive MatcherEffect (matcher : SyncMatcher) :
    List String → SyncMatcher × Option SynchronizedFrameSet → Prop
  | quiet (drawn : List String) (after : SyncMatcher)
      (captureRunId : after.captureRunId = matcher.captureRunId)
      (nextFrameSetId : after.nextFrameSetId = matcher.nextFrameSetId)
      (captureSessionId : after.captureSessionId = matcher.captureSessionId)
      (captureConfigKey : after.captureConfigKey = matcher.captureConfigKey)
      (authorizationKey : after.authorizationKey = matcher.authorizationKey)
      (lastSynchronizedAtMs : after.lastSynchronizedAtMs = matcher.lastSynchronizedAtMs)
      (windowMs : after.windowMs = matcher.windowMs)
      (expectedCameras : after.expectedCameras = matcher.expectedCameras) :
      MatcherEffect matcher drawn (after, none)
  | emits (manager : SyncFrameBufferManager) (emission : matcher.Emission manager) (nowMs : ℤ)
      (freshRunId : String) :
      MatcherEffect matcher [freshRunId]
        ((emission.result nowMs freshRunId).1, some (emission.frameSet nowMs freshRunId))

theorem MatcherEffect.of_sameCourse {matcher after : SyncMatcher}
    (h : matcher.SameCourse after) (drawn : List String) :
    MatcherEffect matcher drawn (after, none) :=
  .quiet drawn after h.captureRunId h.nextFrameSetId h.captureSessionId h.captureConfigKey
    h.authorizationKey h.lastSynchronizedAtMs h.windowMs h.expectedCameras

theorem matcherStep_effect (matcher : SyncMatcher) (op : MatcherOp) :
    MatcherEffect matcher op.drawn (matcherStep matcher op) := by
  cases op with
  | tryMatch manager triggerFrame nowMs freshRunId =>
      have hemits := matcher.tryMatch_emits manager triggerFrame nowMs freshRunId
      show MatcherEffect matcher [freshRunId]
        ((matcher.tryMatch manager triggerFrame nowMs freshRunId).1,
          (matcher.tryMatch manager triggerFrame nowMs freshRunId).2.2.toOption.join)
      generalize matcher.tryMatch manager triggerFrame nowMs freshRunId = result at hemits ⊢
      cases hemits with
      | nothing _ same answer =>
          have hnone : result.2.2.toOption.join = none := by
            rcases hanswer : result.2.2 with reason | _ | frameSet
            · rfl
            · rfl
            · exact absurd hanswer (answer frameSet)
          rw [hnone]
          exact .of_sameCourse same _
      | frameSet emission => exact .emits manager emission nowMs freshRunId
  | finalizeArchiveState => exact .quiet _ _ rfl rfl rfl rfl rfl rfl rfl rfl
  | replaceFrameMember => exact .quiet _ _ rfl rfl rfl rfl rfl rfl rfl rfl
  | replaceRecentFrameMember frame =>
      show MatcherEffect matcher [] ((matcher.replaceRecentFrameMember frame).1, none)
      unfold SyncMatcher.replaceRecentFrameMember
      split <;> exact .quiet _ _ rfl rfl rfl rfl rfl rfl rfl rfl

/-- Each set of a run comes from an emission at the matcher that the run has left. -/
theorem exists_emission_of_mem {matcher : SyncMatcher} {ops : List MatcherOp}
    {frameSet : SynchronizedFrameSet} (h : frameSet ∈ emittedSets matcher ops) :
    ∃ first op rest, ops = first ++ op :: rest ∧
      ∃ (manager : SyncFrameBufferManager)
        (emission : (Machine.after matcherStep matcher first).Emission manager) (nowMs : ℤ)
        (freshRunId : String),
        op.drawn = [freshRunId] ∧ frameSet = emission.frameSet nowMs freshRunId := by
  obtain ⟨e, he, hset⟩ := List.mem_filterMap.mp h
  obtain ⟨first, op, rest, hops, rfl⟩ := Machine.exists_split_of_mem_history matcherStep he
  refine ⟨first, op, rest, hops, ?_⟩
  have heffect := matcherStep_effect (Machine.after matcherStep matcher first) op
  change (matcherStep (Machine.after matcherStep matcher first) op).2 = some frameSet at hset
  generalize matcherStep (Machine.after matcherStep matcher first) op = result at heffect hset
  generalize op.drawn = drawn at heffect ⊢
  cases heffect with
  | quiet => cases hset
  | emits manager emission nowMs freshRunId =>
      cases hset
      exact ⟨manager, emission, nowMs, freshRunId, rfl, rfl⟩

end ImageStream
