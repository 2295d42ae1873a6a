/-
# The synchronization service

`StreamSyncService` runs every operation under one lock, so its runs are runs of a
machine that answers its inputs. `configure` makes the state that a run starts in.

A frame set is emitted in one way only: the sweep selects frames, their identity is
resolved, and the set is made of exactly these frames. `TryMatchOutcome` says so once
for the results about emitted sets.
-/

import ImageStream.Base.Machine
import ImageStream.Sync.Matcher

namespace ImageStream

open Base

structure StreamSyncService where
  enabled : Bool := false
  expectedCameras : List String := []
  windowMs : ℤ := 50
  bufferManager : SyncFrameBufferManager := { bufferSize := 120, bufferSize_pos := defaultBufferSize_pos }
  matcher : Option SyncMatcher := none

namespace StreamSyncService

/-- Configure the service. The buffer manager rejects a size that is not positive
after the first three fields have been assigned. -/
def configure (service : StreamSyncService) (enabled : Bool) (expectedCameras : List String)
    (windowMs : ℤ) (bufferSize recentLimit : ℕ) (runId : String) :
    StreamSyncService × Except ValueError Unit :=
  let assigned := { service with
    enabled := enabled
    expectedCameras := expectedCameras
    windowMs := windowMs }
  if h : 0 < bufferSize then
    ({ assigned with
        bufferManager := { bufferSize := bufferSize, bufferSize_pos := h }
        matcher :=
          if enabled then
            some
              { expectedCameras := expectedCameras
                windowMs := windowMs
                recentLimit := recentLimit
                captureRunId := runId }
          else
            none },
      .ok ())
  else
    (assigned, .error "buffer_size must be positive")

def handleFrame (service : StreamSyncService) (frame : SyncInputFrame) (nowMs : ℤ)
    (freshRunId : String) :
    StreamSyncService × Except ValueError (Option SynchronizedFrameSet) :=
  match service.enabled, service.matcher with
  | true, some matcher =>
      match service.bufferManager.addFrame frame with
      | (manager, none) => ({ service with bufferManager := manager }, .ok none)
      | (manager, some stored) =>
          let (matched, kept, answer) := matcher.tryMatch manager stored nowMs freshRunId
          ({ service with matcher := some matched, bufferManager := kept }, answer)
  | _, _ => (service, .ok none)

def recentFrameSets (service : StreamSyncService) : List SynchronizedFrameSet :=
  match service.matcher with
  | some matcher => matcher.recentFrameSets
  | none => []

def finalizeArchiveState (service : StreamSyncService) (frameSet : SynchronizedFrameSet)
    (state : ArchiveState) (error : Option String) :
    StreamSyncService × SynchronizedFrameSet :=
  match service.matcher with
  | none => (service, frameSet)
  | some matcher =>
      let (finalized, updated) := matcher.finalizeArchiveState frameSet state error
      ({ service with matcher := some finalized }, updated)

/-- A member of the recent sets, or of the set that the caller holds, with this key. -/
def retainedMember (matcher : SyncMatcher) (frameSet : Option SynchronizedFrameSet)
    (bufferKey : String) : Option StoredSyncFrame :=
  ((matcher.recentFrameSets ++ frameSet.toList).flatMap SynchronizedFrameSet.members).find?
    fun member => member.bufferKey = bufferKey

def finalizeFrameArchive (service : StreamSyncService) (frame : SyncInputFrame)
    (frameSet : Option SynchronizedFrameSet) (frameId : Option ℤ) (filePath : Option String)
    (archiveState : ArchiveState) (archiveError : Option String) :
    StreamSyncService × Option SynchronizedFrameSet :=
  let (manager, indexed) := service.bufferManager.finalizeArchive (buildBufferKey frame) frameId
    filePath archiveState archiveError
  let finalized := { service with bufferManager := manager }
  match service.matcher with
  | none => (finalized, frameSet)
  | some matcher =>
      -- The payload index is bounded, so a late completion falls back to the sets.
      let stored := indexed.orElse fun _ =>
        (retainedMember matcher frameSet (buildBufferKey frame)).map fun member =>
          member.withArchive frameId filePath archiveState archiveError
      match stored with
      | none => (finalized, frameSet)
      | some stored =>
          match matcher.replaceRecentFrameMember stored, frameSet with
          | (replaced, some updated), _ =>
              ({ finalized with matcher := some replaced }, some updated)
          | (_, none), some frameSet =>
              let (replaced, updated) := matcher.replaceFrameMember frameSet stored
              ({ finalized with matcher := some replaced }, some updated)
          | (_, none), none => (finalized, none)

end StreamSyncService

/-! ## Runs -/

/-- The service as it is configured for these cameras. -/
def configuredService (expectedCameras : List String) (windowMs : ℤ)
    (bufferSize recentLimit : ℕ) (runId : String) : StreamSyncService :=
  (({} : StreamSyncService).configure true expectedCameras windowMs bufferSize recentLimit
    runId).1

theorem buffers_configuredService (expectedCameras : List String) (windowMs : ℤ)
    (bufferSize recentLimit : ℕ) (runId : String) :
    (configuredService expectedCameras windowMs bufferSize recentLimit runId).bufferManager.buffers
      = .empty := by
  unfold configuredService StreamSyncService.configure
  dsimp only
  split <;> rfl

/-- One locked operation of a configured service. -/
inductive ServiceOp
  | handleFrame (frame : SyncInputFrame) (nowMs : ℤ) (freshRunId : String)
  | finalizeFrameArchive (frame : SyncInputFrame) (frameSet : Option SynchronizedFrameSet)
      (frameId : Option ℤ) (filePath : Option String) (archiveState : ArchiveState)
      (archiveError : Option String)
  | finalizeArchiveState (frameSet : SynchronizedFrameSet) (state : ArchiveState)
      (error : Option String)

def serviceStep (service : StreamSyncService) :
    ServiceOp → StreamSyncService × Except ValueError (Option SynchronizedFrameSet)
  | .handleFrame frame nowMs freshRunId => service.handleFrame frame nowMs freshRunId
  | .finalizeFrameArchive frame frameSet frameId filePath archiveState archiveError =>
      let (finalized, updated) := service.finalizeFrameArchive frame frameSet frameId filePath
        archiveState archiveError
      (finalized, .ok updated)
  | .finalizeArchiveState frameSet state error =>
      let (finalized, updated) := service.finalizeArchiveState frameSet state error
      (finalized, .ok (some updated))

/-- One exchange of a run of the service. -/
abbrev ServiceExchange :=
  Exchange StreamSyncService ServiceOp (Except ValueError (Option SynchronizedFrameSet))

/-- The frame set that an exchange emits. -/
def emitted? (e : ServiceExchange) : Option SynchronizedFrameSet :=
  match e.input, e.output with
  | .handleFrame _ _ _, .ok frameSet => frameSet
  | _, _ => none

/-- The frame that an exchange accepts into a buffer. -/
def accepted? (service : StreamSyncService) : ServiceOp → Option StoredSyncFrame
  | .handleFrame frame _ _ =>
      match service.enabled, service.matcher with
      | true, some _ => (service.bufferManager.addFrame frame).2
      | _, _ => none
  | _ => none

/-! ## How a set comes about -/

/-- What only an emission or an archive completion changes in a matcher. -/
structure SyncMatcher.SameSets (first second : SyncMatcher) : Prop where
  expectedCameras : second.expectedCameras = first.expectedCameras
  recentFrameSets : second.recentFrameSets = first.recentFrameSets
  captureRunId : second.captureRunId = first.captureRunId
  nextFrameSetId : second.nextFrameSetId = first.nextFrameSetId

theorem SyncMatcher.sameSets_recordMiss (matcher : SyncMatcher) (triggerFrame : StoredSyncFrame)
    (reason : String) (missing : List String) :
    matcher.SameSets (matcher.recordMiss triggerFrame reason missing) :=
  ⟨rfl, rfl, rfl, rfl⟩

theorem SyncMatcher.sameSets_dropStaleFrames (matcher : SyncMatcher)
    (manager : SyncFrameBufferManager) :
    matcher.SameSets (matcher.dropStaleFrames manager).1 := by
  unfold dropStaleFrames
  dsimp only
  split <;> exact ⟨rfl, rfl, rfl, rfl⟩

/-- What one call of the matcher does. -/
inductive TryMatchOutcome (matcher : SyncMatcher) (manager : SyncFrameBufferManager)
    (nowMs : ℤ) (freshRunId : String) :
    SyncMatcher × SyncFrameBufferManager × Except ValueError (Option SynchronizedFrameSet) → Prop
  /-- Nothing is emitted and nothing is dropped. -/
  | ignored (recorded : SyncMatcher)
      (answer : Except ValueError (Option SynchronizedFrameSet))
      (hrecorded : matcher.SameSets recorded)
      (hanswer : ∀ frameSet, answer ≠ .ok (some frameSet)) :
      TryMatchOutcome matcher manager nowMs freshRunId (recorded, manager, answer)
  /-- Nothing is emitted and stale frames are dropped. -/
  | missed (recorded : SyncMatcher)
      (hrecorded : matcher.SameSets recorded) :
      TryMatchOutcome matcher manager nowMs freshRunId
        ((recorded.dropStaleFrames manager).1, (recorded.dropStaleFrames manager).2, .ok none)
  /-- The set of a selection is emitted. -/
  | emitted (selected : Dict String StoredSyncFrame) (spanMs : ℤ) (identity : CaptureIdentity)
      (hselected : matcher.selectMinSpanCandidate manager = (some selected, some spanMs, []))
      (hidentity : resolveCaptureIdentity selected.values = .ok identity) :
      TryMatchOutcome matcher manager nowMs freshRunId
        (matcher.emit manager identity selected spanMs nowMs freshRunId)

theorem tryMatch_outcome (matcher : SyncMatcher) (manager : SyncFrameBufferManager)
    (triggerFrame : StoredSyncFrame) (nowMs : ℤ) (freshRunId : String) :
    TryMatchOutcome matcher manager nowMs freshRunId
      (matcher.tryMatch manager triggerFrame nowMs freshRunId) := by
  unfold SyncMatcher.tryMatch
  split
  · exact .ignored _ _ (matcher.sameSets_recordMiss _ _ _) fun _ h => by cases h
  · split
    · exact .ignored _ _ ⟨rfl, rfl, rfl, rfl⟩ fun _ h => by cases h
    · split
      · exact .missed _ (matcher.sameSets_recordMiss _ _ _)
      · rename_i selected spanMs hselected
        split
        · exact .missed _ (matcher.sameSets_recordMiss _ _ _)
        · exact .ignored _ _ ⟨rfl, rfl, rfl, rfl⟩ fun _ h => by cases h
        · rename_i identity hidentity
          exact .emitted selected spanMs identity hselected hidentity
      · exact .missed _ (matcher.sameSets_recordMiss _ _ _)

theorem SyncMatcher.emit_answer (matcher : SyncMatcher) (manager : SyncFrameBufferManager)
    (identity : CaptureIdentity) (selected : Dict String StoredSyncFrame) (spanMs nowMs : ℤ)
    (freshRunId : String) :
    ∃ frameSet, (matcher.emit manager identity selected spanMs nowMs freshRunId).2.2 =
        .ok (some frameSet) ∧
      frameSet.frames = selected ∧ frameSet.identityMode = identity.identityMode :=
  ⟨_, rfl, rfl, rfl⟩

/-- What one call of `handle_frame` does, with the frame that it accepts. -/
inductive HandleFrameOutcome (service : StreamSyncService) (frame : SyncInputFrame) (nowMs : ℤ)
    (freshRunId : String) : Option StoredSyncFrame →
      StreamSyncService × Except ValueError (Option SynchronizedFrameSet) → Prop
  /-- A service that is not enabled ignores frames. -/
  | disabled : HandleFrameOutcome service frame nowMs freshRunId none (service, .ok none)
  /-- The buffers do not take the frame. -/
  | dropped (matcher : SyncMatcher) (hmatcher : service.matcher = some matcher)
      (hadmits : ¬service.bufferManager.Admits frame) (manager : SyncFrameBufferManager)
      (hbuffers : manager.buffers = service.bufferManager.buffers)
      (hindex : manager.framesByKey = service.bufferManager.framesByKey) :
      HandleFrameOutcome service frame nowMs freshRunId none
        ({ service with bufferManager := manager }, .ok none)
  /-- The buffers take the frame and the matcher is called. -/
  | accepted (matcher : SyncMatcher) (hmatcher : service.matcher = some matcher)
      (hadmits : service.bufferManager.Admits frame)
      (result : SyncMatcher × SyncFrameBufferManager ×
        Except ValueError (Option SynchronizedFrameSet))
      (hresult : TryMatchOutcome matcher (service.bufferManager.retain frame.stored) nowMs
        freshRunId result) :
      HandleFrameOutcome service frame nowMs freshRunId (some frame.stored)
        ({ service with matcher := some result.1, bufferManager := result.2.1 }, result.2.2)

theorem handleFrame_outcome (service : StreamSyncService) (frame : SyncInputFrame) (nowMs : ℤ)
    (freshRunId : String) :
    HandleFrameOutcome service frame nowMs freshRunId
      (accepted? service (.handleFrame frame nowMs freshRunId))
      (service.handleFrame frame nowMs freshRunId) := by
  unfold StreamSyncService.handleFrame accepted?
  dsimp only
  split
  case h_2 => exact .disabled
  case h_1 matcher henabled hmatcher =>
    by_cases hadmits : service.bufferManager.Admits frame
    · rw [SyncFrameBufferManager.addFrame_of_admits hadmits]
      exact .accepted matcher hmatcher hadmits _ (tryMatch_outcome _ _ _ _ _)
    · obtain ⟨hnone, hbuffers, hindex⟩ := SyncFrameBufferManager.addFrame_of_not_admits hadmits
      cases hadd : service.bufferManager.addFrame frame with
      | mk manager stored =>
          rw [hadd] at hnone hbuffers hindex
          cases hnone
          exact .dropped matcher hmatcher hadmits manager hbuffers hindex

/-- Whether the service takes a frame into its buffers. -/
def StreamSyncService.Takes (service : StreamSyncService) (frame : SyncInputFrame) : Prop :=
  service.enabled = true ∧ service.matcher.isSome ∧ service.bufferManager.Admits frame

theorem accepted?_eq_some_iff {service : StreamSyncService} {frame : SyncInputFrame} {nowMs : ℤ}
    {freshRunId : String} {stored : StoredSyncFrame} :
    accepted? service (.handleFrame frame nowMs freshRunId) = some stored ↔
      service.Takes frame ∧ stored = frame.stored := by
  unfold accepted? StreamSyncService.Takes
  cases henabled : service.enabled <;> cases hmatcher : service.matcher <;>
    simp [SyncFrameBufferManager.addFrame_eq_some_iff]

/-- The frames that the sweep selects once a frame has been added. -/
def StreamSyncService.selection (service : StreamSyncService) :
    ServiceOp → Option (Dict String StoredSyncFrame)
  | .handleFrame frame _ _ =>
      match service.matcher with
      | some matcher => (matcher.selectMinSpanCandidate (service.bufferManager.addFrame frame).1).1
      | none => none
  | _ => none

theorem answer_of_emitted {service : StreamSyncService} {frame : SyncInputFrame} {nowMs : ℤ}
    {freshRunId : String} {frameSet : SynchronizedFrameSet}
    (h : emitted? (Machine.exchange serviceStep service (.handleFrame frame nowMs freshRunId)) =
      some frameSet) :
    (service.handleFrame frame nowMs freshRunId).2 = .ok (some frameSet) := by
  cases houtput : (service.handleFrame frame nowMs freshRunId).2 with
  | error reason => simp [emitted?, Machine.exchange, serviceStep, houtput] at h
  | ok answer => simpa [emitted?, Machine.exchange, serviceStep, houtput] using h

/-- An emitted set consists of the frames that the sweep has selected, and their
identity was resolved. -/
theorem selection_of_emitted {service : StreamSyncService} {op : ServiceOp}
    {frameSet : SynchronizedFrameSet}
    (h : emitted? (Machine.exchange serviceStep service op) = some frameSet) :
    service.selection op = some frameSet.frames ∧
      ∃ identity, resolveCaptureIdentity frameSet.members = .ok identity ∧
        frameSet.identityMode = identity.identityMode := by
  cases op with
  | finalizeFrameArchive => cases h
  | finalizeArchiveState => cases h
  | handleFrame frame nowMs freshRunId =>
      have hanswer := answer_of_emitted h
      have houtcome := handleFrame_outcome service frame nowMs freshRunId
      generalize accepted? service (.handleFrame frame nowMs freshRunId) = stored at houtcome
      generalize service.handleFrame frame nowMs freshRunId = result at houtcome hanswer
      cases houtcome with
      | disabled => cases hanswer
      | dropped => cases hanswer
      | accepted matcher hmatcher hadmits result hresult =>
          cases hresult with
          | ignored recorded answer hrecorded hnone => exact absurd hanswer (hnone frameSet)
          | missed recorded hrecorded => cases hanswer
          | emitted selected spanMs identity hselected hidentity =>
              obtain ⟨frameSet', hemit, hframes, hmode⟩ := matcher.emit_answer
                (service.bufferManager.retain frame.stored) identity selected spanMs nowMs
                freshRunId
              rw [hemit] at hanswer
              cases hanswer
              refine ⟨?_, identity, ?_, hmode⟩
              · simp [StreamSyncService.selection, hmatcher,
                  SyncFrameBufferManager.addFrame_of_admits hadmits, hselected, hframes]
              · rw [SynchronizedFrameSet.members, hframes]
                exact hidentity

end ImageStream
