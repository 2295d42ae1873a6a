/-
# Frames that are ingested concurrently

Any number of `ingest_frame` calls run at once. A call takes its steps at the locks of the
services, at the relays' queues and at the database, and between two of them other calls
take theirs. So a call decides the archive state of its set from a snapshot, which may be
older than the set by the time that the state is written back.

A call whose steps nobody interrupts does what `ingestFrame` says.
-/

import ImageStream.Base.Crew
import ImageStream.Ingest.Pipeline
import ImageStream.Sync.ManifestAcceptance
import ImageStream.Sync.RecentSets

namespace ImageStream

open Base

/-! ## The threads -/

/-- Where a call is. -/
inductive IngestPhase
  | handling
  | relayingFrameSet
  | archiving
  | completing
  | updating
  | relayingRaw
  | persisting
  | settling
  | projecting
  | ended (answer : Except IngestError IngestResult)

/-- The local variables of a call that later steps read. -/
structure IngestThread where
  call : IngestArguments
  phase : IngestPhase
  memoryFrame : SyncInputFrame
  relayMode : StreamRelayMode := .off
  frameSet : Option SynchronizedFrameSet := none
  frameSetRelayEnqueued : Bool := false
  outcome : FrameArchiveOutcome :=
    { frame := none, state := .pending, filePath := none, error := none }
  cameraState : CameraStreamState := { deviceId := "" }
  relayEnqueued : Bool := false
  manifestPersisted : Bool := false
  finalArchiveState : ArchiveState := .pending
  finalArchiveError : Option String := none

/-- The pipeline with the calls that have been made. -/
structure Ingesting where
  pipeline : IngestPipeline
  threads : List IngestThread := []

namespace IngestThread

/-- A call that leaves with an exception. -/
def raised (thread : IngestThread) (e : IngestError) : IngestThread :=
  { thread with phase := .ended (.error e) }

def syncInput (thread : IngestThread) : SyncInputFrame :=
  thread.memoryFrame.withOutcome thread.outcome

def result (thread : IngestThread) : IngestResult where
  frame := thread.outcome.frame
  cameraState := thread.cameraState
  archiveState := (thread.frameSet.map (·.archiveState)).getD thread.outcome.state
  archiveError := (thread.frameSet.map (·.archiveError)).getD thread.outcome.error
  relayEnqueued := thread.relayEnqueued
  relayMode := thread.relayMode
  synchronizedFrameSet := thread.frameSet
  manifestPersisted := thread.manifestPersisted
  frameSetRelayEnqueued := thread.frameSetRelayEnqueued

/-- A call up to the service: its arguments are resolved. -/
def start (s : IngestPipeline) (call : IngestArguments) : IngestThread :=
  match call.memoryFrame with
  | .error reason =>
      { call := call
        phase := .ended (.error (.valueError reason))
        memoryFrame :=
          { frameId := none
            deviceId := call.deviceId
            timestampMs := call.timestampMs
            sequence := call.sequence
            contentType := call.contentType
            imageBytes := call.imageBytes
            filePath := none } }
  | .ok frame =>
      match resolveIngestRelayMode call.relayMode s.relay.enabled s.frameSetRelay.enabled with
      | .error e => { call := call, phase := .ended (.error e), memoryFrame := frame }
      | .ok mode =>
          { call := call, phase := .handling, memoryFrame := frame, relayMode := mode }

variable (buildFramePath : FramePath) (libraryText : ManifestError → String)

/-- The next step of a call, with what the archive does in it. -/
def step (s : IngestPipeline) (thread : IngestThread) (events : ArchiveEvents) :
    IngestPipeline × IngestThread :=
  match thread.phase with
  | .handling =>
      match s.sync.handleFrame thread.memoryFrame thread.call.synchronizedMs
          thread.call.freshRunId with
      | (sync, .error reason) => ({ s with sync := sync }, thread.raised (.valueError reason))
      | (sync, .ok emitted) =>
          ({ s with sync := sync },
            { thread with
              frameSet := emitted
              phase := .relayingFrameSet })
  | .relayingFrameSet =>
      match enqueueFrameSet s.frameSetRelay thread.relayMode thread.frameSet with
      | .error e => (s, thread.raised (.relay e))
      | .ok (frameSetRelay, enqueued) =>
          ({ s with frameSetRelay := frameSetRelay },
            { thread with
              frameSetRelayEnqueued := enqueued
              phase := .archiving })
  | .archiving =>
      let (archive, outcome) := archiveStep buildFramePath s.archive
        (thread.call.archiveCall thread.memoryFrame events)
      ({ s with archive := archive },
        { thread with
          outcome := outcome
          phase := .completing })
  | .completing =>
      let (sync, completed) := s.sync.finalizeFrameArchive thread.memoryFrame thread.frameSet
        thread.syncInput.frameId thread.syncInput.filePath thread.syncInput.archiveState
        thread.syncInput.archiveError
      ({ s with sync := sync },
        { thread with
          frameSet := completed
          phase := .updating })
  | .updating =>
      let (cameras, camera) := s.cameras.updateFrame (thread.call.streamFrame thread.syncInput)
      ({ s with cameras := cameras },
        { thread with
          cameraState := camera
          phase := .relayingRaw })
  | .relayingRaw =>
      match enqueueRaw s.relay thread.relayMode thread.syncInput with
      | .error e => (s, thread.raised (.relay e))
      | .ok (relay, enqueued) =>
          ({ s with relay := relay },
            { thread with
              relayEnqueued := enqueued
              phase := .persisting })
  | .persisting =>
      match thread.frameSet with
      | none => (s, { thread with phase := .ended (.ok thread.result) })
      | some frameSet =>
          let (db, persisted, state, error) := archiveManifest libraryText s.archive.db events
            frameSet
          ({ s with archive := { s.archive with db := db } },
            { thread with
              manifestPersisted := persisted
              finalArchiveState := state
              finalArchiveError := error
              phase := .settling })
  | .settling =>
      match thread.frameSet with
      | none => (s, thread)
      | some frameSet =>
          let (sync, updated) := s.sync.finalizeArchiveState frameSet thread.finalArchiveState
            thread.finalArchiveError
          ({ s with sync := sync },
            { thread with
              frameSet := some updated
              phase := .projecting })
  | .projecting =>
      match thread.frameSet with
      | none => (s, thread)
      | some frameSet =>
          let db := projectDelivery s.archive.db events frameSet thread.finalArchiveState
            (legacyProjection thread.relayMode thread.relayEnqueued thread.frameSetRelayEnqueued)
          ({ s with archive := { s.archive with db := db } },
            { thread with phase := .ended (.ok thread.result) })
  | .ended _ => (s, thread)

end IngestThread

inductive IngestingOp
  | call (arguments : IngestArguments)
  | step (i : ℕ) (events : ArchiveEvents)

/-- One step of one call, or a new call. -/
def ingestingStep (buildFramePath : FramePath) (libraryText : ManifestError → String)
    (s : Ingesting) : IngestingOp → Ingesting × Unit
  | .call arguments =>
      ({ s with threads := s.threads ++ [IngestThread.start s.pipeline arguments] }, ())
  | .step i events =>
      match s.threads[i]? with
      | none => (s, ())
      | some thread =>
          let (pipeline, moved) := thread.step buildFramePath libraryText s.pipeline events
          ({ pipeline := pipeline
             threads := s.threads.set i moved }, ())

/-! ## A call on its own -/

section Alone

variable (buildFramePath : FramePath) (libraryText : ManifestError → String)
  (events : ArchiveEvents)

/-- Steps of one call and of no other. -/
def IngestThread.runAlone : ℕ → IngestPipeline × IngestThread → IngestPipeline × IngestThread
  | 0, s => s
  | n + 1, s => runAlone n (s.2.step buildFramePath libraryText s.1 events)

theorem runAlone_of_ended {thread : IngestThread} {answer : Except IngestError IngestResult}
    (h : thread.phase = .ended answer) (s : IngestPipeline) (n : ℕ) :
    IngestThread.runAlone buildFramePath libraryText events n (s, thread) = (s, thread) := by
  have hstep : thread.step buildFramePath libraryText s events = (s, thread) := by
    unfold IngestThread.step
    rw [h]
  induction n with
  | zero => rfl
  | succ n ih =>
      rw [IngestThread.runAlone, hstep]
      exact ih

/-- **A call that nobody interrupts** has ended after its nine steps and has done what
`ingestFrame` says. -/
theorem runAlone_start (s : IngestPipeline) (call : IngestArguments) :
    ∃ thread, IngestThread.runAlone buildFramePath libraryText events 9
        (s, IngestThread.start s call) =
          ((ingestFrame buildFramePath libraryText s call events).1, thread) ∧
      thread.phase = .ended (ingestFrame buildFramePath libraryText s call events).2 := by
  have hended := @runAlone_of_ended buildFramePath libraryText events
  unfold IngestThread.start ingestFrame
  cases hmemory : call.memoryFrame with
  | error reason => exact ⟨_, hended rfl s 9, rfl⟩
  | ok frame =>
  dsimp only
  cases hmode : resolveIngestRelayMode call.relayMode s.relay.enabled s.frameSetRelay.enabled with
  | error e => exact ⟨_, hended rfl s 9, rfl⟩
  | ok mode =>
  dsimp only
  rw [IngestThread.runAlone, IngestThread.step]
  dsimp only
  rcases s.sync.handleFrame frame call.synchronizedMs call.freshRunId with ⟨sync, answer⟩
  cases answer with
  | error reason => exact ⟨_, hended rfl _ 8, rfl⟩
  | ok emitted =>
  dsimp only
  rw [IngestThread.runAlone, IngestThread.step]
  dsimp only
  cases enqueueFrameSet s.frameSetRelay mode emitted with
  | error e => exact ⟨_, hended rfl _ 7, rfl⟩
  | ok enqueued =>
  obtain ⟨frameSetRelay, frameSetRelayEnqueued⟩ := enqueued
  dsimp only
  rw [IngestThread.runAlone, IngestThread.step]
  dsimp only
  rcases archiveStep buildFramePath s.archive (call.archiveCall frame events) with
    ⟨archive, outcome⟩
  dsimp only
  rw [IngestThread.runAlone, IngestThread.step]
  dsimp only [IngestThread.syncInput]
  rcases sync.finalizeFrameArchive frame emitted (frame.withOutcome outcome).frameId
    (frame.withOutcome outcome).filePath (frame.withOutcome outcome).archiveState
    (frame.withOutcome outcome).archiveError with ⟨finalized, completed⟩
  dsimp only
  rw [IngestThread.runAlone, IngestThread.step]
  dsimp only [IngestThread.syncInput]
  rcases s.cameras.updateFrame (call.streamFrame (frame.withOutcome outcome)) with
    ⟨cameras, camera⟩
  dsimp only
  rw [IngestThread.runAlone, IngestThread.step]
  dsimp only [IngestThread.syncInput]
  cases enqueueRaw s.relay mode (frame.withOutcome outcome) with
  | error e => exact ⟨_, hended rfl _ 3, rfl⟩
  | ok enqueued =>
  obtain ⟨relay, relayEnqueued⟩ := enqueued
  dsimp only
  rw [IngestThread.runAlone, IngestThread.step]
  dsimp only
  cases completed with
  | none => exact ⟨_, hended rfl _ 2, rfl⟩
  | some frameSet =>
  unfold completeFrameSet
  dsimp only
  rcases archiveManifest libraryText archive.db events frameSet with
    ⟨db, persisted, state, error⟩
  dsimp only
  rw [IngestThread.runAlone, IngestThread.step]
  dsimp only
  rcases finalized.finalizeArchiveState frameSet state error with ⟨settled, updated⟩
  exact ⟨_, rfl, rfl⟩

/-- The steps of one call leave the other calls where they are. -/
theorem after_replicate_step {s : Ingesting} {i : ℕ} {thread : IngestThread}
    (hfound : s.threads[i]? = some thread) (n : ℕ) :
    Machine.after (ingestingStep buildFramePath libraryText) s
        (List.replicate n (.step i events)) =
      { pipeline :=
          (IngestThread.runAlone buildFramePath libraryText events n (s.pipeline, thread)).1
        threads := s.threads.set i
          (IngestThread.runAlone buildFramePath libraryText events n (s.pipeline, thread)).2 } := by
  have hlt := (List.getElem?_eq_some_iff.mp hfound).1
  induction n generalizing s thread with
  | zero =>
      have hsame : s.threads.set i thread = s.threads := by
        refine List.ext_getElem? fun j => ?_
        by_cases hj : i = j
        · rw [← hj, List.getElem?_set_self hlt, hfound]
        · exact List.getElem?_set_ne hj
      rw [List.replicate_zero, Machine.after_nil, IngestThread.runAlone, hsame]
  | succ n ih =>
      have hstep : (ingestingStep buildFramePath libraryText s (.step i events)).1 =
          { pipeline := (thread.step buildFramePath libraryText s.pipeline events).1
            threads := s.threads.set i
              (thread.step buildFramePath libraryText s.pipeline events).2 } := by
        unfold ingestingStep
        dsimp only
        rw [hfound]
      set stepped : Ingesting :=
        { pipeline := (thread.step buildFramePath libraryText s.pipeline events).1
          threads := s.threads.set i
            (thread.step buildFramePath libraryText s.pipeline events).2 } with hstepped
      have hstands : stepped.threads[i]? =
          some (thread.step buildFramePath libraryText s.pipeline events).2 :=
        List.getElem?_set_self hlt
      have hstays : i < stepped.threads.length := by
        rw [hstepped, List.length_set]
        exact hlt
      rw [List.replicate_succ, Machine.after_cons, hstep, ih hstands hstays, hstepped,
        List.set_set]
      rfl

/-- Among any other calls, a call that takes all its steps before another one takes a step
leaves the pipeline and answers as `ingestFrame` says. -/
theorem ingest_alone (s : Ingesting) (call : IngestArguments) :
    ∃ thread, Machine.after (ingestingStep buildFramePath libraryText) s
        (.call call :: List.replicate 9 (.step s.threads.length events)) =
          { pipeline := (ingestFrame buildFramePath libraryText s.pipeline call events).1
            threads := s.threads ++ [thread] } ∧
      thread.phase = .ended (ingestFrame buildFramePath libraryText s.pipeline call events).2 := by
  obtain ⟨thread, hrun, hended⟩ :=
    runAlone_start buildFramePath libraryText events s.pipeline call
  refine ⟨thread, ?_, hended⟩
  have hfound : (s.threads ++ [IngestThread.start s.pipeline call])[s.threads.length]? =
      some (IngestThread.start s.pipeline call) := List.getElem?_concat_length
  rw [Machine.after_cons]
  have hsteps := @after_replicate_step buildFramePath libraryText events
    (ingestingStep buildFramePath libraryText s (.call call)).1 _ _ hfound 9
  rw [hsteps]
  change Ingesting.mk (IngestThread.runAlone buildFramePath libraryText events 9
    (s.pipeline, IngestThread.start s.pipeline call)).1 ((s.threads ++ [_]).set _
      (IngestThread.runAlone buildFramePath libraryText events 9 (s.pipeline, _)).2) = _
  rw [hrun, List.set_append_right _ _ (Nat.le_refl _), Nat.sub_self]
  rfl

end Alone

end ImageStream
