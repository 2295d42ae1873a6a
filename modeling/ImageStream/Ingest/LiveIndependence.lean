/-
# Live results do not depend on the archive

A failing archive degrades what is stored and nothing else. `ingestLive` is the pipeline
without an archive: nobody writes a file, a row or a manifest, and no outcome is written
back. Seen through `live`, every call of `ingest_frame` is a call of this pipeline, whatever
the archive does. So two runs with the same calls show the same live results, however their
archives differ and wherever they fail.
-/

import ImageStream.Ingest.Pipeline
import ImageStream.Sync.Live

namespace ImageStream

open Base

/-! ## What is live -/

def StreamFrameState.live (frame : StreamFrameState) : StreamFrameState :=
  { frame with
    frameId := none
    filePath := none
    archiveState := .pending
    archiveError := none }

def CameraStreamState.live (camera : CameraStreamState) : CameraStreamState :=
  { camera with latestFrame := camera.latestFrame.map StreamFrameState.live }

def RelayFrame.live (frame : RelayFrame) : RelayFrame :=
  { frame with filePath := none }

def RelayFrameSetFrame.live (frame : RelayFrameSetFrame) : RelayFrameSetFrame :=
  { frame with
    filePath := none
    frameId := none }

def RelayFrameSet.live (frameSet : RelayFrameSet) : RelayFrameSet :=
  { frameSet with frames := frameSet.frames.map RelayFrameSetFrame.live }

/-- A service with its queued messages rewritten. -/
def RelayService.mapMessages {M : Type} (f : M → M) (service : RelayService M) : RelayService M :=
  { service with
    queue := { service.queue with items := service.queue.items.map f } }

/-- The pipeline without its archive and what the archive has written into it. -/
def IngestPipeline.live (s : IngestPipeline) : LivePipeline where
  sync := s.sync.live
  cameras := s.cameras.mapValues CameraStreamState.live
  relay := s.relay.mapMessages RelayFrame.live
  frameSetRelay := s.frameSetRelay.mapMessages RelayFrameSet.live

/-- What a call shows besides its archive. -/
structure LiveResult where
  cameraState : CameraStreamState
  relayEnqueued : Bool
  relayMode : StreamRelayMode
  synchronizedFrameSet : Option SynchronizedFrameSet
  frameSetRelayEnqueued : Bool

def IngestResult.live (result : IngestResult) : LiveResult where
  cameraState := result.cameraState.live
  relayEnqueued := result.relayEnqueued
  relayMode := result.relayMode
  synchronizedFrameSet := result.synchronizedFrameSet.map SynchronizedFrameSet.live
  frameSetRelayEnqueued := result.frameSetRelayEnqueued

/-! ## The pipeline without an archive -/

/-- A set whose archive stays pending. -/
def settleLive (sync : StreamSyncService) :
    Option SynchronizedFrameSet → StreamSyncService × Option SynchronizedFrameSet
  | none => (sync, none)
  | some frameSet => (sync.finalizeArchiveState frameSet .pending none).map id some

/-- `ingest_frame` where nothing is archived. -/
def ingestLive (s : LivePipeline) (call : IngestArguments) :
    LivePipeline × Except IngestError LiveResult :=
  match call.memoryFrame with
  | .error reason => (s, .error (.valueError reason))
  | .ok frame =>
  match resolveIngestRelayMode call.relayMode s.relay.enabled s.frameSetRelay.enabled with
  | .error e => (s, .error e)
  | .ok mode =>
  match s.sync.handleFrame frame call.synchronizedMs call.freshRunId with
  | (sync, .error reason) => ({ s with sync := sync }, .error (.valueError reason))
  | (sync, .ok emitted) =>
  match enqueueFrameSet s.frameSetRelay mode emitted with
  | .error e => ({ s with sync := sync }, .error (.relay e))
  | .ok (frameSetRelay, frameSetRelayEnqueued) =>
  let (found, completed) := sync.finalizeFrameArchive frame emitted none none .pending none
  let (cameras, camera) := s.cameras.updateFrame (call.streamFrame frame)
  match enqueueRaw s.relay mode frame with
  | .error e =>
      ({ sync := found
         cameras := cameras
         relay := s.relay
         frameSetRelay := frameSetRelay },
        .error (.relay e))
  | .ok (relay, relayEnqueued) =>
  let (settled, frameSet) := settleLive found completed
  ({ sync := settled
     cameras := cameras
     relay := relay
     frameSetRelay := frameSetRelay },
    .ok
      { cameraState := camera
        relayEnqueued := relayEnqueued
        relayMode := mode
        synchronizedFrameSet := frameSet
        frameSetRelayEnqueued := frameSetRelayEnqueued })

/-! ## The stages, seen through `live` -/

/-- A frame is handed over before its archive has said anything. -/
structure SyncInputFrame.Pending (frame : SyncInputFrame) : Prop where
  frameId : frame.frameId = none
  filePath : frame.filePath = none
  archiveState : frame.archiveState = .pending
  archiveError : frame.archiveError = none

theorem pending_withScope {frame : SyncInputFrame} (h : frame.Pending)
    (authorizedCameraId : Option String) (scope : Option AuthorizationScope) :
    (frame.withScope authorizedCameraId scope).Pending := by
  obtain ⟨hid, hpath, hstate, herror⟩ := h
  match scope with
  | none => exact ⟨hid, hpath, hstate, herror⟩
  | some (.session _) => exact ⟨hid, hpath, hstate, herror⟩
  | some (.camera _) => exact ⟨hid, hpath, hstate, herror⟩

theorem pending_memoryFrame {call : IngestArguments} {frame : SyncInputFrame}
    (h : call.memoryFrame = .ok frame) : frame.Pending := by
  unfold IngestArguments.memoryFrame at h
  cases hcamera : call.resolvedCameraStreamId with
  | error reason =>
      rw [hcamera] at h
      cases h
  | ok cameraStreamId =>
      rw [hcamera] at h
      dsimp only [bind, Except.bind] at h
      cases hidentity : resolveFrameIdentity call.sessionId cameraStreamId call.sequence
          (some (sha256Bytes call.imageBytes)) with
      | error reason =>
          rw [hidentity] at h
          cases h
      | ok identity =>
          rw [hidentity] at h
          cases h
          exact pending_withScope ⟨rfl, rfl, rfl, rfl⟩ _ _

section Stages

variable {frame : SyncInputFrame}

theorem live_stored (h : frame.Pending) : liveMap.toFun frame.stored = frame.stored := by
  obtain ⟨hid, hpath, hstate, herror⟩ := h
  cases frame
  cases hid
  cases hpath
  cases hstate
  cases herror
  rfl

theorem live_streamFrame (h : frame.Pending) (call : IngestArguments)
    (outcome : FrameArchiveOutcome) :
    (call.streamFrame (frame.withOutcome outcome)).live = call.streamFrame frame := by
  obtain ⟨hid, hpath, hstate, herror⟩ := h
  cases frame
  cases hid
  cases hpath
  cases hstate
  cases herror
  rfl

theorem live_update (camera : CameraStreamState) (arrived : StreamFrameState) :
    (camera.update arrived).live = camera.live.update arrived.live := by
  have hgap : camera.live.gap arrived.live.sequence = camera.gap arrived.sequence := rfl
  unfold CameraStreamState.update
  rw [hgap]
  unfold CameraStreamState.live StreamFrameState.live
  dsimp only [Option.map_some]

theorem live_updateFrame (cameras : CameraStates) (arrived : StreamFrameState) :
    CameraStates.updateFrame (cameras.mapValues CameraStreamState.live) arrived.live =
      ((cameras.updateFrame arrived).1.mapValues CameraStreamState.live,
        (cameras.updateFrame arrived).2.live) := by
  have hcamera : CameraStates.cameraOf (cameras.mapValues CameraStreamState.live)
      arrived.live.deviceId = (cameras.cameraOf arrived.deviceId).live := by
    unfold CameraStates.cameraOf
    rw [Dict.get?_mapValues]
    change (Option.map CameraStreamState.live (cameras.get? arrived.deviceId)).getD _ = _
    cases cameras.get? arrived.deviceId <;> rfl
  unfold CameraStates.updateFrame
  dsimp only
  rw [hcamera, ← live_update, Dict.mapValues_set]
  rfl

theorem construct_map {α β : Type} (fits : Bool) (message : α) (f : α → β) :
    (construct fits message).map f = construct fits (f message) := by
  cases fits <;> rfl

theorem live_enqueue {M : Type} [RelayMessage M] {f : M → M}
    (hid : ∀ message, RelayMessage.frameSetId? (f message) = RelayMessage.frameSetId? message)
    (service : RelayService M) (message : M) :
    (service.mapMessages f).enqueue (f message) =
      ((service.enqueue message).1.mapMessages f, (service.enqueue message).2) := by
  have henabled : (service.mapMessages f).enabled = service.enabled := rfl
  unfold RelayService.enqueue
  rw [henabled]
  split
  · unfold RelayService.countEnqueued RelayService.put RelayService.mapMessages TaskQueue.put
    dsimp only
    rw [hid, List.map_append, List.map_singleton]
  · rfl

theorem live_sortedFrames (frameSet : SynchronizedFrameSet) :
    sortedFrames frameSet.live =
      (sortedFrames frameSet).map fun entry => (entry.1, liveMap.toFun entry.2) := by
  symm
  apply List.map_insertionSort
  intro _ _ _ _
  exact Iff.rfl

theorem live_buildRelayFrameSet (frameSet : SynchronizedFrameSet) :
    buildRelayFrameSet frameSet.live = (buildRelayFrameSet frameSet).map RelayFrameSet.live := by
  unfold buildRelayFrameSet
  dsimp only
  rw [construct_map, live_sortedFrames]
  unfold RelayFrameSet.live RelayFrameSet.fits
  dsimp only
  rw [List.map_map, List.map_map, List.all_map, List.all_map]
  rfl

theorem live_enqueueFrameSet (service : RelayService RelayFrameSet) (mode : StreamRelayMode)
    (frameSet : Option SynchronizedFrameSet) :
    enqueueFrameSet (service.mapMessages RelayFrameSet.live) mode
        (frameSet.map SynchronizedFrameSet.live) =
      (enqueueFrameSet service mode frameSet).map
        (Prod.map (RelayService.mapMessages RelayFrameSet.live) id) := by
  cases mode with
  | off => rfl
  | raw => rfl
  | frameSet =>
      cases frameSet with
      | none => rfl
      | some frameSet =>
          have hid : ∀ message : RelayFrameSet, RelayMessage.frameSetId? message.live =
              RelayMessage.frameSetId? message := fun _ => rfl
          unfold enqueueFrameSet
          dsimp only [Option.map_some]
          rw [live_buildRelayFrameSet]
          cases buildRelayFrameSet frameSet with
          | error e => rfl
          | ok message => exact congrArg Except.ok (live_enqueue hid service message)

theorem live_enqueueRaw (h : frame.Pending) (service : RelayService RelayFrame)
    (mode : StreamRelayMode) (outcome : FrameArchiveOutcome) :
    enqueueRaw (service.mapMessages RelayFrame.live) mode frame =
      (enqueueRaw service mode (frame.withOutcome outcome)).map
        (Prod.map (RelayService.mapMessages RelayFrame.live) id) := by
  have hmessage : buildRawRelayFrame frame =
      (buildRawRelayFrame (frame.withOutcome outcome)).map RelayFrame.live := by
    have hframe : relayFrameOf frame = (relayFrameOf (frame.withOutcome outcome)).live := by
      unfold relayFrameOf RelayFrame.live
      rw [h.filePath]
      rfl
    unfold buildRawRelayFrame
    rw [construct_map, hframe]
    rfl
  cases mode with
  | off => rfl
  | frameSet => rfl
  | raw =>
      have hid : ∀ message : RelayFrame, RelayMessage.frameSetId? message.live =
          RelayMessage.frameSetId? message := fun _ => rfl
      unfold enqueueRaw
      dsimp only
      rw [hmessage]
      cases buildRawRelayFrame (frame.withOutcome outcome) with
      | error e => rfl
      | ok message => exact congrArg Except.ok (live_enqueue hid service message)

theorem live_completeFrameSet (libraryText : ManifestError → String) (sync : StreamSyncService)
    (db : Database) (events : ArchiveEvents) (legacy : LegacyRelayState × Option String)
    (completed : Option SynchronizedFrameSet) :
    settleLive sync.live (completed.map SynchronizedFrameSet.live) =
      ((completeFrameSet libraryText sync db events legacy completed).1.live,
        (completeFrameSet libraryText sync db events legacy completed).2.2.1.map
          SynchronizedFrameSet.live) := by
  cases completed with
  | none => rfl
  | some frameSet =>
      have hsettle := sync.finalizeArchiveState_live frameSet
        (archiveManifest libraryText db events frameSet).2.2.1
        (archiveManifest libraryText db events frameSet).2.2.2
      unfold settleLive completeFrameSet
      dsimp only [Option.map_some]
      rw [hsettle]
      rfl

end Stages

/-! ## A call -/

section Call

variable (buildFramePath : FramePath) (libraryText : ManifestError → String)

/-- **A call refines the pipeline without an archive.** -/
theorem live_ingestFrame (s : IngestPipeline) (call : IngestArguments) (events : ArchiveEvents) :
    ingestLive s.live call =
      ((ingestFrame buildFramePath libraryText s call events).1.live,
        (ingestFrame buildFramePath libraryText s call events).2.map IngestResult.live) := by
  have hrelay : s.live.relay.enabled = s.relay.enabled := rfl
  have hframeSetRelay : s.live.frameSetRelay.enabled = s.frameSetRelay.enabled := rfl
  unfold ingestLive ingestFrame
  rw [hrelay, hframeSetRelay]
  cases hmemory : call.memoryFrame with
  | error reason => rfl
  | ok frame =>
      have hpending := pending_memoryFrame hmemory
      have hhandle := s.sync.handleFrame_live frame (live_stored hpending) call.synchronizedMs
        call.freshRunId
      dsimp only
      cases resolveIngestRelayMode call.relayMode s.relay.enabled s.frameSetRelay.enabled with
      | error e => rfl
      | ok mode =>
          dsimp only [IngestPipeline.live]
          rw [hhandle]
          obtain ⟨sync, answer⟩ := s.sync.handleFrame frame call.synchronizedMs call.freshRunId
          cases answer with
          | error reason => rfl
          | ok emitted =>
              dsimp only [Except.map]
              rw [live_enqueueFrameSet]
              cases enqueueFrameSet s.frameSetRelay mode emitted with
              | error e => rfl
              | ok enqueued =>
                  obtain ⟨frameSetRelay, frameSetRelayEnqueued⟩ := enqueued
                  obtain ⟨archive, outcome⟩ := archiveStep buildFramePath s.archive
                    (call.archiveCall frame events)
                  dsimp only [Except.map, Prod.map_apply, id_eq]
                  rw [sync.finalizeFrameArchive_live frame emitted
                      (frame.withOutcome outcome).frameId (frame.withOutcome outcome).filePath
                      (frame.withOutcome outcome).archiveState
                      (frame.withOutcome outcome).archiveError,
                    ← live_streamFrame hpending call outcome, live_updateFrame,
                    live_enqueueRaw hpending s.relay mode outcome]
                  obtain ⟨found, completed⟩ := sync.finalizeFrameArchive frame emitted
                    (frame.withOutcome outcome).frameId (frame.withOutcome outcome).filePath
                    (frame.withOutcome outcome).archiveState
                    (frame.withOutcome outcome).archiveError
                  cases enqueueRaw s.relay mode (frame.withOutcome outcome) with
                  | error e => rfl
                  | ok enqueued =>
                      obtain ⟨relay, relayEnqueued⟩ := enqueued
                      dsimp only [Except.map, Prod.map_apply, id_eq]
                      rw [live_completeFrameSet libraryText found archive.db events
                        (legacyProjection mode relayEnqueued frameSetRelayEnqueued) completed]
                      rfl

end Call

/-! ## Runs -/

abbrev LiveExchange : Type :=
  Exchange LivePipeline IngestArguments (Except IngestError LiveResult)

/-- An exchange as the pipeline without an archive has it. -/
def IngestExchange.live (e : IngestExchange) : LiveExchange :=
  e.map IngestPipeline.live Prod.fst (Except.map IngestResult.live)

/-- The set that `handle_frame` answers to the frame of a call. -/
def emittedSet (sync : StreamSyncService) (call : IngestArguments) :
    Option SynchronizedFrameSet :=
  match call.memoryFrame with
  | .error _ => none
  | .ok frame =>
      match (sync.handleFrame frame call.synchronizedMs call.freshRunId).2 with
      | .error _ => none
      | .ok emitted => emitted

def IngestExchange.emitted (e : IngestExchange) : Option SynchronizedFrameSet :=
  emittedSet e.before.sync e.input.1

theorem live_emittedSet (sync : StreamSyncService) (call : IngestArguments) :
    (emittedSet sync call).map SynchronizedFrameSet.live = emittedSet sync.live call := by
  unfold emittedSet
  cases hmemory : call.memoryFrame with
  | error reason => rfl
  | ok frame =>
      dsimp only
      rw [sync.handleFrame_live frame (live_stored (pending_memoryFrame hmemory))]
      cases (sync.handleFrame frame call.synchronizedMs call.freshRunId).2 <;> rfl

/-- What is emitted is seen in the live exchange. -/
theorem emitted_of_live {first second : IngestExchange} (h : second.live = first.live) :
    second.emitted.map SynchronizedFrameSet.live =
      first.emitted.map SynchronizedFrameSet.live := by
  have hbefore : second.before.sync.live = first.before.sync.live :=
    congrArg (fun e : LiveExchange => e.before.sync) h
  have hinput : second.input.1 = first.input.1 := congrArg (fun e : LiveExchange => e.input) h
  unfold IngestExchange.emitted
  rw [live_emittedSet, live_emittedSet, hbefore, hinput]

/-- A run refines a run of the pipeline without an archive. -/
theorem live_history (buildFramePath : FramePath) (libraryText : ManifestError → String)
    (s : IngestPipeline) (inputs : List (IngestArguments × ArchiveEvents)) :
    (Machine.history (ingestStep buildFramePath libraryText) s inputs).map IngestExchange.live =
      Machine.history ingestLive s.live (inputs.map Prod.fst) :=
  (Machine.history_map (ingestStep buildFramePath libraryText)
    (fun t input => live_ingestFrame buildFramePath libraryText t input.1 input.2) s inputs).symm

/-- **LIVE results do not depend on the archive.** Two runs make the same calls, from the same
state but for the archive. Whatever the archives hold and wherever a path, a file, a row, a
manifest or a projection fails in either run: call by call the two are the same exchange of the
pipeline without an archive. They raise together, emit together and return together, sets that
are the same but for what the archive writes into a set and its members; they leave the same
messages with the relays but for file paths and frame ids, and the same matchers, buffers and
cameras. -/
theorem live_independent_of_archive (buildFramePath buildFramePath' : FramePath)
    (libraryText libraryText' : ManifestError → String) (s : IngestPipeline)
    (archive : FrameArchive) (calls : List (IngestArguments × ArchiveEvents × ArchiveEvents)) :
    let first := Machine.history (ingestStep buildFramePath libraryText) s
      (calls.map fun call => (call.1, call.2.1))
    let second := Machine.history (ingestStep buildFramePath' libraryText')
      { s with archive := archive } (calls.map fun call => (call.1, call.2.2))
    first.map IngestExchange.live = Machine.history ingestLive s.live (calls.map Prod.fst) ∧
    second.map IngestExchange.live = Machine.history ingestLive s.live (calls.map Prod.fst) ∧
    List.Forall₂ (fun e e' : IngestExchange => e'.emitted.map SynchronizedFrameSet.live =
      e.emitted.map SynchronizedFrameSet.live) first second := by
  intro first second
  have hfirst : first.map IngestExchange.live =
      Machine.history ingestLive s.live (calls.map Prod.fst) := by
    rw [live_history, List.map_map]
    rfl
  have hsecond : second.map IngestExchange.live =
      Machine.history ingestLive s.live (calls.map Prod.fst) := by
    rw [live_history, List.map_map]
    rfl
  refine ⟨hfirst, hsecond, ?_⟩
  have hlive : List.Forall₂ (· = ·) (first.map IngestExchange.live)
      (second.map IngestExchange.live) := by
    rw [List.forall₂_eq_eq_eq]
    exact hfirst.trans hsecond.symm
  rw [List.forall₂_map_left_iff, List.forall₂_map_right_iff] at hlive
  exact hlive.imp fun e e' h => emitted_of_live h.symm

end ImageStream
