/-
# The recorded archive state of a set

The archive state of a set is computed in three places: when the set is emitted, when the
outcome of a member is written back and when a call has stored the manifest. The last one
is decided from a snapshot, while other calls write their outcomes into the set. Whatever
the order of these steps, the state that is recorded with a set is right for the members
that are recorded with it.

Only V2 sets have a manifest that asks for durable members: a legacy set is recorded as
durable as soon as no member of the snapshot is degraded.
-/

import ImageStream.Ingest.Interleaving

namespace ImageStream

open Base

/-- The archive state and error of a set are right for its members. -/
structure SynchronizedFrameSet.ArchiveAgrees (frameSet : SynchronizedFrameSet) : Prop where
  degraded : ∀ member ∈ frameSet.members, member.archiveState = .degradedLiveOnly →
    frameSet.archiveState = .degradedLiveOnly
  durable : frameSet.identityMode = .v2 → frameSet.archiveState = .durable →
    ∀ member ∈ frameSet.members, member.archiveState = .durable ∧ truthy member.filePath = true
  explained : frameSet.archiveError.isSome ↔ frameSet.archiveState = .degradedLiveOnly

/-! ## Computed states -/

section Computed

variable {members : List StoredSyncFrame}

theorem archiveStateOf_eq_degraded_iff :
    archiveStateOf members = .degradedLiveOnly ↔
      ∃ member ∈ members, member.archiveState = .degradedLiveOnly := by
  unfold archiveStateOf
  split
  · rename_i h
    simpa using h
  · rename_i h
    constructor
    · intro hstate
      cases hstate
    · intro hmember
      exact absurd (by simpa using hmember) h

theorem archiveStateOf_ne_durable : archiveStateOf members ≠ .durable := by
  unfold archiveStateOf
  split <;> exact fun h => by cases h

theorem archiveErrorOf_isSome_iff :
    (archiveErrorOf members).isSome ↔ archiveStateOf members = .degradedLiveOnly := by
  rw [archiveStateOf_eq_degraded_iff]
  unfold archiveErrorOf
  split
  · rename_i hnone
    rw [List.filter_eq_nil_iff] at hnone
    simpa using hnone
  · rename_i degraded hne
    have hsome : (members.filter fun member => member.archiveState = .degradedLiveOnly) ≠ [] :=
      hne
    obtain ⟨member, hmember⟩ := List.exists_mem_of_ne_nil _ hsome
    rw [List.mem_filter, decide_eq_true_eq] at hmember
    exact iff_of_true rfl ⟨member, hmember⟩

/-- A set whose state and error have just been computed from its members. -/
theorem agrees_of_computed {frameSet : SynchronizedFrameSet}
    (hstate : frameSet.archiveState = archiveStateOf frameSet.members)
    (herror : frameSet.archiveError = archiveErrorOf frameSet.members) :
    frameSet.ArchiveAgrees where
  degraded member hmember hdegraded :=
    hstate.trans (archiveStateOf_eq_degraded_iff.mpr ⟨member, hmember, hdegraded⟩)
  durable _ hdurable := absurd (hstate.symm.trans hdurable) archiveStateOf_ne_durable
  explained := by
    rw [hstate, herror]
    exact archiveErrorOf_isSome_iff

theorem agrees_withMember (frameSet : SynchronizedFrameSet) (frame : StoredSyncFrame) :
    (frameSet.withMember frame).ArchiveAgrees :=
  agrees_of_computed rfl rfl

theorem agrees_buildFrameSet (matcher : SyncMatcher) (identity : CaptureIdentity)
    (selected : Dict String StoredSyncFrame) (spanMs synchronizedAtMs : ℤ) :
    (matcher.buildFrameSet identity selected spanMs synchronizedAtMs).ArchiveAgrees :=
  agrees_of_computed rfl rfl

end Computed

/-! ## Manifests -/

/-- Only a valid set is persisted. -/
theorem valid_of_persisted {db : Database} {frameSet : SynchronizedFrameSet} {nowMs : ℤ}
    {persisted : Bool} (hmode : frameSet.identityMode = .v2)
    (h : (persistFrameSetManifest db frameSet none nowMs).2 = .ok persisted) :
    validateV2FrameSet frameSet = .ok () := by
  unfold persistFrameSetManifest persistRead at h
  rw [if_neg (not_not.mpr hmode)] at h
  cases hvalid : validateV2FrameSet frameSet with
  | ok _ => rfl
  | error e =>
      rw [hvalid] at h
      cases h

/-- What a call decides from its snapshot is right for the snapshot. -/
theorem agrees_archiveManifest (libraryText : ManifestError → String) (db : Database)
    (events : ArchiveEvents) {frameSet : SynchronizedFrameSet} (h : frameSet.ArchiveAgrees) :
    (frameSet.withState (archiveManifest libraryText db events frameSet).2.2.1
      (archiveManifest libraryText db events frameSet).2.2.2).ArchiveAgrees := by
  unfold archiveManifest
  by_cases hpending : frameSet.archiveState = .pending
  · rw [if_neg (not_not.mpr hpending)]
    have hnone : ∀ member ∈ frameSet.members, member.archiveState ≠ .degradedLiveOnly := by
      intro member hmember hdegraded
      have hstate := h.degraded member hmember hdegraded
      rw [hpending] at hstate
      cases hstate
    have hfails : ∀ text : String,
        (frameSet.withState .degradedLiveOnly (some text)).ArchiveAgrees := fun text =>
      { degraded := fun _ _ _ => rfl
        durable := fun _ hdurable => by cases hdurable
        explained := iff_of_true rfl rfl }
    by_cases hmode : frameSet.identityMode = .v2
    · rw [if_neg (not_not.mpr hmode)]
      cases events.manifestError with
      | some text => exact hfails _
      | none =>
          dsimp only
          cases hpersist : persistFrameSetManifest db frameSet none events.manifestMs with
          | mk stored answer =>
              cases answer with
              | error e => exact hfails _
              | ok persisted =>
                  have hvalid := valid_of_persisted hmode (congrArg Prod.snd hpersist)
                  refine
                    { degraded := fun member hmember hdegraded =>
                        absurd hdegraded (hnone member hmember)
                      durable := fun _ _ member hmember => ?_
                      explained := iff_of_false (by simp [SynchronizedFrameSet.withState])
                        fun hstate => by cases hstate }
                  have hready := manifestReady_of_valid hvalid member hmember
                  simp only [StoredSyncFrame.manifestReady, Bool.and_eq_true,
                    decide_eq_true_eq] at hready
                  exact ⟨hready.1.2, hready.2⟩
    · rw [if_pos hmode]
      have herror : ¬ frameSet.archiveError.isSome := by
        rw [h.explained, hpending]
        exact fun hstate => by cases hstate
      exact
        { degraded := fun member hmember hdegraded => absurd hdegraded (hnone member hmember)
          durable := fun hv2 => absurd hv2 hmode
          explained := iff_of_false herror fun hstate => by cases hstate }
  · rw [if_pos hpending]
    exact h

/-! ## The service -/

namespace StreamSyncService

/-- All recent sets agree with their members. -/
def Agrees (service : StreamSyncService) : Prop :=
  ∀ frameSet ∈ service.recentFrameSets, frameSet.ArchiveAgrees

variable {service : StreamSyncService}

theorem Agrees.handleFrame (h : service.Agrees) (frame : SyncInputFrame) (nowMs : ℤ)
    (freshRunId : String) :
    (service.handleFrame frame nowMs freshRunId).1.Agrees ∧
      ∀ frameSet, (service.handleFrame frame nowMs freshRunId).2 = .ok (some frameSet) →
        frameSet.ArchiveAgrees := by
  have houtcome := handleFrame_outcome service frame nowMs freshRunId
  generalize accepted? service (.handleFrame frame nowMs freshRunId) = stored at houtcome
  generalize service.handleFrame frame nowMs freshRunId = result at houtcome ⊢
  cases houtcome with
  | disabled => exact ⟨h, fun _ hset => (by cases hset)⟩
  | dropped matcher hmatcher hadmits manager hbuffers hindex =>
      exact ⟨h, fun _ hset => (by cases hset)⟩
  | accepted matcher hmatcher hadmits result hresult =>
      have hrecent : ∀ frameSet ∈ matcher.recentFrameSets, frameSet.ArchiveAgrees := by
        unfold Agrees recentFrameSets at h
        rwa [hmatcher] at h
      cases hresult with
      | ignored recorded answer hrecorded hnone =>
          refine ⟨fun frameSet hmem => ?_, fun frameSet hset => absurd hset (hnone frameSet)⟩
          exact hrecent frameSet (hrecorded.recentFrameSets ▸ hmem)
      | missed recorded hrecorded =>
          refine ⟨fun frameSet hmem => ?_, fun _ hset => (by cases hset)⟩
          have hsame := (recorded.sameSets_dropStaleFrames
            (service.bufferManager.retain frame.stored)).recentFrameSets
          exact hrecent frameSet (hrecorded.recentFrameSets ▸ hsame ▸ hmem)
      | emitted selected spanMs identity hselected hidentity =>
          obtain ⟨recorded, hanswer, -, hsame⟩ := matcher.emit_recorded
            (service.bufferManager.retain frame.stored) identity selected spanMs nowMs freshRunId
          obtain ⟨entered, synchronizedAtMs, hbuilt⟩ := matcher.emit_built
            (service.bufferManager.retain frame.stored) identity selected spanMs nowMs freshRunId
          have hagrees : recorded.ArchiveAgrees := by
            rw [hbuilt] at hanswer
            cases hanswer
            exact agrees_buildFrameSet entered identity selected spanMs synchronizedAtMs
          constructor
          · intro frameSet hmem
            change frameSet ∈ (matcher.emit _ identity selected spanMs nowMs
              freshRunId).1.recentFrameSets at hmem
            rw [hsame.recentFrameSets] at hmem
            have hentered : (matcher.entered (service.bufferManager.retain frame.stored) identity
                selected freshRunId).recentFrameSets = matcher.recentFrameSets :=
              (SyncMatcher.enterCapture_cases _ _ _).1
            rcases List.mem_append.mp ((pushBounded_sublist _ _ _).subset hmem) with hold | hnew
            · exact hrecent frameSet (hentered ▸ hold)
            · rw [List.mem_singleton.mp hnew]
              exact hagrees
          · intro frameSet hset
            rw [hanswer] at hset
            cases hset
            exact hagrees

theorem agrees_recordArchive {matcher : SyncMatcher}
    (h : ∀ frameSet ∈ matcher.recentFrameSets, frameSet.ArchiveAgrees)
    (frameSet : SynchronizedFrameSet) {updated : SynchronizedFrameSet}
    (hupdated : updated.ArchiveAgrees) :
    ∀ item ∈ (matcher.recordArchive frameSet updated).recentFrameSets, item.ArchiveAgrees := by
  intro item hitem
  obtain ⟨old, hold, rfl⟩ := List.mem_map.mp hitem
  split
  · exact hupdated
  · exact h old hold

theorem Agrees.finalizeArchiveState (h : service.Agrees) {frameSet : SynchronizedFrameSet}
    {state : ArchiveState} {error : Option String}
    (hstate : (frameSet.withState state error).ArchiveAgrees)
    (hframeSet : service.matcher = none → frameSet.ArchiveAgrees) :
    (service.finalizeArchiveState frameSet state error).1.Agrees ∧
      (service.finalizeArchiveState frameSet state error).2.ArchiveAgrees := by
  obtain ⟨enabled, cameras, windowMs, manager, matcher⟩ := service
  cases matcher with
  | none => exact ⟨h, hframeSet rfl⟩
  | some matcher => exact ⟨agrees_recordArchive h frameSet hstate, hstate⟩

theorem Agrees.finalizeFrameArchive (h : service.Agrees) (frame : SyncInputFrame)
    {frameSet : Option SynchronizedFrameSet}
    (hframeSet : ∀ item ∈ frameSet, item.ArchiveAgrees) (frameId : Option ℤ)
    (filePath : Option String) (archiveState : ArchiveState) (archiveError : Option String) :
    (service.finalizeFrameArchive frame frameSet frameId filePath archiveState
        archiveError).1.Agrees ∧
      ∀ item ∈ (service.finalizeFrameArchive frame frameSet frameId filePath archiveState
        archiveError).2, item.ArchiveAgrees := by
  obtain ⟨enabled, cameras, windowMs, manager, matcher⟩ := service
  unfold StreamSyncService.finalizeFrameArchive
  cases matcher with
  | none => exact ⟨h, hframeSet⟩
  | some matcher =>
      dsimp only
      generalize Option.orElse _ _ = found
      cases found with
      | none => exact ⟨h, hframeSet⟩
      | some stored =>
          unfold SyncMatcher.replaceRecentFrameMember SyncMatcher.replaceFrameMember
          dsimp only
          cases matcher.recentSetOf stored.bufferKey with
          | some recent =>
              have hupdated := agrees_withMember recent stored
              refine ⟨agrees_recordArchive h recent hupdated, fun item hitem => ?_⟩
              cases hitem
              exact hupdated
          | none =>
              cases frameSet with
              | none => exact ⟨h, hframeSet⟩
              | some held =>
                  have hupdated := agrees_withMember held stored
                  refine ⟨agrees_recordArchive h held hupdated, fun item hitem => ?_⟩
                  cases hitem
                  exact hupdated

end StreamSyncService

/-! ## Threads -/

/-- What a call holds: a set that agrees with its members, and after the manifest a decision
that does. -/
structure IngestThread.Agrees (thread : IngestThread) : Prop where
  frameSet : ∀ frameSet ∈ thread.frameSet, frameSet.ArchiveAgrees
  decided : thread.phase = .settling → ∀ frameSet ∈ thread.frameSet,
    (frameSet.withState thread.finalArchiveState thread.finalArchiveError).ArchiveAgrees
  answered : ∀ result, thread.phase = .ended (.ok result) →
    ∀ frameSet ∈ result.synchronizedFrameSet,
      frameSet.ArchiveAgrees ∧ result.archiveState = frameSet.archiveState ∧
        result.archiveError = frameSet.archiveError

namespace IngestThread

theorem agrees_start (s : IngestPipeline) (call : IngestArguments) : (start s call).Agrees := by
  unfold start
  split
  · exact ⟨fun _ h => (by cases h), fun h => (by cases h), fun _ h => (by cases h)⟩
  · split <;>
      exact ⟨fun _ h => (by cases h), fun h => (by cases h), fun _ h => (by cases h)⟩

theorem agrees_raised {thread : IngestThread} (h : thread.Agrees) (e : IngestError) :
    (thread.raised e).Agrees :=
  ⟨h.frameSet, fun hphase => (by cases hphase), fun _ hphase => (by cases hphase)⟩

/-- A step to a phase in which nothing is decided and nothing answered. -/
theorem agrees_of_moved {moved : IngestThread}
    (hframeSet : ∀ frameSet ∈ moved.frameSet, frameSet.ArchiveAgrees)
    (hsettling : moved.phase ≠ .settling) (hended : ∀ answer, moved.phase ≠ .ended answer) :
    moved.Agrees :=
  ⟨hframeSet, fun h => absurd h hsettling, fun result h => absurd h (hended (.ok result))⟩

theorem agrees_answered {thread : IngestThread}
    (hframeSet : ∀ frameSet ∈ thread.frameSet, frameSet.ArchiveAgrees) :
    IngestThread.Agrees { thread with phase := .ended (.ok thread.result) } := by
  refine ⟨hframeSet, fun h => (by cases h), fun result hresult frameSet hmem => ?_⟩
  cases hresult
  have hheld : thread.frameSet = some frameSet := hmem
  refine ⟨hframeSet frameSet hmem, ?_, ?_⟩
  · show (thread.frameSet.map (·.archiveState)).getD thread.outcome.state = _
    rw [hheld]
    rfl
  · show (thread.frameSet.map (·.archiveError)).getD thread.outcome.error = _
    rw [hheld]
    rfl

variable (buildFramePath : FramePath) (libraryText : ManifestError → String)

/-- One step of one call. -/
theorem Agrees.step {s : IngestPipeline} (hsets : s.sync.Agrees) {thread : IngestThread}
    (h : thread.Agrees) (events : ArchiveEvents) :
    (thread.step buildFramePath libraryText s events).1.sync.Agrees ∧
      (thread.step buildFramePath libraryText s events).2.Agrees := by
  unfold IngestThread.step
  cases hphase : thread.phase with
  | handling =>
      dsimp only
      obtain ⟨hkept, hemitted⟩ := hsets.handleFrame thread.memoryFrame
        thread.call.synchronizedMs thread.call.freshRunId
      generalize s.sync.handleFrame thread.memoryFrame thread.call.synchronizedMs
        thread.call.freshRunId = result at hkept hemitted ⊢
      obtain ⟨sync, answer⟩ := result
      cases answer with
      | error reason => exact ⟨hkept, agrees_raised h _⟩
      | ok emitted =>
          refine ⟨hkept, agrees_of_moved (fun frameSet hmem => ?_) (fun h => (by cases h))
            fun _ h => (by cases h)⟩
          exact hemitted frameSet (congrArg Except.ok hmem)
  | relayingFrameSet =>
      dsimp only
      cases enqueueFrameSet s.frameSetRelay thread.relayMode thread.frameSet with
      | error e => exact ⟨hsets, agrees_raised h _⟩
      | ok enqueued =>
          exact ⟨hsets, agrees_of_moved h.frameSet (fun h => (by cases h))
            fun _ h => (by cases h)⟩
  | archiving =>
      exact ⟨hsets, agrees_of_moved h.frameSet (fun h => (by cases h)) fun _ h => (by cases h)⟩
  | completing =>
      obtain ⟨hkept, hcompleted⟩ := hsets.finalizeFrameArchive thread.memoryFrame h.frameSet
        thread.syncInput.frameId thread.syncInput.filePath thread.syncInput.archiveState
        thread.syncInput.archiveError
      exact ⟨hkept, agrees_of_moved hcompleted (fun h => (by cases h)) fun _ h => (by cases h)⟩
  | updating =>
      exact ⟨hsets, agrees_of_moved h.frameSet (fun h => (by cases h)) fun _ h => (by cases h)⟩
  | relayingRaw =>
      dsimp only
      cases enqueueRaw s.relay thread.relayMode thread.syncInput with
      | error e => exact ⟨hsets, agrees_raised h _⟩
      | ok enqueued =>
          exact ⟨hsets, agrees_of_moved h.frameSet (fun h => (by cases h))
            fun _ h => (by cases h)⟩
  | persisting =>
      dsimp only
      split
      · exact ⟨hsets, agrees_answered h.frameSet⟩
      · rename_i frameSet hheld
        have hagrees := h.frameSet frameSet hheld
        refine ⟨hsets, ⟨h.frameSet, fun _ item hitem => ?_, fun _ h => (by cases h)⟩⟩
        obtain rfl : frameSet = item := Option.some.inj (hheld.symm.trans hitem)
        exact agrees_archiveManifest libraryText s.archive.db events hagrees
  | settling =>
      dsimp only
      split
      · exact ⟨hsets, h⟩
      · rename_i frameSet hheld
        obtain ⟨hkept, hupdated⟩ := hsets.finalizeArchiveState
          (h.decided hphase frameSet hheld) fun _ => h.frameSet frameSet hheld
        refine ⟨hkept, agrees_of_moved (fun item hitem => ?_) (fun h => (by cases h))
          fun _ h => (by cases h)⟩
        cases hitem
        exact hupdated
  | projecting =>
      dsimp only
      split
      · exact ⟨hsets, h⟩
      · exact ⟨hsets, agrees_answered h.frameSet⟩
  | ended answer => exact ⟨hsets, h⟩

end IngestThread

/-! ## Runs -/

section Runs

variable (buildFramePath : FramePath) (libraryText : ManifestError → String)

/-- All sets that are recorded or held by a call agree with their members. -/
structure Ingesting.Agrees (s : Ingesting) : Prop where
  recent : s.pipeline.sync.Agrees
  threads : ∀ thread ∈ s.threads, thread.Agrees

theorem Ingesting.Agrees.step {s : Ingesting} (h : s.Agrees) (op : IngestingOp) :
    (ingestingStep buildFramePath libraryText s op).1.Agrees := by
  cases op with
  | call arguments =>
      exact ⟨h.recent, Crew.forall_snoc h.threads (IngestThread.agrees_start _ _)⟩
  | step i events =>
      unfold ingestingStep
      dsimp only
      cases hfound : s.threads[i]? with
      | none => exact h
      | some thread =>
          obtain ⟨hsets, hmoved⟩ := IngestThread.Agrees.step buildFramePath libraryText h.recent
            (h.threads thread (Crew.mem_of_found hfound)) events
          exact ⟨hsets, Crew.forall_set h.threads hmoved⟩

theorem Ingesting.agrees_after {s : Ingesting} (h : s.Agrees) (ops : List IngestingOp) :
    (Machine.after (ingestingStep buildFramePath libraryText) s ops).Agrees := by
  induction ops generalizing s with
  | nil => exact h
  | cons op ops ih => exact ih (h.step buildFramePath libraryText op)

theorem agrees_configuredService (expectedCameras : List String) (windowMs : ℤ)
    (bufferSize recentLimit : ℕ) (runId : String) :
    (configuredService expectedCameras windowMs bufferSize recentLimit runId).Agrees := by
  intro frameSet hmem
  unfold configuredService StreamSyncService.configure at hmem
  dsimp only at hmem
  split at hmem <;> cases hmem

/-- **The recorded archive states are right.** In every interleaving of `ingest_frame` calls from
a configured service, with an archive that fails anywhere: a set that the service has recorded,
or that a call has answered with, is degraded if a member is, is durable as a V2 set only if all
its members are, each with a file path, and has an error exactly if it is degraded. -/
theorem recorded_states_agree (expectedCameras : List String) (windowMs : ℤ)
    (bufferSize recentLimit : ℕ) (runId : String) (cameras : CameraStates)
    (relay : RelayService RelayFrame) (frameSetRelay : RelayService RelayFrameSet)
    (archive : FrameArchive) (ops : List IngestingOp) :
    let start : Ingesting :=
      { pipeline :=
          { sync := configuredService expectedCameras windowMs bufferSize recentLimit runId
            cameras := cameras
            relay := relay
            frameSetRelay := frameSetRelay
            archive := archive } }
    let s := Machine.after (ingestingStep buildFramePath libraryText) start ops
    (∀ frameSet ∈ s.pipeline.sync.recentFrameSets, frameSet.ArchiveAgrees) ∧
    ∀ thread ∈ s.threads, ∀ result, thread.phase = .ended (.ok result) →
      ∀ frameSet ∈ result.synchronizedFrameSet,
        frameSet.ArchiveAgrees ∧ result.archiveState = frameSet.archiveState ∧
          result.archiveError = frameSet.archiveError := by
  intro start s
  have hstart : start.Agrees :=
    ⟨agrees_configuredService _ _ _ _ _, fun _ hmem => (by cases hmem)⟩
  have hagrees := Ingesting.agrees_after buildFramePath libraryText hstart ops
  exact ⟨hagrees.recent, fun thread hmem => (hagrees.threads thread hmem).answered⟩

end Runs

end ImageStream
