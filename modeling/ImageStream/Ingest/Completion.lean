/-
# Archive completions of one frame set

The last part of `ingest_frame` for the members of one emitted set. Each member's thread
registers its completion with the service and gets a snapshot of the whole set, persists
the manifest of this snapshot, and writes the snapshot back with the archive state that
follows. Any number of threads take these steps in any order.

The update of the delivery projection comes after the write-back and touches neither the
service nor the manifest; it is left out here.
-/

import ImageStream.Base.WriteBack
import ImageStream.Sync.ManifestAcceptance
import ImageStream.Sync.RecentSets

namespace ImageStream

open Base

/-- The ingest thread of one member whose image has been archived. -/
structure ArchiveCompletion where
  frame : SyncInputFrame
  /-- What `handle_frame` has answered to this thread. -/
  frameSet : Option SynchronizedFrameSet := none
  frameId : Option ℤ
  filePath : String

/-- Where a thread is. -/
inductive CompletionPhase
  | waiting
  | registered (snapshot : SynchronizedFrameSet)
  | settled (snapshot : SynchronizedFrameSet) (state : ArchiveState) (error : Option String)
  | finished

/-- The service, the database and the threads, by the devices of their members. -/
structure Completing where
  service : StreamSyncService
  db : Database
  phase : String → CompletionPhase := fun _ => .waiting

/-- One step of a thread, with the clock that a persisting thread reads. -/
structure CompletionOp where
  device : String
  nowMs : ℤ := 0

inductive CompletionAnswer
  | registered
  | persisted
  | failed
  | written
  /-- There is no such thread, or it has finished. -/
  | ignored
  deriving DecidableEq

/-- What follows a registration. Only V2 sets have a manifest. -/
def afterRegistration : Option SynchronizedFrameSet → CompletionPhase
  | none => .finished
  | some snapshot =>
      if snapshot.archiveState ≠ .pending then
        .settled snapshot snapshot.archiveState snapshot.archiveError
      else if snapshot.identityMode = .v2 then
        .registered snapshot
      else
        .settled snapshot .durable snapshot.archiveError

/-- The archive error of a manifest that was not persisted. The texts of exceptions that
are not the store's own come from the libraries that raise them. -/
def manifestFailure (libraryText : ManifestError → String) : ManifestError → String
  | .manifestIntegrity reason => "manifest archive failed: ManifestIntegrityError: " ++ reason
  | e => "manifest archive failed: " ++ libraryText e

/-- The next step of a thread. -/
def completionStep (libraryText : ManifestError → String) (threads : Dict String ArchiveCompletion)
    (s : Completing) (op : CompletionOp) : Completing × CompletionAnswer :=
  match threads.get? op.device, s.phase op.device with
  | none, _ => (s, .ignored)
  | some thread, .waiting =>
      let (service, updated) := s.service.finalizeFrameArchive thread.frame thread.frameSet
        thread.frameId (some thread.filePath) .durable none
      ({ s with
          service := service
          phase := Function.update s.phase op.device (afterRegistration updated) },
        .registered)
  | some _, .registered snapshot =>
      match persistFrameSetManifest s.db snapshot none op.nowMs with
      | (db, .ok _) =>
          ({ s with
              db := db
              phase := Function.update s.phase op.device (.settled snapshot .durable none) },
            .persisted)
      | (db, .error e) =>
          ({ s with
              db := db
              phase := Function.update s.phase op.device
                (.settled snapshot .degradedLiveOnly (some (manifestFailure libraryText e))) },
            .failed)
  | some _, .settled snapshot state error =>
      ({ s with
          service := (s.service.finalizeArchiveState snapshot state error).1
          phase := Function.update s.phase op.device .finished },
        .written)
  | some _, .finished => (s, .ignored)

abbrev CompletionExchange : Type := Exchange Completing CompletionOp CompletionAnswer

/-- What an exchange does to the shared entry of the set. -/
def CompletionExchange.event (e : CompletionExchange) : WriteBack.Event String :=
  match e.output with
  | .registered => .register e.input.device
  | .written => .writeBack e.input.device
  | _ => .other

/-! ## The order of the steps -/

/-- How many steps a thread has taken. -/
def CompletionPhase.stage : CompletionPhase → ℕ
  | .waiting => 0
  | .registered _ => 1
  | .settled _ _ _ => 2
  | .finished => 3

theorem CompletionPhase.stage_le (phase : CompletionPhase) : phase.stage ≤ 3 := by
  cases phase <;> simp [stage]

theorem CompletionPhase.eq_finished_of_stage {phase : CompletionPhase} (h : phase.stage = 3) :
    phase = .finished := by
  cases phase with
  | finished => rfl
  | waiting => cases h
  | registered snapshot => cases h
  | settled snapshot state error => cases h

/-- What the next step of a thread does to the entry. -/
def nextEvent (threads : Dict String ArchiveCompletion) (stage : ℕ) (device : String) :
    WriteBack.Event String :=
  match threads.get? device, stage with
  | some _, 0 => .register device
  | some _, 2 => .writeBack device
  | _, _ => .other

/-- What the steps of a schedule do to the entry, after the steps of an earlier one. The
first step of a thread registers and the third one writes back. -/
def scheduleEvents (threads : Dict String ArchiveCompletion) (before : List String) :
    List String → List (WriteBack.Event String)
  | [] => []
  | device :: devices =>
      nextEvent threads (before.count device) device ::
        scheduleEvents threads (before ++ [device]) devices

theorem scheduleEvents_snoc (threads : Dict String ArchiveCompletion)
    (before devices : List String) (device : String) :
    scheduleEvents threads before (devices ++ [device]) =
      scheduleEvents threads before devices ++
        [nextEvent threads ((before ++ devices).count device) device] := by
  induction devices generalizing before with
  | nil => simp [scheduleEvents]
  | cons first devices ih =>
      rw [List.cons_append, scheduleEvents, scheduleEvents, ih (before ++ [first])]
      simp

/-- From the third step on a thread does nothing more. -/
theorem nextEvent_min (threads : Dict String ArchiveCompletion) (count : ℕ) (device : String) :
    nextEvent threads (min 3 count) device = nextEvent threads count device := by
  rcases Nat.lt_or_ge count 3 with hlt | hge
  · rw [min_eq_right (by omega)]
  · rw [min_eq_left hge]
    obtain ⟨more, rfl⟩ := Nat.exists_eq_add_of_le' hge
    unfold nextEvent
    cases threads.get? device with
    | none => rfl
    | some thread => rfl

/-- What a step does depends on how far its thread is. -/
theorem event_completionStep (libraryText : ManifestError → String)
    (threads : Dict String ArchiveCompletion) (s : Completing) (op : CompletionOp) :
    CompletionExchange.event (Machine.exchange (completionStep libraryText threads) s op) =
      nextEvent threads (s.phase op.device).stage op.device := by
  unfold CompletionExchange.event Machine.exchange nextEvent
  dsimp only
  cases hthread : threads.get? op.device with
  | none => simp only [completionStep, hthread]
  | some thread =>
      cases hphase : s.phase op.device with
      | waiting =>
          simp only [completionStep, hthread, hphase, CompletionPhase.stage]
      | registered snapshot =>
          cases hpersist : persistFrameSetManifest s.db snapshot none op.nowMs with
          | mk db result =>
              cases result <;>
                simp only [completionStep, hthread, hphase, hpersist, CompletionPhase.stage]
      | settled snapshot state error =>
          simp only [completionStep, hthread, hphase, CompletionPhase.stage]
      | finished => simp only [completionStep, hthread, hphase, CompletionPhase.stage]

/-- One thread has taken one more step, and the others none. -/
theorem stage_update {phase : String → CompletionPhase} {acting : String} {next : CompletionPhase}
    (hnext : next.stage = min 3 ((phase acting).stage + 1)) (device : String) :
    (Function.update phase acting next device).stage =
      min 3 ((phase device).stage + [acting].count device) := by
  by_cases hsame : device = acting
  · rw [hsame, Function.update_self, hnext, List.count_singleton_self]
  · rw [Function.update_of_ne hsame, List.count_singleton, if_neg (by simpa using Ne.symm hsame),
      Nat.add_zero, min_eq_right (phase device).stage_le]

/-! ## The service's part -/

/-- The frame that a completion with this key is recorded on. -/
def StreamSyncService.located (service : StreamSyncService) (bufferKey : String) :
    Option StoredSyncFrame :=
  (service.bufferManager.framesByKey.get? bufferKey).orElse fun _ =>
    (service.recentFrameSets.flatMap SynchronizedFrameSet.members).find?
      fun member => member.bufferKey = bufferKey

theorem StreamSyncService.bufferKey_located {service : StreamSyncService}
    (hfiled : service.bufferManager.Filed) {bufferKey : String} {stored : StoredSyncFrame}
    (h : service.located bufferKey = some stored) : stored.bufferKey = bufferKey := by
  unfold located at h
  cases hindexed : service.bufferManager.framesByKey.get? bufferKey with
  | some indexed =>
      rw [hindexed] at h
      cases h
      exact hfiled bufferKey stored hindexed
  | none =>
      rw [hindexed] at h
      exact of_decide_eq_true (p := stored.bufferKey = bufferKey)
        (List.find?_some (p := fun member : StoredSyncFrame => member.bufferKey = bufferKey) h)

/-- The members of a set with a key, by the entry of the first one. -/
theorem SynchronizedFrameSet.find?_members (frameSet : SynchronizedFrameSet)
    (bufferKey : String) :
    frameSet.members.find? (fun member => member.bufferKey = bufferKey) =
      (frameSet.entryOf bufferKey).map Prod.snd := by
  unfold members entryOf Dict.values
  rw [List.find?_map]
  rfl

theorem SynchronizedFrameSet.bufferKey_entryOf {frameSet : SynchronizedFrameSet}
    {bufferKey : String} {entry : String × StoredSyncFrame}
    (h : frameSet.entryOf bufferKey = some entry) : entry.2.bufferKey = bufferKey :=
  of_decide_eq_true (p := entry.2.bufferKey = bufferKey)
    (List.find?_some (p := fun row : String × StoredSyncFrame => row.2.bufferKey = bufferKey) h)

/-- `replace(frame_set, archive_state=…, archive_error=…)`. -/
def SynchronizedFrameSet.withState (frameSet : SynchronizedFrameSet) (state : ArchiveState)
    (error : Option String) : SynchronizedFrameSet :=
  { frameSet with archiveState := state, archiveError := error }

@[simp]
theorem SynchronizedFrameSet.number_withMember (frameSet : SynchronizedFrameSet)
    (frame : StoredSyncFrame) : (frameSet.withMember frame).number = frameSet.number := rfl

/-- A set that replaces the last recent one. -/
theorem SyncMatcher.recentFrameSets_recordArchive {matcher : SyncMatcher}
    {earlier : List SynchronizedFrameSet} {entry updated : SynchronizedFrameSet}
    (hrecent : matcher.recentFrameSets = earlier ++ [entry])
    (hothers : ∀ item ∈ earlier, item.number ≠ entry.number)
    (hnumber : updated.number = entry.number) (frameSet : SynchronizedFrameSet) :
    (matcher.recordArchive frameSet updated).recentFrameSets = earlier ++ [updated] := by
  unfold recordArchive replaceRecentFrameSet
  dsimp only
  have hcond : ∀ item : SynchronizedFrameSet,
      (item.captureRunId = updated.captureRunId ∧ item.frameSetId = updated.frameSetId) ↔
        item.number = entry.number := by
    intro item
    rw [← hnumber]
    exact Prod.mk_inj.symm
  rw [hrecent, List.map_append, List.map_singleton, if_pos ((hcond entry).mpr rfl)]
  congr 1
  refine (List.map_congr_left fun item hitem => ?_).trans (List.map_id earlier)
  exact if_neg fun h => hothers item hitem ((hcond item).mp h)

/-- The last recent set is the first one that is searched for a member. -/
theorem SyncMatcher.recentSetOf_of_entry {matcher : SyncMatcher}
    {earlier : List SynchronizedFrameSet} {entry : SynchronizedFrameSet}
    (hrecent : matcher.recentFrameSets = earlier ++ [entry]) {bufferKey : String}
    {row : String × StoredSyncFrame} (hrow : entry.entryOf bufferKey = some row) :
    matcher.recentSetOf bufferKey = some entry := by
  have hmember : (entry.members.any fun member => member.bufferKey = bufferKey) = true := by
    have hfound := entry.find?_members bufferKey
    rw [hrow] at hfound
    exact List.any_eq_true.mpr ⟨row.2, List.mem_of_find?_eq_some hfound, by
      simpa using SynchronizedFrameSet.bufferKey_entryOf hrow⟩
  unfold recentSetOf
  rw [hrecent, List.reverse_append, List.reverse_singleton, List.singleton_append]
  simp [hmember]

section Service

variable {service : StreamSyncService} {matcher : SyncMatcher}
  {earlier : List SynchronizedFrameSet} {entry : SynchronizedFrameSet}

/-- The held set is not searched for a key that some recent set has. -/
theorem retainedMember_of_recent {bufferKey : String} {stored : StoredSyncFrame}
    (h : (matcher.recentFrameSets.flatMap SynchronizedFrameSet.members).find?
      (fun member => member.bufferKey = bufferKey) = some stored)
    (held : Option SynchronizedFrameSet) :
    StreamSyncService.retainedMember matcher held bufferKey = some stored := by
  unfold StreamSyncService.retainedMember
  rw [List.flatMap_append, List.find?_append, h]
  rfl

/-- A completion for a member of the last recent set replaces that member by the frame
that it has been recorded on. -/
theorem finalizeFrameArchive_of_entry (hmatcher : service.matcher = some matcher)
    (hrecent : matcher.recentFrameSets = earlier ++ [entry])
    (hothers : ∀ item ∈ earlier, item.number ≠ entry.number) (frame : SyncInputFrame)
    {row : String × StoredSyncFrame} (hrow : entry.entryOf (buildBufferKey frame) = some row)
    (hfiled : service.bufferManager.Filed) (held : Option SynchronizedFrameSet)
    (frameId : Option ℤ) (filePath : Option String) (archiveState : ArchiveState)
    (archiveError : Option String) :
    ∃ stored matcher', service.located (buildBufferKey frame) = some stored ∧
      service.finalizeFrameArchive frame held frameId filePath archiveState archiveError =
        ({ service with
            bufferManager := (service.bufferManager.finalizeArchive (buildBufferKey frame) frameId
              filePath archiveState archiveError).1
            matcher := some matcher' },
          some (entry.withMember
            (stored.withArchive frameId filePath archiveState archiveError))) ∧
      matcher'.recentFrameSets =
        earlier ++ [entry.withMember
          (stored.withArchive frameId filePath archiveState archiveError)] := by
  have hservice : service.recentFrameSets = matcher.recentFrameSets := by
    simp [StreamSyncService.recentFrameSets, hmatcher]
  -- Whatever the completion is recorded on has the key of the frame.
  have hreplace : ∀ stored : StoredSyncFrame, stored.bufferKey = buildBufferKey frame →
      matcher.replaceRecentFrameMember stored =
        (matcher.recordArchive entry (entry.withMember stored), some (entry.withMember stored)) := by
    intro stored hkey
    unfold SyncMatcher.replaceRecentFrameMember
    rw [SyncMatcher.recentSetOf_of_entry hrecent (hkey ▸ hrow)]
    rfl
  have hlocated : ∀ stored, service.located (buildBufferKey frame) = some stored →
      matcher.replaceRecentFrameMember
          (stored.withArchive frameId filePath archiveState archiveError) =
        (matcher.recordArchive entry (entry.withMember
            (stored.withArchive frameId filePath archiveState archiveError)),
          some (entry.withMember
            (stored.withArchive frameId filePath archiveState archiveError))) := by
    intro stored hstored
    have hkey := StreamSyncService.bufferKey_located hfiled hstored
    exact hreplace (stored.withArchive frameId filePath archiveState archiveError) hkey
  have hrecorded : ∀ stored : StoredSyncFrame,
      (matcher.recordArchive entry (entry.withMember stored)).recentFrameSets =
        earlier ++ [entry.withMember stored] := fun stored =>
    SyncMatcher.recentFrameSets_recordArchive hrecent hothers (entry.number_withMember stored)
      entry
  cases hindexed : service.bufferManager.framesByKey.get? (buildBufferKey frame) with
  | some stored =>
      have hstored : service.located (buildBufferKey frame) = some stored := by
        simp [StreamSyncService.located, hindexed]
      refine ⟨stored, _, hstored, ?_, hrecorded _⟩
      have hreplaced := hlocated stored hstored
      simp only [StreamSyncService.finalizeFrameArchive, SyncFrameBufferManager.finalizeArchive,
        hindexed, hmatcher, Option.orElse_some, hreplaced]
  | none =>
      have hfound : (matcher.recentFrameSets.flatMap SynchronizedFrameSet.members).find?
          (fun member => member.bufferKey = buildBufferKey frame) ≠ none := by
        rw [hrecent, List.flatMap_append, List.find?_append, List.flatMap_singleton,
          entry.find?_members, hrow]
        cases (earlier.flatMap SynchronizedFrameSet.members).find?
          (fun member => member.bufferKey = buildBufferKey frame) <;> simp
      obtain ⟨stored, hfind⟩ := Option.ne_none_iff_exists'.mp hfound
      have hstored : service.located (buildBufferKey frame) = some stored := by
        simp only [StreamSyncService.located, hindexed, hservice, Option.orElse_none]
        exact hfind
      refine ⟨stored, _, hstored, ?_, hrecorded _⟩
      have hreplaced := hlocated stored hstored
      simp only [StreamSyncService.finalizeFrameArchive, SyncFrameBufferManager.finalizeArchive,
        hindexed, hmatcher, Option.orElse_none, retainedMember_of_recent hfind held,
        Option.map_some, hreplaced]

/-- A snapshot that is written back becomes the last recent set. -/
theorem finalizeArchiveState_of_entry (hmatcher : service.matcher = some matcher)
    (hrecent : matcher.recentFrameSets = earlier ++ [entry])
    (hothers : ∀ item ∈ earlier, item.number ≠ entry.number) {snapshot : SynchronizedFrameSet}
    (hnumber : snapshot.number = entry.number) (state : ArchiveState) (error : Option String) :
    ∃ matcher', (service.finalizeArchiveState snapshot state error).1 =
        { service with matcher := some matcher' } ∧
      matcher'.recentFrameSets = earlier ++ [snapshot.withState state error] := by
  have hupdated : (snapshot.withState state error).number = entry.number := hnumber
  refine ⟨(matcher.finalizeArchiveState snapshot state error).1, ?_, ?_⟩
  · simp only [StreamSyncService.finalizeArchiveState, hmatcher]
  · exact SyncMatcher.recentFrameSets_recordArchive hrecent hothers hupdated snapshot

end Service

end ImageStream
