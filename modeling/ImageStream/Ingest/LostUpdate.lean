/-
# Lost updates between archive completions

The entry of an emitted set in the recent list is a record that its members' threads
complete by snapshots. A registration adds a member's archived frame to the entry, a
write-back puts the thread's snapshot in its place, and a manifest is persisted from a
snapshot in which nobody is missing. So the manifest is stored and the entry is complete
exactly when, at every registration and at the end, the thread that registered last was
the last to write the entry.

Two members with one buffer key have one entry between them, and the database may refuse
a complete set; then the set is not completed in any order.
-/

import ImageStream.Ingest.Completion

namespace ImageStream

open Base

/-! ## The setting -/

/-- A V2 set that has just been emitted: it stands last in the recent list, under a number
of its own. -/
structure JustEmitted (service : StreamSyncService) (frameSet : SynchronizedFrameSet)
    (earlier : List SynchronizedFrameSet) : Prop where
  recent : ∃ matcher, service.matcher = some matcher ∧
    matcher.recentFrameSets = earlier ++ [frameSet]
  others : ∀ item ∈ earlier, item.number ≠ frameSet.number
  filed : service.bufferManager.Filed
  mode : frameSet.identityMode = .v2

/-- Threads that are about to complete a set: each belongs to a member whose archive is
pending, and the members without a thread are archived. -/
structure Awaits (frameSet : SynchronizedFrameSet) (threads : Dict String ArchiveCompletion) :
    Prop where
  nonempty : threads.rows ≠ []
  pending : ∀ device thread, threads.get? device = some thread →
    ∃ member, frameSet.frames.get? device = some member ∧
      buildBufferKey thread.frame = member.bufferKey ∧ member.archiveState = .pending
  archived : ∀ device member, frameSet.frames.get? device = some member →
    threads.get? device = none → member.archiveState = .durable
  paths : ∀ device thread, threads.get? device = some thread → thread.filePath ≠ ""

/-- Whether every thread's key leads to the thread's own member. -/
def Reached (frameSet : SynchronizedFrameSet) (threads : Dict String ArchiveCompletion) : Prop :=
  ∀ device thread, threads.get? device = some thread →
    (frameSet.entryOf (buildBufferKey thread.frame)).map Prod.fst = some device

/-- A member as its thread's completion leaves it. -/
def archivedMember (service : StreamSyncService) (threads : Dict String ArchiveCompletion)
    (device : String) (member : StoredSyncFrame) : StoredSyncFrame :=
  match threads.get? device with
  | some thread =>
      ((service.located member.bufferKey).getD member).withArchive thread.frameId
        (some thread.filePath) .durable none
  | none => member

def archiveRow (service : StreamSyncService) (threads : Dict String ArchiveCompletion)
    (content : Finset String) (row : String × StoredSyncFrame) : String × StoredSyncFrame :=
  (row.1, if row.1 ∈ content then archivedMember service threads row.1 row.2 else row.2)

theorem fst_archiveRow (service : StreamSyncService) (threads : Dict String ArchiveCompletion)
    (content : Finset String) (row : String × StoredSyncFrame) :
    (archiveRow service threads content row).1 = row.1 := rfl

/-- The set with the completions of some threads. -/
def archivedSet (service : StreamSyncService) (threads : Dict String ArchiveCompletion)
    (content : Finset String) (frameSet : SynchronizedFrameSet) : SynchronizedFrameSet :=
  { frameSet with
    frames := frameSet.frames.mapRows (archiveRow service threads content)
      (fst_archiveRow service threads content)
    archiveState := .pending
    archiveError := none }

/-- The set with the completions of all threads. -/
def completeSet (service : StreamSyncService) (threads : Dict String ArchiveCompletion)
    (frameSet : SynchronizedFrameSet) : SynchronizedFrameSet :=
  archivedSet service threads threads.keys.toFinset frameSet

/-- Whether the manifest of a set is stored and its entry in the recent list is archived,
with every member. -/
structure ArchiveComplete (s : Completing) (frameSet : SynchronizedFrameSet) : Prop where
  manifest : s.db.Holds frameSet
  entry : ∃ entry ∈ s.service.recentFrameSets, entry.number = frameSet.number ∧
    (∀ member ∈ entry.members, member.archiveState = .durable) ∧ entry.archiveState = .durable

/-! ## Sets between emission and completion -/

section Sets

variable {service : StreamSyncService} {threads : Dict String ArchiveCompletion}
  {frameSet : SynchronizedFrameSet} {content : Finset String}

theorem rows_archivedSet :
    (archivedSet service threads content frameSet).frames.rows =
      frameSet.frames.rows.map (archiveRow service threads content) := rfl

theorem find_archivedSet (device : String) :
    (archivedSet service threads content frameSet).frames.find device =
      (frameSet.frames.find device).map (archiveRow service threads content) :=
  frameSet.frames.find_mapRows (archiveRow service threads content)
    (fst_archiveRow service threads content) device

theorem bufferKey_archivedMember (hfiled : service.bufferManager.Filed) (device : String)
    (member : StoredSyncFrame) :
    (archivedMember service threads device member).bufferKey = member.bufferKey := by
  unfold archivedMember
  cases threads.get? device with
  | none => rfl
  | some thread =>
      show ((service.located member.bufferKey).getD member).bufferKey = member.bufferKey
      cases hlocated : service.located member.bufferKey with
      | none => rfl
      | some stored => exact StreamSyncService.bufferKey_located hfiled hlocated

theorem bufferKey_archiveRow (hfiled : service.bufferManager.Filed)
    (row : String × StoredSyncFrame) :
    (archiveRow service threads content row).2.bufferKey = row.2.bufferKey := by
  unfold archiveRow
  dsimp only
  split
  · exact bufferKey_archivedMember hfiled row.1 row.2
  · rfl

theorem entryOf_archivedSet (threads : Dict String ArchiveCompletion) (content : Finset String)
    (frameSet : SynchronizedFrameSet) (hfiled : service.bufferManager.Filed)
    (bufferKey : String) :
    (archivedSet service threads content frameSet).entryOf bufferKey =
      (frameSet.entryOf bufferKey).map (archiveRow service threads content) := by
  unfold SynchronizedFrameSet.entryOf
  rw [rows_archivedSet, List.find?_map]
  congr 2
  funext row
  simp [bufferKey_archiveRow hfiled row]

theorem get?_archivedSet (device : String) :
    (archivedSet service threads content frameSet).frames.get? device =
      (frameSet.frames.get? device).map fun member =>
        if device ∈ content then archivedMember service threads device member else member := by
  unfold Dict.get?
  rw [find_archivedSet]
  cases hfind : frameSet.frames.find device with
  | none => rfl
  | some row =>
      have hkey := frameSet.frames.key_of_find hfind
      subst hkey
      rfl

theorem archiveState_archivedMember {device : String} {thread : ArchiveCompletion}
    (hthread : threads.get? device = some thread) (member : StoredSyncFrame) :
    (archivedMember service threads device member).archiveState = .durable := by
  unfold archivedMember
  rw [hthread]
  rfl

/-- No member is degraded on the way. -/
theorem Awaits.not_degraded (h : Awaits frameSet threads) (service : StreamSyncService)
    (content : Finset String) :
    ∀ member ∈ (archivedSet service threads content frameSet).members,
      member.archiveState ≠ .degradedLiveOnly := by
  intro member hmember
  obtain ⟨device, hdevice⟩ := (Dict.mem_values_iff _).mp hmember
  rw [get?_archivedSet] at hdevice
  obtain ⟨original, horiginal, rfl⟩ := Option.map_eq_some_iff.mp hdevice
  cases hthread : threads.get? device with
  | none =>
      have hsame : archivedMember service threads device original = original := by
        unfold archivedMember
        rw [hthread]
      rw [hsame, ite_self, h.archived device original horiginal hthread]
      exact nofun
  | some thread =>
      split
      · rw [archiveState_archivedMember hthread]
        exact nofun
      · obtain ⟨member, hmember, -, hpending⟩ := h.pending device thread hthread
        rw [horiginal] at hmember
        cases hmember
        rw [hpending]
        exact nofun

theorem archiveStateOf_of_clean {members : List StoredSyncFrame}
    (h : ∀ member ∈ members, member.archiveState ≠ .degradedLiveOnly) :
    archiveStateOf members = .pending ∧ archiveErrorOf members = none := by
  have hfilter : members.filter (fun member => member.archiveState = .degradedLiveOnly) = [] :=
    List.filter_eq_nil_iff.mpr fun member hmember => by simpa using h member hmember
  constructor
  · unfold archiveStateOf
    rw [if_neg]
    simpa using h
  · unfold archiveErrorOf
    rw [hfilter]

/-- A completion of one more member is recorded in the set. -/
theorem withMember_archivedSet (hawaits : Awaits frameSet threads)
    (hfiled : service.bufferManager.Filed) {device : String} {member : StoredSyncFrame}
    (hreached : frameSet.entryOf member.bufferKey = some (device, member))
    (state : ArchiveState) (error : Option String) :
    ((archivedSet service threads content frameSet).withState state error).withMember
        (archivedMember service threads device member) =
      archivedSet service threads (insert device content) frameSet := by
  have hentry : ((archivedSet service threads content frameSet).withState state error).entryOf
      member.bufferKey = some (archiveRow service threads content (device, member)) := by
    refine (entryOf_archivedSet threads content frameSet hfiled member.bufferKey).trans ?_
    rw [hreached, Option.map_some]
  have hframes : (archivedSet service threads content frameSet).frames.set device
      (archivedMember service threads device member) =
        (archivedSet service threads (insert device content) frameSet).frames := by
    have hrow : (device, member) ∈ frameSet.frames.rows := List.mem_of_find?_eq_some hreached
    have hpresent : (archivedSet service threads content frameSet).frames.find device ≠ none := by
      rw [find_archivedSet, frameSet.frames.find_of_mem hrow]
      simp
    apply Table.ext
    unfold Dict.set
    rw [Table.rows_put_of_present _ hpresent, rows_archivedSet, rows_archivedSet, List.map_map]
    refine List.map_congr_left fun row hmem => ?_
    by_cases hdevice : row.1 = device
    · obtain rfl : row = (device, member) := frameSet.frames.eq_of_key_eq hmem hrow hdevice
      simp [archiveRow]
    · simp [archiveRow, hdevice]
  obtain ⟨hstate, herror⟩ := archiveStateOf_of_clean
    (hawaits.not_degraded service (insert device content))
  unfold SynchronizedFrameSet.withMember
  rw [bufferKey_archivedMember hfiled, hentry]
  dsimp only [archiveRow, SynchronizedFrameSet.withState]
  rw [hframes]
  unfold SynchronizedFrameSet.members at hstate herror
  rw [hstate, herror]
  rfl

end Sets

/-! ## The invariant -/

/-- Whether no thread's device is missing. -/
def EveryThread (threads : Dict String ArchiveCompletion) (taken : Finset String) : Prop :=
  ∀ device thread, threads.get? device = some thread → device ∈ taken

/-- How the phase of one thread follows what the thread has taken. -/
def PhaseTracks (service : StreamSyncService) (db : Database)
    (threads : Dict String ArchiveCompletion) (frameSet : SynchronizedFrameSet)
    (snapshot? : Option (Finset String)) : CompletionPhase → Prop
  | .waiting => snapshot? = none
  | .registered snapshot =>
      ∃ taken, snapshot? = some taken ∧ snapshot = archivedSet service threads taken frameSet
  | .settled snapshot state _ =>
      ∃ taken, snapshot? = some taken ∧ snapshot = archivedSet service threads taken frameSet ∧
        (state = .durable ↔ EveryThread threads taken ∧
          db.Takes (completeSet service threads frameSet))
  | .finished => snapshot? ≠ none

/-- How the service, the database and the threads follow the shared record. -/
structure Tracks (service : StreamSyncService) (db : Database)
    (threads : Dict String ArchiveCompletion) (frameSet : SynchronizedFrameSet)
    (earlier : List SynchronizedFrameSet) (record : WriteBack.Shared String)
    (current : StreamSyncService) (committed : Database) (phase : String → CompletionPhase) :
    Prop where
  entry : ∃ matcher state error, current.matcher = some matcher ∧
    matcher.recentFrameSets = earlier ++
      [(archivedSet service threads record.content frameSet).withState state error] ∧
    ((state = .durable ↔ EveryThread threads record.content ∧
        db.Takes (completeSet service threads frameSet)) ∨
      ∃ device thread, threads.get? device = some thread ∧ phase device ≠ .finished)
  filed : current.bufferManager.Filed
  index : ∀ device thread, threads.get? device = some thread → phase device = .waiting →
    current.bufferManager.framesByKey.get? (buildBufferKey thread.frame) =
      service.bufferManager.framesByKey.get? (buildBufferKey thread.frame)
  known : ∀ device, record.snapshot device ≠ none → ∃ thread, threads.get? device = some thread
  phases : ∀ device,
    PhaseTracks service db threads frameSet (record.snapshot device) (phase device)
  untouched : (∀ device taken, record.snapshot device = some taken → EveryThread threads taken →
    ∃ snapshot, phase device = .registered snapshot) → committed = db
  stored : ∀ device taken, record.snapshot device = some taken → EveryThread threads taken →
    (∀ snapshot, phase device ≠ .registered snapshot) →
    db.Takes (completeSet service threads frameSet) → committed.Holds frameSet

section Steps

variable {service : StreamSyncService} {db : Database} {threads : Dict String ArchiveCompletion}
  {frameSet : SynchronizedFrameSet} {earlier : List SynchronizedFrameSet}
  {record : WriteBack.Shared String} {past : List (WriteBack.Event String)}
  {current : StreamSyncService} {committed : Database} {phase : String → CompletionPhase}

/-- A set in which nobody is missing is the complete one. -/
theorem archivedSet_of_everyThread {taken : Finset String} (h : EveryThread threads taken) :
    archivedSet service threads taken frameSet = completeSet service threads frameSet := by
  have hrows : ∀ row, archiveRow service threads taken row =
      archiveRow service threads threads.keys.toFinset row := by
    intro row
    unfold archiveRow
    cases hthread : threads.get? row.1 with
    | some thread =>
        have hkey : row.1 ∈ threads.keys.toFinset :=
          List.mem_toFinset.mpr (threads.mem_keys_iff.mpr ⟨thread, hthread⟩)
        rw [if_pos (h row.1 thread hthread), if_pos hkey]
    | none =>
        have hsame : archivedMember service threads row.1 row.2 = row.2 := by
          unfold archivedMember
          rw [hthread]
        rw [hsame, ite_self, ite_self]
  have hframes : (archivedSet service threads taken frameSet).frames =
      (completeSet service threads frameSet).frames :=
    Table.ext (List.map_congr_left fun row _ => hrows row)
  unfold completeSet archivedSet at hframes ⊢
  dsimp only at hframes
  rw [hframes]

/-- A set in which somebody is missing is not taken by any database. -/
theorem not_takes_of_missing (hawaits : Awaits frameSet threads) {taken : Finset String}
    (h : ¬EveryThread threads taken) (db : Database) :
    ¬db.Takes (archivedSet service threads taken frameSet) := by
  intro htakes
  unfold EveryThread at h
  push Not at h
  obtain ⟨device, thread, hthread, hmissing⟩ := h
  obtain ⟨member, hmember, -, hpending⟩ := hawaits.pending device thread hthread
  have hframe : (archivedSet service threads taken frameSet).frames.get? device = some member := by
    rw [get?_archivedSet, hmember, Option.map_some, if_neg hmissing]
  have hready := manifestReady_of_valid htakes.valid member (Dict.mem_values_of_get? _ hframe)
  simp [StoredSyncFrame.manifestReady, hpending] at hready

theorem tracks_start (hemitted : JustEmitted service frameSet earlier)
    (hawaits : Awaits frameSet threads) :
    Tracks service db threads frameSet earlier {} service db fun _ => .waiting where
  entry := by
    obtain ⟨matcher, hmatcher, hrecent⟩ := hemitted.recent
    obtain ⟨⟨device, thread⟩, hrow⟩ := List.exists_mem_of_ne_nil _ hawaits.nonempty
    have hsame : (archivedSet service threads ∅ frameSet).withState frameSet.archiveState
        frameSet.archiveError = frameSet := by
      have hframes : (archivedSet service threads ∅ frameSet).frames = frameSet.frames := by
        apply Table.ext
        rw [rows_archivedSet]
        refine (List.map_congr_left fun row _ => ?_).trans (List.map_id _)
        simp [archiveRow]
      unfold SynchronizedFrameSet.withState archivedSet at *
      dsimp only at hframes ⊢
      rw [hframes]
    refine ⟨matcher, frameSet.archiveState, frameSet.archiveError, hmatcher, ?_, Or.inr
      ⟨device, thread, (threads.get?_eq_some_iff).mpr hrow, nofun⟩⟩
    rw [hsame]
    exact hrecent
  filed := hemitted.filed
  index _ _ _ _ := rfl
  known _ h := absurd rfl h
  phases _ := rfl
  untouched _ := rfl
  stored _ _ h := by cases h

/-- Two recent lists that differ in their last sets only, which agree on a key, lead to the
same frame. -/
theorem located_congr {first second : StreamSyncService} {matcher matcher' : SyncMatcher}
    {entry entry' : SynchronizedFrameSet} {bufferKey : String}
    (hmatcher : first.matcher = some matcher) (hrecent : matcher.recentFrameSets = earlier ++ [entry])
    (hmatcher' : second.matcher = some matcher')
    (hrecent' : matcher'.recentFrameSets = earlier ++ [entry'])
    (hindex : first.bufferManager.framesByKey.get? bufferKey =
      second.bufferManager.framesByKey.get? bufferKey)
    (hentry : entry.entryOf bufferKey = entry'.entryOf bufferKey) :
    first.located bufferKey = second.located bufferKey := by
  unfold StreamSyncService.located StreamSyncService.recentFrameSets
  rw [hindex, hmatcher, hmatcher']
  dsimp only
  rw [hrecent, hrecent', List.flatMap_append, List.flatMap_append, List.find?_append,
    List.find?_append, List.flatMap_singleton, List.flatMap_singleton, entry.find?_members,
    entry'.find?_members, hentry]

/-- A completion leaves the index of the other keys alone. -/
theorem get?_finalizeArchive_of_ne (manager : SyncFrameBufferManager) {frameKey bufferKey : String}
    (hne : bufferKey ≠ frameKey) (frameId : Option ℤ) (filePath : Option String)
    (archiveState : ArchiveState) (archiveError : Option String) :
    (manager.finalizeArchive frameKey frameId filePath archiveState
        archiveError).1.framesByKey.get? bufferKey = manager.framesByKey.get? bufferKey := by
  unfold SyncFrameBufferManager.finalizeArchive
  split
  · rfl
  · exact manager.framesByKey.get?_set_of_ne _ hne

/-- Where a thread's key leads, its member is. -/
theorem entryOf_of_reached (hreached : Reached frameSet threads)
    {device : String} {thread : ArchiveCompletion} (hthread : threads.get? device = some thread) :
    ∃ member, frameSet.entryOf (buildBufferKey thread.frame) = some (device, member) ∧
      member.bufferKey = buildBufferKey thread.frame := by
  obtain ⟨row, hrow, hdevice⟩ := Option.map_eq_some_iff.mp (hreached device thread hthread)
  obtain ⟨device', member⟩ := row
  dsimp only at hdevice
  subst hdevice
  exact ⟨member, hrow, SynchronizedFrameSet.bufferKey_entryOf hrow⟩

/-- The phases after one thread has taken a step. -/
theorem phases_update (h : Tracks service db threads frameSet earlier record current committed phase)
    {record' : WriteBack.Shared String} {device : String} {next : CompletionPhase}
    (hothers : ∀ other ≠ device, record'.snapshot other = record.snapshot other)
    (hnext : PhaseTracks service db threads frameSet (record'.snapshot device) next)
    (other : String) :
    PhaseTracks service db threads frameSet (record'.snapshot other)
      (Function.update phase device next other) := by
  by_cases hne : other = device
  · rw [hne, Function.update_self]
    exact hnext
  · rw [Function.update_of_ne hne, hothers other hne]
    exact h.phases other

/-- The waiting threads after one thread has taken a step. -/
theorem waiting_of_update {device other : String} {next : CompletionPhase}
    (h : Function.update phase device next other = .waiting) (hnext : next ≠ .waiting) :
    other ≠ device ∧ phase other = .waiting := by
  by_cases hne : other = device
  · rw [hne, Function.update_self] at h
    exact absurd h hnext
  · rw [Function.update_of_ne hne] at h
    exact ⟨hne, h⟩

/-- A registration adds the thread to the record. -/
theorem Tracks.register
    (h : Tracks service db threads frameSet earlier record current committed phase)
    (hrun : WriteBack.Run past record) (hemitted : JustEmitted service frameSet earlier)
    (hawaits : Awaits frameSet threads) (hreached : Reached frameSet threads) {device : String}
    {thread : ArchiveCompletion} (hthread : threads.get? device = some thread)
    (hwaiting : phase device = .waiting) :
    record.snapshot device = none ∧ ∃ current' snapshot,
      current.finalizeFrameArchive thread.frame thread.frameSet thread.frameId
          (some thread.filePath) .durable none = (current', some snapshot) ∧
      afterRegistration (some snapshot) = .registered snapshot ∧
      Tracks service db threads frameSet earlier (record.register device) current' committed
        (Function.update phase device (.registered snapshot)) := by
  obtain ⟨matcher, state, error, hmatcher, hrecent, -⟩ := h.entry
  obtain ⟨matcher₀, hmatcher₀, hrecent₀⟩ := hemitted.recent
  obtain ⟨member, hentry, hkey⟩ := entryOf_of_reached hreached hthread
  have hfresh : record.snapshot device = none := by
    have hphase := h.phases device
    rw [hwaiting] at hphase
    exact hphase
  have hmissing : device ∉ record.content := fun hmem => hrun.sound.content_known hmem hfresh
  have hrow : ((archivedSet service threads record.content frameSet).withState state
      error).entryOf (buildBufferKey thread.frame) = some (device, member) := by
    refine (entryOf_archivedSet threads record.content frameSet hemitted.filed _).trans ?_
    rw [hentry, Option.map_some, archiveRow, if_neg hmissing]
  obtain ⟨stored, matcher', hlocated, hfinalize, hrecent'⟩ :=
    finalizeFrameArchive_of_entry hmatcher hrecent hemitted.others thread.frame hrow h.filed
      thread.frameSet thread.frameId (some thread.filePath) .durable none
  have hstored : stored.withArchive thread.frameId (some thread.filePath) .durable none =
      archivedMember service threads device member := by
    have hsame := located_congr hmatcher hrecent hmatcher₀ hrecent₀
      (h.index device thread hthread hwaiting) (hrow.trans hentry.symm)
    unfold archivedMember
    rw [hthread, hkey, ← hsame, hlocated]
    rfl
  have hupdated : ((archivedSet service threads record.content frameSet).withState state
      error).withMember
        (stored.withArchive thread.frameId (some thread.filePath) .durable none) =
      archivedSet service threads (insert device record.content) frameSet := by
    rw [hstored]
    exact withMember_archivedSet hawaits hemitted.filed (hkey ▸ hentry) state error
  rw [hupdated] at hfinalize hrecent'
  have hafter : afterRegistration
      (some (archivedSet service threads (insert device record.content) frameSet)) =
        .registered (archivedSet service threads (insert device record.content) frameSet) := by
    have hmode : (archivedSet service threads (insert device record.content)
        frameSet).identityMode = .v2 := hemitted.mode
    unfold afterRegistration
    dsimp only
    rw [if_neg (fun hne => hne rfl), if_pos hmode]
  refine ⟨hfresh, _, _, hfinalize, hafter,
    { entry := ⟨matcher', .pending, none, rfl, hrecent', Or.inr ⟨device, thread, hthread, ?_⟩⟩
      filed := h.filed.finalizeArchive _ _ _ _ _
      index := fun other thread' hthread' hother => ?_
      known := fun other hother => ?_
      phases := phases_update h (fun other hne => record.snapshot_register_of_ne hne)
        ⟨_, record.snapshot_register_self device, rfl⟩
      untouched := fun hall => h.untouched fun other taken htaken hevery => ?_
      stored := fun other taken htaken hevery hother htakes => ?_ }⟩
  · rw [Function.update_self]
    exact nofun
  · obtain ⟨hne, hother⟩ := waiting_of_update hother nofun
    have hkeys : buildBufferKey thread'.frame ≠ buildBufferKey thread.frame := by
      intro hsame
      obtain ⟨member', hentry', -⟩ := entryOf_of_reached hreached hthread'
      rw [hsame, hentry] at hentry'
      cases hentry'
      exact hne rfl
    exact (get?_finalizeArchive_of_ne current.bufferManager hkeys ..).trans
      (h.index other thread' hthread' hother)
  · by_cases hne : other = device
    · exact ⟨thread, hne ▸ hthread⟩
    · rw [record.snapshot_register_of_ne hne] at hother
      exact h.known other hother
  · have hne : other ≠ device := by
      rintro rfl
      rw [hfresh] at htaken
      cases htaken
    obtain ⟨snapshot, hsnapshot⟩ := hall other taken
      ((record.snapshot_register_of_ne hne).trans htaken) hevery
    rw [Function.update_of_ne hne] at hsnapshot
    exact ⟨snapshot, hsnapshot⟩
  · have hne : other ≠ device := by
      rintro rfl
      exact hother _ (Function.update_self ..)
    rw [record.snapshot_register_of_ne hne] at htaken
    refine h.stored other taken htaken hevery (fun snapshot hsnapshot => hother snapshot ?_) htakes
    rw [Function.update_of_ne hne]
    exact hsnapshot

/-- A snapshot in which no thread is missing covers the record. -/
theorem Tracks.covers
    (h : Tracks service db threads frameSet earlier record current committed phase)
    {taken : Finset String} (hevery : EveryThread threads taken) : record.Covers taken := by
  intro device hdevice
  obtain ⟨thread, hthread⟩ := h.known device hdevice
  exact hevery device thread hthread

/-- What a thread's attempt to persist its snapshot comes to. -/
theorem Tracks.persist_verdict
    (h : Tracks service db threads frameSet earlier record current committed phase)
    (hrun : WriteBack.Run past record) (hemitted : JustEmitted service frameSet earlier)
    (hawaits : Awaits frameSet threads) {device : String} {snapshot : SynchronizedFrameSet}
    (hphase : phase device = .registered snapshot) {taken : Finset String}
    (htaken : record.snapshot device = some taken)
    (hsnapshot : snapshot = archivedSet service threads taken frameSet) (nowMs : ℤ) :
    (EveryThread threads taken ∧ db.Takes (completeSet service threads frameSet) ∧
      ∃ db' inserted, persistFrameSetManifest committed snapshot none nowMs =
        (db', .ok inserted) ∧ db'.Holds frameSet) ∨
    (¬(EveryThread threads taken ∧ db.Takes (completeSet service threads frameSet)) ∧
      ∃ e, persistFrameSetManifest committed snapshot none nowMs = (committed, .error e)) := by
  have hmode : (archivedSet service threads taken frameSet).identityMode = .v2 := hemitted.mode
  rw [hsnapshot]
  by_cases hevery : EveryThread threads taken
  · -- Nobody has persisted a complete set before the thread that holds it.
    have hdb : committed = db := by
      refine h.untouched fun other taken' htaken' hevery' => ?_
      have hsame := hrun.unique_of_covers htaken' htaken (h.covers hevery') (h.covers hevery)
      exact ⟨snapshot, hsame ▸ hphase⟩
    rw [hdb]
    rw [archivedSet_of_everyThread hevery] at hmode ⊢
    by_cases htakes : db.Takes (completeSet service threads frameSet)
    · exact Or.inl ⟨hevery, htakes, persist_of_takes hmode htakes none nowMs⟩
    · exact Or.inr ⟨fun hboth => htakes hboth.2, persist_of_not_takes hmode htakes none nowMs⟩
  · exact Or.inr ⟨fun hboth => hevery hboth.1,
      persist_of_not_takes hmode (not_takes_of_missing hawaits hevery committed) none nowMs⟩

/-- A thread that has tried to persist its snapshot is settled. -/
theorem Tracks.settle
    (h : Tracks service db threads frameSet earlier record current committed phase)
    {device : String} {thread : ArchiveCompletion}
    (hthread : threads.get? device = some thread) {snapshot : SynchronizedFrameSet}
    {taken : Finset String} (htaken : record.snapshot device = some taken)
    (hsnapshot : snapshot = archivedSet service threads taken frameSet) {state : ArchiveState}
    (error : Option String) {db' : Database}
    (hstate : state = .durable ↔ EveryThread threads taken ∧
      db.Takes (completeSet service threads frameSet))
    (hheld : state = .durable → db'.Holds frameSet) (hkept : state ≠ .durable → db' = committed) :
    Tracks service db threads frameSet earlier record current db'
      (Function.update phase device (.settled snapshot state error)) := by
  obtain ⟨matcher, entryState, entryError, hmatcher, hrecent, -⟩ := h.entry
  refine
    { entry := ⟨matcher, entryState, entryError, hmatcher, hrecent,
        Or.inr ⟨device, thread, hthread, ?_⟩⟩
      filed := h.filed
      index := fun other thread' hthread' hother =>
        h.index other thread' hthread' (waiting_of_update hother nofun).2
      known := h.known
      phases := phases_update h (fun _ _ => rfl) ⟨taken, htaken, hsnapshot, hstate⟩
      untouched := fun hall => ?_
      stored := fun other taken' htaken' hevery hnot htakes => ?_ }
  · rw [Function.update_self]
    exact nofun
  · -- The thread itself is not waiting to persist a complete set any more.
    have hmissing : ¬EveryThread threads taken := by
      intro hevery
      obtain ⟨snapshot', hsnapshot'⟩ := hall device taken htaken hevery
      rw [Function.update_self] at hsnapshot'
      cases hsnapshot'
    have hnot : state ≠ .durable := fun heq => hmissing (hstate.mp heq).1
    refine (hkept hnot).trans (h.untouched fun other taken' htaken' hevery' => ?_)
    have hne : other ≠ device := by
      rintro rfl
      rw [htaken] at htaken'
      cases htaken'
      exact hmissing hevery'
    obtain ⟨snapshot', hsnapshot'⟩ := hall other taken' htaken' hevery'
    rw [Function.update_of_ne hne] at hsnapshot'
    exact ⟨snapshot', hsnapshot'⟩
  · by_cases hdurable : state = .durable
    · exact hheld hdurable
    · have hne : other ≠ device := by
        rintro rfl
        rw [htaken] at htaken'
        cases htaken'
        exact hdurable (hstate.mpr ⟨hevery, htakes⟩)
      rw [hkept hdurable]
      refine h.stored other taken' htaken' hevery (fun snapshot' hphase => hnot snapshot' ?_) htakes
      rw [Function.update_of_ne hne]
      exact hphase

/-- A write-back puts the thread's snapshot in the place of the entry. -/
theorem Tracks.writeBack
    (h : Tracks service db threads frameSet earlier record current committed phase)
    (hemitted : JustEmitted service frameSet earlier) {device : String}
    {snapshot : SynchronizedFrameSet} {state : ArchiveState} {error : Option String}
    (hphase : phase device = .settled snapshot state error) {taken : Finset String}
    (htaken : record.snapshot device = some taken)
    (hsnapshot : snapshot = archivedSet service threads taken frameSet)
    (hstate : state = .durable ↔ EveryThread threads taken ∧
      db.Takes (completeSet service threads frameSet)) :
    Tracks service db threads frameSet earlier { record with content := taken }
      (current.finalizeArchiveState snapshot state error).1 committed
      (Function.update phase device .finished) := by
  obtain ⟨matcher, entryState, entryError, hmatcher, hrecent, -⟩ := h.entry
  have hnumber : snapshot.number =
      ((archivedSet service threads record.content frameSet).withState entryState
        entryError).number := by
    rw [hsnapshot]
    rfl
  obtain ⟨matcher', hfinalize, hrecent'⟩ :=
    finalizeArchiveState_of_entry hmatcher hrecent hemitted.others hnumber state error
  rw [hfinalize]
  rw [hsnapshot] at hrecent'
  refine
    { entry := ⟨matcher', state, error, rfl, hrecent', Or.inl hstate⟩
      filed := h.filed
      index := fun other thread' hthread' hother =>
        h.index other thread' hthread' (waiting_of_update hother nofun).2
      known := h.known
      phases := phases_update h (fun _ _ => rfl) (by
        show record.snapshot device ≠ none
        rw [htaken]
        exact nofun)
      untouched := fun hall => h.untouched fun other taken' htaken' hevery' => ?_
      stored := fun other taken' htaken' hevery hnot htakes =>
        h.stored other taken' htaken' hevery (fun snapshot' hsnapshot' => ?_) htakes }
  · obtain ⟨snapshot', hsnapshot'⟩ := hall other taken' htaken' hevery'
    by_cases hne : other = device
    · rw [hne, Function.update_self] at hsnapshot'
      cases hsnapshot'
    · rw [Function.update_of_ne hne] at hsnapshot'
      exact ⟨snapshot', hsnapshot'⟩
  · have hne : other ≠ device := by
      rintro rfl
      rw [hphase] at hsnapshot'
      cases hsnapshot'
    refine hnot snapshot' ?_
    rw [Function.update_of_ne hne]
    exact hsnapshot'

variable (libraryText : ManifestError → String)

/-- Every step of a thread is a step of the shared record, and takes the thread further. -/
theorem tracks_step {s : Completing}
    (h : Tracks service db threads frameSet earlier record s.service s.db s.phase)
    (hrun : WriteBack.Run past record) (hemitted : JustEmitted service frameSet earlier)
    (hawaits : Awaits frameSet threads) (hreached : Reached frameSet threads) (op : CompletionOp) :
    ∃ record',
      WriteBack.Step record (CompletionExchange.event
        (Machine.exchange (completionStep libraryText threads) s op)) record' ∧
      Tracks service db threads frameSet earlier record'
        (completionStep libraryText threads s op).1.service
        (completionStep libraryText threads s op).1.db
        (completionStep libraryText threads s op).1.phase ∧
      ∀ device thread, threads.get? device = some thread →
        ((completionStep libraryText threads s op).1.phase device).stage =
          min 3 ((s.phase device).stage + [op.device].count device) := by
  dsimp only [CompletionExchange.event, Machine.exchange]
  cases hthread : threads.get? op.device with
  | none =>
      have hstep : completionStep libraryText threads s op = (s, .ignored) := by
        simp only [completionStep, hthread]
      rw [hstep]
      refine ⟨record, .other, h, fun device thread hdevice => ?_⟩
      have hne : op.device ≠ device := by
        rintro rfl
        rw [hthread] at hdevice
        cases hdevice
      rw [List.count_singleton, if_neg (by simpa using hne), Nat.add_zero,
        min_eq_right (s.phase device).stage_le]
  | some thread =>
      have hphases := h.phases op.device
      cases hphase : s.phase op.device with
      | waiting =>
          obtain ⟨hfresh, current, snapshot, hfinalize, hafter, htracks⟩ :=
            h.register hrun hemitted hawaits hreached hthread hphase
          have hstep : completionStep libraryText threads s op =
              ({ s with
                  service := current
                  phase := Function.update s.phase op.device (.registered snapshot) },
                .registered) := by
            simp only [completionStep, hthread, hphase, hfinalize, hafter]
          rw [hstep]
          exact ⟨record.register op.device, .register op.device hfresh, htracks,
            fun device _ _ => stage_update (by rw [hphase]; rfl) device⟩
      | registered snapshot =>
          rw [hphase] at hphases
          obtain ⟨taken, htaken, hsnapshot⟩ := hphases
          rcases h.persist_verdict hrun hemitted hawaits hphase htaken hsnapshot op.nowMs with
            ⟨hevery, htakes, db', inserted, hpersist, hholds⟩ | ⟨hnot, e, hpersist⟩
          · have hstep : completionStep libraryText threads s op =
                ({ s with
                    db := db'
                    phase := Function.update s.phase op.device (.settled snapshot .durable none) },
                  .persisted) := by
              simp only [completionStep, hthread, hphase, hpersist]
            rw [hstep]
            exact ⟨record, .other, h.settle hthread htaken hsnapshot none
              ⟨fun _ => ⟨hevery, htakes⟩, fun _ => rfl⟩ (fun _ => hholds)
              (fun hne => absurd rfl hne),
              fun device _ _ => stage_update (by rw [hphase]; rfl) device⟩
          · have hstep : completionStep libraryText threads s op =
                ({ s with
                    db := s.db
                    phase := Function.update s.phase op.device (.settled snapshot
                      .degradedLiveOnly (some (manifestFailure libraryText e))) },
                  .failed) := by
              simp only [completionStep, hthread, hphase, hpersist]
            rw [hstep]
            exact ⟨record, .other, h.settle hthread htaken hsnapshot _
              ⟨(by rintro ⟨⟩), fun hboth => absurd hboth hnot⟩ (by rintro ⟨⟩) (fun _ => rfl),
              fun device _ _ => stage_update (by rw [hphase]; rfl) device⟩
      | settled snapshot state error =>
          rw [hphase] at hphases
          obtain ⟨taken, htaken, hsnapshot, hstate⟩ := hphases
          have hstep : completionStep libraryText threads s op =
              ({ s with
                  service := (s.service.finalizeArchiveState snapshot state error).1
                  phase := Function.update s.phase op.device .finished },
                .written) := by
            simp only [completionStep, hthread, hphase]
          rw [hstep]
          exact ⟨_, .writeBack op.device taken htaken,
            h.writeBack hemitted hphase htaken hsnapshot hstate,
            fun device _ _ => stage_update (by rw [hphase]; rfl) device⟩
      | finished =>
          have hstep : completionStep libraryText threads s op = (s, .ignored) := by
            simp only [completionStep, hthread, hphase]
          rw [hstep]
          refine ⟨record, .other, h, fun device _ _ => ?_⟩
          have hsame : Function.update s.phase op.device .finished = s.phase := by
            rw [← hphase, Function.update_eq_self]
          have hnext : CompletionPhase.finished.stage =
              min 3 ((s.phase op.device).stage + 1) := by
            rw [hphase]
            rfl
          have hstage := stage_update hnext device
          rwa [hsame] at hstage

/-- The events of any schedule are a run of the shared record, and every thread gets as far
as its steps take it. -/
theorem tracks_after (hemitted : JustEmitted service frameSet earlier)
    (hawaits : Awaits frameSet threads) (hreached : Reached frameSet threads) (db : Database)
    (schedule : List CompletionOp) :
    let final := Machine.after (completionStep libraryText threads)
      { service := service, db := db } schedule
    ∃ record,
      WriteBack.Run (scheduleEvents threads [] (schedule.map CompletionOp.device)) record ∧
      Tracks service db threads frameSet earlier record final.service final.db final.phase ∧
      ∀ device thread, threads.get? device = some thread →
        (final.phase device).stage =
          min 3 ((schedule.map CompletionOp.device).count device) := by
  intro final
  induction schedule using List.reverseRecOn with
  | nil => exact ⟨{}, .start, tracks_start hemitted hawaits, fun _ _ _ => rfl⟩
  | append_singleton schedule op ih =>
      obtain ⟨record, hrun, htracks, hstages⟩ := ih
      obtain ⟨record', hstep, htracks', hstages'⟩ :=
        tracks_step libraryText htracks hrun hemitted hawaits hreached op
      have hevent : nextEvent threads ((schedule.map CompletionOp.device).count op.device)
          op.device = CompletionExchange.event (Machine.exchange
            (completionStep libraryText threads)
            (Machine.after (completionStep libraryText threads)
              { service := service, db := db } schedule) op) := by
        rw [event_completionStep]
        cases hthread : threads.get? op.device with
        | none => simp only [nextEvent, hthread]
        | some thread => rw [hstages op.device thread hthread, nextEvent_min]
      have hfinal : final = (completionStep libraryText threads
          (Machine.after (completionStep libraryText threads)
            { service := service, db := db } schedule) op).1 :=
        Machine.after_snoc ..
      rw [hfinal, List.map_append, List.map_singleton]
      refine ⟨record', ?_, htracks', fun device thread hthread => ?_⟩
      · rw [scheduleEvents_snoc, List.nil_append, hevent]
        exact hrun.snoc hstep
      · rw [hstages' device thread hthread, hstages device thread hthread, List.count_append]
        omega

end Steps

/-! ## Once all threads have finished -/

/-- Whether every thread has finished. -/
def Completing.AllFinished (s : Completing) (threads : Dict String ArchiveCompletion) : Prop :=
  ∀ device thread, threads.get? device = some thread → s.phase device = .finished

section Finished

variable {service : StreamSyncService} {db : Database} {threads : Dict String ArchiveCompletion}
  {frameSet : SynchronizedFrameSet} {earlier : List SynchronizedFrameSet}

/-- The entry of a set is the last recent one. -/
theorem eq_of_number {entry item : SynchronizedFrameSet}
    (hothers : ∀ item ∈ earlier, item.number ≠ frameSet.number)
    (hmem : entry ∈ earlier ++ [item]) (hnumber : entry.number = frameSet.number) :
    entry = item := by
  rcases List.mem_append.mp hmem with hearlier | hlast
  · exact absurd hnumber (hothers entry hearlier)
  · exact List.mem_singleton.mp hlast

/-- Where every thread's key leads to its own member, the set is completed exactly when
nothing is lost and the database takes it. -/
theorem archiveComplete_iff_of_tracks {record : WriteBack.Shared String}
    {past : List (WriteBack.Event String)} {s : Completing}
    (h : Tracks service db threads frameSet earlier record s.service s.db s.phase)
    (hrun : WriteBack.Run past record) (hemitted : JustEmitted service frameSet earlier)
    (hawaits : Awaits frameSet threads) (hfinished : s.AllFinished threads) :
    ArchiveComplete s frameSet ↔
      WriteBack.NothingLost past ∧ db.Takes (completeSet service threads frameSet) := by
  have hregistered : ∀ device thread, threads.get? device = some thread →
      record.snapshot device ≠ none := by
    intro device thread hthread
    have hphase := h.phases device
    rw [hfinished device thread hthread] at hphase
    exact hphase
  have hevery : EveryThread threads record.content ↔ WriteBack.NothingLost past := by
    rw [← hrun.covers_content_iff]
    exact ⟨h.covers, fun hcovers device thread hthread =>
      hcovers device (hregistered device thread hthread)⟩
  obtain ⟨matcher, state, error, hmatcher, hrecent, hstate⟩ := h.entry
  have hdurable : state = .durable ↔ EveryThread threads record.content ∧
      db.Takes (completeSet service threads frameSet) := by
    rcases hstate with hstate | ⟨device, thread, hthread, hphase⟩
    · exact hstate
    · exact absurd (hfinished device thread hthread) hphase
  have hsets : s.service.recentFrameSets =
      earlier ++ [(archivedSet service threads record.content frameSet).withState state error] := by
    simp only [StreamSyncService.recentFrameSets, hmatcher, hrecent]
  rw [← hevery]
  constructor
  · rintro ⟨-, entry, hmem, hnumber, -, harchived⟩
    rw [hsets] at hmem
    obtain rfl := eq_of_number hemitted.others hmem hnumber
    exact hdurable.mp harchived
  · rintro ⟨hall, htakes⟩
    refine ⟨?_, (archivedSet service threads record.content frameSet).withState state error, ?_,
      rfl, ?_, hdurable.mpr ⟨hall, htakes⟩⟩
    · obtain ⟨⟨device, thread⟩, hrow⟩ := List.exists_mem_of_ne_nil _ hawaits.nonempty
      obtain ⟨writer, hwriter⟩ :=
        hrun.content_taken (hregistered device thread ((threads.get?_eq_some_iff).mpr hrow))
      obtain ⟨thread', hthread'⟩ := h.known writer (by rw [hwriter]; exact Option.some_ne_none _)
      refine h.stored writer record.content hwriter hall (fun snapshot hsnapshot => ?_) htakes
      rw [hfinished writer thread' hthread'] at hsnapshot
      cases hsnapshot
    · rw [hsets]
      exact List.mem_append_right _ (List.mem_singleton.mpr rfl)
    · intro member hmember
      obtain ⟨device, hdevice⟩ := (Dict.mem_values_iff _).mp hmember
      have hframe : (archivedSet service threads record.content frameSet).frames.get? device =
        some member := hdevice
      rw [get?_archivedSet] at hframe
      obtain ⟨original, horiginal, rfl⟩ := Option.map_eq_some_iff.mp hframe
      cases hthread : threads.get? device with
      | some thread =>
          rw [if_pos (hall device thread hthread)]
          exact archiveState_archivedMember hthread original
      | none =>
          have hsame : archivedMember service threads device original = original := by
            unfold archivedMember
            rw [hthread]
          rw [hsame, ite_self]
          exact hawaits.archived device original horiginal hthread

end Finished

/-! ## Members that share a key -/

section Hidden

variable {service : StreamSyncService} {threads : Dict String ArchiveCompletion}
  {frameSet : SynchronizedFrameSet} {earlier : List SynchronizedFrameSet} {device : String}

/-- Where a completion of a member looks for it. -/
def keyRow (row : String × StoredSyncFrame) : String × String := (row.1, row.2.bufferKey)

/-- A set of the same number and keys, with the same member of one device. -/
structure SameMember (frameSet : SynchronizedFrameSet) (device : String)
    (item : SynchronizedFrameSet) : Prop where
  number : item.number = frameSet.number
  keys : item.frames.rows.map keyRow = frameSet.frames.rows.map keyRow
  member : item.frames.get? device = frameSet.frames.get? device

theorem fst_entryOf (frameSet : SynchronizedFrameSet) (bufferKey : String) :
    (frameSet.entryOf bufferKey).map Prod.fst =
      ((frameSet.frames.rows.map keyRow).find? fun row => row.2 = bufferKey).map Prod.fst := by
  unfold SynchronizedFrameSet.entryOf
  rw [List.find?_map, Option.map_map]
  rfl

theorem SameMember.fst_entryOf {item : SynchronizedFrameSet} (h : SameMember frameSet device item)
    (bufferKey : String) :
    (item.entryOf bufferKey).map Prod.fst = (frameSet.entryOf bufferKey).map Prod.fst := by
  rw [ImageStream.fst_entryOf, ImageStream.fst_entryOf, h.keys]

/-- A frame that goes to another member leaves this one alone. -/
theorem SameMember.withMember {item : SynchronizedFrameSet} (h : SameMember frameSet device item)
    {frame : StoredSyncFrame} {row : String × StoredSyncFrame}
    (hrow : item.entryOf frame.bufferKey = some row) (hne : row.1 ≠ device) :
    SameMember frameSet device (item.withMember frame) where
  number := h.number
  keys := by
    have hmem : row ∈ item.frames.rows := List.mem_of_find?_eq_some hrow
    have hpresent : item.frames.find row.1 ≠ none := item.frames.find_ne_none_of_mem hmem
    have hput := item.frames.rows_put_of_present (r := (row.1, frame)) hpresent
    unfold SynchronizedFrameSet.withMember
    rw [hrow, ← h.keys]
    dsimp only [Dict.set]
    rw [hput, List.map_map]
    refine List.map_congr_left fun row' hmem' => ?_
    by_cases hsame : row'.1 = row.1
    · obtain rfl : row' = row := item.frames.eq_of_key_eq hmem' hmem hsame
      simp [keyRow, SynchronizedFrameSet.bufferKey_entryOf hrow]
    · simp [keyRow, hsame]
  member := by
    unfold SynchronizedFrameSet.withMember
    rw [hrow]
    dsimp only
    rw [Dict.get?_set_of_ne _ _ hne.symm]
    exact h.member

theorem SameMember.withState {item : SynchronizedFrameSet} (h : SameMember frameSet device item)
    (state : ArchiveState) (error : Option String) :
    SameMember frameSet device (item.withState state error) :=
  ⟨h.number, h.keys, h.member⟩

/-- The snapshot that a thread holds. -/
def CompletionPhase.snapshot? : CompletionPhase → Option SynchronizedFrameSet
  | .registered snapshot => some snapshot
  | .settled snapshot _ _ => some snapshot
  | _ => none

/-- One member of the entry and of every snapshot is as it was emitted. -/
structure Hidden (frameSet : SynchronizedFrameSet) (earlier : List SynchronizedFrameSet)
    (device : String) (s : Completing) : Prop where
  entry : ∃ matcher item, s.service.matcher = some matcher ∧
    matcher.recentFrameSets = earlier ++ [item] ∧ SameMember frameSet device item
  filed : s.service.bufferManager.Filed
  snapshots : ∀ other snapshot, (s.phase other).snapshot? = some snapshot →
    SameMember frameSet device snapshot

theorem snapshot?_afterRegistration {updated snapshot : SynchronizedFrameSet}
    (h : (afterRegistration (some updated)).snapshot? = some snapshot) : snapshot = updated := by
  unfold afterRegistration at h
  dsimp only at h
  split at h
  · exact (Option.some.inj h).symm
  · split at h <;> exact (Option.some.inj h).symm

/-- What the threads hold after one of them has taken a step. -/
theorem Hidden.snapshots_update {s : Completing} (h : Hidden frameSet earlier device s)
    {acting : String} {next : CompletionPhase}
    (hnext : ∀ snapshot, next.snapshot? = some snapshot → SameMember frameSet device snapshot)
    (other : String) (snapshot : SynchronizedFrameSet)
    (hsnapshot : (Function.update s.phase acting next other).snapshot? = some snapshot) :
    SameMember frameSet device snapshot := by
  by_cases hne : other = acting
  · rw [hne, Function.update_self] at hsnapshot
    exact hnext snapshot hsnapshot
  · rw [Function.update_of_ne hne] at hsnapshot
    exact h.snapshots other snapshot hsnapshot

/-- No step changes a member that no key leads to. -/
theorem Hidden.step {s : Completing} (h : Hidden frameSet earlier device s)
    (hothers : ∀ item ∈ earlier, item.number ≠ frameSet.number)
    (hawaits : Awaits frameSet threads)
    (hhidden : ∀ bufferKey, (frameSet.entryOf bufferKey).map Prod.fst ≠ some device)
    (libraryText : ManifestError → String) (op : CompletionOp) :
    Hidden frameSet earlier device (completionStep libraryText threads s op).1 := by
  obtain ⟨matcher, item, hmatcher, hrecent, hitem⟩ := h.entry
  have hitemOthers : ∀ other ∈ earlier, other.number ≠ item.number := by
    rw [hitem.number]
    exact hothers
  cases hthread : threads.get? op.device with
  | none =>
      simp only [completionStep, hthread]
      exact h
  | some thread =>
      cases hphase : s.phase op.device with
      | waiting =>
          obtain ⟨member, hmember, hkey, -⟩ := hawaits.pending op.device thread hthread
          have hfound : item.entryOf (buildBufferKey thread.frame) ≠ none := by
            intro hnone
            have hmissing := hitem.fst_entryOf (buildBufferKey thread.frame)
            rw [hnone, Option.map_none, eq_comm, Option.map_eq_none_iff] at hmissing
            have hrow := (frameSet.frames.get?_eq_some_iff).mp hmember
            have habsent := List.find?_eq_none.mp hmissing (op.device, member) hrow
            simp [hkey] at habsent
          obtain ⟨row, hrow⟩ := Option.ne_none_iff_exists'.mp hfound
          obtain ⟨stored, matcher', hlocated, hfinalize, hrecent'⟩ :=
            finalizeFrameArchive_of_entry hmatcher hrecent hitemOthers thread.frame hrow h.filed
              thread.frameSet thread.frameId (some thread.filePath) .durable none
          have hne : row.1 ≠ device := by
            intro heq
            have hfst := hitem.fst_entryOf (buildBufferKey thread.frame)
            rw [hrow, Option.map_some, heq] at hfst
            exact hhidden _ hfst.symm
          have hkeyed : item.entryOf (stored.withArchive thread.frameId (some thread.filePath)
              .durable none).bufferKey = some row := by
            rw [StoredSyncFrame.bufferKey_withArchive,
              StreamSyncService.bufferKey_located h.filed hlocated]
            exact hrow
          have hupdated := hitem.withMember hkeyed hne
          simp only [completionStep, hthread, hphase, hfinalize]
          exact
            { entry := ⟨matcher', _, rfl, hrecent', hupdated⟩
              filed := h.filed.finalizeArchive _ _ _ _ _
              snapshots := h.snapshots_update fun snapshot hsnapshot =>
                snapshot?_afterRegistration hsnapshot ▸ hupdated }
      | registered snapshot =>
          have hsnapshot := h.snapshots op.device snapshot (by rw [hphase]; rfl)
          have hnext : ∀ {state : ArchiveState} {error : Option String} {snapshot'},
              (CompletionPhase.settled snapshot state error).snapshot? = some snapshot' →
                SameMember frameSet device snapshot' := fun heq =>
            Option.some.inj heq ▸ hsnapshot
          cases hpersist : persistFrameSetManifest s.db snapshot none op.nowMs with
          | mk db' result =>
              cases result with
              | ok inserted =>
                  simp only [completionStep, hthread, hphase, hpersist]
                  exact ⟨h.entry, h.filed, h.snapshots_update fun _ => hnext⟩
              | error e =>
                  simp only [completionStep, hthread, hphase, hpersist]
                  exact ⟨h.entry, h.filed, h.snapshots_update fun _ => hnext⟩
      | settled snapshot state error =>
          have hsnapshot := h.snapshots op.device snapshot (by rw [hphase]; rfl)
          obtain ⟨matcher', hfinalize, hrecent'⟩ :=
            finalizeArchiveState_of_entry hmatcher hrecent hitemOthers
              (hsnapshot.number.trans hitem.number.symm) state error
          simp only [completionStep, hthread, hphase, hfinalize]
          exact
            { entry := ⟨matcher', _, rfl, hrecent', hsnapshot.withState state error⟩
              filed := h.filed
              snapshots := h.snapshots_update fun snapshot' heq => by cases heq }
      | finished =>
          simp only [completionStep, hthread, hphase]
          exact h

/-- A set with a member that its thread's key does not lead to is not completed. -/
theorem not_archiveComplete_of_hidden (hemitted : JustEmitted service frameSet earlier)
    (hawaits : Awaits frameSet threads) (hnot : ¬Reached frameSet threads) (db : Database)
    (libraryText : ManifestError → String) (schedule : List CompletionOp) :
    ¬ArchiveComplete (Machine.after (completionStep libraryText threads)
      { service := service, db := db } schedule) frameSet := by
  unfold Reached at hnot
  push Not at hnot
  obtain ⟨device, thread, hthread, hlost⟩ := hnot
  obtain ⟨member, hmember, hkey, hpending⟩ := hawaits.pending device thread hthread
  have hhidden : ∀ bufferKey, (frameSet.entryOf bufferKey).map Prod.fst ≠ some device := by
    intro bufferKey hfst
    obtain ⟨⟨device', found⟩, hrow, hdevice⟩ := Option.map_eq_some_iff.mp hfst
    dsimp only at hdevice
    subst hdevice
    have hfound := (frameSet.frames.get?_eq_some_iff).mpr (List.mem_of_find?_eq_some hrow)
    rw [hmember] at hfound
    cases hfound
    have hsame : bufferKey = buildBufferKey thread.frame :=
      (SynchronizedFrameSet.bufferKey_entryOf hrow).symm.trans hkey.symm
    rw [hsame] at hfst
    exact hlost hfst
  obtain ⟨matcher, hmatcher, hrecent⟩ := hemitted.recent
  have hafter : Hidden frameSet earlier device (Machine.after (completionStep libraryText threads)
      { service := service, db := db } schedule) :=
    Machine.invariant_after (completionStep libraryText threads)
      ⟨⟨matcher, frameSet, hmatcher, hrecent, rfl, rfl, rfl⟩, hemitted.filed,
        fun _ _ hsnapshot => by cases hsnapshot⟩
      (fun s op h => h.step hemitted.others hawaits hhidden libraryText op) schedule
  rintro ⟨-, entry, hentry, hnumber, hdurable, -⟩
  obtain ⟨matcher', item, hmatcher', hrecent', hitem⟩ := hafter.entry
  simp only [StreamSyncService.recentFrameSets, hmatcher', hrecent'] at hentry
  obtain rfl := eq_of_number hemitted.others hentry hnumber
  have hsame := hitem.member.trans hmember
  have hcontra := hdurable member (Dict.mem_values_of_get? _ hsame)
  rw [hpending] at hcontra
  cases hcontra

end Hidden

/-! ## Sets emitted by a service -/

/-- A V2 set that a run with fresh run ids has ended with, and that stays in the recent
list, has just been emitted. -/
theorem justEmitted_of_emitted {expectedCameras : List String} {windowMs : ℤ}
    {bufferSize recentLimit : ℕ} {runId : String} {ops : List ServiceOp} {op : ServiceOp}
    {frameSet : SynchronizedFrameSet}
    (hfresh : (drawnRunIds runId (ops ++ [op])).Nodup)
    (hemitted : emitted? (Machine.exchange serviceStep (Machine.after serviceStep
      (configuredService expectedCameras windowMs bufferSize recentLimit runId) ops) op) =
        some frameSet)
    (hmode : frameSet.identityMode = .v2)
    (hrecent : (serviceStep (Machine.after serviceStep
      (configuredService expectedCameras windowMs bufferSize recentLimit runId)
        ops) op).1.recentFrameSets ≠ []) :
    ∃ earlier, JustEmitted (serviceStep (Machine.after serviceStep
      (configuredService expectedCameras windowMs bufferSize recentLimit runId) ops) op).1
        frameSet earlier := by
  obtain ⟨matcher, earlier, hmatcher, hsets⟩ := recentFrameSets_of_emitted hemitted hrecent
  have haddressed := addressed_after expectedCameras windowMs bufferSize recentLimit runId hfresh
  rw [Machine.after_snoc] at haddressed
  refine ⟨earlier, ⟨matcher, hmatcher, hsets⟩, fun item hitem hnumber => ?_,
    haddressed.filed, hmode⟩
  have hdistinct := (haddressed.numbered matcher hmatcher).distinct
  rw [hsets, List.map_append, List.map_singleton] at hdistinct
  exact List.disjoint_of_nodup_append hdistinct (List.mem_map_of_mem hitem)
    (List.mem_singleton.mpr hnumber)

/-! ## Every order of completions -/

/-- Whether every thread gets to take its three steps. -/
def Exhausts (threads : Dict String ArchiveCompletion) (devices : List String) : Prop :=
  ∀ device thread, threads.get? device = some thread → 3 ≤ devices.count device

/-- What the threads make of a set that has just been emitted. -/
theorem JustEmitted.completes_iff {service : StreamSyncService}
    {threads : Dict String ArchiveCompletion} {frameSet : SynchronizedFrameSet}
    {earlier : List SynchronizedFrameSet} (hjust : JustEmitted service frameSet earlier)
    (hawaits : Awaits frameSet threads) (libraryText : ManifestError → String) (db : Database)
    (schedule : List CompletionOp)
    (hexhausts : Exhausts threads (schedule.map CompletionOp.device)) :
    ArchiveComplete (Machine.after (completionStep libraryText threads)
        { service := service, db := db } schedule) frameSet ↔
      Reached frameSet threads ∧ db.Takes (completeSet service threads frameSet) ∧
      WriteBack.NothingLost (scheduleEvents threads [] (schedule.map CompletionOp.device)) := by
  by_cases hreached : Reached frameSet threads
  · obtain ⟨record, hrun, htracks, hstages⟩ :=
      tracks_after libraryText hjust hawaits hreached db schedule
    have hfinished : (Machine.after (completionStep libraryText threads)
        { service := service, db := db } schedule).AllFinished threads := by
      intro device thread hthread
      apply CompletionPhase.eq_finished_of_stage
      rw [hstages device thread hthread, min_eq_left (hexhausts device thread hthread)]
    rw [archiveComplete_iff_of_tracks htracks hrun hjust hawaits hfinished]
    exact ⟨fun ⟨hlost, htakes⟩ => ⟨hreached, htakes, hlost⟩,
      fun ⟨_, htakes, hlost⟩ => ⟨hlost, htakes⟩⟩
  · have hnot := not_archiveComplete_of_hidden hjust hawaits hreached db libraryText schedule
    exact ⟨fun hcomplete => absurd hcomplete hnot, fun hall => absurd hall.1 hreached⟩

/-- **When no completion of an emitted set is lost.** Let a run of a configured service,
whose run ids are fresh, end with the emission of a V2 set that stays in the recent list,
and let the threads of its pending members take all their steps in any order. Then the
manifest is stored and the entry of the set is archived with every member if and only if
every thread's key leads to its own member, the database takes the complete set, and at
every registration and at the end the thread that registered last was the last to write
the entry. -/
theorem archiveComplete_iff (libraryText : ManifestError → String) (expectedCameras : List String)
    (windowMs : ℤ) (bufferSize recentLimit : ℕ) (runId : String) (ops : List ServiceOp)
    (op : ServiceOp) (frameSet : SynchronizedFrameSet) (threads : Dict String ArchiveCompletion)
    (db : Database) (schedule : List CompletionOp) :
    let before := Machine.after serviceStep
      (configuredService expectedCameras windowMs bufferSize recentLimit runId) ops
    let service := (serviceStep before op).1
    let devices := schedule.map CompletionOp.device
    (drawnRunIds runId (ops ++ [op])).Nodup →
    emitted? (Machine.exchange serviceStep before op) = some frameSet →
    frameSet.identityMode = .v2 →
    frameSet ∈ service.recentFrameSets →
    Awaits frameSet threads →
    Exhausts threads devices →
    (ArchiveComplete (Machine.after (completionStep libraryText threads)
        { service := service, db := db } schedule) frameSet ↔
      Reached frameSet threads ∧ db.Takes (completeSet service threads frameSet) ∧
      WriteBack.NothingLost (scheduleEvents threads [] devices)) := by
  intro before service devices hfresh hemitted hmode hrecent hawaits hexhausts
  obtain ⟨earlier, hjust⟩ :=
    justEmitted_of_emitted hfresh hemitted hmode (List.ne_nil_of_mem hrecent)
  exact hjust.completes_iff hawaits libraryText db schedule hexhausts

/-! ### Completions in some order -/

/-- A V2 frame of a camera. -/
def cameraFrame (device : String) (timestampMs : ℤ) : SyncInputFrame where
  frameId := none
  deviceId := device
  timestampMs := timestampMs
  sequence := some 1
  contentType := "image/jpeg"
  imageBytes := [1]
  filePath := none
  sourceSessionId := some "session"
  cameraStreamId := some device
  sourceFrameUid := (buildSourceFrameUid "session" device 1).toOption
  contentDigest := some (sha256Bytes [1])
  identityMode := .v2

def cameraThread (device : String) (timestampMs frameId : ℤ) : String × ArchiveCompletion :=
  (device,
    { frame := cameraFrame device timestampMs
      frameId := some frameId
      filePath := "/archive/" ++ device })

/-- Two cameras, of which the right one completes the set. -/
def pairService : StreamSyncService := configuredService ["left", "right"] 50 120 20 "run-1"

def pairOps : List ServiceOp := [.handleFrame (cameraFrame "left" 1000) 1001 "run-2"]

def pairOp : ServiceOp := .handleFrame (cameraFrame "right" 1010) 1011 "run-3"

def pairBefore : StreamSyncService := Machine.after serviceStep pairService pairOps

def pairSet : SynchronizedFrameSet :=
  (emitted? (Machine.exchange serviceStep pairBefore pairOp)).getD
    { frameSetId := 0, anchorTimestampMs := 0, maxDeltaMs := 0, frames := Table.empty }

def pairThreads : Dict String ArchiveCompletion where
  rows := [cameraThread "left" 1000 1, cameraThread "right" 1010 2]
  keys_nodup := by decide

def pairStart : Completing := { service := (serviceStep pairBefore pairOp).1, db := {} }

/-- The threads take their steps in this order. -/
def inOrder (devices : List String) : List CompletionOp :=
  devices.map fun device => { device := device }

theorem pairSet_emitted :
    emitted? (Machine.exchange serviceStep pairBefore pairOp) = some pairSet := by
  have hsome : (emitted? (Machine.exchange serviceStep pairBefore pairOp)).isSome = true := by
    decide +kernel
  obtain ⟨frameSet, hframeSet⟩ := Option.isSome_iff_exists.mp hsome
  rw [pairSet, hframeSet]
  rfl

theorem pairSet_recent : pairSet ∈ pairStart.service.recentFrameSets := by
  have hroom : pairStart.service.recentFrameSets ≠ [] := by
    apply List.ne_nil_of_length_pos
    decide +kernel
  obtain ⟨matcher, earlier, hmatcher, hsets⟩ := recentFrameSets_of_emitted pairSet_emitted hroom
  have hrecent : pairStart.service.recentFrameSets = matcher.recentFrameSets := by
    simp only [pairStart, StreamSyncService.recentFrameSets, hmatcher]
  rw [hrecent, hsets]
  exact List.mem_append_right _ (List.mem_singleton.mpr rfl)

/-- What the threads look at in a member. -/
def threadView (member : StoredSyncFrame) : String × ArchiveState :=
  (member.bufferKey, member.archiveState)

/-- What the run shows of its set, evaluated once for all that follows. -/
theorem pairSet_evaluated :
    pairSet.identityMode = .v2 ∧
      (∀ row ∈ pairThreads.rows, (pairSet.frames.get? row.1).map threadView =
        some (buildBufferKey row.2.frame, .pending)) ∧
      (∀ row ∈ pairThreads.rows,
        (pairSet.entryOf (buildBufferKey row.2.frame)).map Prod.fst = some row.1) ∧
      (∀ device ∈ pairSet.frames.keys, (pairThreads.get? device).isSome) ∧
      truthy pairSet.captureSessionId ∧ truthy pairSet.captureRunId ∧
      (authorizationGroupValues pairSet).any truthy = false := by
  decide +kernel

theorem pairSet_mode : pairSet.identityMode = .v2 := pairSet_evaluated.1

theorem pairSet_awaits : Awaits pairSet pairThreads where
  nonempty := nofun
  pending := by
    obtain ⟨-, hviews, -⟩ := pairSet_evaluated
    intro device thread hthread
    have hview := hviews (device, thread) ((pairThreads.get?_eq_some_iff).mp hthread)
    obtain ⟨member, hmember, hthreadView⟩ := Option.map_eq_some_iff.mp hview
    obtain ⟨hkey, hstate⟩ := Prod.mk.inj hthreadView
    exact ⟨member, hmember, hkey.symm, hstate⟩
  archived := by
    have hthreads : ∀ device ∈ pairSet.frames.keys, pairThreads.get? device ≠ none := by
      obtain ⟨-, -, -, hsome, -⟩ := pairSet_evaluated
      exact fun device hdevice => Option.isSome_iff_ne_none.mp (hsome device hdevice)
    intro device member hmember hnone
    exact absurd hnone (hthreads device ((pairSet.frames.mem_keys_iff).mpr ⟨member, hmember⟩))
  paths := by
    have hpaths : ∀ row ∈ pairThreads.rows, row.2.filePath ≠ "" := by decide +kernel
    exact fun device thread hthread =>
      hpaths (device, thread) ((pairThreads.get?_eq_some_iff).mp hthread)

theorem pairSet_reached : Reached pairSet pairThreads := by
  obtain ⟨-, -, hrows, -⟩ := pairSet_evaluated
  exact fun device thread hthread =>
    hrows (device, thread) ((pairThreads.get?_eq_some_iff).mp hthread)

theorem pairSet_exhausted {devices : List String}
    (h : ∀ row ∈ pairThreads.rows, 3 ≤ devices.count row.1) : Exhausts pairThreads devices :=
  fun device thread hthread =>
    h (device, thread) ((pairThreads.get?_eq_some_iff).mp hthread)

theorem pairSet_takes :
    ({} : Database).Takes (completeSet pairStart.service pairThreads pairSet) := by
  obtain ⟨huid, hdigest, hjson⟩ := digests_of_emitted pairSet_emitted pairSet_mode
  obtain ⟨-, -, -, -, hsession, hrun, hunscoped⟩ := pairSet_evaluated
  have hcompleted : 0 < (completeSet pairStart.service pairThreads pairSet).members.length ∧
      (completeSet pairStart.service pairThreads pairSet).members.all
        StoredSyncFrame.manifestReady = true ∧
      ((sortedMembers (completeSet pairStart.service pairThreads pairSet)).map
        fun member => member.sourceFrameUid.getD "").Nodup ∧
      ((sortedMembers (completeSet pairStart.service pairThreads pairSet)).map
        fun member => member.cameraStreamId.getD "").Nodup := by
    decide +kernel
  obtain ⟨hcount, hready, hsources, hstreams⟩ := hcompleted
  generalize pairSet = frameSet, pairStart.service = service at *
  apply takes_empty _ hready hunscoped (List.ne_nil_of_length_pos hcount) hsources hstreams
  exact missingFields_eq_nil hsession hrun huid hdigest hjson

theorem pairSet_justEmitted : ∃ earlier, JustEmitted pairStart.service pairSet earlier := by
  have hfresh : (drawnRunIds "run-1" (pairOps ++ [pairOp])).Nodup := by decide
  exact justEmitted_of_emitted hfresh pairSet_emitted pairSet_mode
    (List.ne_nil_of_mem pairSet_recent)

/-- The right thread archives the whole set, and then the left one, which has registered
first, puts its own snapshot in the place of the entry. -/
theorem pairSet_lost :
    Exhausts pairThreads ["left", "right", "right", "right", "left", "left"] ∧
    ¬ArchiveComplete (Machine.after (completionStep (fun _ => "error") pairThreads) pairStart
      (inOrder ["left", "right", "right", "right", "left", "left"])) pairSet := by
  have hexhausts : Exhausts pairThreads
      ["left", "right", "right", "right", "left", "left"] :=
    pairSet_exhausted (by decide)
  refine ⟨hexhausts, fun hcomplete => ?_⟩
  obtain ⟨earlier, hjust⟩ := pairSet_justEmitted
  obtain ⟨-, -, -, hlast⟩ :=
    (hjust.completes_iff pairSet_awaits _ {} (inOrder
      ["left", "right", "right", "right", "left", "left"]) hexhausts).mp hcomplete
  exact absurd hlast (by decide)

/-- One thread after the other completes the set. -/
theorem pairSet_complete :
    ArchiveComplete (Machine.after (completionStep (fun _ => "error") pairThreads) pairStart
      (inOrder ["left", "left", "left", "right", "right", "right"])) pairSet := by
  have hlost : WriteBack.NothingLost (scheduleEvents pairThreads []
      ["left", "left", "left", "right", "right", "right"]) := by
    decide
  exact (archiveComplete_iff (fun _ => "error") ["left", "right"] 50 120 20 "run-1" pairOps pairOp
    pairSet pairThreads {} (inOrder ["left", "left", "left", "right", "right", "right"])
    (by decide) pairSet_emitted pairSet_mode pairSet_recent pairSet_awaits
    (pairSet_exhausted (by decide))).mpr ⟨pairSet_reached, pairSet_takes, hlost⟩

end ImageStream
