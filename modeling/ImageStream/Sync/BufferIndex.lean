/-
# The index of the buffers

The manager of the buffers holds every frame that it has taken twice: as a candidate of its
camera, and in the index by which an archive completion finds it. The candidates of a camera are
bounded by the deque that holds them, its keys in the index by a list of their own. Both forget
the oldest first, but only the candidates are also taken out by a match or a sweep, and a frame
that came early may have a late timestamp and stay.

So the index is always what the retained keys say it is. It holds every candidate as long as no
frame is taken while the oldest retained key is that of a candidate which the deque keeps.
-/

import ImageStream.Base.Deque
import ImageStream.Base.Rounds
import ImageStream.Sync.Accounting
import ImageStream.Sync.RecentSets

namespace ImageStream

open Base SyncFrameBufferManager

/-- A key of a dictionary that is not there. -/
inductive KeyError
  | missing (key : String)
  deriving DecidableEq

namespace SyncFrameBufferManager

/-! ## Operations -/

/-- One camera's part of a consumption, which raises when the camera has no buffer. -/
def consumeRound (state : SyncFrameBufferManager × ℕ) (chosen : String × StoredSyncFrame) :
    Round (SyncFrameBufferManager × ℕ) KeyError :=
  if (state.1.buffers.get? chosen.1).isSome then .next (consumeCamera state chosen)
  else .leave state (.missing chosen.1)

/-- `consume_through` for any selection. What it has consumed before it raises stays consumed. -/
def consumeSelected (manager : SyncFrameBufferManager) (selected : Dict String StoredSyncFrame) :
    SyncFrameBufferManager × Except KeyError ℕ :=
  let run := rounds consumeRound (manager, 0) selected.rows
  (run.1.1,
    match run.2 with
    | none => .ok run.1.2
    | some e => .error e)

end SyncFrameBufferManager

/-- The operations that change what the manager holds. -/
inductive BufferOp
  | addFrame (frame : SyncInputFrame)
  | dropFramesOlderThan (deviceIds : List String) (timestampMs : ℤ)
      (countedExcludeFrameKeys : List String)
  | consumeThrough (selected : Dict String StoredSyncFrame)
  | finalizeArchive (frameKey : String) (frameId : Option ℤ) (filePath : Option String)
      (archiveState : ArchiveState) (archiveError : Option String)

inductive BufferAnswer
  | frame (stored : Option StoredSyncFrame)
  | count (frames : Except KeyError ℕ)

def bufferStep (manager : SyncFrameBufferManager) :
    BufferOp → SyncFrameBufferManager × BufferAnswer
  | .addFrame frame =>
      let (added, stored) := manager.addFrame frame
      (added, .frame stored)
  | .dropFramesOlderThan deviceIds timestampMs countedExcludeFrameKeys =>
      let (kept, dropped) :=
        manager.dropFramesOlderThan deviceIds timestampMs countedExcludeFrameKeys
      (kept, .count (.ok dropped))
  | .consumeThrough selected =>
      let (consumed, superseded) := manager.consumeSelected selected
      (consumed, .count superseded)
  | .finalizeArchive frameKey frameId filePath archiveState archiveError =>
      let (finalized, stored) :=
        manager.finalizeArchive frameKey frameId filePath archiveState archiveError
      (finalized, .frame stored)

namespace SyncFrameBufferManager

/-- A selection whose cameras all have buffers is consumed as a whole. -/
theorem consumeSelected_of_buffered {manager : SyncFrameBufferManager}
    {selected : Dict String StoredSyncFrame}
    (h : ∀ c ∈ selected.keys, (manager.buffers.get? c).isSome) :
    manager.consumeSelected selected =
      ((manager.consumeThrough selected).1, .ok (manager.consumeThrough selected).2) := by
  have hrows : ∀ (rows : List (String × StoredSyncFrame)) (state : SyncFrameBufferManager × ℕ),
      (∀ row ∈ rows, (state.1.buffers.get? row.1).isSome) →
        rounds consumeRound state rows = (rows.foldl consumeCamera state, none) := by
    intro rows
    induction rows with
    | nil => exact fun _ _ => rfl
    | cons row rows ih =>
        intro state hbuffered
        have hrow := hbuffered row List.mem_cons_self
        rw [rounds_cons_of_next rows (if_pos hrow), List.foldl_cons]
        apply ih
        intro later hlater
        obtain ⟨buffer, hbuffer⟩ := Option.isSome_iff_exists.mp hrow
        have hset : (consumeCamera state row).1.buffers =
            state.1.buffers.set row.1 (buffer.consumeThrough row.2).1 := by
          simp [consumeCamera, hbuffer]
        rw [hset, Dict.get?_set]
        split
        · rfl
        · exact hbuffered later (List.mem_cons_of_mem _ hlater)
  have hall := hrows selected.rows (manager, 0) fun row hrow => h row.1 (List.mem_map_of_mem hrow)
  unfold consumeSelected consumeThrough
  rw [hall]

/-! ## The two laws -/

/-- The retained keys of a camera. -/
def retainedOf (manager : SyncFrameBufferManager) (c : String) : List String :=
  (manager.bufferOf c).retainedKeys

/-- The index is the disjoint union of the retained keys, of which a camera has no more than the
buffers hold. A frame is filed under its key, which its own camera retains. -/
structure IndexesRetained (manager : SyncFrameBufferManager) : Prop where
  bounded : manager.Bounded
  length_le : ∀ c, (manager.retainedOf c).length ≤ manager.bufferSize
  nodup : ∀ c, (manager.retainedOf c).Nodup
  disjoint : ∀ c d key, key ∈ manager.retainedOf c → key ∈ manager.retainedOf d → c = d
  mem_iff : ∀ key, manager.framesByKey.get? key ≠ none ↔ ∃ c, key ∈ manager.retainedOf c
  filed : ∀ key stored, manager.framesByKey.get? key = some stored →
    stored.bufferKey = key ∧ key ∈ manager.retainedOf stored.deviceId

/-- The candidates of a camera come in the order of its retained keys, and the index has each of
them as it is. -/
structure IndexesBuffered (manager : SyncFrameBufferManager) : Prop where
  sublist : ∀ c, ((manager.buffered c).map StoredSyncFrame.bufferKey).Sublist
    (manager.retainedOf c)
  current : ∀ c, ∀ frame ∈ manager.buffered c,
    manager.framesByKey.get? frame.bufferKey = some frame

/-- Whether taking a frame forgets no candidate: if the keys that its camera retains are as many
as may be and the deque has room for the frame, then the oldest key is not that of a candidate
of the frame's source. -/
def ForgetsNoCandidate (manager : SyncFrameBufferManager) (frame : SyncInputFrame) : Prop :=
  manager.Admits frame →
    some frame.source = (manager.bufferOf frame.deviceId).sourceIdentity →
    (manager.retainedOf frame.deviceId).length = manager.bufferSize →
    (manager.buffered frame.deviceId).length < manager.bufferSize →
    ∀ oldest ∈ (manager.retainedOf frame.deviceId).head?,
      ∀ candidate ∈ manager.buffered frame.deviceId, candidate.bufferKey ≠ oldest

instance (manager : SyncFrameBufferManager) (frame : SyncInputFrame) :
    Decidable (manager.Admits frame) :=
  inferInstanceAs (Decidable (_ ∧ _))

instance (manager : SyncFrameBufferManager) (frame : SyncInputFrame) :
    Decidable (manager.ForgetsNoCandidate frame) :=
  inferInstanceAs (Decidable (_ → _ → _ → _ →
    ∀ oldest ∈ (manager.retainedOf frame.deviceId).head?,
      ∀ candidate ∈ manager.buffered frame.deviceId, candidate.bufferKey ≠ oldest))

variable {manager : SyncFrameBufferManager}

/-! ## Taking frames out -/

/-- What a match or a sweep does: it takes candidates out and changes nothing else. -/
structure TakesOut (manager smaller : SyncFrameBufferManager) : Prop where
  intake : manager.SameIntake smaller
  sublist : ∀ c, (smaller.buffered c).Sublist (manager.buffered c)

theorem TakesOut.refl (manager : SyncFrameBufferManager) : manager.TakesOut manager :=
  ⟨.refl manager, fun _ => List.Sublist.refl _⟩

/-- A frame that is not taken changes nothing but a counter. -/
theorem takesOut_addFrame_of_not_admits {frame : SyncInputFrame} (h : ¬manager.Admits frame) :
    manager.TakesOut (manager.addFrame frame).1 := by
  obtain ⟨-, hbuffers, hindex⟩ := addFrame_of_not_admits h
  have hsize : (manager.addFrame frame).1.bufferSize = manager.bufferSize := by
    unfold addFrame
    dsimp only
    split
    · rfl
    · split <;> rfl
  refine ⟨.of_buffers hsize hindex hbuffers, fun c => ?_⟩
  unfold buffered
  rw [hbuffers]

theorem takesOut_dropFramesOlderThan (manager : SyncFrameBufferManager) (deviceIds : List String)
    (timestampMs : ℤ) (excluded : List String) :
    manager.TakesOut (manager.dropFramesOlderThan deviceIds timestampMs excluded).1 where
  intake := .dropFramesOlderThan manager deviceIds timestampMs excluded
  sublist c := by
    rw [buffered_dropFramesOlderThan]
    split
    · exact List.filter_sublist
    · exact List.Sublist.refl _

theorem takesOut_consumeSelected (manager : SyncFrameBufferManager)
    (selected : Dict String StoredSyncFrame) :
    manager.TakesOut (manager.consumeSelected selected).1 := by
  show manager.TakesOut (rounds consumeRound (manager, 0) selected.rows).1.1
  apply rounds_invariant
    (P := fun (state : SyncFrameBufferManager × ℕ) => manager.TakesOut state.1) _ _ (.refl manager)
  · intro state next row h hround
    unfold consumeRound at hround
    split at hround
    · rename_i hbuffered
      cases hround
      obtain ⟨buffer, hbuffer⟩ := Option.isSome_iff_exists.mp hbuffered
      constructor
      · refine h.intake.trans (.of_set (buffer.consumeThrough row.2).1 hbuffer rfl ?_)
        simp only [consumeCamera, hbuffer]
      · intro c
        rw [buffered_consumeCamera]
        exact (remaining_sublist _ _).trans (h.sublist c)
    · cases hround
  · intro state next row e h hround
    unfold consumeRound at hround
    split at hround
    · cases hround
    · cases hround
      exact h

theorem TakesOut.retainedOf {smaller : SyncFrameBufferManager} (h : manager.TakesOut smaller)
    (c : String) : smaller.retainedOf c = manager.retainedOf c := by
  have houtline := congrArg CameraSyncBuffer.retainedKeys (h.intake.bufferOf c)
  exact houtline

theorem IndexesRetained.takesOut {smaller : SyncFrameBufferManager} (h : manager.IndexesRetained)
    (hout : manager.TakesOut smaller) : smaller.IndexesRetained where
  bounded := h.bounded.of_sublist hout.intake hout.sublist
  length_le c := by
    rw [hout.retainedOf, hout.intake.bufferSize]
    exact h.length_le c
  nodup c := by
    rw [hout.retainedOf]
    exact h.nodup c
  disjoint c d key := by
    rw [hout.retainedOf, hout.retainedOf]
    exact h.disjoint c d key
  mem_iff key := by
    simp only [hout.retainedOf, hout.intake.framesByKey]
    exact h.mem_iff key
  filed key stored := by
    rw [hout.intake.framesByKey, hout.retainedOf]
    exact h.filed key stored

theorem IndexesBuffered.takesOut {smaller : SyncFrameBufferManager} (h : manager.IndexesBuffered)
    (hout : manager.TakesOut smaller) : smaller.IndexesBuffered where
  sublist c := by
    rw [hout.retainedOf]
    exact ((hout.sublist c).map _).trans (h.sublist c)
  current c frame hframe := by
    rw [hout.intake.framesByKey]
    exact h.current c frame ((hout.sublist c).subset hframe)

/-! ## Completions -/

section Completion

variable {frameKey : String} {stored : StoredSyncFrame} (frameId : Option ℤ)
  (filePath : Option String) (archiveState : ArchiveState) (archiveError : Option String)

theorem finalizeArchive_of_absent (h : manager.framesByKey.get? frameKey = none) :
    (manager.finalizeArchive frameKey frameId filePath archiveState archiveError).1 = manager := by
  simp only [finalizeArchive, h]

/-- What a completion leaves of a camera. -/
theorem get?_buffers_finalizeArchive (h : manager.framesByKey.get? frameKey = some stored)
    (c : String) :
    (manager.finalizeArchive frameKey frameId filePath archiveState archiveError).1.buffers.get? c =
      if c = stored.deviceId then
        (manager.buffers.get? c).map fun buffer =>
          { buffer with frames := buffer.frames.map fun item =>
              if item.bufferKey = frameKey then
                stored.withArchive frameId filePath archiveState archiveError
              else item }
      else manager.buffers.get? c := by
  simp only [finalizeArchive, h]
  exact manager.buffers.get?_modify _ _ _

theorem buffered_finalizeArchive (h : manager.framesByKey.get? frameKey = some stored)
    (c : String) :
    (manager.finalizeArchive frameKey frameId filePath archiveState archiveError).1.buffered c =
      if c = stored.deviceId then
        (manager.buffered c).map fun item =>
          if item.bufferKey = frameKey then
            stored.withArchive frameId filePath archiveState archiveError
          else item
      else manager.buffered c := by
  unfold buffered
  rw [get?_buffers_finalizeArchive _ _ _ _ h]
  by_cases hc : c = stored.deviceId
  · rw [if_pos hc, if_pos hc]
    cases manager.buffers.get? c <;> rfl
  · rw [if_neg hc, if_neg hc]

theorem retainedOf_finalizeArchive (h : manager.framesByKey.get? frameKey = some stored)
    (c : String) :
    (manager.finalizeArchive frameKey frameId filePath archiveState archiveError).1.retainedOf c =
        manager.retainedOf c ∧
      ((manager.finalizeArchive frameKey frameId filePath archiveState
        archiveError).1.bufferOf c).maxFrames = (manager.bufferOf c).maxFrames := by
  have hsize : (manager.finalizeArchive frameKey frameId filePath archiveState
      archiveError).1.bufferSize = manager.bufferSize := by
    simp only [finalizeArchive, h]
  unfold retainedOf bufferOf
  rw [get?_buffers_finalizeArchive _ _ _ _ h, hsize]
  split
  · cases manager.buffers.get? c <;> exact ⟨rfl, rfl⟩
  · exact ⟨rfl, rfl⟩

theorem get?_framesByKey_finalizeArchive (h : manager.framesByKey.get? frameKey = some stored)
    (key : String) :
    (manager.finalizeArchive frameKey frameId filePath archiveState
        archiveError).1.framesByKey.get? key =
      if key = frameKey then some (stored.withArchive frameId filePath archiveState archiveError)
      else manager.framesByKey.get? key := by
  simp only [finalizeArchive, h]
  exact Dict.get?_set _ _ _ _

theorem IndexesRetained.finalizeArchive (h : manager.IndexesRetained) :
    (manager.finalizeArchive frameKey frameId filePath archiveState
      archiveError).1.IndexesRetained := by
  cases hstored : manager.framesByKey.get? frameKey with
  | none => rwa [finalizeArchive_of_absent _ _ _ _ hstored]
  | some stored =>
      have hretained := fun c =>
        (retainedOf_finalizeArchive frameId filePath archiveState archiveError hstored c).1
      have hsize : (manager.finalizeArchive frameKey frameId filePath archiveState
          archiveError).1.bufferSize = manager.bufferSize := by
        simp only [SyncFrameBufferManager.finalizeArchive, hstored]
      constructor
      case bounded =>
        constructor
        · intro c
          rw [(retainedOf_finalizeArchive _ _ _ _ hstored c).2, hsize]
          exact h.bounded.maxFrames_eq c
        · intro c
          rw [buffered_finalizeArchive _ _ _ _ hstored, hsize]
          split
          · rw [List.length_map]
            exact h.bounded.length_le c
          · exact h.bounded.length_le c
      case length_le =>
        intro c
        rw [hretained, hsize]
        exact h.length_le c
      case nodup =>
        intro c
        rw [hretained]
        exact h.nodup c
      case disjoint =>
        intro c d key
        rw [hretained, hretained]
        exact h.disjoint c d key
      case mem_iff =>
        intro key
        simp only [hretained]
        rw [get?_framesByKey_finalizeArchive _ _ _ _ hstored, ← h.mem_iff]
        split
        · rename_i hkey
          rw [hkey, hstored]
          exact iff_of_true (Option.some_ne_none _) (Option.some_ne_none _)
        · exact Iff.rfl
      case filed =>
        intro key frame hframe
        rw [get?_framesByKey_finalizeArchive _ _ _ _ hstored] at hframe
        rw [hretained]
        split at hframe
        · rename_i hkey
          cases hframe
          rw [hkey]
          exact h.filed frameKey stored hstored
        · exact h.filed key frame hframe

theorem IndexesBuffered.finalizeArchive (h : manager.IndexesBuffered)
    (hindex : manager.IndexesRetained) :
    (manager.finalizeArchive frameKey frameId filePath archiveState
      archiveError).1.IndexesBuffered := by
  cases hstored : manager.framesByKey.get? frameKey with
  | none => rwa [finalizeArchive_of_absent _ _ _ _ hstored]
  | some stored =>
      obtain ⟨hkey, hretained⟩ := hindex.filed frameKey stored hstored
      constructor
      case sublist =>
        intro c
        rw [buffered_finalizeArchive _ _ _ _ hstored,
          (retainedOf_finalizeArchive _ _ _ _ hstored c).1]
        split
        · have hkeys : ((manager.buffered c).map fun item =>
              if item.bufferKey = frameKey then
                stored.withArchive frameId filePath archiveState archiveError
              else item).map StoredSyncFrame.bufferKey =
              (manager.buffered c).map StoredSyncFrame.bufferKey := by
            rw [List.map_map]
            apply List.map_congr_left
            intro item _
            rw [Function.comp_apply]
            split
            · rename_i hitem
              rw [StoredSyncFrame.bufferKey_withArchive, hkey, hitem]
            · rfl
          rw [hkeys]
          exact h.sublist c
        · exact h.sublist c
      case current =>
        intro c frame hframe
        rw [buffered_finalizeArchive _ _ _ _ hstored] at hframe
        rw [get?_framesByKey_finalizeArchive _ _ _ _ hstored]
        split at hframe
        · obtain ⟨item, hitem, rfl⟩ := List.mem_map.mp hframe
          by_cases hsame : item.bufferKey = frameKey
          · rw [if_pos hsame, StoredSyncFrame.bufferKey_withArchive, if_pos hkey]
          · rw [if_neg hsame, if_neg hsame]
            exact h.current c item hitem
        · -- Another camera does not retain the key.
          rename_i hother
          have hne : frame.bufferKey ≠ frameKey := by
            rintro rfl
            have hmem := (h.sublist c).subset (List.mem_map_of_mem hframe)
            exact hother (hindex.disjoint c _ _ hmem hretained)
          rw [if_neg hne]
          exact h.current c frame hframe

end Completion

/-! ## Taking a frame -/

section Retain

variable {stored : StoredSyncFrame}

theorem retainedKeys_append (buffer : CameraSyncBuffer) (frame : StoredSyncFrame) :
    (buffer.append frame).retainedKeys = buffer.retainedKeys := by
  have hkeys : (buffer.append frame).retainedKeys = (buffer.follow frame.source).retainedKeys := rfl
  rw [hkeys, CameraSyncBuffer.follow]
  split <;> rfl

/-- The keys of the camera of a frame, with the frame's own one. -/
def keysWith (manager : SyncFrameBufferManager) (stored : StoredSyncFrame) : List String :=
  manager.retainedOf stored.deviceId ++ [stored.bufferKey]

theorem evictedBy_eq (manager : SyncFrameBufferManager) (stored : StoredSyncFrame) :
    manager.evictedBy stored =
      (((manager.keysWith stored).take
          ((manager.keysWith stored).length - manager.bufferSize)).foldl (fun index key => index.pop key)
            (manager.framesByKey.set stored.bufferKey stored),
        (manager.keysWith stored).rtake manager.bufferSize) := by
  rw [evictedBy, retainedKeys_append]
  rfl

theorem retainedOf_retain (manager : SyncFrameBufferManager) (stored : StoredSyncFrame)
    (c : String) :
    (manager.retain stored).retainedOf c =
      if c = stored.deviceId then (manager.keysWith stored).rtake manager.bufferSize
      else manager.retainedOf c := by
  unfold retainedOf bufferOf
  rw [buffers_retain_eq, Dict.get?_set]
  by_cases hc : c = stored.deviceId
  · rw [if_pos hc, if_pos hc, evictedBy_eq]
    rfl
  · rw [if_neg hc, if_neg hc]
    rfl

theorem get?_framesByKey_retain (manager : SyncFrameBufferManager) (stored : StoredSyncFrame)
    (key : String) :
    (manager.retain stored).framesByKey.get? key =
      if key ∈ (manager.keysWith stored).take
          ((manager.keysWith stored).length - manager.bufferSize) then none
      else if key = stored.bufferKey then some stored
      else manager.framesByKey.get? key := by
  have hindex : (manager.retain stored).framesByKey = (manager.evictedBy stored).1 := rfl
  rw [hindex, evictedBy_eq, Dict.get?_foldl_pop, Dict.get?_set]

theorem IndexesRetained.not_mem_retainedOf (h : manager.IndexesRetained) {key : String}
    (hnew : manager.framesByKey.get? key = none) (c : String) : key ∉ manager.retainedOf c :=
  fun hmem => (h.mem_iff key).mpr ⟨c, hmem⟩ hnew

theorem IndexesRetained.nodup_keysWith (h : manager.IndexesRetained)
    (hnew : manager.framesByKey.get? stored.bufferKey = none) :
    (manager.keysWith stored).Nodup := by
  rw [keysWith, List.nodup_append]
  refine ⟨h.nodup _, List.nodup_singleton _, ?_⟩
  intro key hkey other hother
  rw [List.mem_singleton.mp hother]
  exact fun heq => h.not_mem_retainedOf hnew _ (heq ▸ hkey)

/-- The keys that a frame's camera had or gets are of no other camera. -/
theorem IndexesRetained.eq_of_mem_keysWith (h : manager.IndexesRetained)
    (hnew : manager.framesByKey.get? stored.bufferKey = none) {c key : String}
    (hkey : key ∈ manager.keysWith stored) (hc : key ∈ manager.retainedOf c) :
    c = stored.deviceId := by
  rcases List.mem_append.mp hkey with hretained | hitem
  · exact h.disjoint c _ key hc hretained
  · rw [List.mem_singleton.mp hitem] at hc
    exact absurd hc (h.not_mem_retainedOf hnew c)

theorem IndexesRetained.retain (h : manager.IndexesRetained)
    (hnew : manager.framesByKey.get? stored.bufferKey = none) :
    (manager.retain stored).IndexesRetained := by
  have hnodup := h.nodup_keysWith hnew
  constructor
  case bounded => exact h.bounded.retain stored
  case length_le =>
    intro c
    rw [retainedOf_retain]
    split
    · exact length_rtake_le _ _
    · exact h.length_le c
  case nodup =>
    intro c
    rw [retainedOf_retain]
    split
    · exact hnodup.sublist (rtake_sublist _ _)
    · exact h.nodup c
  case disjoint =>
    intro c d key hc hd
    rw [retainedOf_retain] at hc hd
    by_cases hcs : c = stored.deviceId
    · by_cases hds : d = stored.deviceId
      · rw [hcs, hds]
      · rw [if_pos hcs] at hc
        rw [if_neg hds] at hd
        exact absurd (h.eq_of_mem_keysWith hnew ((rtake_sublist _ _).subset hc) hd) hds
    · rw [if_neg hcs] at hc
      by_cases hds : d = stored.deviceId
      · rw [if_pos hds] at hd
        exact absurd (h.eq_of_mem_keysWith hnew ((rtake_sublist _ _).subset hd) hc) hcs
      · rw [if_neg hds] at hd
        exact h.disjoint c d key hc hd
  case mem_iff =>
    intro key
    rw [get?_framesByKey_retain]
    simp only [retainedOf_retain]
    constructor
    · intro hkey
      split at hkey
      · exact absurd rfl hkey
      rename_i hkept
      by_cases hmem : key ∈ manager.keysWith stored
      · refine ⟨stored.deviceId, ?_⟩
        rw [if_pos rfl, mem_rtake_iff hnodup]
        exact ⟨hmem, hkept⟩
      · have hne : key ≠ stored.bufferKey := fun heq =>
          hmem (List.mem_append_right _ (List.mem_singleton.mpr heq))
        rw [if_neg hne, h.mem_iff] at hkey
        obtain ⟨c, hc⟩ := hkey
        have hother : c ≠ stored.deviceId := by
          rintro rfl
          exact hmem (List.mem_append_left _ hc)
        exact ⟨c, by rwa [if_neg hother]⟩
    · rintro ⟨c, hc⟩
      split at hc
      · obtain ⟨hmem, hkept⟩ := (mem_rtake_iff hnodup).mp hc
        rw [if_neg hkept]
        split
        · exact Option.some_ne_none _
        · rename_i hne
          rcases List.mem_append.mp hmem with hretained | hitem
          · exact (h.mem_iff key).mpr ⟨_, hretained⟩
          · exact absurd (List.mem_singleton.mp hitem) hne
      · rename_i hother
        have hout : key ∉ manager.keysWith stored := fun hmem =>
          hother (h.eq_of_mem_keysWith hnew hmem hc)
        have hne : key ≠ stored.bufferKey := fun heq =>
          hout (List.mem_append_right _ (List.mem_singleton.mpr heq))
        rw [if_neg fun hmem => hout (List.mem_of_mem_take hmem), if_neg hne]
        exact (h.mem_iff key).mpr ⟨c, hc⟩
  case filed =>
    intro key frame hframe
    rw [get?_framesByKey_retain] at hframe
    rw [retainedOf_retain]
    split at hframe
    · cases hframe
    rename_i hkept
    split at hframe
    · rename_i hkey
      cases hframe
      refine ⟨hkey.symm, ?_⟩
      rw [if_pos rfl, mem_rtake_iff hnodup]
      exact ⟨List.mem_append_right _ (List.mem_singleton.mpr hkey), hkept⟩
    · obtain ⟨hkey, hretained⟩ := h.filed key frame hframe
      refine ⟨hkey, ?_⟩
      split
      · rename_i hsame
        rw [hsame] at hretained
        rw [mem_rtake_iff hnodup]
        exact ⟨List.mem_append_left _ hretained, hkept⟩
      · exact hretained

/-- The candidates that a frame's camera has when the frame is appended. -/
def heldWith (manager : SyncFrameBufferManager) (stored : StoredSyncFrame) :
    List StoredSyncFrame :=
  if some stored.source = (manager.bufferOf stored.deviceId).sourceIdentity then
    manager.buffered stored.deviceId
  else []

theorem heldWith_sublist (manager : SyncFrameBufferManager) (stored : StoredSyncFrame) :
    (manager.heldWith stored).Sublist (manager.buffered stored.deviceId) := by
  unfold heldWith
  split
  · exact List.Sublist.refl _
  · exact List.nil_sublist _

theorem buffered_retain_eq (h : manager.Bounded) (stored : StoredSyncFrame) :
    (manager.retain stored).buffered stored.deviceId =
      (manager.heldWith stored ++ [stored]).rtake manager.bufferSize := by
  have hframes : ((manager.bufferOf stored.deviceId).append stored).frames =
      pushBounded ((manager.bufferOf stored.deviceId).follow stored.source).maxFrames
        ((manager.bufferOf stored.deviceId).follow stored.source).frames stored := rfl
  rw [buffered_retain, if_pos rfl, hframes, maxFrames_follow, h.maxFrames_eq, frames_follow,
    ← buffered_eq, pushBounded, List.rtake, List.length_append, List.length_singleton, heldWith]

/-- The candidates of a frame's camera stay in the order of its retained keys exactly when the
key that is forgotten is not that of one of them. -/
theorem keys_retain_sublist_iff (h : manager.IndexesBuffered) (hindex : manager.IndexesRetained)
    (hnew : manager.framesByKey.get? stored.bufferKey = none) :
    (((manager.retain stored).buffered stored.deviceId).map StoredSyncFrame.bufferKey).Sublist
        ((manager.retain stored).retainedOf stored.deviceId) ↔
      ((manager.retainedOf stored.deviceId).length = manager.bufferSize →
        (manager.heldWith stored).length < manager.bufferSize →
        ∀ oldest ∈ (manager.retainedOf stored.deviceId).head?,
          ∀ candidate ∈ manager.heldWith stored, candidate.bufferKey ≠ oldest) := by
  have hheld := ((manager.heldWith_sublist stored).map StoredSyncFrame.bufferKey).trans
    (h.sublist stored.deviceId)
  rw [buffered_retain_eq hindex.bounded, map_rtake, List.map_append, List.map_singleton,
    retainedOf_retain, if_pos rfl, keysWith,
    rtake_concat_sublist_iff hheld (hindex.nodup _) (hindex.length_le _)
      (hindex.not_mem_retainedOf hnew _), List.length_map]
  simp only [List.mem_map, not_exists, not_and]

/-- Taking a frame keeps every candidate in the index exactly when it forgets none. -/
theorem indexesBuffered_retain_iff (h : manager.IndexesBuffered) (hindex : manager.IndexesRetained)
    {frame : SyncInputFrame} (hadmits : manager.Admits frame) :
    (manager.retain frame.stored).IndexesBuffered ↔ manager.ForgetsNoCandidate frame := by
  have hnew : manager.framesByKey.get? frame.stored.bufferKey = none := hadmits.1
  have hnodup := hindex.nodup_keysWith hnew
  have hsublist := keys_retain_sublist_iff h hindex hnew
  have hforgets : manager.ForgetsNoCandidate frame ↔
      ((manager.retainedOf frame.deviceId).length = manager.bufferSize →
        (manager.heldWith frame.stored).length < manager.bufferSize →
        ∀ oldest ∈ (manager.retainedOf frame.deviceId).head?,
          ∀ candidate ∈ manager.heldWith frame.stored, candidate.bufferKey ≠ oldest) := by
    have hheld : manager.heldWith frame.stored =
        if some frame.source = (manager.bufferOf frame.deviceId).sourceIdentity then
          manager.buffered frame.deviceId
        else [] := rfl
    rw [hheld]
    unfold ForgetsNoCandidate
    by_cases hsource : some frame.source = (manager.bufferOf frame.deviceId).sourceIdentity
    · rw [if_pos hsource]
      exact ⟨fun h => h hadmits hsource, fun h _ _ => h⟩
    · rw [if_neg hsource]
      exact iff_of_true (fun _ h => absurd h hsource) fun _ _ _ _ _ h => by cases h
  rw [hforgets]
  constructor
  · exact fun hafter => hsublist.mp (hafter.sublist _)
  · intro hkept
    have hown := hsublist.mpr hkept
    constructor
    case sublist =>
      intro c
      by_cases hc : c = frame.stored.deviceId
      · rw [hc]
        exact hown
      · rw [buffered_retain, if_neg hc, retainedOf_retain, if_neg hc]
        exact h.sublist c
    case current =>
      intro c candidate hcandidate
      rw [get?_framesByKey_retain]
      by_cases hc : c = frame.stored.deviceId
      · -- The key of a candidate of the frame's camera is retained, so it is not forgotten.
        rw [hc] at hcandidate
        have hretained := hown.subset (List.mem_map_of_mem hcandidate)
        rw [retainedOf_retain, if_pos rfl, mem_rtake_iff hnodup] at hretained
        rw [if_neg hretained.2]
        rw [buffered_retain_eq hindex.bounded] at hcandidate
        rcases List.mem_append.mp ((rtake_sublist _ _).subset hcandidate) with hheld | hitem
        · have hbefore := (manager.heldWith_sublist _).subset hheld
          have hne : candidate.bufferKey ≠ frame.stored.bufferKey := fun heq =>
            hindex.not_mem_retainedOf hnew _
              (heq ▸ (h.sublist _).subset (List.mem_map_of_mem hbefore))
          rw [if_neg hne]
          exact h.current _ candidate hbefore
        · rw [List.mem_singleton.mp hitem, if_pos rfl]
      · rw [buffered_retain, if_neg hc] at hcandidate
        have hretained := (h.sublist c).subset (List.mem_map_of_mem hcandidate)
        have hout : candidate.bufferKey ∉ manager.keysWith frame.stored := fun hmem =>
          hc (hindex.eq_of_mem_keysWith hnew hmem hretained)
        have hne : candidate.bufferKey ≠ frame.stored.bufferKey := fun heq =>
          hout (List.mem_append_right _ (List.mem_singleton.mpr heq))
        rw [if_neg fun hmem => hout (List.mem_of_mem_take hmem), if_neg hne]
        exact h.current c candidate hcandidate

end Retain

/-! ## What the buffers represent -/

/-- The containers agree: the index is the disjoint union of the retained keys, and the candidates
of a camera are distinct, come in the order of its retained keys, are no more than the buffers
hold and are what the index has, so that a completion reaches them. -/
structure Represented (manager : SyncFrameBufferManager) : Prop where
  retained : manager.IndexesRetained
  buffered : manager.IndexesBuffered
  distinct : ∀ c, ((manager.buffered c).map StoredSyncFrame.bufferKey).Nodup
  length_le : ∀ c, (manager.buffered c).length ≤ manager.bufferSize
  seen : ∀ c, ∀ frame ∈ manager.buffered c, ∀ frameId filePath archiveState archiveError,
    frame.withArchive frameId filePath archiveState archiveError ∈
      (manager.finalizeArchive frame.bufferKey frameId filePath archiveState
        archiveError).1.buffered c

theorem represented_iff :
    manager.Represented ↔ manager.IndexesRetained ∧ manager.IndexesBuffered := by
  constructor
  · exact fun h => ⟨h.retained, h.buffered⟩
  · rintro ⟨hretained, hbuffered⟩
    refine ⟨hretained, hbuffered, fun c => (hretained.nodup c).sublist (hbuffered.sublist c),
      hretained.bounded.length_le, ?_⟩
    intro c frame hframe frameId filePath archiveState archiveError
    have hcurrent := hbuffered.current c frame hframe
    have hdevice : c = frame.deviceId :=
      hretained.disjoint c _ _ ((hbuffered.sublist c).subset (List.mem_map_of_mem hframe))
        (hretained.filed _ frame hcurrent).2
    rw [buffered_finalizeArchive _ _ _ _ hcurrent, if_pos hdevice]
    exact List.mem_map.mpr ⟨frame, hframe, if_pos rfl⟩

theorem Represented.takesOut {smaller : SyncFrameBufferManager} (h : manager.Represented)
    (hout : manager.TakesOut smaller) : smaller.Represented :=
  represented_iff.mpr ⟨h.retained.takesOut hout, h.buffered.takesOut hout⟩

/-! ## One operation -/

/-- Whether an operation forgets no candidate, which only a frame that is taken can do. -/
def LeavesIndexed (manager : SyncFrameBufferManager) : BufferOp → Prop
  | .addFrame frame => manager.ForgetsNoCandidate frame
  | _ => True

instance (manager : SyncFrameBufferManager) : (op : BufferOp) → Decidable (manager.LeavesIndexed op)
  | .addFrame frame => inferInstanceAs (Decidable (manager.ForgetsNoCandidate frame))
  | .dropFramesOlderThan _ _ _ => isTrue trivial
  | .consumeThrough _ => isTrue trivial
  | .finalizeArchive _ _ _ _ _ => isTrue trivial

theorem addFrame_represented_iff (h : manager.Represented) (frame : SyncInputFrame) :
    (manager.addFrame frame).1.Represented ↔ manager.ForgetsNoCandidate frame := by
  by_cases hadmits : manager.Admits frame
  · rw [addFrame_of_admits hadmits, ← indexesBuffered_retain_iff h.buffered h.retained hadmits,
      represented_iff]
    exact and_iff_right (h.retained.retain hadmits.1)
  · exact iff_of_true (h.takesOut (takesOut_addFrame_of_not_admits hadmits)) fun h =>
      absurd h hadmits

/-- One operation keeps the containers in agreement exactly when it forgets no candidate. -/
theorem bufferStep_represented_iff (h : manager.Represented) (op : BufferOp) :
    (bufferStep manager op).1.Represented ↔ manager.LeavesIndexed op := by
  cases op with
  | addFrame frame => exact addFrame_represented_iff h frame
  | dropFramesOlderThan deviceIds timestampMs excluded =>
      exact iff_of_true (h.takesOut (manager.takesOut_dropFramesOlderThan _ _ _)) trivial
  | consumeThrough selected =>
      exact iff_of_true (h.takesOut (manager.takesOut_consumeSelected _)) trivial
  | finalizeArchive frameKey frameId filePath archiveState archiveError =>
      refine iff_of_true (represented_iff.mpr ?_) trivial
      exact ⟨h.retained.finalizeArchive _ _ _ _, h.buffered.finalizeArchive _ _ _ _ h.retained⟩

/-- What the retained keys say of the index survives every operation. -/
theorem bufferStep_indexesRetained (h : manager.IndexesRetained) (op : BufferOp) :
    (bufferStep manager op).1.IndexesRetained := by
  cases op with
  | addFrame frame =>
      show (manager.addFrame frame).1.IndexesRetained
      by_cases hadmits : manager.Admits frame
      · rw [addFrame_of_admits hadmits]
        exact h.retain hadmits.1
      · exact h.takesOut (takesOut_addFrame_of_not_admits hadmits)
  | dropFramesOlderThan deviceIds timestampMs excluded =>
      exact h.takesOut (manager.takesOut_dropFramesOlderThan _ _ _)
  | consumeThrough selected => exact h.takesOut (manager.takesOut_consumeSelected _)
  | finalizeArchive frameKey frameId filePath archiveState archiveError =>
      exact h.finalizeArchive _ _ _ _

theorem represented_empty (bufferSize : ℕ) (hpos : 0 < bufferSize) :
    ({ bufferSize := bufferSize, bufferSize_pos := hpos } : SyncFrameBufferManager).Represented := by
  refine represented_iff.mpr ⟨?_, fun _ => List.Sublist.refl _, fun _ _ h => by cases h⟩
  constructor
  case bounded => exact ⟨fun _ => rfl, fun _ => Nat.zero_le _⟩
  case length_le => exact fun _ => Nat.zero_le _
  case nodup => exact fun _ => List.nodup_nil
  case disjoint =>
    intro c d key h
    cases h
  case mem_iff =>
    intro key
    refine iff_of_false (fun h => h rfl) ?_
    rintro ⟨c, h⟩
    cases h
  case filed =>
    intro key stored h
    cases h

end SyncFrameBufferManager

/-! ## Runs -/

/-- **The index of the buffers.** In every run of a manager, the index tells the retained keys of
every state, and the candidates of every state are those of the index in the order of the retained
keys exactly when no operation forgets a candidate. -/
theorem represented_iff_leavesIndexed (bufferSize : ℕ) (hpos : 0 < bufferSize)
    (ops : List BufferOp) :
    (∀ e ∈ Machine.history bufferStep { bufferSize := bufferSize, bufferSize_pos := hpos } ops,
        e.after.IndexesRetained) ∧
      ((∀ e ∈ Machine.history bufferStep { bufferSize := bufferSize, bufferSize_pos := hpos } ops,
          e.after.Represented) ↔
        Machine.EachStep bufferStep (fun _ => LeavesIndexed)
          { bufferSize := bufferSize, bufferSize_pos := hpos } ops) := by
  have hinit := represented_empty bufferSize hpos
  constructor
  · intro e he
    obtain ⟨hbefore, hexchange⟩ := Machine.invariant_before_of_mem_history bufferStep
      (I := IndexesRetained) hinit.retained (fun t op h => bufferStep_indexesRetained h op) he
    rw [hexchange]
    exact bufferStep_indexesRetained hbefore e.input
  · rw [← Machine.forall_history_iff bufferStep (P := Represented) (Q := fun _ => True) _ hinit]
    · simp only [and_true]
    · intro t op h
      rw [and_iff_left trivial]
      exact bufferStep_represented_iff h op

/-! ### A candidate that came early -/

/-- A frame of the left camera. -/
def leftFrame (frameId timestampMs : ℤ) : SyncInputFrame where
  frameId := some frameId
  deviceId := "left"
  timestampMs := timestampMs
  sequence := none
  contentType := "image/jpeg"
  imageBytes := [1]
  filePath := none

/-- A frame whose time is late, then one whose time is early, which a sweep takes out. -/
def sweptOps : List BufferOp :=
  [.addFrame (leftFrame 1 100), .addFrame (leftFrame 2 1), .dropFramesOlderThan ["left"] 50 []]

theorem represented_iff_leavesIndexed_swept :
    0 < 2 ∧ ∀ e ∈ Machine.history bufferStep { bufferSize := 2, bufferSize_pos := Nat.two_pos }
      sweptOps, e.after.Represented :=
  ⟨Nat.two_pos, (represented_iff_leavesIndexed 2 Nat.two_pos sweptOps).2.mpr
    (Machine.eachStep_of_forall_history bufferStep (by decide +kernel))⟩

/-- With room for two, a third frame forgets the key of the first, which is still a candidate. -/
theorem swept_candidate_forgotten :
    ¬∀ e ∈ Machine.history bufferStep { bufferSize := 2, bufferSize_pos := Nat.two_pos }
        (sweptOps ++ [.addFrame (leftFrame 3 200)]), e.after.Represented := by
  have hcandidate : (leftFrame 1 100).stored ∈
      (Machine.after bufferStep { bufferSize := 2, bufferSize_pos := Nat.two_pos }
        (sweptOps ++ [.addFrame (leftFrame 3 200)])).buffered "left" := by decide +kernel
  have hforgotten : (Machine.after bufferStep { bufferSize := 2, bufferSize_pos := Nat.two_pos }
      (sweptOps ++ [.addFrame (leftFrame 3 200)])).framesByKey.get? "db:1" = none := by
    decide +kernel
  have hkey : (leftFrame 1 100).stored.bufferKey = "db:1" := by decide +kernel
  intro h
  have hlast := Machine.after_of_forall_history bufferStep (represented_empty 2 Nat.two_pos) h
  have hcurrent := hlast.buffered.current _ _ hcandidate
  rw [hkey, hforgotten] at hcurrent
  exact absurd hcurrent.symm (Option.some_ne_none _)

end ImageStream
