/-
# The content of a set

An archive completion fills in the row id, the path and the archive state of a member and
leaves everything else as it is. Two sets of the same content differ in nothing that the
manifest is about: the matcher may emit a set long before its members are archived, and
what is persisted then has the content of what was emitted.
-/

import ImageStream.Sync.Matcher
import Mathlib.Data.List.Sort

namespace ImageStream

open Base

/-- A frame without what the archive fills in. -/
def StoredSyncFrame.content (frame : StoredSyncFrame) : StoredSyncFrame :=
  frame.withArchive none none .pending none

@[simp]
theorem StoredSyncFrame.content_withArchive (frame : StoredSyncFrame) (frameId : Option ℤ)
    (filePath : Option String) (archiveState : ArchiveState) (archiveError : Option String) :
    (frame.withArchive frameId filePath archiveState archiveError).content = frame.content := rfl

namespace SynchronizedFrameSet

/-- What a set says of itself, without its members. -/
def header (frameSet : SynchronizedFrameSet) : SynchronizedFrameSet :=
  { frameSet with
    frames := .empty
    archiveState := .pending
    archiveError := none }

/-- The contents of the members, with their devices. -/
def contents (frameSet : SynchronizedFrameSet) : List (String × StoredSyncFrame) :=
  frameSet.frames.rows.map fun row => (row.1, row.2.content)

/-- Two sets that differ in what the archive fills in only. -/
structure SameContent (first second : SynchronizedFrameSet) : Prop where
  header : second.header = first.header
  contents : second.contents = first.contents

/-- All members are archived. -/
def Durable (frameSet : SynchronizedFrameSet) : Prop :=
  ∀ member ∈ frameSet.members, member.archiveState = .durable ∧ truthy member.filePath

instance (frameSet : SynchronizedFrameSet) : Decidable frameSet.Durable :=
  inferInstanceAs (Decidable (∀ member ∈ frameSet.members,
    member.archiveState = .durable ∧ truthy member.filePath))

namespace SameContent

variable {first second third : SynchronizedFrameSet}

theorem refl (frameSet : SynchronizedFrameSet) : frameSet.SameContent frameSet := ⟨rfl, rfl⟩

theorem symm (h : first.SameContent second) : second.SameContent first :=
  ⟨h.header.symm, h.contents.symm⟩

theorem trans (h : first.SameContent second) (h' : second.SameContent third) :
    first.SameContent third :=
  ⟨h'.header.trans h.header, h'.contents.trans h.contents⟩

/-- A field of the header is the same. -/
theorem field {α : Type} (h : first.SameContent second) (get : SynchronizedFrameSet → α)
    (hget : ∀ frameSet, get frameSet.header = get frameSet) : get second = get first := by
  rw [← hget second, ← hget first, h.header]

theorem members (h : first.SameContent second) :
    second.members.map StoredSyncFrame.content = first.members.map StoredSyncFrame.content := by
  have hsecond := congrArg (List.map Prod.snd) h.contents
  unfold SynchronizedFrameSet.contents at hsecond
  rw [List.map_map, List.map_map] at hsecond
  unfold SynchronizedFrameSet.members Dict.values
  rw [List.map_map, List.map_map]
  exact hsecond

/-- Each member has the content of a member of the other set. -/
theorem exists_member (h : first.SameContent second) {member : StoredSyncFrame}
    (hmember : member ∈ second.members) :
    ∃ original ∈ first.members, original.content = member.content := by
  have hmem : member.content ∈ second.members.map StoredSyncFrame.content :=
    List.mem_map_of_mem hmember
  rw [h.members] at hmem
  exact List.mem_map.mp hmem

end SameContent

/-! ## What completions do -/

/-- Replacing a member by a frame of its content keeps the content of the set. -/
theorem sameContent_withMember (frameSet : SynchronizedFrameSet) (frame : StoredSyncFrame)
    (h : ∀ entry, frameSet.entryOf frame.bufferKey = some entry →
      entry.2.content = frame.content) : frameSet.SameContent (frameSet.withMember frame) := by
  refine ⟨rfl, ?_⟩
  unfold withMember contents
  dsimp only
  cases hentry : frameSet.entryOf frame.bufferKey with
  | none => rfl
  | some entry =>
      have hmem : entry ∈ frameSet.frames.rows := List.mem_of_find?_eq_some hentry
      have hpresent : frameSet.frames.find entry.1 ≠ none :=
        frameSet.frames.find_ne_none_of_mem hmem
      dsimp only [Dict.set]
      rw [Table.rows_put_of_present (r := (entry.1, frame)) _ hpresent, List.map_map]
      refine List.map_congr_left fun row hrow => ?_
      by_cases hkey : row.1 = entry.1
      · -- There is one member of the device, and it has the content of the frame.
        obtain rfl := frameSet.frames.eq_of_key_eq hrow hmem hkey
        simp [h row hentry]
      · simp [hkey]

/-- Each archive completion of one of its own members keeps the content of a set. -/
theorem sameContent_completed (frameSet : SynchronizedFrameSet) {bufferKey : String}
    {entry : String × StoredSyncFrame} (h : frameSet.entryOf bufferKey = some entry)
    (frameId : Option ℤ) (filePath : Option String) (archiveState : ArchiveState)
    (archiveError : Option String) :
    frameSet.SameContent
      (frameSet.withMember (entry.2.withArchive frameId filePath archiveState archiveError)) := by
  have hkey : entry.2.bufferKey = bufferKey := by
    unfold entryOf at h
    simpa using List.find?_some h
  refine frameSet.sameContent_withMember _ fun entry' hentry' => ?_
  rw [StoredSyncFrame.bufferKey_withArchive, hkey, h] at hentry'
  cases hentry'
  rw [StoredSyncFrame.content_withArchive]

end SynchronizedFrameSet

end ImageStream
