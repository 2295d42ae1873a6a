/-
# The validator accepts what the matcher emits

The matcher resolves the identity and the scope of a selection, and the manifest store
checks the set again before it writes a manifest. The two case analyses are written
independently; here they meet. A V2 set has everything that the store requires as soon as
its members are archived: what the store compares is part of the set's content, which no
archive completion changes.
-/

import ImageStream.Sync.CaptureRuns
import ImageStream.Sync.Content
import ImageStream.Sync.ManifestAcceptance

namespace ImageStream

open Base

/-- The scope columns of a set are all there or all absent, and its participant is that
of every member or absent. -/
structure ScopeColumns (frameSet : SynchronizedFrameSet) : Prop where
  columns : (∀ value ∈ authorizationGroupValues frameSet, truthy value) ∨
    ∀ value ∈ authorizationGroupValues frameSet, value = none
  participant : (frameSet.authorizedSubject = none ∧ frameSet.sessionTokenJti = none) ∨
    (truthy frameSet.authorizedSubject ∧ truthy frameSet.sessionTokenJti ∧
      ∀ member ∈ frameSet.members, member.authorizedSubject = frameSet.authorizedSubject ∧
        member.sessionTokenJti = frameSet.sessionTokenJti)

/-! ## Members -/

theorem StoredSyncFrame.identityComplete_content (frame : StoredSyncFrame) :
    frame.content.identityComplete = frame.identityComplete := rfl

theorem scopeMatches_content (frameSet : SynchronizedFrameSet) (frame : StoredSyncFrame) :
    scopeMatches frameSet frame.content = scopeMatches frameSet frame := rfl

theorem participantMatches_content (frameSet : SynchronizedFrameSet) (frame : StoredSyncFrame) :
    participantMatches frameSet frame.content = participantMatches frameSet frame := rfl

/-- A complete member is ready once it is archived. -/
theorem StoredSyncFrame.manifestReady_of_complete {frame : StoredSyncFrame}
    (hcomplete : frame.identityComplete) (hstate : frame.archiveState = .durable)
    (hpath : truthy frame.filePath) : frame.manifestReady := by
  simp only [identityComplete, Bool.and_eq_true, decide_eq_true_eq] at hcomplete
  obtain ⟨⟨⟨⟨⟨-, hsession⟩, hstream⟩, hsequence⟩, huid⟩, hdigest⟩ := hcomplete
  simp [manifestReady, hsession, hstream, hsequence, huid, hdigest, hstate, hpath]

theorem validateMembers_eq_ok {check : StoredSyncFrame → Except ManifestError Unit}
    {frames : List StoredSyncFrame} (h : ∀ frame ∈ frames, check frame = .ok ()) :
    validateMembers check frames = .ok () := by
  induction frames with
  | nil => rfl
  | cons frame frames ih =>
      unfold validateMembers
      rw [h frame List.mem_cons_self]
      exact ih fun frame hframe => h frame (List.mem_cons_of_mem _ hframe)

theorem validateMemberScope_eq_ok {frameSet : SynchronizedFrameSet} {frame : StoredSyncFrame}
    (hscope : scopeMatches frameSet frame) (hparticipant : participantMatches frameSet frame) :
    validateMemberScope frameSet frame = .ok () := by
  unfold validateMemberScope
  rw [if_neg (not_not.mpr hscope), if_neg (not_not.mpr hparticipant)]

/-! ## The parts of the validation -/

/-- What the store checks of a set, archive states included. -/
structure ManifestComplete (frameSet : SynchronizedFrameSet) : Prop where
  fields : missingFields frameSet = []
  ready : ∀ member ∈ frameSet.members, member.manifestReady
  scope : (∀ value ∈ authorizationGroupValues frameSet, value = none) ∨
    ((∀ value ∈ authorizationGroupValues frameSet, truthy value) ∧
      (frameSet.authorizedSubject.isNone = frameSet.sessionTokenJti.isNone) ∧
      ∀ member ∈ frameSet.members,
        scopeMatches frameSet member ∧ participantMatches frameSet member)

theorem ManifestComplete.validates {frameSet : SynchronizedFrameSet}
    (h : ManifestComplete frameSet) : validateV2FrameSet frameSet = .ok () := by
  unfold validateV2FrameSet
  rw [if_neg (not_not.mpr h.fields), if_neg (not_not.mpr (List.all_eq_true.mpr h.ready))]
  rcases h.scope with habsent | ⟨hpresent, hparticipant, hmembers⟩
  · have hnone : (authorizationGroupValues frameSet).any truthy = false := by
      rw [List.any_eq_false]
      intro value hvalue
      simp [habsent value hvalue]
    rw [hnone]
    rfl
  · have hany : (authorizationGroupValues frameSet).any truthy = true :=
      List.any_eq_true.mpr ⟨frameSet.tenantId, List.mem_cons_self,
        hpresent _ List.mem_cons_self⟩
    rw [hany, if_neg (by simp), if_neg (not_not.mpr (List.all_eq_true.mpr hpresent)),
      if_neg (not_not.mpr hparticipant)]
    exact validateMembers_eq_ok fun member hmember =>
      validateMemberScope_eq_ok (hmembers member hmember).1 (hmembers member hmember).2

/-! ## What the matcher emits -/

namespace SyncMatcher.Emission

variable {matcher : SyncMatcher} {manager : SyncFrameBufferManager}

/-- A V2 set has all fields that the store requires. -/
theorem missingFields_frameSet (emission : matcher.Emission manager) {nowMs : ℤ}
    {freshRunId : String} (hmode : (emission.frameSet nowMs freshRunId).identityMode = .v2)
    (hrun : matcher.captureRunId ≠ "") (hfresh : freshRunId ≠ "") :
    missingFields (emission.frameSet nowMs freshRunId) = [] := by
  obtain ⟨huid, hdigest, hjson⟩ := (emission.entered freshRunId).digests_buildFrameSet hmode
    emission.selected emission.spanMs (emission.synchronizedAtMs nowMs)
  refine missingFields_eq_nil (emission.identified.of_v2 hmode).1 ?_ huid hdigest hjson
  show truthy (some (emission.entered freshRunId).captureRunId)
  rcases emission.captureRunId_entered freshRunId with hkept | hdrawn
  · rw [hkept]
    simpa using hrun
  · rw [hdrawn]
    simpa using hfresh

/-- The scope of a V2 set is that of its members, or nobody has one. -/
theorem scope_frameSet (emission : matcher.Emission manager) {nowMs : ℤ}
    {freshRunId : String} (hmode : (emission.frameSet nowMs freshRunId).identityMode = .v2) :
    (∀ value ∈ authorizationGroupValues (emission.frameSet nowMs freshRunId), value = none) ∧
        (emission.frameSet nowMs freshRunId).authorizedSubject = none ∧
        (emission.frameSet nowMs freshRunId).sessionTokenJti = none ∨
      ∃ key : AuthorizationKey, emission.identity.authorizationKey = some key ∧
        emission.identity.captureSessionId = key.captureSessionId ∧
        AgreedScope emission.selected.values key := by
  have hmode' : emission.identity.identityMode = .v2 := hmode
  rcases emission with ⟨selected, spanMs, identity, select, identified⟩
  cases identified with
  | legacy => cases hmode'
  | authorized complete key agreed => exact Or.inr ⟨key, rfl, rfl, agreed⟩
  | unauthorized =>
      left
      refine ⟨fun value hvalue => ?_, rfl, rfl⟩
      simpa [authorizationGroupValues, SyncMatcher.Emission.frameSet, buildFrameSet] using hvalue

end SyncMatcher.Emission

/-- A set whose scope columns are those of a key. -/
structure HasScope (frameSet : SynchronizedFrameSet) (key : AuthorizationKey) : Prop where
  tenantId : frameSet.tenantId = key.tenantId
  siteId : frameSet.siteId = key.siteId
  captureSessionId : frameSet.captureSessionId = key.captureSessionId
  processingJobId : frameSet.processingJobId = key.processingJobId
  profileDigest : frameSet.profileDigest = key.profileDigest
  authorizedSubject : frameSet.authorizedSubject = key.authorizedSubject
  sessionTokenJti : frameSet.sessionTokenJti = key.sessionTokenJti

theorem SyncMatcher.Emission.hasScope {matcher : SyncMatcher} {manager : SyncFrameBufferManager}
    (emission : matcher.Emission manager) {key : AuthorizationKey}
    (hkey : emission.identity.authorizationKey = some key)
    (hsession : emission.identity.captureSessionId = key.captureSessionId) (nowMs : ℤ)
    (freshRunId : String) : HasScope (emission.frameSet nowMs freshRunId) key := by
  constructor
  case captureSessionId => exact hsession
  all_goals
    show Option.bind emission.identity.authorizationKey _ = _
    rw [hkey]
    rfl

namespace HasScope

variable {frameSet : SynchronizedFrameSet} {key : AuthorizationKey}
  {members : List StoredSyncFrame}

/-- The columns of an agreed scope have values. -/
theorem truthy_columns (h : HasScope frameSet key) (hagreed : AgreedScope members key) :
    ∀ value ∈ authorizationGroupValues frameSet, truthy value := by
  obtain ⟨htenant, hsite, -, hjob, hprofile⟩ := hagreed.values
  unfold authorizationGroupValues
  rw [h.tenantId, h.siteId, h.processingJobId, h.profileDigest]
  simp [htenant, hsite, hjob, hprofile]

/-- The members of an agreed scope match the set. -/
theorem scopeMatches (h : HasScope frameSet key) (hagreed : AgreedScope members key) :
    ∀ member ∈ members, ImageStream.scopeMatches frameSet member := by
  intro member hmember
  have hgroup := hagreed.group member hmember
  have hcomplete := hagreed.complete member hmember
  simp only [StoredSyncFrame.scopeComplete, StoredSyncFrame.scopeFields, List.all_cons,
    List.all_nil, Bool.and_true, Bool.and_eq_true] at hcomplete
  obtain ⟨-, -, -, -, -, hsubject, hjti, hcamera⟩ := hcomplete
  unfold ImageStream.scopeMatches
  rw [h.tenantId, h.siteId, h.captureSessionId, h.processingJobId, h.profileDigest, ← hgroup]
  simp [StoredSyncFrame.authorizationGroup, hsubject, hjti, hcamera]

/-- The participant of an agreed scope is absent, or that of every member. -/
theorem participant (h : HasScope frameSet key) (hagreed : AgreedScope members key) :
    (frameSet.authorizedSubject = none ∧ frameSet.sessionTokenJti = none) ∨
      (truthy frameSet.authorizedSubject ∧ truthy frameSet.sessionTokenJti ∧
        ∀ member ∈ members, member.authorizedSubject = frameSet.authorizedSubject ∧
          member.sessionTokenJti = frameSet.sessionTokenJti) := by
  rw [h.authorizedSubject, h.sessionTokenJti]
  refine hagreed.participant.imp_right fun hshared => ?_
  have heach : ∀ member ∈ members, member.authorizedSubject = key.authorizedSubject ∧
      member.sessionTokenJti = key.sessionTokenJti :=
    fun member hmember => Prod.ext_iff.mp (hshared member hmember)
  obtain ⟨member, hmember⟩ := List.exists_mem_of_ne_nil _ hagreed.nonempty
  have hcomplete := hagreed.complete member hmember
  simp only [StoredSyncFrame.scopeComplete, StoredSyncFrame.scopeFields, List.all_cons,
    List.all_nil, Bool.and_true, Bool.and_eq_true] at hcomplete
  obtain ⟨-, -, -, -, -, hsubject, hjti, -⟩ := hcomplete
  rw [← (heach member hmember).1, ← (heach member hmember).2]
  refine ⟨hsubject, hjti, fun other hother => ?_⟩
  rw [(heach other hother).1, (heach other hother).2, (heach member hmember).1,
    (heach member hmember).2]
  exact ⟨rfl, rfl⟩

end HasScope

namespace SyncMatcher.Emission

variable {matcher : SyncMatcher} {manager : SyncFrameBufferManager}

theorem scopeColumns (emission : matcher.Emission manager) {nowMs : ℤ} {freshRunId : String}
    (hmode : (emission.frameSet nowMs freshRunId).identityMode = .v2) :
    ScopeColumns (emission.frameSet nowMs freshRunId) := by
  rcases emission.scope_frameSet hmode with ⟨habsent, hsubject, hjti⟩ | ⟨key, hkey, hsession, hagreed⟩
  · exact ⟨Or.inr habsent, Or.inl ⟨hsubject, hjti⟩⟩
  · have hscope := emission.hasScope hkey hsession nowMs freshRunId
    exact ⟨Or.inl (hscope.truthy_columns hagreed), hscope.participant hagreed⟩

/-- The scope part of the validation, for the members as they are emitted. -/
theorem scope_checks (emission : matcher.Emission manager) {nowMs : ℤ} {freshRunId : String}
    (hmode : (emission.frameSet nowMs freshRunId).identityMode = .v2) :
    let frameSet := emission.frameSet nowMs freshRunId
    (∀ value ∈ authorizationGroupValues frameSet, value = none) ∨
      ((∀ value ∈ authorizationGroupValues frameSet, truthy value) ∧
        (frameSet.authorizedSubject.isNone = frameSet.sessionTokenJti.isNone) ∧
        ∀ member ∈ frameSet.members,
          scopeMatches frameSet member ∧ participantMatches frameSet member) := by
  intro frameSet
  rcases emission.scope_frameSet hmode with ⟨habsent, -⟩ | ⟨key, hkey, hsession, hagreed⟩
  · exact Or.inl habsent
  have hscope : HasScope frameSet key := emission.hasScope hkey hsession nowMs freshRunId
  have hmatches := hscope.scopeMatches hagreed
  right
  refine ⟨hscope.truthy_columns hagreed, ?_⟩
  rcases hscope.participant hagreed with ⟨hsubject, hjti⟩ | ⟨hsubject, hjti, hshared⟩
  · rw [hsubject, hjti]
    refine ⟨rfl, fun member hmember => ⟨hmatches member hmember, ?_⟩⟩
    simp [participantMatches, hsubject]
  · obtain ⟨subject, hsubject, -⟩ := truthy_eq_true_iff.mp hsubject
    obtain ⟨jti, hjti, -⟩ := truthy_eq_true_iff.mp hjti
    refine ⟨by rw [hsubject, hjti]; rfl, fun member hmember => ⟨hmatches member hmember, ?_⟩⟩
    simp [participantMatches, hshared member hmember]

/-- **One emission.** A V2 set passes the validation once its members are archived. -/
theorem manifestComplete (emission : matcher.Emission manager) {nowMs : ℤ} {freshRunId : String}
    (hmode : (emission.frameSet nowMs freshRunId).identityMode = .v2)
    (hrun : matcher.captureRunId ≠ "") (hfresh : freshRunId ≠ "")
    {completed : SynchronizedFrameSet}
    (hsame : (emission.frameSet nowMs freshRunId).SameContent completed)
    (hdurable : completed.Durable) : ManifestComplete completed := by
  have hvalues := hsame.field authorizationGroupValues fun _ => rfl
  have hmatches : ∀ member : StoredSyncFrame, scopeMatches completed member =
      scopeMatches (emission.frameSet nowMs freshRunId) member := fun member =>
    hsame.field (fun frameSet => scopeMatches frameSet member) fun _ => rfl
  have hparticipant : ∀ member : StoredSyncFrame, participantMatches completed member =
      participantMatches (emission.frameSet nowMs freshRunId) member := fun member =>
    hsame.field (fun frameSet => participantMatches frameSet member) fun _ => rfl
  constructor
  case fields =>
    rw [hsame.field missingFields fun _ => rfl]
    exact emission.missingFields_frameSet hmode hrun hfresh
  case ready =>
    intro member hmember
    obtain ⟨original, horiginal, hcontent⟩ := hsame.exists_member hmember
    have hcomplete := emission.identified.complete hmode original horiginal
    rw [← original.identityComplete_content, hcontent, member.identityComplete_content]
      at hcomplete
    exact StoredSyncFrame.manifestReady_of_complete hcomplete (hdurable member hmember).1
      (hdurable member hmember).2
  case scope =>
    rw [hvalues, hsame.field (·.authorizedSubject) fun _ => rfl,
      hsame.field (·.sessionTokenJti) fun _ => rfl]
    refine (emission.scope_checks hmode).imp_right fun ⟨hpresent, hboth, hmembers⟩ => ?_
    refine ⟨hpresent, hboth, fun member hmember => ?_⟩
    obtain ⟨original, horiginal, hcontent⟩ := hsame.exists_member hmember
    have hchecks := hmembers original horiginal
    rw [← scopeMatches_content, ← participantMatches_content, hcontent, scopeMatches_content,
      participantMatches_content, ← hmatches, ← hparticipant] at hchecks
    exact hchecks

end SyncMatcher.Emission

/-! ## Every run -/

/-- Each set of a run comes from an emission whose run ids are not empty, if none that is
drawn is. -/
theorem exists_emission_of_drawn {expectedCameras : List String} {windowMs : ℤ} {recentLimit : ℕ}
    {runId : String} {ops : List MatcherOp} (hdrawn : ∀ drawn ∈ drawnRuns runId ops, drawn ≠ "")
    {frameSet : SynchronizedFrameSet}
    (hemitted : frameSet ∈
      emittedSets (newMatcher expectedCameras windowMs recentLimit runId) ops) :
    ∃ (matcher : SyncMatcher) (manager : SyncFrameBufferManager)
      (emission : matcher.Emission manager) (nowMs : ℤ) (freshRunId : String),
      frameSet = emission.frameSet nowMs freshRunId ∧ matcher.captureRunId ≠ "" ∧
        freshRunId ≠ "" := by
  obtain ⟨first, op, rest, rfl, manager, emission, nowMs, freshRunId, hop, rfl⟩ :=
    exists_emission_of_mem hemitted
  have hsubset : ∀ drawn ∈ drawnRuns runId first, drawn ≠ "" := by
    intro drawn hmem
    refine hdrawn drawn (mem_drawnRuns_iff.mpr ((mem_drawnRuns_iff.mp hmem).imp_right ?_))
    rintro ⟨earlier, hearlier, hof⟩
    exact ⟨earlier, List.mem_append_left _ hearlier, hof⟩
  have hrun := hsubset _ (captureRunId_mem_drawnRuns expectedCameras windowMs recentLimit runId
    first)
  have hfresh : freshRunId ≠ "" := by
    refine hdrawn freshRunId (mem_drawnRuns_iff.mpr (Or.inr ⟨op, by simp, ?_⟩))
    rw [hop]
    exact List.mem_singleton_self freshRunId
  exact ⟨_, manager, emission, nowMs, freshRunId, rfl, hrun, hfresh⟩

/-- **The validator accepts what the matcher emits.** As long as no run id that is drawn
is empty, each V2 set of a run passes the validation once its members are archived, and its
scope columns are all there or all absent. -/
theorem emitted_v2_validates (expectedCameras : List String) (windowMs : ℤ) (recentLimit : ℕ)
    (runId : String) (ops : List MatcherOp) (hdrawn : ∀ drawn ∈ drawnRuns runId ops, drawn ≠ "")
    (frameSet : SynchronizedFrameSet)
    (hemitted : frameSet ∈
      emittedSets (newMatcher expectedCameras windowMs recentLimit runId) ops)
    (hmode : frameSet.identityMode = .v2) :
    (∀ completed, frameSet.SameContent completed → completed.Durable →
      validateV2FrameSet completed = .ok ()) ∧
    ScopeColumns frameSet := by
  obtain ⟨matcher, manager, emission, nowMs, freshRunId, rfl, hrun, hfresh⟩ :=
    exists_emission_of_drawn hdrawn hemitted
  refine ⟨fun completed hsame hdurable => ?_, emission.scopeColumns hmode⟩
  exact (emission.manifestComplete hmode hrun hfresh hsame hdurable).validates

/-- The member of a set with this key, archived under this path. -/
def SynchronizedFrameSet.archived (frameSet : SynchronizedFrameSet) (bufferKey : String)
    (frameId : ℤ) (filePath : String) : SynchronizedFrameSet :=
  match frameSet.entryOf bufferKey with
  | some entry =>
      frameSet.withMember (entry.2.withArchive (some frameId) (some filePath) .durable none)
  | none => frameSet

theorem SynchronizedFrameSet.sameContent_archived (frameSet : SynchronizedFrameSet)
    (bufferKey : String) (frameId : ℤ) (filePath : String) :
    frameSet.SameContent (frameSet.archived bufferKey frameId filePath) := by
  unfold archived
  split
  case h_1 entry hentry => exact frameSet.sameContent_completed hentry _ _ _ _
  case h_2 => exact SameContent.refl frameSet

theorem emitted_v2_validates_rotating :
    ∃ frameSet ∈ emittedSets (newMatcher ["left"] 50 20 "run-1") rotatingRun,
      validateV2FrameSet
        (frameSet.archived (buildBufferKey authorizedFrame) 7 "/archive/left.jpg") = .ok () ∧
      ScopeColumns frameSet := by
  have hone : ∃ frameSet ∈ emittedSets (newMatcher ["left"] 50 20 "run-1") rotatingRun,
      frameSet.identityMode = .v2 ∧
        (frameSet.archived (buildBufferKey authorizedFrame) 7 "/archive/left.jpg").Durable := by
    decide +kernel
  obtain ⟨frameSet, hemitted, hmode, hdurable⟩ := hone
  obtain ⟨hvalid, hcolumns⟩ := emitted_v2_validates ["left"] 50 20 "run-1" rotatingRun (by decide)
    frameSet hemitted hmode
  exact ⟨frameSet, hemitted, hvalid _ (frameSet.sameContent_archived _ _ _) hdurable, hcolumns⟩

end ImageStream
