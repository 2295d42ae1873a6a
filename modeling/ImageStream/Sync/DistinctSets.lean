/-
# Distinct sets are all persisted

The database keeps unique what identifies a set: its uid, its digest, its number in its
run, the source frames and the camera streams of its members. Two sets of one matcher that
share no source frame agree on none of them, as long as their digests do not collide. So
the database takes each of them, and each has a manifest once it has been persisted.
-/

import ImageStream.Sync.ManifestText
import ImageStream.Sync.PersistRuns

namespace ImageStream

open Base

namespace SynchronizedFrameSet

/-- Two sets that agree on nothing that is kept unique. -/
structure Apart (first second : SynchronizedFrameSet) : Prop where
  uid : first.uid ≠ second.uid
  digest : first.manifestDigest ≠ second.manifestDigest
  number : ¬(first.captureRunId = second.captureRunId ∧ first.frameSetId = second.frameSetId)
  session : first.captureRunId = second.captureRunId →
    first.captureSessionId = second.captureSessionId
  sources : ∀ member ∈ first.members, ∀ other ∈ second.members,
    member.sourceFrameUid ≠ other.sourceFrameUid

/-- A set whose members have source frames and camera streams of their own. -/
structure OwnMembers (frameSet : SynchronizedFrameSet) : Prop where
  nonempty : frameSet.members ≠ []
  sources : (frameSet.members.map (·.sourceFrameUid)).Nodup
  streams : (frameSet.members.map (·.cameraStreamId)).Nodup

end SynchronizedFrameSet

/-! ## One insertion -/

/-- Required values that are equal by default are equal. -/
theorem eq_of_getD_eq {first second : Option String} (hfirst : truthy first)
    (h : first.getD "" = second.getD "") : first = second := by
  obtain ⟨value, rfl, hne⟩ := truthy_eq_true_iff.mp hfirst
  cases second with
  | none => exact absurd h hne
  | some other => exact congrArg some h

theorem perm_sortedMembers (frameSet : SynchronizedFrameSet) :
    (sortedMembers frameSet).Perm frameSet.members :=
  List.perm_insertionSort _ _

/-- A field of the members of a validated set is as distinct in the member rows. -/
theorem nodup_newMembers {frameSet : SynchronizedFrameSet} {field : StoredSyncFrame → Option String}
    (column : FrameSetMember → String)
    (hcolumn : ∀ frame, column (newMember frameSet.uid frame) = (field frame).getD "")
    (hvalue : ∀ member ∈ frameSet.members, truthy (field member))
    (hnodup : (frameSet.members.map field).Nodup) :
    (((sortedMembers frameSet).map (newMember frameSet.uid)).map column).Nodup := by
  have hperm := perm_sortedMembers frameSet
  rw [List.map_map, (hperm.map _).nodup_iff]
  refine List.Nodup.map_on (fun member hmember other hother heq => ?_) hnodup.of_map
  rw [Function.comp_apply, Function.comp_apply, hcolumn, hcolumn] at heq
  exact List.inj_on_of_nodup_map hnodup hmember hother (eq_of_getD_eq (hvalue member hmember) heq)

section Insertion

variable {origin : SynchronizedFrameSet → Prop} {db : Database} {frameSet : SynchronizedFrameSet}

/-- What a ready member has. -/
theorem StoredSyncFrame.values_of_ready {frame : StoredSyncFrame} (h : frame.manifestReady) :
    truthy frame.sourceFrameUid ∧ truthy frame.sourceSessionId ∧ truthy frame.cameraStreamId ∧
      frame.sequence.isSome ∧ truthy frame.contentDigest ∧ frame.archiveState = .durable ∧
        truthy frame.filePath := by
  simpa [manifestReady, and_assoc] using h

namespace Database.Records

/-- The run of a set that is apart from all stored ones agrees with its row. -/
theorem runAgrees (h : db.Records origin) (hrun : truthy frameSet.captureRunId)
    (hsession : truthy frameSet.captureSessionId)
    (hapart : ∀ other, origin other → db.manifests.find other.uid ≠ none → frameSet.Apart other) :
    db.RunAgrees frameSet := by
  intro run hfind
  obtain ⟨manifest, hmanifest, hid, hof⟩ := h.founders run (db.captureRuns.mem_of_find hfind)
  obtain ⟨other, timestampMs, horigin, -, rfl⟩ := h.manifests manifest hmanifest
  have hother := hapart other horigin (db.manifests.find_ne_none_of_mem hmanifest)
  have hsame : frameSet.captureRunId = other.captureRunId := by
    refine eq_of_getD_eq hrun ?_
    rw [← db.captureRuns.key_of_find hfind, ← hid]
    rfl
  have hvalue := hother.session hsame
  obtain ⟨value, hvalue', -⟩ := truthy_eq_true_iff.mp hsession
  rw [← hof, hvalue']
  simp [newManifest, ← hvalue, hvalue']

/-- The rows of a set that is apart from all stored ones meet the constraints. -/
theorem fits (h : db.Records origin) (hvalid : validateV2FrameSet frameSet = .ok ())
    (hown : frameSet.OwnMembers) (habsent : db.manifests.find frameSet.uid = none)
    (hapart : ∀ other, origin other → db.manifests.find other.uid ≠ none → frameSet.Apart other) :
    (planInsert db frameSet 0).Fits db := by
  obtain ⟨-, hrun, -, hdigest, -⟩ := truthy_of_missingFields (missingFields_of_valid hvalid)
  have hready := fun member hmember =>
    StoredSyncFrame.values_of_ready (manifestReady_of_valid hvalid member hmember)
  have hstored : ∀ manifest ∈ db.manifests.rows, ∃ other timestampMs,
      frameSet.Apart other ∧ manifest = newManifest other timestampMs := by
    intro manifest hmanifest
    obtain ⟨other, timestampMs, horigin, -, rfl⟩ := h.manifests manifest hmanifest
    exact ⟨other, timestampMs, hapart other horigin (db.manifests.find_ne_none_of_mem hmanifest),
      rfl⟩
  constructor
  case session =>
    intro session hsession
    dsimp only [planInsert] at hsession
    split at hsession
    · rename_i hnone
      obtain rfl := Option.mem_some_iff.mp hsession
      exact hnone
    · cases hsession
  case run =>
    intro run hrun
    dsimp only [planInsert] at hrun
    split at hrun
    · rename_i hnone
      obtain rfl := Option.mem_some_iff.mp hrun
      exact hnone
    · cases hrun
  case manifest => exact habsent
  case digest =>
    intro manifest hmanifest heq
    obtain ⟨other, timestampMs, hother, rfl⟩ := hstored manifest hmanifest
    exact hother.digest (eq_of_getD_eq hdigest heq.symm)
  case sequence =>
    rintro manifest hmanifest ⟨hsame, hnumber⟩
    obtain ⟨other, timestampMs, hother, rfl⟩ := hstored manifest hmanifest
    exact hother.number ⟨eq_of_getD_eq hrun hsame.symm, hnumber.symm⟩
  case projection =>
    rw [uid_projection_planInsert]
    exact not_not.mp fun hne => (h.find_projections_iff _).mp hne habsent
  case sources =>
    intro member hmember
    obtain ⟨frame, hframe, rfl⟩ := List.mem_map.mp hmember
    have hframe' := (perm_sortedMembers frameSet).mem_iff.mp hframe
    rw [Table.find_eq_none_iff]
    intro row hrow heq
    obtain ⟨other, horigin, hfound, source, hsource, rfl⟩ := h.members row hrow
    exact (hapart other horigin hfound).sources frame hframe' source hsource
      (eq_of_getD_eq (hready frame hframe').1 heq.symm)
  case sources_nodup =>
    exact nodup_newMembers (·.sourceFrameUid) (fun _ => rfl) (fun member hmember => (hready member hmember).1)
      hown.sources
  case cameras =>
    rintro member hmember row hrow ⟨hsame, -⟩
    obtain ⟨frame, -, rfl⟩ := List.mem_map.mp hmember
    obtain ⟨other, horigin, hfound, source, -, rfl⟩ := h.members row hrow
    exact (hapart other horigin hfound).uid hsame.symm
  case cameras_nodup =>
    refine List.Nodup.of_map Prod.snd ?_
    rw [List.map_map]
    exact nodup_newMembers (·.cameraStreamId) (fun _ => rfl)
      (fun member hmember => (hready member hmember).2.2.1) hown.streams

/-- **A set that is apart from all stored ones is inserted.** -/
theorem inserts (h : db.Records origin) (hmode : frameSet.identityMode = .v2)
    (hvalid : validateV2FrameSet frameSet = .ok ()) (hown : frameSet.OwnMembers)
    (habsent : db.manifests.find frameSet.uid = none)
    (hapart : ∀ other, origin other → db.manifests.find other.uid ≠ none → frameSet.Apart other) :
    db.Inserts frameSet := by
  obtain ⟨hsession, hrun, -⟩ := truthy_of_missingFields (missingFields_of_valid hvalid)
  refine ⟨hmode, ⟨hvalid, ?_, ?_, ?_, ?_⟩, habsent⟩
  · intro existing hexisting
    rw [habsent] at hexisting
    cases hexisting
  · exact fun _ => h.runAgrees hrun hsession hapart
  · exact fun _ => hown.nonempty
  · exact fun _ => h.fits hvalid hown habsent hapart

end Database.Records

end Insertion

/-! ## Sets of one matcher -/

/-- Two sets whose identities collide: they have one uid or one digest and different texts. -/
def Collide (first second : SynchronizedFrameSet) : Prop :=
  (first.uid = second.uid ∨ first.manifestDigest = second.manifestDigest) ∧
    first.manifestJson ≠ second.manifestJson

instance (first second : SynchronizedFrameSet) : Decidable (Collide first second) :=
  inferInstanceAs (Decidable (_ ∧ _))

section Emitted

variable {expectedCameras : List String} {windowMs : ℤ} {recentLimit : ℕ} {runId : String}
  {ops : List MatcherOp}

/-- A run numbers each of its sets once. -/
theorem eq_of_number_eq (hfresh : (drawnRuns runId ops).Nodup) {first second : SynchronizedFrameSet}
    (hfirst : first ∈ emittedSets (newMatcher expectedCameras windowMs recentLimit runId) ops)
    (hsecond : second ∈ emittedSets (newMatcher expectedCameras windowMs recentLimit runId) ops)
    (hrun : first.captureRunId = second.captureRunId)
    (hnumber : first.frameSetId = second.frameSetId) : first = second := by
  have hlawful :=
    (counted_after expectedCameras windowMs recentLimit runId hfresh).sound.lawful
  have hnodup := hlawful.nodup_numbersOf first.captureRunId
  rw [numbersOf_stamps] at hnodup
  refine List.inj_on_of_nodup_map hnodup ?_ ?_ hnumber
  · simpa using hfirst
  · simpa [hrun] using hsecond

/-- The V2 sets of a run belong to one session. -/
theorem captureSessionId_eq (hfresh : (drawnRuns runId ops).Nodup)
    {first second : SynchronizedFrameSet}
    (hfirst : first ∈ emittedSets (newMatcher expectedCameras windowMs recentLimit runId) ops)
    (hsecond : second ∈ emittedSets (newMatcher expectedCameras windowMs recentLimit runId) ops)
    (hmode : first.identityMode = .v2) (hmode' : second.identityMode = .v2)
    (hrun : first.captureRunId = second.captureRunId) :
    first.captureSessionId = second.captureSessionId := by
  have hlawful :=
    (counted_after expectedCameras windowMs recentLimit runId hfresh).sound.lawful
  have hcapture := hlawful.uniform first.stamp (List.mem_map_of_mem hfirst) second.stamp
    (List.mem_map_of_mem hsecond) hrun first.capture (if_pos hmode) second.capture (if_pos hmode')
  exact congrArg Capture.captureSessionId hcapture

/-- Two sets of one text have a source frame in common. -/
theorem exists_common_source {first second : SynchronizedFrameSet}
    (hfirst : first ∈ emittedSets (newMatcher expectedCameras windowMs recentLimit runId) ops)
    (hsecond : second ∈ emittedSets (newMatcher expectedCameras windowMs recentLimit runId) ops)
    (htext : first.manifestJson = second.manifestJson) :
    ∃ member ∈ first.members, ∃ other ∈ second.members,
      member.sourceFrameUid = other.sourceFrameUid := by
  obtain ⟨_, _, _, _, _, emission, nowMs, freshRunId, _, rfl⟩ := exists_emission_of_mem hfirst
  obtain ⟨_, _, _, _, _, emission', nowMs', freshRunId', _, rfl⟩ := exists_emission_of_mem hsecond
  have hlisted := sourceFrameUids_eq_of_text (Option.some.inj htext)
  have hperm : ∀ frames : List StoredSyncFrame, (listedMembers frames).Perm frames := fun frames =>
    List.perm_insertionSort _ frames
  obtain ⟨member, hmember⟩ := List.exists_mem_of_ne_nil _ emission.selected_ne_nil
  have hmem : member.sourceFrameUid ∈
      (listedMembers emission.selected.values).map (·.sourceFrameUid) :=
    List.mem_map_of_mem ((hperm _).mem_iff.mpr hmember)
  rw [hlisted] at hmem
  obtain ⟨other, hother, heq⟩ := List.mem_map.mp hmem
  exact ⟨member, hmember, other, (hperm _).mem_iff.mp hother, heq.symm⟩

end Emitted

/-! ## Sets that can be persisted together -/

/-- V2 sets whose members are archived. Each has source frames of its own and no camera
stream twice, and no identities collide. -/
structure Persistable (frameSets : List SynchronizedFrameSet) : Prop where
  mode : ∀ frameSet ∈ frameSets, frameSet.identityMode = .v2
  durable : ∀ frameSet ∈ frameSets, frameSet.Durable
  sources : ∀ frameSet ∈ frameSets, (frameSet.members.map (·.sourceFrameUid)).Nodup
  streams : ∀ frameSet ∈ frameSets, (frameSet.members.map (·.cameraStreamId)).Nodup
  disjoint : ∀ first ∈ frameSets, ∀ second ∈ frameSets,
    first.synchronizedAtMs ≠ second.synchronizedAtMs →
      ∀ member ∈ first.members, ∀ other ∈ second.members,
        member.sourceFrameUid ≠ other.sourceFrameUid
  collisionFree : ∀ first ∈ frameSets, ∀ second ∈ frameSets, ¬Collide first second

theorem SynchronizedFrameSet.SameContent.sourceFrameUids {first second : SynchronizedFrameSet}
    (h : first.SameContent second) :
    second.members.map (·.sourceFrameUid) = first.members.map (·.sourceFrameUid) := by
  have hmembers := congrArg (List.map (·.sourceFrameUid)) h.members
  rw [List.map_map, List.map_map] at hmembers
  exact hmembers

namespace Persistable

variable {expectedCameras : List String} {windowMs : ℤ} {recentLimit : ℕ} {runId : String}
  {ops : List MatcherOp} {frameSets : List SynchronizedFrameSet}

/-- Sets of different times have different texts. -/
theorem manifestJson_ne (h : Persistable frameSets)
    (hcompleted : ∀ frameSet ∈ frameSets, IsCompleted
      (emittedSets (newMatcher expectedCameras windowMs recentLimit runId) ops) frameSet)
    {first second : SynchronizedFrameSet} (hfirst : first ∈ frameSets)
    (hsecond : second ∈ frameSets) (hne : first.synchronizedAtMs ≠ second.synchronizedAtMs) :
    first.manifestJson ≠ second.manifestJson := by
  intro htext
  obtain ⟨original, horiginal, hsame⟩ := hcompleted first hfirst
  obtain ⟨original', horiginal', hsame'⟩ := hcompleted second hsecond
  rw [hsame.field (·.manifestJson) fun _ => rfl, hsame'.field (·.manifestJson) fun _ => rfl]
    at htext
  obtain ⟨member, hmember, other, hother, huid⟩ := exists_common_source horiginal horiginal' htext
  have hmember' : member.sourceFrameUid ∈ first.members.map (·.sourceFrameUid) := by
    rw [hsame.sourceFrameUids]
    exact List.mem_map_of_mem hmember
  have hother' : other.sourceFrameUid ∈ second.members.map (·.sourceFrameUid) := by
    rw [hsame'.sourceFrameUids]
    exact List.mem_map_of_mem hother
  obtain ⟨found, hfound, heq⟩ := List.mem_map.mp hmember'
  obtain ⟨found', hfound', heq'⟩ := List.mem_map.mp hother'
  exact h.disjoint first hfirst second hsecond hne found hfound found' hfound'
    (by rw [heq, heq', huid])

/-- Two of these sets are apart as soon as their uids differ. -/
theorem apart (h : Persistable frameSets) (hfresh : (drawnRuns runId ops).Nodup)
    (hcompleted : ∀ frameSet ∈ frameSets, IsCompleted
      (emittedSets (newMatcher expectedCameras windowMs recentLimit runId) ops) frameSet)
    {first second : SynchronizedFrameSet} (hfirst : first ∈ frameSets)
    (hsecond : second ∈ frameSets) (hne : first.uid ≠ second.uid) : first.Apart second := by
  have htimes : first.synchronizedAtMs ≠ second.synchronizedAtMs := fun heq =>
    hne (timesDistinct_emitted expectedCameras windowMs recentLimit runId ops first second
      (hcompleted first hfirst) (hcompleted second hsecond) heq)
  have hmode := h.mode first hfirst
  have hmode' := h.mode second hsecond
  obtain ⟨original, horiginal, hsame⟩ := hcompleted first hfirst
  obtain ⟨original', horiginal', hsame'⟩ := hcompleted second hsecond
  rw [hsame.field (·.identityMode) fun _ => rfl] at hmode
  rw [hsame'.field (·.identityMode) fun _ => rfl] at hmode'
  have hrun : first.captureRunId = second.captureRunId →
      original.captureRunId = original'.captureRunId := by
    rw [hsame.field (·.captureRunId) fun _ => rfl, hsame'.field (·.captureRunId) fun _ => rfl]
    exact id
  constructor
  case uid => exact hne
  case digest =>
    intro hdigest
    exact h.collisionFree first hfirst second hsecond
      ⟨Or.inr hdigest, h.manifestJson_ne hcompleted hfirst hsecond htimes⟩
  case number =>
    rintro ⟨hsameRun, hnumber⟩
    rw [hsame.field (·.frameSetId) fun _ => rfl, hsame'.field (·.frameSetId) fun _ => rfl]
      at hnumber
    have heq := eq_of_number_eq hfresh horiginal horiginal' (hrun hsameRun) hnumber
    apply hne
    rw [hsame.field (·.uid) fun _ => rfl, hsame'.field (·.uid) fun _ => rfl, heq]
  case session =>
    intro hsameRun
    have hsession := captureSessionId_eq hfresh horiginal horiginal' hmode hmode' (hrun hsameRun)
    rw [hsame.field (·.captureSessionId) fun _ => rfl,
      hsame'.field (·.captureSessionId) fun _ => rfl]
    exact hsession
  case sources => exact h.disjoint first hfirst second hsecond htimes

/-- Each of these sets passes the validation. -/
theorem valid (h : Persistable frameSets) (hdrawn : ∀ drawn ∈ drawnRuns runId ops, drawn ≠ "")
    (hcompleted : ∀ frameSet ∈ frameSets, IsCompleted
      (emittedSets (newMatcher expectedCameras windowMs recentLimit runId) ops) frameSet)
    {frameSet : SynchronizedFrameSet} (hmem : frameSet ∈ frameSets) :
    validateV2FrameSet frameSet = .ok () := by
  obtain ⟨original, horiginal, hsame⟩ := hcompleted frameSet hmem
  obtain ⟨_, _, emission, nowMs, freshRunId, rfl, hrun, hfresh⟩ :=
    exists_emission_of_drawn hdrawn horiginal
  have hmode := h.mode frameSet hmem
  rw [hsame.field (·.identityMode) fun _ => rfl] at hmode
  exact (emission.manifestComplete hmode hrun hfresh hsame (h.durable frameSet hmem)).validates

theorem ownMembers (h : Persistable frameSets)
    (hcompleted : ∀ frameSet ∈ frameSets, IsCompleted
      (emittedSets (newMatcher expectedCameras windowMs recentLimit runId) ops) frameSet)
    {frameSet : SynchronizedFrameSet} (hmem : frameSet ∈ frameSets) : frameSet.OwnMembers := by
  refine ⟨?_, h.sources frameSet hmem, h.streams frameSet hmem⟩
  obtain ⟨original, horiginal, hsame⟩ := hcompleted frameSet hmem
  obtain ⟨_, _, _, _, _, emission, nowMs, freshRunId, _, rfl⟩ := exists_emission_of_mem horiginal
  intro hnil
  have hsources := hsame.sourceFrameUids
  rw [hnil, List.map_nil, eq_comm, List.map_eq_nil_iff] at hsources
  exact emission.selected_ne_nil hsources

/-- Two of these sets with one uid differ in their archive states only. -/
theorem sameContent (h : Persistable frameSets)
    (hcompleted : ∀ frameSet ∈ frameSets, IsCompleted
      (emittedSets (newMatcher expectedCameras windowMs recentLimit runId) ops) frameSet)
    {first second : SynchronizedFrameSet} (hfirst : first ∈ frameSets)
    (hsecond : second ∈ frameSets) (huid : first.uid = second.uid) :
    first.SameContent second := by
  have htime : first.synchronizedAtMs = second.synchronizedAtMs := not_not.mp fun hne =>
    h.collisionFree first hfirst second hsecond
      ⟨Or.inl huid, h.manifestJson_ne hcompleted hfirst hsecond hne⟩
  obtain ⟨original, horiginal, hsame⟩ := hcompleted first hfirst
  obtain ⟨original', horiginal', hsame'⟩ := hcompleted second hsecond
  have hnodup := (synchronizedAtMs_lt expectedCameras windowMs recentLimit runId ops).1.imp
    fun hlt => ne_of_lt hlt
  rw [hsame.field (·.synchronizedAtMs) fun _ => rfl,
    hsame'.field (·.synchronizedAtMs) fun _ => rfl] at htime
  obtain rfl := List.inj_on_of_nodup_map hnodup horiginal horiginal' htime
  exact hsame.symm.trans hsame'

end Persistable

theorem isCompleted_of_calls {emitted : List SynchronizedFrameSet}
    (calls : List (PersistCall emitted)) :
    ∀ frameSet ∈ calls.map (·.frameSet), IsCompleted emitted frameSet := by
  intro frameSet hmem
  obtain ⟨call, -, rfl⟩ := List.mem_map.mp hmem
  exact call.isEmitted

/-- The text, the digest and the uid of a completed V2 set. -/
theorem IsCompleted.manifest {expectedCameras : List String} {windowMs : ℤ} {recentLimit : ℕ}
    {runId : String} {ops : List MatcherOp} {frameSet : SynchronizedFrameSet}
    (h : IsCompleted (emittedSets (newMatcher expectedCameras windowMs recentLimit runId) ops)
      frameSet) (hmode : frameSet.identityMode = .v2) :
    frameSet.manifestJson = some (canonicalJson frameSet.payload) ∧
      frameSet.manifestDigest = some (buildManifestDigest frameSet.payload) ∧
      frameSet.frameSetUid = some (uidOfPayload frameSet.payload) := by
  obtain ⟨original, horiginal, hsame⟩ := h
  obtain ⟨_, _, _, _, _, emission, nowMs, freshRunId, _, rfl⟩ := exists_emission_of_mem horiginal
  rw [hsame.field (·.identityMode) fun _ => rfl] at hmode
  rw [hsame.payload, hsame.field (·.manifestJson) fun _ => rfl,
    hsame.field (·.manifestDigest) fun _ => rfl, hsame.field (·.frameSetUid) fun _ => rfl]
  exact emission.manifest_frameSet hmode

/-- Sets do not collide if the payloads they are emitted with have different uids. -/
theorem not_collide {expectedCameras : List String} {windowMs : ℤ} {recentLimit : ℕ}
    {runId : String} {ops : List MatcherOp}
    (hnodup : ((emittedSets (newMatcher expectedCameras windowMs recentLimit runId) ops).map
      fun frameSet => uidOfPayload frameSet.payload).Nodup)
    {first second : SynchronizedFrameSet}
    (hfirst : IsCompleted (emittedSets (newMatcher expectedCameras windowMs recentLimit runId) ops)
      first)
    (hsecond : IsCompleted (emittedSets (newMatcher expectedCameras windowMs recentLimit runId) ops)
      second) (hmode : first.identityMode = .v2) (hmode' : second.identityMode = .v2) :
    ¬Collide first second := by
  rintro ⟨hsame, htext⟩
  obtain ⟨hjson, hdigest, huid⟩ := hfirst.manifest hmode
  obtain ⟨hjson', hdigest', huid'⟩ := hsecond.manifest hmode'
  have huids : uidOfPayload first.payload = uidOfPayload second.payload := by
    rcases hsame with heq | heq
    · unfold SynchronizedFrameSet.uid at heq
      rwa [huid, huid'] at heq
    · rw [hdigest, hdigest', Option.some.injEq] at heq
      unfold uidOfPayload
      rw [heq]
  obtain ⟨original, horiginal, hcontent⟩ := hfirst
  obtain ⟨original', horiginal', hcontent'⟩ := hsecond
  rw [hcontent.payload, hcontent'.payload] at huids
  obtain rfl := List.inj_on_of_nodup_map hnodup horiginal horiginal' huids
  apply htext
  rw [hjson, hjson', hcontent.payload, hcontent'.payload]

/-! ## Two sessions -/

/-- A frame of a single camera without authorization scope. -/
def rotatedFrame (sessionId : String) (timestampMs : ℤ) : SyncInputFrame where
  frameId := none
  deviceId := "left"
  timestampMs := timestampMs
  sequence := some 1
  contentType := "image/jpeg"
  imageBytes := [1]
  filePath := none
  sourceSessionId := some sessionId
  cameraStreamId := some "left"
  sourceFrameUid := (buildSourceFrameUid sessionId "left" 1).toOption
  contentDigest := some (sha256Bytes [1])
  identityMode := .v2

/-- The call of the matcher that finds this frame buffered. -/
def matchOp (frame : SyncInputFrame) (nowMs : ℤ) (freshRunId : String) : MatcherOp :=
  .tryMatch
    (SyncFrameBufferManager.addFrame
      { bufferSize := 120, bufferSize_pos := defaultBufferSize_pos } frame).1
    frame.stored nowMs freshRunId

def rotatingOps : List MatcherOp :=
  [matchOp (rotatedFrame "a" 1000) 1001 "run-2", matchOp (rotatedFrame "b" 2000) 2001 "run-3"]

/-- The sets of two source sessions. -/
def rotatedSets : List SynchronizedFrameSet :=
  emittedSets (newMatcher ["left"] 50 20 "run-1") rotatingOps

/-- Persist a set of the list once its one member is archived. -/
def archivedCall (index : Fin rotatedSets.length) (frame : SyncInputFrame) :
    PersistCall rotatedSets where
  frameSet := (rotatedSets.get index).archived (buildBufferKey frame) 1 "/archive/left.jpg"
  createdAtMs := none
  nowMs := 3000
  isEmitted := ⟨rotatedSets.get index, List.get_mem _ _,
    SynchronizedFrameSet.sameContent_archived _ _ _ _⟩

def firstCall : PersistCall rotatedSets :=
  archivedCall ⟨0, by decide +kernel⟩ (rotatedFrame "a" 1000)

def secondCall : PersistCall rotatedSets :=
  archivedCall ⟨1, by decide +kernel⟩ (rotatedFrame "b" 2000)

/-- The set of the second session is persisted before that of the first one. -/
def lateCalls : List (PersistCall rotatedSets) := [secondCall, firstCall]

/-- The two sets have uids of their own, and so have their digests. -/
theorem uids_rotatedSets :
    (rotatedSets.map fun frameSet => uidOfPayload frameSet.payload).Nodup := by
  simp only [uidOfPayload_eq]
  decide +kernel

theorem persistable_lateCalls : Persistable (lateCalls.map (·.frameSet)) := by
  have hdata : (∀ frameSet ∈ lateCalls.map (·.frameSet), frameSet.identityMode = .v2 ∧
      frameSet.Durable ∧ (frameSet.members.map (·.sourceFrameUid)).Nodup ∧
        (frameSet.members.map (·.cameraStreamId)).Nodup) ∧
      ∀ first ∈ lateCalls.map (·.frameSet), ∀ second ∈ lateCalls.map (·.frameSet),
        first.synchronizedAtMs ≠ second.synchronizedAtMs →
          ∀ member ∈ first.members, ∀ other ∈ second.members,
            member.sourceFrameUid ≠ other.sourceFrameUid := by
    decide +kernel
  have hcompleted := isCompleted_of_calls lateCalls
  refine ⟨fun _ hmem => (hdata.1 _ hmem).1, fun _ hmem => (hdata.1 _ hmem).2.1,
    fun _ hmem => (hdata.1 _ hmem).2.2.1, fun _ hmem => (hdata.1 _ hmem).2.2.2, hdata.2, ?_⟩
  intro first hfirst second hsecond
  exact not_collide uids_rotatedSets (hcompleted first hfirst) (hcompleted second hsecond)
    (hdata.1 first hfirst).1 (hdata.1 second hsecond).1

end ImageStream
