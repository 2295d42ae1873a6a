/-
# When a manifest is persisted

`persist_frame_set_manifest` on its own database: it goes through exactly when the set
passes the validation and the database takes its manifest, and the manifest is then
there. Otherwise it raises and leaves the database alone.
-/

import ImageStream.Sync.ManifestStore

namespace ImageStream

open Base

/-- Whether the manifest of a set is stored. -/
def Database.Holds (db : Database) (frameSet : SynchronizedFrameSet) : Prop :=
  ∃ manifest, db.manifests.find frameSet.uid = some manifest ∧
    verifyExistingManifest manifest frameSet = .ok ()

/-- Whether the run of a set, where it is known, belongs to the session of the set. -/
def Database.RunAgrees (db : Database) (frameSet : SynchronizedFrameSet) : Prop :=
  ∀ run, db.captureRuns.find (frameSet.captureRunId.getD "") = some run →
    some run.captureSessionId = frameSet.captureSessionId

/-- Whether a set is valid and its manifest is stored already or conflicts with nothing
that is. -/
structure Database.Takes (db : Database) (frameSet : SynchronizedFrameSet) : Prop where
  valid : validateV2FrameSet frameSet = .ok ()
  stored : ∀ existing, db.manifests.find frameSet.uid = some existing →
    verifyExistingManifest existing frameSet = .ok ()
  run : db.manifests.find frameSet.uid = none → db.RunAgrees frameSet
  members : db.manifests.find frameSet.uid = none → frameSet.members ≠ []
  fits : db.manifests.find frameSet.uid = none → (planInsert db frameSet 0).Fits db

/-- The time of an insertion has no part in the uniqueness constraints. -/
theorem fits_planInsert_iff (db : Database) (frameSet : SynchronizedFrameSet)
    (timestampMs timestampMs' : ℤ) :
    (planInsert db frameSet timestampMs).Fits db ↔
      (planInsert db frameSet timestampMs').Fits db := by
  have himp : ∀ first second, (planInsert db frameSet first).Fits db →
      (planInsert db frameSet second).Fits db := by
    intro first second h
    refine
      { session := fun session hsession => ?_
        run := fun run hrun => ?_
        manifest := h.manifest
        digest := h.digest
        sequence := h.sequence
        projection := ?_
        sources := h.sources
        sources_nodup := h.sources_nodup
        cameras := h.cameras
        cameras_nodup := h.cameras_nodup }
    · dsimp only [planInsert] at hsession
      split at hsession
      · rename_i habsent
        obtain rfl := Option.mem_some_iff.mp hsession
        exact habsent
      · cases hsession
    · dsimp only [planInsert] at hrun
      split at hrun
      · rename_i habsent
        obtain rfl := Option.mem_some_iff.mp hrun
        exact habsent
      · cases hrun
    · have hprojection := h.projection
      dsimp only [planInsert] at hprojection ⊢
      split <;> rename_i hnewer <;> simpa [hnewer, newDeliveryProjection] using hprojection
  exact ⟨himp _ _, himp _ _⟩

/-- An empty database takes every valid set whose members have sources and streams of their
own. -/
theorem takes_empty_of_valid {frameSet : SynchronizedFrameSet}
    (valid : validateV2FrameSet frameSet = .ok ()) (members : frameSet.members ≠ [])
    (sources : ((sortedMembers frameSet).map fun member => member.sourceFrameUid.getD "").Nodup)
    (streams : ((sortedMembers frameSet).map fun member => member.cameraStreamId.getD "").Nodup) :
    ({} : Database).Takes frameSet where
  valid := valid
  stored _ h := by cases h
  run _ _ h := by cases h
  members _ := members
  fits _ :=
    { session := fun _ _ => rfl
      run := fun _ _ => rfl
      manifest := rfl
      digest := fun _ h => by cases h
      sequence := fun _ h => by cases h
      projection := rfl
      sources := fun _ _ => rfl
      sources_nodup := by simpa [planInsert, newMember, List.map_map, Function.comp_def] using sources
      cameras := fun _ _ _ h => by cases h
      cameras_nodup := by
        apply List.Nodup.of_map Prod.snd
        simpa [planInsert, newMember, List.map_map, Function.comp_def] using streams }

/-- A complete set without a session scope is valid. -/
theorem takes_empty {frameSet : SynchronizedFrameSet} (complete : missingFields frameSet = [])
    (ready : frameSet.members.all StoredSyncFrame.manifestReady = true)
    (unscoped : (authorizationGroupValues frameSet).any truthy = false)
    (members : frameSet.members ≠ [])
    (sources : ((sortedMembers frameSet).map fun member => member.sourceFrameUid.getD "").Nodup)
    (streams : ((sortedMembers frameSet).map fun member => member.cameraStreamId.getD "").Nodup) :
    ({} : Database).Takes frameSet := by
  apply takes_empty_of_valid _ members sources streams
  unfold validateV2FrameSet
  rw [if_neg (fun hne => hne complete), if_neg (fun hnot => hnot ready),
    if_pos (by rw [unscoped]; exact nofun)]

/-! ## The verdict -/

section Verdict

variable {db : Database} {frameSet : SynchronizedFrameSet}

theorem truthy_of_missingFields (h : missingFields frameSet = []) :
    truthy frameSet.captureSessionId ∧ truthy frameSet.captureRunId ∧
      truthy frameSet.frameSetUid ∧ truthy frameSet.manifestDigest ∧
      truthy frameSet.manifestJson := by
  unfold missingFields at h
  rw [List.map_eq_nil_iff, List.filter_eq_nil_iff] at h
  simpa using h

theorem missingFields_eq_nil (session : truthy frameSet.captureSessionId)
    (run : truthy frameSet.captureRunId) (uid : truthy frameSet.frameSetUid)
    (digest : truthy frameSet.manifestDigest) (json : truthy frameSet.manifestJson) :
    missingFields frameSet = [] := by
  unfold missingFields
  simp [session, run, uid, digest, json]

theorem missingFields_of_valid (h : validateV2FrameSet frameSet = .ok ()) :
    missingFields frameSet = [] := by
  by_contra hmissing
  unfold validateV2FrameSet at h
  rw [if_pos hmissing] at h
  cases h

/-- A validated set has archived members only. -/
theorem manifestReady_of_valid (h : validateV2FrameSet frameSet = .ok ()) :
    ∀ member ∈ frameSet.members, member.manifestReady := by
  have hmissing := missingFields_of_valid h
  unfold validateV2FrameSet at h
  rw [if_neg (fun hne => hne hmissing)] at h
  by_cases hready : frameSet.members.all StoredSyncFrame.manifestReady
  · exact List.all_eq_true.mp hready
  · rw [if_pos hready] at h
    cases h

/-- The manifest of a validated set is its own. -/
theorem verify_newManifest (h : validateV2FrameSet frameSet = .ok ()) (timestampMs : ℤ) :
    verifyExistingManifest (newManifest frameSet timestampMs) frameSet = .ok () := by
  obtain ⟨-, -, -, hdigest, hjson⟩ := truthy_of_missingFields (missingFields_of_valid h)
  obtain ⟨digest, hdigest, -⟩ := truthy_eq_true_iff.mp hdigest
  obtain ⟨json, hjson, -⟩ := truthy_eq_true_iff.mp hjson
  simp [verifyExistingManifest, newManifest, hdigest, hjson]

/-- A manifest that is stored already is not stored again. -/
theorem persist_of_stored (hmode : frameSet.identityMode = .v2)
    (hvalid : validateV2FrameSet frameSet = .ok ()) {existing : FrameSetManifest}
    (hexisting : db.manifests.find frameSet.uid = some existing) (createdAtMs : Option ℤ)
    (nowMs : ℤ) :
    (∀ e, verifyExistingManifest existing frameSet = .error e →
      persistFrameSetManifest db frameSet createdAtMs nowMs = (db, .error e)) ∧
    (verifyExistingManifest existing frameSet = .ok () →
      ∃ db', persistFrameSetManifest db frameSet createdAtMs nowMs = (db', .ok false) ∧
        db'.manifests = db.manifests) := by
  unfold persistFrameSetManifest persistRead
  rw [if_neg (fun hne => hne hmode), hvalid]
  dsimp only
  rw [hexisting]
  dsimp only
  constructor
  · intro e he
    rw [he]
    rfl
  · intro hverified
    rw [hverified]
    dsimp only
    by_cases hprojection : db.projections.find frameSet.uid = none
    · rw [if_pos hprojection]
      dsimp only [persistCommit, newDeliveryProjection]
      rw [if_pos hprojection]
      exact ⟨_, rfl, rfl⟩
    · rw [if_neg hprojection]
      exact ⟨db, rfl, rfl⟩

/-- The read settles on an insertion, if the run and the members allow that. -/
theorem persistRead_of_absent (hmode : frameSet.identityMode = .v2)
    (hvalid : validateV2FrameSet frameSet = .ok ())
    (habsent : db.manifests.find frameSet.uid = none) (createdAtMs : Option ℤ) (nowMs : ℤ) :
    (db.RunAgrees frameSet → frameSet.members ≠ [] →
      persistRead db frameSet createdAtMs nowMs =
        .insert (planInsert db frameSet (createdAtMs.getD nowMs))) ∧
    (¬(db.RunAgrees frameSet ∧ frameSet.members ≠ []) →
      ∃ e, persistRead db frameSet createdAtMs nowMs = .finished (.error e)) := by
  unfold persistRead Database.RunAgrees
  rw [if_neg (fun hne => hne hmode), hvalid]
  dsimp only
  rw [habsent]
  dsimp only
  cases hrun : db.captureRuns.find (frameSet.captureRunId.getD "") with
  | none =>
      by_cases hmembers : frameSet.members = []
      · simp [hmembers]
      · simp [hmembers]
  | some run =>
      by_cases hsession : some run.captureSessionId = frameSet.captureSessionId <;>
        by_cases hmembers : frameSet.members = [] <;> simp [hsession, hmembers]

/-- The commit of an insertion into the database that it was read from. -/
theorem persistCommit_of_absent (habsent : db.manifests.find frameSet.uid = none)
    (timestampMs : ℤ) :
    ((planInsert db frameSet 0).Fits db →
      persistCommit db frameSet (.insert (planInsert db frameSet timestampMs)) =
        ((planInsert db frameSet timestampMs).apply db, .ok true)) ∧
    (¬(planInsert db frameSet 0).Fits db →
      ∃ e, persistCommit db frameSet (.insert (planInsert db frameSet timestampMs)) =
        (db, .error e)) := by
  rw [fits_planInsert_iff db frameSet 0 timestampMs]
  dsimp only [persistCommit]
  refine ⟨fun hfits => if_pos hfits, fun hfits => ?_⟩
  rw [if_neg hfits, habsent]
  exact ⟨_, rfl⟩

/-- What the database takes is stored afterwards. -/
theorem persist_of_takes (hmode : frameSet.identityMode = .v2) (h : db.Takes frameSet)
    (createdAtMs : Option ℤ) (nowMs : ℤ) :
    ∃ db' inserted, persistFrameSetManifest db frameSet createdAtMs nowMs =
      (db', .ok inserted) ∧ db'.Holds frameSet := by
  cases hexisting : db.manifests.find frameSet.uid with
  | some existing =>
      have hverified := h.stored existing hexisting
      obtain ⟨db', hpersist, hmanifests⟩ :=
        (persist_of_stored hmode h.valid hexisting createdAtMs nowMs).2 hverified
      exact ⟨db', false, hpersist, existing, by rw [hmanifests, hexisting], hverified⟩
  | none =>
      have hread := (persistRead_of_absent hmode h.valid hexisting createdAtMs nowMs).1
        (h.run hexisting) (h.members hexisting)
      have hcommit := (persistCommit_of_absent hexisting (createdAtMs.getD nowMs)).1
        (h.fits hexisting)
      refine ⟨_, true, (congrArg (persistCommit db frameSet) hread).trans hcommit,
        newManifest frameSet (createdAtMs.getD nowMs), ?_, verify_newManifest h.valid _⟩
      exact db.manifests.find_put_self (newManifest frameSet (createdAtMs.getD nowMs))

/-- What the database does not take changes nothing. -/
theorem persist_of_not_takes (hmode : frameSet.identityMode = .v2) (h : ¬db.Takes frameSet)
    (createdAtMs : Option ℤ) (nowMs : ℤ) :
    ∃ e, persistFrameSetManifest db frameSet createdAtMs nowMs = (db, .error e) := by
  cases hvalid : validateV2FrameSet frameSet with
  | error e =>
      refine ⟨e, ?_⟩
      unfold persistFrameSetManifest persistRead
      rw [if_neg (fun hne => hne hmode), hvalid]
      rfl
  | ok valid =>
      cases hexisting : db.manifests.find frameSet.uid with
      | some existing =>
          cases hverify : verifyExistingManifest existing frameSet with
          | error e =>
              exact ⟨e, (persist_of_stored hmode hvalid hexisting createdAtMs nowMs).1 e hverify⟩
          | ok verified =>
              refine absurd ⟨hvalid, fun other hother => ?_, ?_, ?_, ?_⟩ h
              · rw [hexisting] at hother
                cases hother
                exact hverify
              all_goals exact fun hnone => by rw [hexisting] at hnone; cases hnone
      | none =>
          have hread := persistRead_of_absent hmode hvalid hexisting createdAtMs nowMs
          by_cases hallowed : db.RunAgrees frameSet ∧ frameSet.members ≠ []
          · have hfits : ¬(planInsert db frameSet 0).Fits db := by
              intro hfits
              refine h ⟨hvalid, fun other hother => ?_, fun _ => hallowed.1, fun _ => hallowed.2,
                fun _ => hfits⟩
              rw [hexisting] at hother
              cases hother
            obtain ⟨e, hcommit⟩ := (persistCommit_of_absent hexisting (createdAtMs.getD nowMs)).2
              hfits
            exact ⟨e, (congrArg (persistCommit db frameSet)
              (hread.1 hallowed.1 hallowed.2)).trans hcommit⟩
          · obtain ⟨e, herror⟩ := hread.2 hallowed
            exact ⟨e, congrArg (persistCommit db frameSet) herror⟩

end Verdict

/-! ## Live states -/

theorem liveState?_eq_none {db : Database} {uid : String} (h : db.projections.find uid = none) :
    db.liveState? uid = none := by
  simp [Database.liveState?, h]

/-- The live states after an insertion. -/
theorem liveState?_apply (plan : InsertPlan) (db : Database) (uid : String) :
    (plan.apply db).liveState? uid =
      if uid = plan.projection.frameSetUid then some plan.projection.liveState
      else if uid ∈ plan.superseded then
        (db.liveState? uid).map fun _ => .supersededBeforeOffer
      else db.liveState? uid := by
  dsimp only [Database.liveState?, InsertPlan.apply, supersedeRows]
  rw [Table.find_put]
  split
  · rfl
  · rw [Table.find_mapRows]
    cases hfind : db.projections.find uid with
    | none => simp
    | some projection =>
        have huid := db.projections.key_of_find hfind
        simp only [Option.map_some, huid]
        split <;> rfl

end ImageStream
