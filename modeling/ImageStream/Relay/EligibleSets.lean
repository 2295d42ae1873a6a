/-
# The eligible projections

The worker announces and claims what is eligible. Persisting makes a set eligible, and so does
a processor that does not know the set that it has been offered. Retiring, and whatever ingest
does besides, makes none eligible, as long as every manifest has its projection.
-/

import ImageStream.Relay.ConnectionSteps

namespace ImageStream

open Base LatestLive

/-! ## Eligible projections -/

/-- Whatever is eligible in the second database is so in the first. -/
def EligibleWithin (db db' : Database) : Prop :=
  ∀ uid, db'.liveState? uid = some .eligible → db.liveState? uid = some .eligible

theorem EligibleWithin.refl (db : Database) : EligibleWithin db db := fun _ h => h

theorem EligibleWithin.trans {db db' db'' : Database} (h : EligibleWithin db db')
    (h' : EligibleWithin db' db'') : EligibleWithin db db'' := fun uid hlast => h uid (h' uid hlast)

namespace Database

/-- The frame sets whose projections are eligible. -/
def eligibleUids (db : Database) : List String :=
  (db.projections.rows.filter fun projection => projection.liveState = .eligible).map
    (·.frameSetUid)

/-- The number of eligible projections. -/
def eligibleCount (db : Database) : ℕ :=
  db.projections.rows.countP fun projection => projection.liveState = .eligible

variable {db db' : Database}

theorem length_eligibleUids (db : Database) : db.eligibleUids.length = db.eligibleCount := by
  unfold eligibleUids eligibleCount
  rw [List.length_map, List.countP_eq_length_filter]

theorem nodup_eligibleUids (db : Database) : db.eligibleUids.Nodup :=
  db.projections.keys_nodup.sublist (List.filter_sublist.map _)

theorem mem_eligibleUids_iff {uid : String} :
    uid ∈ db.eligibleUids ↔ db.liveState? uid = some .eligible := by
  unfold eligibleUids liveState?
  rw [List.mem_map, Option.map_eq_some_iff]
  constructor
  · rintro ⟨projection, hmem, rfl⟩
    obtain ⟨hrow, hstate⟩ := List.mem_filter.mp hmem
    exact ⟨projection, db.projections.find_of_mem hrow, of_decide_eq_true hstate⟩
  · rintro ⟨projection, hfind, hstate⟩
    exact ⟨projection, List.mem_filter.mpr
      ⟨db.projections.mem_of_find hfind, decide_eq_true hstate⟩, db.projections.key_of_find hfind⟩

theorem eligibleCount_le (hwithin : EligibleWithin db db') :
    db'.eligibleCount ≤ db.eligibleCount := by
  have hsubset : db'.eligibleUids ⊆ db.eligibleUids := fun uid hmem =>
    mem_eligibleUids_iff.mpr (hwithin uid (mem_eligibleUids_iff.mp hmem))
  have hlength := (List.subperm_of_subset db'.nodup_eligibleUids hsubset).length_le
  rwa [length_eligibleUids, length_eligibleUids] at hlength

/-- Fewer projections are eligible once one of them is not any more. -/
theorem eligibleCount_lt (hwithin : EligibleWithin db db') {uid : String}
    (hwas : db.liveState? uid = some .eligible) (hgone : db'.liveState? uid ≠ some .eligible) :
    db'.eligibleCount < db.eligibleCount := by
  have hnodup : (uid :: db'.eligibleUids).Nodup :=
    List.nodup_cons.mpr ⟨fun hmem => hgone (mem_eligibleUids_iff.mp hmem), db'.nodup_eligibleUids⟩
  have hsubset : uid :: db'.eligibleUids ⊆ db.eligibleUids := by
    intro uid' hmem
    rcases List.mem_cons.mp hmem with rfl | hrest
    · exact mem_eligibleUids_iff.mpr hwas
    · exact mem_eligibleUids_iff.mpr (hwithin uid' (mem_eligibleUids_iff.mp hrest))
  have hlength := (List.subperm_of_subset hnodup hsubset).length_le
  rw [List.length_cons, length_eligibleUids, length_eligibleUids] at hlength
  exact hlength

end Database

/-! ### Transactions -/

section Transactions

variable {db : Database}

theorem eligibleWithin_retireEligible (key : FrameSetKey) (state : RetiredState) (reason : String)
    (timestampMs : ℤ) : EligibleWithin db (retireEligible db key state reason timestampMs).1 := by
  unfold retireEligible
  split
  · exact .refl db
  split
  · exact .refl db
  rename_i heligible
  intro uid hstate
  rw [db.liveState?_moved (not_not.mp heligible)] at hstate
  split at hstate
  · cases state <;> cases hstate
  · exact hstate

/-- What has been retired was eligible, and is not any more. -/
theorem eligible_of_retireEligible {key : FrameSetKey} {state : RetiredState} {reason : String}
    {timestampMs : ℤ} (h : (retireEligible db key state reason timestampMs).2 = true) :
    db.liveState? key.frameSetUid = some .eligible ∧
      (retireEligible db key state reason timestampMs).1.liveState? key.frameSetUid ≠
        some .eligible := by
  unfold retireEligible at h ⊢
  split at h
  · cases h
  rename_i hfound
  split at h
  · cases h
  rename_i heligible
  have hbefore := not_not.mp heligible
  refine ⟨hbefore, ?_⟩
  rw [if_neg hfound, if_neg heligible]
  dsimp only
  rw [db.liveState?_moved hbefore, if_pos rfl]
  cases state <;> exact fun heq => by cases heq

/-- A stored manifest is not eligible once it has been retired. -/
theorem not_eligible_retireEligible {manifest : FrameSetManifest}
    (hfind : db.manifests.find manifest.frameSetUid = some manifest) (state : RetiredState)
    (reason : String) (timestampMs : ℤ) :
    (retireEligible db manifest.key state reason timestampMs).1.liveState? manifest.frameSetUid ≠
      some .eligible := by
  cases hretired : (retireEligible db manifest.key state reason timestampMs).2 with
  | true => exact (eligible_of_retireEligible hretired).2
  | false =>
      unfold retireEligible at hretired ⊢
      have hfound : (db.manifests.find manifest.key.frameSetUid).any
          (fun stored => stored.key = manifest.key) = true := by
        show (db.manifests.find manifest.frameSetUid).any _ = true
        rw [hfind]
        exact decide_eq_true rfl
      rw [if_neg (not_not.mpr hfound)] at hretired ⊢
      split at hretired
      · rename_i hstate
        rw [if_pos hstate]
        exact hstate
      · cases hretired

theorem eligibleWithin_markUnresolved (key : FrameSetKey) (reason : String) (timestampMs : ℤ) :
    EligibleWithin db (markUnresolved db key reason timestampMs).1 := by
  intro uid hstate
  unfold markUnresolved transitionCurrent at hstate
  rcases moveCurrent_cases db key .unresolved (some reason) timestampMs
    (fun state => if false then state.released else state) with ⟨hdb, -⟩ | ⟨hmoved, -⟩
  · rw [hdb] at hstate
    exact hstate
  · by_cases huid : uid = key.frameSetUid
    · rw [huid, hmoved.now] at hstate
      cases hstate
    · exact (hmoved.others uid huid).symm.trans hstate

/-- What is announced: the set in flight, or an eligible one where nothing is in flight. -/
theorem snapshotForHello_cases {snapshot : ClaimedFrameSet}
    (h : snapshotForHello db = .ok (some snapshot)) :
    ∃ manifest, db.manifests.find manifest.frameSetUid = some manifest ∧
      snapshot.key = manifest.key ∧
      (db.inFlight? = some manifest.frameSetUid ∨
        (db.inFlight? = none ∧ db.liveState? manifest.frameSetUid = some .eligible)) := by
  unfold snapshotForHello at h
  dsimp only at h
  cases hflight : db.client.inFlightFrameSetUid with
  | some uid =>
      rw [hflight] at h
      dsimp only at h
      split at h
      · cases h
      rename_i manifest hfind
      cases h
      obtain rfl := db.manifests.key_of_find hfind
      exact ⟨manifest, hfind, rfl, Or.inl hflight⟩
  | none =>
      rw [hflight] at h
      dsimp only at h
      split at h
      · cases h
      · cases h
      rename_i manifest hpicked
      cases h
      obtain ⟨hrow, heligible⟩ := List.mem_filter.mp
        (List.argmax_mem (getNewestEligibleManifest_of_newestEligible hpicked))
      exact ⟨manifest, db.manifests.find_of_mem hrow, rfl,
        Or.inr ⟨hflight, liveState?_of_isEligible db heligible⟩⟩

/-- The set in flight is announced, as long as its manifest is stored. -/
theorem snapshotForHello_of_inFlight {manifest : FrameSetManifest}
    (hflight : db.inFlight? = some manifest.frameSetUid)
    (hfind : db.manifests.find manifest.frameSetUid = some manifest) :
    ∃ credit offeredAtMs,
      snapshotForHello db = .ok (some (snapshot db manifest credit offeredAtMs)) := by
  have hcolumn : db.client.inFlightFrameSetUid = some manifest.frameSetUid := hflight
  unfold snapshotForHello
  dsimp only
  rw [hcolumn]
  dsimp only
  rw [hfind]
  exact ⟨_, _, rfl⟩

end Transactions

/-! ### Manifests and their projections -/

/-- Every stored manifest has a projection. -/
def Database.Projected (db : Database) : Prop :=
  ∀ uid, db.manifests.find uid ≠ none → ∃ state, db.liveState? uid = some state

theorem Database.projected_empty : ({} : Database).Projected := fun _ h => absurd rfl h

section Projections

variable {db : Database}

/-- A manifest is stored together with its projection. -/
theorem Database.Projected.persist (h : db.Projected) (frameSet : SynchronizedFrameSet)
    (createdAtMs : Option ℤ) (nowMs : ℤ) :
    (persistFrameSetManifest db frameSet createdAtMs nowMs).1.Projected := by
  unfold persistFrameSetManifest
  rcases persistCommit_cases db frameSet (persistRead db frameSet createdAtMs nowMs) with
    hsame | ⟨projection, -, -, hput⟩ | ⟨insertion, hplan, -, happly⟩
  · rw [hsame]
    exact h
  · rw [hput]
    intro uid hstored
    rw [liveState?_put]
    split
    · exact ⟨_, rfl⟩
    · exact h uid hstored
  · rw [happly]
    obtain ⟨hmanifest, hprojection⟩ : insertion.manifest.frameSetUid = frameSet.uid ∧
        insertion.projection.frameSetUid = frameSet.uid := by
      rcases persistRead_cases db frameSet createdAtMs nowMs with ⟨_, hread⟩ | hread | ⟨-, -, hread⟩
      · cases hread.symm.trans hplan
      · cases hread.symm.trans hplan
      · cases hread.symm.trans hplan
        refine ⟨rfl, ?_⟩
        dsimp only [planInsert]
        split <;> rfl
    intro uid hstored
    rw [liveState?_apply]
    split
    · exact ⟨_, rfl⟩
    rename_i hother
    have hold : db.manifests.find uid ≠ none := by
      have hput : (db.manifests.put insertion.manifest).find uid ≠ none := hstored
      rwa [Table.find_put, if_neg (by rwa [hmanifest, ← hprojection])] at hput
    obtain ⟨state, hstate⟩ := h uid hold
    rw [hstate]
    split
    · exact ⟨_, rfl⟩
    · exact ⟨_, rfl⟩

theorem Database.Projected.step (h : db.Projected) (op : StoreOp) :
    (storeStep db op).1.Projected := by
  cases hpersisted : op.persisted? with
  | some frameSet =>
      cases op with
      | persistFrameSetManifest persisted createdAtMs nowMs => exact h.persist persisted _ _
      | _ => cases hpersisted
  | none =>
      intro uid hstored
      apply liveState?_storeStep_isSome
      rcases manifests_storeStep db op with hsame | ⟨frameSet, _, hsome, -⟩
      · rw [hsame] at hstored
        exact h uid hstored
      · cases hpersisted.symm.trans hsome

theorem projected_after (ops : List StoreOp) : (Machine.after storeStep {} ops).Projected :=
  Machine.invariant_after storeStep Database.projected_empty (fun _ op h => h.step op) ops

/-- A reconciliation adds projections of stored manifests only. -/
theorem added_manifests {files : ArchiveFiles} {detectedAtMs : ℤ} {finished : Reconciling}
    (hrun : Reconciling.run files db detectedAtMs = .ok finished) :
    ∀ projection ∈ finished.added, db.manifests.find projection.frameSetUid ≠ none := by
  have hkept := Reconciling.run_invariant
    (P := fun state : Reconciling => state.db.manifests = db.manifests ∧
      ∀ projection ∈ state.added, db.manifests.find projection.frameSetUid ≠ none)
    ⟨rfl, fun _ hmem => by cases hmem⟩ ?_ ?_ hrun
  · exact hkept.2
  · intro state frame inspection hstate
    dsimp only [Reconciling.recordFrame]
    split
    · exact hstate
    split
    · exact hstate
    · dsimp only [Reconciling.degradeFrameAndProjections]
      refine List.foldlRecOn _ _ (motive := fun degraded : Reconciling =>
        degraded.db.manifests = db.manifests ∧
          ∀ projection ∈ degraded.added, db.manifests.find projection.frameSetUid ≠ none)
        hstate ?_
      intro degraded hdegraded uid _
      dsimp only [Reconciling.degradeProjection]
      split
      · exact hdegraded
      split
      · exact hdegraded
      rename_i hmanifest
      refine ⟨hdegraded.1, fun projection hmem => ?_⟩
      rcases List.mem_append.mp hmem with hold | hnew
      · exact hdegraded.2 projection hold
      · rw [List.mem_singleton.mp hnew, ← hdegraded.1]
        exact hmanifest
  · intro state entry resolved hstate
    dsimp only [Reconciling.recordPath]
    split
    · exact hstate
    split
    · exact hstate
    split
    · exact hstate
    · exact hstate

/-- Where every manifest has its projection, only persisting makes a frame set eligible. -/
theorem eligibleWithin_ingest (h : db.Projected) {op : StoreOp} (hingest : op.isIngest = true)
    (hpersisted : op.persisted? = none) : EligibleWithin db (storeStep db op).1 := by
  intro uid hstate
  cases op with
  | persistFrameSetManifest frameSet createdAtMs nowMs => cases hpersisted
  | writeFrames frames => exact hstate
  | updateDeliveryProjection frameSetUid archiveState legacyRelayState reason updatedAtMs =>
      dsimp only [storeStep, updateDeliveryProjection, Prod.map, id] at hstate
      split at hstate
      · have hnow := (db.liveState?_updateProjection frameSetUid
          (ProjectionChange.apply { archiveState, legacyRelayState, reason } updatedAtMs)
          (fun _ => rfl) uid).symm.trans hstate
        split at hnow
        · exact hnow
        · exact hnow
      rename_i habsent
      split at hstate
      · exact hstate
      · rename_i hmanifest
        obtain ⟨state, hprojected⟩ := h frameSetUid hmanifest
        cases (liveState?_eq_none habsent).symm.trans hprojected
  | reconcileArchive files detectedAtMs =>
      dsimp only [storeStep, reconcileArchive, Prod.map, id] at hstate
      cases hrun : Reconciling.run files db detectedAtMs with
      | error error =>
          rw [hrun] at hstate
          exact hstate
      | ok finished =>
          rw [hrun] at hstate
          have hkeeps := reconcileArchive_keeps hrun
          have hadded : finished.added = [] := by
            refine List.eq_nil_iff_forall_not_mem.mpr fun projection hmem => ?_
            obtain ⟨state, hprojected⟩ := h _ (added_manifests hrun projection hmem)
            cases (hkeeps.added projection hmem).2.symm.trans hprojected
          dsimp only at hstate
          rw [hadded] at hstate
          exact (hkeeps.live uid).symm.trans hstate
  | _ => cases hingest

end Projections

end ImageStream
