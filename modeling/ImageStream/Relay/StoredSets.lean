/-
# What the rows of a frame set say

A manifest is stored together with one row for each member, and no transaction touches
these rows again. So they say what the set said when it was persisted, also where other
transactions run between the read and the commit, and a claim reads the members back in
the order of their camera streams.
-/

import ImageStream.Relay.PersistRace

namespace ImageStream

open Base

/-- The rows of new keys are added at the end. -/
theorem rows_putRows_of_fresh {ρ κ : Type} [DecidableEq κ] {key : ρ → κ} (table : Table key)
    {rows : List ρ} (habsent : ∀ row ∈ rows, table.find (key row) = none)
    (hnodup : (rows.map key).Nodup) : (putRows table rows).rows = table.rows ++ rows := by
  induction rows generalizing table with
  | nil => exact (List.append_nil _).symm
  | cons row rows ih =>
      rw [List.map_cons, List.nodup_cons] at hnodup
      have hrow := Table.rows_put_of_absent table (habsent row List.mem_cons_self)
      have hrest : ∀ row' ∈ rows, (table.put row).find (key row') = none := by
        intro row' hrow'
        have hne : key row' ≠ key row := fun heq =>
          hnodup.1 (heq ▸ List.mem_map_of_mem hrow')
        rw [Table.find_put_of_ne _ hne]
        exact habsent row' (List.mem_cons_of_mem row hrow')
      have htail := ih (table.put row) hrest hnodup.2
      rw [hrow, List.append_assoc] at htail
      exact htail

/-! ## What is stored -/

/-- The member rows of a frame set. -/
def Database.membersOf (db : Database) (frameSetUid : String) : List FrameSetMember :=
  db.members.rows.filter fun member => member.frameSetUid = frameSetUid

/-- A set that can be stored. -/
structure Storable (origin : SynchronizedFrameSet → Prop) (frameSet : SynchronizedFrameSet) :
    Prop where
  origin : origin frameSet
  mode : frameSet.identityMode = .v2
  valid : validateV2FrameSet frameSet = .ok ()

/-- The manifests and the members are those of sets of this origin. -/
structure Database.Stores (origin : SynchronizedFrameSet → Prop) (db : Database) : Prop where
  manifests : ∀ manifest ∈ db.manifests.rows, ∃ frameSet timestampMs, Storable origin frameSet ∧
    manifest = newManifest frameSet timestampMs ∧
      db.membersOf manifest.frameSetUid =
        (sortedMembers frameSet).map (newMember frameSet.uid)
  members : ∀ member ∈ db.members.rows, db.manifests.find member.frameSetUid ≠ none

/-- The rows that a plan inserts are those of a set of this origin. -/
def PersistPlan.OfSet (origin : SynchronizedFrameSet → Prop) : PersistPlan → Prop
  | .insert plan => ∃ frameSet timestampMs, Storable origin frameSet ∧
      plan.manifest = newManifest frameSet timestampMs ∧
        plan.members = (sortedMembers frameSet).map (newMember frameSet.uid)
  | _ => True

section Steps

variable {origin : SynchronizedFrameSet → Prop} {db : Database}

theorem persistRead_ofSet {frameSet : SynchronizedFrameSet} (horigin : origin frameSet)
    (db : Database) (createdAtMs : Option ℤ) (nowMs : ℤ) :
    (persistRead db frameSet createdAtMs nowMs).OfSet origin := by
  by_cases hmode : frameSet.identityMode = .v2
  · rcases persistRead_cases db frameSet createdAtMs nowMs with ⟨_, h⟩ | h | ⟨hvalid, -, h⟩
    · rw [h]
      trivial
    · rw [h]
      trivial
    · rw [h]
      exact ⟨frameSet, createdAtMs.getD nowMs, ⟨horigin, hmode, hvalid⟩, rfl, rfl⟩
  · unfold persistRead
    rw [if_pos hmode]
    trivial

theorem Database.Stores.of_rows (h : db.Stores origin) {db' : Database}
    (hmanifests : db'.manifests = db.manifests) (hmembers : db'.members = db.members) :
    db'.Stores origin := by
  constructor
  · rw [hmanifests]
    intro manifest hmanifest
    unfold membersOf
    rw [hmembers]
    exact h.manifests manifest hmanifest
  · rw [hmanifests, hmembers]
    exact h.members

/-- An insertion stores the rows of its set and leaves the rows of the others. -/
theorem Database.Stores.insert (h : db.Stores origin) {plan : InsertPlan} (hfits : plan.Fits db)
    (hplan : (PersistPlan.insert plan).OfSet origin) : (plan.apply db).Stores origin := by
  obtain ⟨frameSet, timestampMs, hstorable, hmanifest, hmembers⟩ := hplan
  have hrows : (plan.apply db).members.rows = db.members.rows ++ plan.members :=
    rows_putRows_of_fresh db.members hfits.sources hfits.sources_nodup
  have hmanifests : (plan.apply db).manifests.rows = db.manifests.rows ++ [plan.manifest] :=
    Table.rows_put_of_absent _ hfits.manifest
  have huid : ∀ member ∈ plan.members, member.frameSetUid = plan.manifest.frameSetUid := by
    intro member hmember
    rw [hmembers] at hmember
    obtain ⟨frame, -, rfl⟩ := List.mem_map.mp hmember
    rw [hmanifest]
    rfl
  have hsplit : ∀ uid, (plan.apply db).membersOf uid =
      db.membersOf uid ++ plan.members.filter fun member => member.frameSetUid = uid := by
    intro uid
    unfold membersOf
    rw [hrows, List.filter_append]
  constructor
  case manifests =>
    intro manifest hmem
    rw [hmanifests, List.mem_append, List.mem_singleton] at hmem
    rcases hmem with hold | rfl
    · obtain ⟨stored, timestampMs', hstored, heq, hown⟩ := h.manifests manifest hold
      refine ⟨stored, timestampMs', hstored, heq, ?_⟩
      have hnone : (plan.members.filter fun member => member.frameSetUid = manifest.frameSetUid) =
          [] := by
        refine List.filter_eq_nil_iff.mpr fun member hmember heq' => ?_
        have hsame := (huid member hmember).symm.trans (of_decide_eq_true heq')
        exact db.manifests.find_ne_none_of_mem hold (hsame ▸ hfits.manifest)
      rw [hsplit, hnone, List.append_nil, hown]
    · refine ⟨frameSet, timestampMs, hstorable, hmanifest, ?_⟩
      have hnone : db.membersOf plan.manifest.frameSetUid = [] := by
        refine List.filter_eq_nil_iff.mpr fun member hmember heq => ?_
        exact h.members member hmember ((of_decide_eq_true heq).symm ▸ hfits.manifest)
      have hall : (plan.members.filter fun member =>
          member.frameSetUid = plan.manifest.frameSetUid) = plan.members :=
        List.filter_eq_self.mpr fun member hmember => decide_eq_true (huid member hmember)
      rw [hsplit, hnone, hall, List.nil_append, hmembers]
  case members =>
    intro member hmember
    rw [hrows, List.mem_append] at hmember
    show (db.manifests.put plan.manifest).find member.frameSetUid ≠ none
    rw [Table.find_put]
    rcases hmember with hold | hnew
    · split
      · simp
      · exact h.members member hold
    · rw [if_pos (huid member hnew)]
      simp

theorem Database.Stores.commit (h : db.Stores origin) (frameSet : SynchronizedFrameSet)
    {plan : PersistPlan} (hplan : plan.OfSet origin) :
    (persistCommit db frameSet plan).1.Stores origin := by
  rcases persistCommit_cases db frameSet plan with
    hsame | ⟨projection, rfl, -, hput⟩ | ⟨insertion, rfl, hfits, happly⟩
  · rw [hsame]
    exact h
  · rw [hput]
    exact h.of_rows rfl rfl
  · rw [happly]
    exact h.insert hfits hplan

/-! ## The other transactions -/

theorem members_recordFrame (detectedAtMs : ℤ) (state : Reconciling) (frame : Frame)
    (inspection : Inspection) :
    (state.recordFrame detectedAtMs frame inspection).db.members = state.db.members := by
  dsimp only [Reconciling.recordFrame]
  split
  · rfl
  split
  · rfl
  · dsimp only [Reconciling.degradeFrameAndProjections]
    refine List.foldlRecOn _ _
      (motive := fun degraded : Reconciling => degraded.db.members = state.db.members) rfl ?_
    intro degraded hdegraded uid _
    dsimp only [Reconciling.degradeProjection]
    split
    · exact hdegraded
    split
    · exact hdegraded
    · exact hdegraded

theorem db_recordPath (state : Reconciling) (entry : ArchivePath) (resolved : Option String) :
    (state.recordPath entry resolved).db = state.db := by
  dsimp only [Reconciling.recordPath]
  split
  · rfl
  split
  · rfl
  split
  · rfl
  · rfl

theorem members_reconcileArchive (files : ArchiveFiles) (db : Database) (detectedAtMs : ℤ) :
    (reconcileArchive files db detectedAtMs).1.members = db.members := by
  dsimp only [reconcileArchive]
  split
  · rfl
  · rename_i finished hrun
    split
    · refine Reconciling.run_invariant
        (P := fun state : Reconciling => state.db.members = db.members) rfl ?_ ?_ hrun
      · intro state frame inspection hstate
        rw [members_recordFrame, hstate]
      · intro state entry resolved hstate
        rw [db_recordPath, hstate]
    · rfl

open LatestLive in
/-- Only persisting writes member rows. -/
theorem members_storeStep (db : Database) {op : StoreOp} (hop : op.persisted? = none) :
    (storeStep db op).1.members = db.members := by
  have hensure : ∀ timestampMs, (ensureStateRow db timestampMs).members = db.members := by
    intro timestampMs
    unfold ensureStateRow
    split <;> rfl
  have hmove : ∀ key liveState reason timestampMs change,
      (moveCurrent db key liveState reason timestampMs change).1.members = db.members := by
    intro key liveState reason timestampMs change
    dsimp only [moveCurrent]
    split
    · rfl
    · split <;> rfl
  cases op with
  | claimLatest credit offeredAtMs =>
      dsimp only [storeStep, claimLatest, Prod.map, id]
      split
      · exact hensure _
      split
      · rfl
      · exact hensure _
      split
      · rfl
      · rename_i hclaimed
        dsimp only [claimCandidate] at hclaimed
        split at hclaimed
        · cases hclaimed
          exact hensure _
        · cases hclaimed
  | markUnresolved => exact hmove _ _ _ _ _
  | applyRemoteStatus =>
      dsimp only [storeStep, applyRemoteStatus, Prod.map, id]
      split
      · rfl
      · exact hmove _ _ _ _ _
  | releaseBeforeSend =>
      dsimp only [storeStep, releaseBeforeSend, Prod.map, id]
      split
      · rfl
      · exact hmove _ _ _ _ _
  | retireEligible =>
      dsimp only [storeStep, retireEligible, Prod.map, id]
      split
      · rfl
      · split <;> rfl
  | reconcileNotFound =>
      dsimp only [storeStep, reconcileNotFound, Prod.map, id]
      exact hmove _ _ _ _ _
  | bindProcessingJob =>
      dsimp only [storeStep, bindProcessingJob, Prod.map, id]
      split
      · rfl
      split
      · rfl
      · exact hensure _
  | persistFrameSetManifest => cases hop
  | updateDeliveryProjection =>
      dsimp only [storeStep, updateDeliveryProjection, Prod.map, id]
      split
      · rfl
      · split <;> rfl
  | reconcileArchive files detectedAtMs => exact members_reconcileArchive files db detectedAtMs
  | writeFrames => rfl

theorem Database.Stores.storeStep (h : db.Stores origin) {op : StoreOp}
    (hop : ∀ frameSet, op.persisted? = some frameSet → origin frameSet) :
    (ImageStream.storeStep db op).1.Stores origin := by
  cases hpersisted : op.persisted? with
  | none =>
      refine h.of_rows ?_ (members_storeStep db hpersisted)
      rcases manifests_storeStep db op with hsame | ⟨frameSet, _, hsome, -⟩
      · exact hsame
      · rw [hpersisted] at hsome
        cases hsome
  | some frameSet =>
      cases op with
      | persistFrameSetManifest persisted createdAtMs nowMs =>
          exact h.commit persisted
            (persistRead_ofSet (hop persisted rfl) db createdAtMs nowMs)
      | _ => cases hpersisted

end Steps

/-! ## Runs -/

/-- The set that an operation is going to store. -/
def RaceOp.persisted? : RaceOp → Option SynchronizedFrameSet
  | .store op => op.persisted?
  | .read _ frameSet _ _ => some frameSet
  | .commit _ => none

/-- What is stored, and what the pending calls are going to store, is of this origin. -/
structure Racing.Stores (origin : SynchronizedFrameSet → Prop) (s : Racing) : Prop where
  db : s.db.Stores origin
  pending : ∀ call frameSet plan, s.pending.get? call = some (frameSet, plan) →
    plan.OfSet origin

section Runs

variable {origin : SynchronizedFrameSet → Prop} {s : Racing}

theorem Racing.Stores.empty (origin : SynchronizedFrameSet → Prop) :
    ({} : Racing).Stores origin where
  db := ⟨fun _ h => (by cases h), fun _ h => (by cases h)⟩
  pending _ _ _ h := by cases h

theorem Racing.Stores.raceStep (h : s.Stores origin) {op : RaceOp}
    (hop : ∀ frameSet, op.persisted? = some frameSet → origin frameSet) :
    (ImageStream.raceStep s op).1.Stores origin := by
  cases op with
  | store op => exact ⟨h.db.storeStep hop, h.pending⟩
  | read call frameSet createdAtMs nowMs =>
      dsimp only [ImageStream.raceStep]
      split
      · exact h
      · refine ⟨h.db, fun call' frameSet' plan hpending => ?_⟩
        dsimp only at hpending
        rw [Dict.get?_set] at hpending
        split at hpending
        · cases hpending
          exact persistRead_ofSet (hop frameSet rfl) s.db createdAtMs nowMs
        · exact h.pending call' frameSet' plan hpending
  | commit call =>
      dsimp only [ImageStream.raceStep]
      split
      · exact h
      · rename_i frameSet plan hpending
        refine ⟨h.db.commit frameSet (h.pending call frameSet plan hpending),
          fun call' frameSet' plan' hpending' => ?_⟩
        dsimp only at hpending'
        rw [Dict.get?_pop] at hpending'
        split at hpending'
        · cases hpending'
        · exact h.pending call' frameSet' plan' hpending'

/-- The members of a set as a claim has them. -/
def liveMembers (frameSet : SynchronizedFrameSet) : List LiveFrameMember :=
  (sortedMembers frameSet).map fun frame => (newMember frameSet.uid frame).live

/-- A claim of a stored manifest reads the members of its set. -/
theorem Database.Stores.snapshot {db : Database} (h : db.Stores origin)
    {manifest : FrameSetManifest} (hmanifest : manifest ∈ db.manifests.rows)
    (credit : CreditIdentity) (offeredAtMs : ℤ) :
    ∃ frameSet timestampMs, Storable origin frameSet ∧
      manifest = newManifest frameSet timestampMs ∧
        (LatestLive.snapshot db manifest credit offeredAtMs).members = liveMembers frameSet := by
  obtain ⟨frameSet, timestampMs, hstorable, heq, hmembers⟩ := h.manifests manifest hmanifest
  refine ⟨frameSet, timestampMs, hstorable, heq, ?_⟩
  have hsorted : ((sortedMembers frameSet).map (newMember frameSet.uid)).Pairwise
      fun first second => first.cameraStreamId ≤ second.cameraStreamId := by
    rw [List.pairwise_map]
    exact List.pairwise_insertionSort
      (fun first second : StoredSyncFrame =>
        first.cameraStreamId.getD "" ≤ second.cameraStreamId.getD "") frameSet.members
  show (List.insertionSort _ (db.membersOf manifest.frameSetUid)).map FrameSetMember.live = _
  rw [hmembers, hsorted.insertionSort_eq, List.map_map]
  rfl

/-- The claim that an exchange has made. -/
def RaceExchange.claim? (e : RaceExchange) : Option ClaimedFrameSet :=
  match e.output with
  | .store answer => answer.claim?
  | _ => none

/-- **What a claim says.** In every run of the store in which only sets of some origin are
persisted, a claim is the snapshot of the manifest of one of these sets, with its members. -/
theorem exists_stored_of_claim {ops : List RaceOp}
    (hops : ∀ op ∈ ops, ∀ frameSet, op.persisted? = some frameSet → origin frameSet)
    {e : RaceExchange} (he : e ∈ Machine.history raceStep {} ops) {claim : ClaimedFrameSet}
    (hclaim : e.claim? = some claim) :
    ∃ frameSet timestampMs db credit offeredAtMs, Storable origin frameSet ∧
      claim = LatestLive.snapshot db (newManifest frameSet timestampMs) credit offeredAtMs ∧
        claim.members = liveMembers frameSet := by
  obtain ⟨hbefore, hexchange, hmem⟩ := Machine.invariant_before_of_inputs raceStep
    (Racing.Stores.empty origin) (fun s op hop h => h.raceStep (hops op hop)) he
  have hafter := hbefore.raceStep (hops _ hmem)
  unfold RaceExchange.claim? at hclaim
  rw [hexchange] at hclaim
  cases hinput : e.input with
  | read call frameSet createdAtMs nowMs =>
      rw [hinput] at hclaim
      cases hpending : e.before.pending.get? call <;>
        simp [Machine.exchange, raceStep, hpending] at hclaim
  | commit call =>
      rw [hinput] at hclaim
      cases hpending : e.before.pending.get? call <;>
        simp [Machine.exchange, raceStep, hpending] at hclaim
  | store op =>
      rw [hinput] at hclaim hafter
      have heffect := storeStep_effect e.before.db op
      change (storeStep e.before.db op).2.claim? = some claim at hclaim
      have hstores : (storeStep e.before.db op).1.Stores origin := hafter.db
      cases heffect with
      | claimed credit offeredAtMs candidate empty picked was now others offer claimed found =>
          rw [claimed] at hclaim
          cases hclaim
          have hnewest := LatestLive.getNewestEligibleManifest_of_newestEligible picked
          have hcandidate := (List.mem_filter.mp (List.argmax_mem hnewest)).1
          rw [LatestLive.manifests_ensureStateRow] at hcandidate
          have hstored := Table.mem_of_find _ (find_manifests_storeStep e.before.db op
            (e.before.db.manifests.find_of_mem hcandidate))
          obtain ⟨frameSet, timestampMs, hstorable, rfl, hmembers⟩ :=
            hstores.snapshot hstored credit offeredAtMs
          exact ⟨frameSet, timestampMs, _, credit, offeredAtMs, hstorable, rfl, hmembers⟩
      | background items offer unclaimed =>
          rw [unclaimed] at hclaim
          cases hclaim
      | moved key state current held now others offer unclaimed =>
          rw [unclaimed] at hclaim
          cases hclaim
      | released key state current ended offered now others offer unclaimed =>
          rw [unclaimed] at hclaim
          cases hclaim
      | notFound key retryAllowed current now others offer unclaimed =>
          rw [unclaimed] at hclaim
          cases hclaim

end Runs

end ImageStream
