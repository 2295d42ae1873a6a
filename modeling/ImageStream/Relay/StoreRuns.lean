/-
# Runs of the live store

The store's methods, the persisting of manifests, the projection updates of ingest
and archive reconciliation write the same tables, each in one transaction. Here they
are the inputs of one machine. `StoreEffect` says once what a transaction can do to
the live states and to the offer columns, and `manifests_storeStep` what it can do to
the manifests; whatever holds of every run follows from these two.
-/

import ImageStream.Base.Custody
import ImageStream.Ingest.Reconciliation
import ImageStream.Relay.LatestLive
import ImageStream.Sync.ManifestAcceptance

namespace ImageStream

open Base

/-- How far a frame set in a live state has come. -/
def LiveState.stage : LiveState → Stage
  | .eligible => .waiting
  | .offered | .unresolved | .accepted | .started => .held
  | .rejected | .completed | .failed | .recoveryRequired | .expiredBeforeOffer
  | .supersededBeforeOffer | .sessionInactive => .done

/-- The columns of the client state that offers depend on. -/
def RelayV2ClientState.offer (state : RelayV2ClientState) : RelayV2ClientState :=
  { state with processingJobId := none, processingJobCaptureRunId := none, updatedAtMs := 0 }

/-- The live states of the projections, and the frame set in flight. -/
def Database.custody (db : Database) : Custody String LiveState where
  status := db.liveState?
  holder := db.inFlight?

/-! ## The machine -/

inductive StoreOp
  | claimLatest (credit : CreditIdentity) (offeredAtMs : ℤ)
  | markUnresolved (key : FrameSetKey) (reason : String) (updatedAtMs : ℤ)
  | applyRemoteStatus (key : FrameSetKey) (state : LiveState) (reason : Option String)
      (updatedAtMs : ℤ)
  | releaseBeforeSend (key : FrameSetKey) (state : LiveState) (reason : String)
      (updatedAtMs : ℤ)
  | retireEligible (key : FrameSetKey) (state : LatestLive.RetiredState) (reason : String)
      (updatedAtMs : ℤ)
  | reconcileNotFound (key : FrameSetKey) (retryAllowed : Bool) (updatedAtMs : ℤ)
  | bindProcessingJob (captureRunId processingJobId : String) (updatedAtMs : ℤ)
  | persistFrameSetManifest (frameSet : SynchronizedFrameSet) (createdAtMs : Option ℤ)
      (nowMs : ℤ)
  /-- `update_delivery_projection` as ingest calls it, without a live state. -/
  | updateDeliveryProjection (frameSetUid : String) (archiveState : Option ArchiveState)
      (legacyRelayState : Option LegacyRelayState) (reason : Option String) (updatedAtMs : ℤ)
  | reconcileArchive (files : ArchiveFiles) (detectedAtMs : ℤ)
  /-- Whatever else writes frame rows. -/
  | writeFrames (frames : Table Frame.id)

inductive StoreAnswer
  | claimed (result : Except StoreError (Option ClaimedFrameSet))
  | changed (result : Except StoreError Bool)
  | bound (result : Except StoreError Unit)
  | persisted (result : Except ManifestError Bool)
  | reconciled (result : Except ReconciliationError ArchiveReconciliationReport)
  | written
  deriving DecidableEq

open LatestLive in
def storeStep (db : Database) : StoreOp → Database × StoreAnswer
  | .claimLatest credit offeredAtMs =>
      (claimLatest db credit offeredAtMs).map id .claimed
  | .markUnresolved key reason updatedAtMs =>
      (markUnresolved db key reason updatedAtMs).map id .changed
  | .applyRemoteStatus key state reason updatedAtMs =>
      (applyRemoteStatus db key state reason updatedAtMs).map id .changed
  | .releaseBeforeSend key state reason updatedAtMs =>
      (releaseBeforeSend db key state reason updatedAtMs).map id .changed
  | .retireEligible key state reason updatedAtMs =>
      (retireEligible db key state reason updatedAtMs).map id fun retired => .changed (.ok retired)
  | .reconcileNotFound key retryAllowed updatedAtMs =>
      (reconcileNotFound db key retryAllowed updatedAtMs).map id .changed
  | .bindProcessingJob captureRunId processingJobId updatedAtMs =>
      (bindProcessingJob db captureRunId processingJobId updatedAtMs).map id .bound
  | .persistFrameSetManifest frameSet createdAtMs nowMs =>
      (persistFrameSetManifest db frameSet createdAtMs nowMs).map id .persisted
  | .updateDeliveryProjection frameSetUid archiveState legacyRelayState reason updatedAtMs =>
      (updateDeliveryProjection db frameSetUid
        { archiveState := archiveState, legacyRelayState := legacyRelayState, reason := reason }
        updatedAtMs).map id fun updated => .changed (.ok updated)
  | .reconcileArchive files detectedAtMs =>
      (reconcileArchive files db detectedAtMs).map id .reconciled
  | .writeFrames frames => ({ db with frames := frames }, .written)

abbrev StoreExchange : Type := Exchange Database StoreOp StoreAnswer

/-- The claim that a transaction has made. -/
def StoreAnswer.claim? : StoreAnswer → Option ClaimedFrameSet
  | .claimed (.ok claim) => claim
  | _ => none

/-- The set in flight that a `reconcile_not_found` has ended, with its retry decision. -/
def notFound? : StoreOp → StoreAnswer → Option (FrameSetKey × Bool)
  | .reconcileNotFound key retryAllowed _, .changed (.ok true) => some (key, retryAllowed)
  | _, _ => none

/-! ## What a transaction can do -/

/-- What a transaction can do to the live states and to the offer columns. -/
inductive StoreEffect (db : Database) (op : StoreOp) (db' : Database) (answer : StoreAnswer) : Prop
  /-- No frame set is claimed, moved or released. -/
  | background (items : ∀ uid, Custody.Idle LiveState.stage (db.liveState? uid) (db'.liveState? uid))
      (offer : db'.client.offer = db.client.offer) (unclaimed : answer.claim? = none)
      (found : notFound? op answer = none)
  | claimed (credit : CreditIdentity) (offeredAtMs : ℤ) (candidate : FrameSetManifest)
      (empty : db.inFlight? = none)
      (picked : LatestLive.newestEligible (LatestLive.ensureStateRow db offeredAtMs)
        (LatestLive.ensureStateRow db offeredAtMs).client = .ok (some candidate))
      (was : db.liveState? candidate.frameSetUid = some .eligible)
      (now : db'.liveState? candidate.frameSetUid = some .offered)
      (others : ∀ uid, uid ≠ candidate.frameSetUid → db'.liveState? uid = db.liveState? uid)
      (offer : db'.client.offer = (db.client.claiming candidate credit offeredAtMs).offer)
      (claim : answer.claim? = some (LatestLive.snapshot db' candidate credit offeredAtMs))
      (found : notFound? op answer = none)
  /-- The frame set in flight stays in flight. -/
  | moved (key : FrameSetKey) (state : LiveState) (current : LatestLive.matchesCurrent db key)
      (held : state.stage = .held) (now : db'.liveState? key.frameSetUid = some state)
      (others : ∀ uid, uid ≠ key.frameSetUid → db'.liveState? uid = db.liveState? uid)
      (offer : db'.client.offer = db.client.offer) (unclaimed : answer.claim? = none)
      (found : notFound? op answer = none)
  /-- The flight ends. -/
  | released (key : FrameSetKey) (state : LiveState) (current : LatestLive.matchesCurrent db key)
      (ended : state.stage = .done) (offered : state ≠ .supersededBeforeOffer)
      (now : db'.liveState? key.frameSetUid = some state)
      (others : ∀ uid, uid ≠ key.frameSetUid → db'.liveState? uid = db.liveState? uid)
      (offer : db'.client.offer = db.client.released.offer) (unclaimed : answer.claim? = none)
      (found : notFound? op answer = none)
  /-- The frame set in flight has not been found by the processor. -/
  | notFound (key : FrameSetKey) (retryAllowed : Bool)
      (current : LatestLive.matchesCurrent db key)
      (now : db'.liveState? key.frameSetUid =
        some (if retryAllowed then .eligible else .supersededBeforeOffer))
      (others : ∀ uid, uid ≠ key.frameSetUid → db'.liveState? uid = db.liveState? uid)
      (offer : db'.client.offer = ({ db.client.released with
        reofferFrameSetUid := if retryAllowed then some key.frameSetUid else none } :
          RelayV2ClientState).offer)
      (unclaimed : answer.claim? = none) (found : notFound? op answer = some (key, retryAllowed))

/-! ### Small facts -/

section Facts

variable (db : Database)

theorem Database.liveState?_updateProjection (uid : String)
    (f : FrameSetDeliveryProjection → FrameSetDeliveryProjection)
    (hf : ∀ projection, (f projection).frameSetUid = projection.frameSetUid) (uid' : String) :
    (db.updateProjection uid f hf).liveState? uid' =
      if uid' = uid then (db.projections.find uid').map fun projection => (f projection).liveState
      else db.liveState? uid' := by
  unfold Database.liveState? Database.updateProjection
  dsimp only
  rw [Table.find_update]
  split
  · rw [Option.map_map]
    rfl
  · rfl

/-- A projection that is moved has the new live state, and the others keep theirs. -/
theorem Database.liveState?_moved {uid : String} {before : LiveState}
    (hbefore : db.liveState? uid = some before) (state : LiveState) (reason : Option String)
    (timestampMs : ℤ) (uid' : String) :
    (db.updateProjection uid (·.moved state reason timestampMs) fun _ => rfl).liveState? uid' =
      if uid' = uid then some state else db.liveState? uid' := by
  refine (db.liveState?_updateProjection uid _ _ uid').trans ?_
  split
  · rename_i huid
    obtain ⟨projection, hfind, -⟩ := Option.map_eq_some_iff.mp hbefore
    rw [huid, hfind]
    rfl
  · rfl

@[simp]
theorem LatestLive.projections_ensureStateRow (timestampMs : ℤ) :
    (LatestLive.ensureStateRow db timestampMs).projections = db.projections := by
  unfold LatestLive.ensureStateRow
  split <;> rfl

@[simp]
theorem LatestLive.manifests_ensureStateRow (timestampMs : ℤ) :
    (LatestLive.ensureStateRow db timestampMs).manifests = db.manifests := by
  unfold LatestLive.ensureStateRow
  split <;> rfl

@[simp]
theorem LatestLive.liveState?_ensureStateRow (timestampMs : ℤ) :
    (LatestLive.ensureStateRow db timestampMs).liveState? = db.liveState? := by
  funext uid
  simp [Database.liveState?]

/-- A new row has nothing in its columns, as has a missing one. -/
@[simp]
theorem LatestLive.offer_ensureStateRow (timestampMs : ℤ) :
    (LatestLive.ensureStateRow db timestampMs).client.offer = db.client.offer := by
  unfold LatestLive.ensureStateRow
  split
  · rfl
  · rename_i hnone
    simp [Database.client, hnone, RelayV2ClientState.offer]

@[simp]
theorem LatestLive.inFlight?_ensureStateRow (timestampMs : ℤ) :
    (LatestLive.ensureStateRow db timestampMs).inFlight? = db.inFlight? := by
  have hoffer := LatestLive.offer_ensureStateRow db timestampMs
  exact congrArg (fun offer => offer.inFlightFrameSetUid) hoffer

theorem liveState?_of_isEligible {manifest : FrameSetManifest}
    (h : isEligible db manifest = true) :
    db.liveState? manifest.frameSetUid = some .eligible := by
  obtain ⟨projection, hfind, heligible⟩ := (Option.any_eq_true _ _).mp h
  have hstate : projection.liveState = .eligible := by simpa using (Bool.and_eq_true_iff.mp heligible).2
  simp [Database.liveState?, hfind, hstate]

/-- The pick of a claim is the newest eligible manifest. -/
theorem LatestLive.getNewestEligibleManifest_of_newestEligible {db : Database}
    {state : RelayV2ClientState} {candidate : FrameSetManifest}
    (h : LatestLive.newestEligible db state = .ok (some candidate)) :
    getNewestEligibleManifest db = some candidate := by
  unfold LatestLive.newestEligible at h
  split at h
  · cases h
  · cases h
    assumption
  split at h
  · cases h
    assumption
  split at h
  · cases h
  split at h
  · split at h
    · cases h
      assumption
    · cases h
  · split at h
    · cases h
      assumption
    · cases h

theorem LatestLive.inFlight?_of_matchesCurrent {key : FrameSetKey}
    (h : LatestLive.matchesCurrent db key = true) : db.inFlight? = some key.frameSetUid := by
  unfold LatestLive.matchesCurrent at h
  unfold Database.inFlight? Database.client
  cases hstate : db.clientState with
  | none => simp [hstate] at h
  | some state =>
      rw [hstate] at h
      simp only [Option.any_some, Bool.and_eq_true, decide_eq_true_eq] at h
      simpa using h.1

end Facts

/-! ### One lemma for each transaction -/

section Effects

open LatestLive

variable {db : Database} {op : StoreOp}

/-- A transaction that leaves the database as it is. -/
theorem StoreEffect.unchanged {answer : StoreAnswer} (unclaimed : answer.claim? = none)
    (found : notFound? op answer = none) :
    StoreEffect db op db answer :=
  .background (fun _ => .same _) rfl unclaimed found

theorem claimLatest_effect (credit : CreditIdentity) (offeredAtMs : ℤ) :
    StoreEffect db (.claimLatest credit offeredAtMs) (claimLatest db credit offeredAtMs).1
      (.claimed (claimLatest db credit offeredAtMs).2) := by
  have hensured : StoreEffect db (.claimLatest credit offeredAtMs) (ensureStateRow db offeredAtMs)
      (.claimed (.ok none)) := by
    apply StoreEffect.background
    · intro uid
      rw [liveState?_ensureStateRow]
      exact .same _
    · exact offer_ensureStateRow db offeredAtMs
    · rfl
    · rfl
  dsimp only [claimLatest]
  by_cases hflight : (ensureStateRow db offeredAtMs).client.inFlightFrameSetUid ≠ none
  · rw [if_pos hflight]
    exact hensured
  rw [if_neg hflight]
  cases hpicked : newestEligible (ensureStateRow db offeredAtMs)
      (ensureStateRow db offeredAtMs).client with
  | error e => exact .unchanged rfl rfl
  | ok picked =>
      cases picked with
      | none => exact hensured
      | some candidate =>
          dsimp only
          cases hclaimed : claimCandidate (ensureStateRow db offeredAtMs)
              (ensureStateRow db offeredAtMs).client candidate credit offeredAtMs with
          | none => exact .unchanged rfl rfl
          | some claimed =>
              dsimp only [claimCandidate] at hclaimed
              split at hclaimed
              · rename_i hguard
                cases hclaimed
                have hwas := liveState?_of_isEligible _ hguard.2
                rw [liveState?_ensureStateRow] at hwas
                have hnow := Database.liveState?_moved _
                  (liveState?_of_isEligible _ hguard.2) .offered none offeredAtMs
                refine .claimed credit offeredAtMs candidate ?_ hpicked hwas ?_ ?_ rfl rfl
                  rfl
                · rw [← inFlight?_ensureStateRow db offeredAtMs]
                  exact hguard.1
                · exact (hnow _).trans (if_pos rfl)
                · intro uid huid
                  rw [← liveState?_ensureStateRow db offeredAtMs]
                  exact (hnow uid).trans (if_neg huid)
              · cases hclaimed

/-- What `moveCurrent` leaves when it has moved the set in flight. -/
structure Moved (db : Database) (key : FrameSetKey) (liveState : LiveState)
    (change : RelayV2ClientState → RelayV2ClientState) (db' : Database) : Prop where
  current : matchesCurrent db key
  now : db'.liveState? key.frameSetUid = some liveState
  others : ∀ uid, uid ≠ key.frameSetUid → db'.liveState? uid = db.liveState? uid
  offer : db'.client.offer = (change db.client).offer

theorem moveCurrent_cases (db : Database) (key : FrameSetKey) (liveState : LiveState)
    (reason : Option String) (timestampMs : ℤ)
    (change : RelayV2ClientState → RelayV2ClientState) :
    ((moveCurrent db key liveState reason timestampMs change).1 = db ∧
      (moveCurrent db key liveState reason timestampMs change).2 ≠ .ok true) ∨
    (Moved db key liveState change (moveCurrent db key liveState reason timestampMs change).1 ∧
      (moveCurrent db key liveState reason timestampMs change).2 = .ok true) := by
  dsimp only [moveCurrent]
  by_cases hcurrent : ¬matchesCurrent db key = true
  · rw [if_pos hcurrent]
    exact Or.inl ⟨rfl, by simp⟩
  rw [if_neg hcurrent]
  cases hfind : db.projections.find key.frameSetUid with
  | none => exact Or.inl ⟨rfl, by simp⟩
  | some projection =>
      have hbefore : db.liveState? key.frameSetUid = some projection.liveState := by
        simp [Database.liveState?, hfind]
      have hnow := Database.liveState?_moved db hbefore liveState reason timestampMs
      exact Or.inr ⟨⟨not_not.mp hcurrent, (hnow _).trans (if_pos rfl),
        fun uid huid => (hnow uid).trans (if_neg huid), rfl⟩, rfl⟩

theorem transitionCurrent_effect (key : FrameSetKey) (liveState : LiveState)
    (reason : Option String) (release : Bool) (updatedAtMs : ℤ)
    (hstage : liveState.stage = if release then .done else .held)
    (hoffered : liveState ≠ .supersededBeforeOffer)
    (hop : ∀ answer, notFound? op answer = none) :
    StoreEffect db op (transitionCurrent db key liveState reason release updatedAtMs).1
      (.changed (transitionCurrent db key liveState reason release updatedAtMs).2) := by
  rcases moveCurrent_cases db key liveState reason updatedAtMs
    (fun state => if release then state.released else state) with ⟨hdb, -⟩ | ⟨hmoved, -⟩
  · unfold transitionCurrent
    rw [hdb]
    exact .unchanged rfl (hop _)
  · cases release with
    | false =>
        exact .moved key liveState hmoved.current hstage hmoved.now hmoved.others hmoved.offer
          rfl (hop _)
    | true =>
        exact .released key liveState hmoved.current hstage hoffered hmoved.now hmoved.others
          hmoved.offer rfl (hop _)

theorem applyRemoteStatus_effect (key : FrameSetKey) (state : LiveState)
    (reason : Option String) (updatedAtMs : ℤ) :
    StoreEffect db (.applyRemoteStatus key state reason updatedAtMs)
      (applyRemoteStatus db key state reason updatedAtMs).1
      (.changed (applyRemoteStatus db key state reason updatedAtMs).2) := by
  unfold applyRemoteStatus
  by_cases hremote : ¬isRemoteStatus state = true
  · rw [if_pos hremote]
    exact .unchanged rfl rfl
  · rw [if_neg hremote]
    apply transitionCurrent_effect _ _ _ _ _ _ _ fun _ => rfl
    · cases state <;> first | rfl | exact absurd (by decide) hremote
    · rintro rfl
      exact hremote (by decide)

theorem releaseBeforeSend_effect (key : FrameSetKey) (state : LiveState)
    (reason : String) (updatedAtMs : ℤ) :
    StoreEffect db (.releaseBeforeSend key state reason updatedAtMs)
      (releaseBeforeSend db key state reason updatedAtMs).1
      (.changed (releaseBeforeSend db key state reason updatedAtMs).2) := by
  unfold releaseBeforeSend
  by_cases hstate : state ≠ .expiredBeforeOffer ∧ state ≠ .rejected
  · rw [if_pos hstate]
    exact .unchanged rfl rfl
  · rw [if_neg hstate]
    apply transitionCurrent_effect _ _ _ _ _ _ _ fun _ => rfl
    · cases state <;> first | rfl | exact absurd (by decide) hstate
    · rintro rfl
      exact hstate (by decide)

theorem retireEligible_effect (key : FrameSetKey) (state : RetiredState) (reason : String)
    (updatedAtMs : ℤ) :
    StoreEffect db (.retireEligible key state reason updatedAtMs)
      (retireEligible db key state reason updatedAtMs).1
      (.changed (.ok (retireEligible db key state reason updatedAtMs).2)) := by
  unfold retireEligible
  split
  · exact .unchanged rfl rfl
  split
  · exact .unchanged rfl rfl
  rename_i heligible
  have hbefore := not_not.mp heligible
  refine .background (fun uid => ?_) rfl rfl rfl
  have hnow := db.liveState?_moved hbefore state.live (some reason) updatedAtMs uid
  dsimp only
  rw [hnow]
  split
  · rename_i huid
    rw [huid, hbefore]
    exact .givenUp rfl (by cases state <;> rfl)
  · exact .same _

theorem reconcileNotFound_effect (key : FrameSetKey) (retryAllowed : Bool) (updatedAtMs : ℤ) :
    StoreEffect db (.reconcileNotFound key retryAllowed updatedAtMs)
      (reconcileNotFound db key retryAllowed updatedAtMs).1
      (.changed (reconcileNotFound db key retryAllowed updatedAtMs).2) := by
  unfold reconcileNotFound
  rcases moveCurrent_cases db key _ _ updatedAtMs _ with ⟨hdb, hanswer⟩ | ⟨hmoved, hanswer⟩
  · rw [hdb]
    refine .unchanged rfl ?_
    unfold notFound?
    split
    · rename_i heq
      exact absurd (StoreAnswer.changed.inj heq) hanswer
    · rfl
  · exact .notFound key retryAllowed hmoved.current hmoved.now hmoved.others hmoved.offer rfl
      (by rw [hanswer]; rfl)

theorem bindProcessingJob_effect (captureRunId processingJobId : String) (updatedAtMs : ℤ) :
    StoreEffect db (.bindProcessingJob captureRunId processingJobId updatedAtMs)
      (bindProcessingJob db captureRunId processingJobId updatedAtMs).1
      (.bound (bindProcessingJob db captureRunId processingJobId updatedAtMs).2) := by
  dsimp only [bindProcessingJob]
  split
  · exact .unchanged rfl rfl
  split
  · exact .unchanged rfl rfl
  refine .background (fun uid => ?_) (offer_ensureStateRow db updatedAtMs) rfl rfl
  have hsame : (ensureStateRow db updatedAtMs).liveState? uid = db.liveState? uid := by
    rw [liveState?_ensureStateRow]
  exact hsame ▸ .same _

/-! ### Persisting -/

/-- The projections that a plan supersedes. -/
def PersistPlan.superseded : PersistPlan → List String
  | .insert plan => plan.superseded
  | _ => []

/-- The projection that a plan adds is not in flight. -/
def PersistPlan.AddsIdle : PersistPlan → Prop
  | .finished _ => True
  | .addProjection projection => projection.liveState.stage ≠ .held
  | .insert plan => plan.projection.liveState.stage ≠ .held

theorem planInsert_addsIdle (db : Database) (frameSet : SynchronizedFrameSet) (timestampMs : ℤ) :
    (planInsert db frameSet timestampMs).projection.liveState.stage ≠ .held := by
  dsimp only [planInsert]
  split
  · exact fun h => Stage.noConfusion h
  · exact fun h => Stage.noConfusion h

theorem mem_superseded_planInsert {db : Database} {frameSet : SynchronizedFrameSet}
    {timestampMs : ℤ} {uid : String}
    (h : uid ∈ (planInsert db frameSet timestampMs).superseded) :
    db.liveState? uid = some .eligible := by
  dsimp only [planInsert] at h
  split at h
  · cases h
  · obtain ⟨⟨projection, manifest⟩, hrow, rfl⟩ := List.mem_map.mp h
    obtain ⟨projection', hmem, hpair⟩ := List.mem_filterMap.mp hrow
    obtain ⟨manifest', -, heq⟩ := Option.map_eq_some_iff.mp hpair
    cases heq
    obtain ⟨hmem, heligible⟩ := List.mem_filter.mp hmem
    have hstate : projection.liveState = .eligible := by simpa using heligible
    simp [Database.liveState?, db.projections.find_of_mem hmem, hstate]

/-- What a read plans: nothing, the missing projection, or an insertion. -/
theorem persistRead_cases (db : Database) (frameSet : SynchronizedFrameSet)
    (createdAtMs : Option ℤ) (nowMs : ℤ) :
    (∃ result, persistRead db frameSet createdAtMs nowMs = .finished result) ∨
    persistRead db frameSet createdAtMs nowMs =
      .addProjection (newDeliveryProjection frameSet.uid nowMs .eligible none) ∨
    (validateV2FrameSet frameSet = .ok () ∧ db.manifests.find frameSet.uid = none ∧
      persistRead db frameSet createdAtMs nowMs =
        .insert (planInsert db frameSet (createdAtMs.getD nowMs))) := by
  dsimp only [persistRead]
  by_cases hmode : frameSet.identityMode ≠ .v2
  · exact Or.inl ⟨_, if_pos hmode⟩
  rw [if_neg hmode]
  cases hvalid : validateV2FrameSet frameSet with
  | error e => exact Or.inl ⟨_, rfl⟩
  | ok valid =>
      dsimp only
      cases hmanifest : db.manifests.find frameSet.uid with
      | some existing =>
          dsimp only
          cases verifyExistingManifest existing frameSet with
          | error e => exact Or.inl ⟨_, rfl⟩
          | ok verified =>
              dsimp only
              split
              · exact Or.inr (Or.inl rfl)
              · exact Or.inl ⟨_, rfl⟩
      | none =>
          dsimp only
          cases db.captureRuns.find (frameSet.captureRunId.getD "") with
          | some run =>
              dsimp only
              split
              · exact Or.inl ⟨_, rfl⟩
              split
              · exact Or.inl ⟨_, rfl⟩
              · exact Or.inr (Or.inr ⟨rfl, rfl, rfl⟩)
          | none =>
              dsimp only
              split
              · exact Or.inl ⟨_, rfl⟩
              · exact Or.inr (Or.inr ⟨rfl, rfl, rfl⟩)

/-- What a commit leaves: the database as it was, or with the rows of its plan. -/
theorem persistCommit_cases (db : Database) (frameSet : SynchronizedFrameSet)
    (plan : PersistPlan) :
    (persistCommit db frameSet plan).1 = db ∨
    (∃ projection, plan = .addProjection projection ∧
      db.projections.find projection.frameSetUid = none ∧
      (persistCommit db frameSet plan).1 =
        { db with projections := db.projections.put projection }) ∨
    (∃ insertion, plan = .insert insertion ∧ insertion.Fits db ∧
      (persistCommit db frameSet plan).1 = insertion.apply db) := by
  cases plan with
  | finished result => exact Or.inl rfl
  | addProjection projection =>
      dsimp only [persistCommit]
      split
      · rename_i habsent
        exact Or.inr (Or.inl ⟨projection, rfl, habsent, rfl⟩)
      · exact Or.inl rfl
  | insert insertion =>
      dsimp only [persistCommit]
      split
      · rename_i hfits
        exact Or.inr (Or.inr ⟨insertion, rfl, hfits, rfl⟩)
      · left
        split
        · split <;> rfl
        · rfl

theorem clientState_persistCommit (db : Database) (frameSet : SynchronizedFrameSet)
    (plan : PersistPlan) : (persistCommit db frameSet plan).1.clientState = db.clientState := by
  rcases persistCommit_cases db frameSet plan with h | ⟨_, -, -, h⟩ | ⟨_, -, -, h⟩ <;> rw [h]
  rfl

theorem liveState?_put (db : Database) (projection : FrameSetDeliveryProjection) (uid : String) :
    ({ db with projections := db.projections.put projection } : Database).liveState? uid =
      if uid = projection.frameSetUid then some projection.liveState else db.liveState? uid := by
  dsimp only [Database.liveState?]
  rw [Table.find_put]
  split <;> rfl

/-- A projection that comes in idles in its stage. -/
theorem idle_put {db : Database} {projection : FrameSetDeliveryProjection}
    (habsent : db.projections.find projection.frameSetUid = none)
    (hstage : projection.liveState.stage ≠ .held) (uid : String) :
    Custody.Idle LiveState.stage (db.liveState? uid)
      (({ db with projections := db.projections.put projection } : Database).liveState? uid) := by
  rw [liveState?_put]
  split
  · rename_i huid
    rw [huid, liveState?_eq_none habsent]
    exact .arrives hstage
  · exact .same _

/-- A commit whose superseded projections still wait touches nothing in custody. -/
theorem persistCommit_idle {db : Database} (frameSet : SynchronizedFrameSet) {plan : PersistPlan}
    (hadds : plan.AddsIdle)
    (hwaiting : ∀ uid ∈ plan.superseded, db.liveState? uid = some .eligible) (uid : String) :
    Custody.Idle LiveState.stage (db.liveState? uid)
      ((persistCommit db frameSet plan).1.liveState? uid) := by
  rcases persistCommit_cases db frameSet plan with
    h | ⟨projection, rfl, habsent, h⟩ | ⟨insertion, rfl, hfits, h⟩
  · rw [h]
    exact .same _
  · rw [h]
    exact idle_put habsent hadds uid
  · rw [h, liveState?_apply]
    split
    · rename_i huid
      rw [huid, liveState?_eq_none hfits.projection]
      exact .arrives hadds
    split
    · rename_i hmem
      rw [hwaiting uid hmem]
      exact .givenUp rfl rfl
    · exact .same _

theorem persistRead_addsIdle (db : Database) (frameSet : SynchronizedFrameSet)
    (createdAtMs : Option ℤ) (nowMs : ℤ) :
    (persistRead db frameSet createdAtMs nowMs).AddsIdle := by
  rcases persistRead_cases db frameSet createdAtMs nowMs with ⟨_, h⟩ | h | ⟨-, -, h⟩ <;> rw [h]
  · trivial
  · exact fun h => Stage.noConfusion h
  · exact planInsert_addsIdle _ _ _

/-- A plan supersedes what has been eligible when it was read. -/
theorem persistRead_superseded {db : Database} {frameSet : SynchronizedFrameSet}
    {createdAtMs : Option ℤ} {nowMs : ℤ} {uid : String}
    (huid : uid ∈ (persistRead db frameSet createdAtMs nowMs).superseded) :
    db.liveState? uid = some .eligible := by
  rcases persistRead_cases db frameSet createdAtMs nowMs with ⟨_, h⟩ | h | ⟨-, -, h⟩ <;>
    rw [h] at huid
  · cases huid
  · cases huid
  · exact mem_superseded_planInsert huid

theorem persistFrameSetManifest_effect (frameSet : SynchronizedFrameSet)
    (createdAtMs : Option ℤ) (nowMs : ℤ) :
    StoreEffect db (.persistFrameSetManifest frameSet createdAtMs nowMs)
      (persistFrameSetManifest db frameSet createdAtMs nowMs).1
      (.persisted (persistFrameSetManifest db frameSet createdAtMs nowMs).2) := by
  refine .background ?_ ?_ rfl rfl
  · exact persistCommit_idle frameSet (persistRead_addsIdle _ _ _ _)
      fun uid huid => persistRead_superseded huid
  · have hclient := clientState_persistCommit db frameSet
      (persistRead db frameSet createdAtMs nowMs)
    simp only [persistFrameSetManifest, Database.client, hclient]

/-! ### Updates and reconciliation -/

theorem updateDeliveryProjection_effect (frameSetUid : String)
    (archiveState : Option ArchiveState) (legacyRelayState : Option LegacyRelayState)
    (reason : Option String) (updatedAtMs : ℤ) :
    StoreEffect db (.updateDeliveryProjection frameSetUid archiveState legacyRelayState reason
        updatedAtMs)
      (updateDeliveryProjection db frameSetUid
        { archiveState := archiveState, legacyRelayState := legacyRelayState, reason := reason }
        updatedAtMs).1
      (.changed (.ok (updateDeliveryProjection db frameSetUid
        { archiveState := archiveState, legacyRelayState := legacyRelayState, reason := reason }
        updatedAtMs).2)) := by
  dsimp only [updateDeliveryProjection]
  split
  · refine .background (fun uid => ?_) rfl rfl rfl
    have hnow := db.liveState?_updateProjection frameSetUid
      (ProjectionChange.apply { archiveState, legacyRelayState, reason } updatedAtMs)
      (fun _ => rfl) uid
    dsimp only
    rw [hnow]
    split
    · exact .same _
    · exact .same _
  · rename_i habsent
    split
    · exact .unchanged rfl rfl
    · exact .background (idle_put habsent fun h => Stage.noConfusion h) rfl rfl rfl

/-- What a reconciliation in progress leaves alone. -/
structure Reconciling.Keeps (db : Database) (state : Reconciling) : Prop where
  live : ∀ uid, state.db.liveState? uid = db.liveState? uid
  manifests : state.db.manifests = db.manifests
  clientState : state.db.clientState = db.clientState
  added : ∀ projection ∈ state.added, projection.liveState = .eligible ∧
    db.liveState? projection.frameSetUid = none

theorem Reconciling.Keeps.degradeProjection {state : Reconciling} (h : state.Keeps db)
    (issueType : String) (detectedAtMs : ℤ) (frameSetUid : String) :
    (Reconciling.degradeProjection issueType detectedAtMs state frameSetUid).Keeps db := by
  unfold Reconciling.degradeProjection
  split
  · refine ⟨fun uid => ?_, h.manifests, h.clientState, h.added⟩
    have hnow := state.db.liveState?_updateProjection frameSetUid
      (·.degraded issueType detectedAtMs) (fun _ => rfl) uid
    refine hnow.trans ?_
    rw [← h.live uid]
    split <;> rfl
  · rename_i habsent
    split
    · exact h
    · refine ⟨h.live, h.manifests, h.clientState, fun projection hmem => ?_⟩
      rcases List.mem_append.mp hmem with hold | hnew
      · exact h.added projection hold
      · rw [List.mem_singleton.mp hnew]
        exact ⟨rfl, (h.live frameSetUid).symm.trans (liveState?_eq_none habsent)⟩

theorem Reconciling.Keeps.writeFrames {state : Reconciling} (h : state.Keeps db)
    (frames : Table Frame.id) (referencedPaths : List String)
    (report : ArchiveReconciliationReport) :
    ({ state with
        db := { state.db with frames := frames }
        referencedPaths := referencedPaths
        report := report } : Reconciling).Keeps db :=
  ⟨h.live, h.manifests, h.clientState, h.added⟩

theorem Reconciling.Keeps.recordFrame {state : Reconciling} (h : state.Keeps db)
    (detectedAtMs : ℤ) (frame : Frame) (inspection : Inspection) :
    (state.recordFrame detectedAtMs frame inspection).Keeps db := by
  dsimp only [Reconciling.recordFrame]
  split
  · exact h.writeFrames state.db.frames _ state.report
  split
  · exact h.writeFrames _ _ _
  · dsimp only [Reconciling.degradeFrameAndProjections]
    refine List.foldlRecOn _ _ ?_ fun state hstate uid _ => hstate.degradeProjection _ _ uid
    exact h.writeFrames _ _ _

theorem Reconciling.Keeps.recordPath {state : Reconciling} (h : state.Keeps db)
    (entry : ArchivePath) (resolved : Option String) : (state.recordPath entry resolved).Keeps db := by
  dsimp only [Reconciling.recordPath]
  split
  · exact h
  split
  · exact h.writeFrames state.db.frames state.referencedPaths _
  split
  · exact h.writeFrames state.db.frames state.referencedPaths _
  · exact h

theorem reconcileArchive_keeps {files : ArchiveFiles} {detectedAtMs : ℤ}
    {finished : Reconciling} (h : Reconciling.run files db detectedAtMs = .ok finished) :
    finished.Keeps db := by
  refine Reconciling.run_invariant ?_
    (fun _ frame inspection hstate => hstate.recordFrame detectedAtMs frame inspection)
    (fun _ entry resolved hstate => hstate.recordPath entry resolved) h
  exact ⟨fun _ => rfl, rfl, rfl, fun _ hmem => by cases hmem⟩

theorem reconcileArchive_effect (files : ArchiveFiles) (detectedAtMs : ℤ) :
    StoreEffect db (.reconcileArchive files detectedAtMs)
      (reconcileArchive files db detectedAtMs).1
      (.reconciled (reconcileArchive files db detectedAtMs).2) := by
  dsimp only [reconcileArchive]
  cases hrun : Reconciling.run files db detectedAtMs with
  | error error => exact .unchanged rfl rfl
  | ok finished =>
    have hkeeps := reconcileArchive_keeps hrun
    dsimp only
    split
    · refine .background (fun uid => ?_) ?_ rfl rfl
      · by_cases hadded : ∃ projection ∈ finished.added, projection.frameSetUid = uid
        · obtain ⟨projection, hmem, hfind⟩ := find_putRows_of_mem finished.db.projections hadded
          have huid := Table.key_of_find _ hfind
          have hbefore := (hkeeps.added projection hmem).2
          rw [huid] at hbefore
          have hafter : ({ finished.db with
              projections := putRows finished.db.projections finished.added } :
                Database).liveState? uid = some .eligible := by
            simp [Database.liveState?, hfind, (hkeeps.added projection hmem).1]
          dsimp only
          rw [hbefore, hafter]
          exact .arrives fun h => Stage.noConfusion h
        · have hsame := find_putRows_of_absent finished.db.projections
            fun projection hmem huid => hadded ⟨projection, hmem, huid⟩
          rw [← hkeeps.live uid]
          dsimp only [Database.liveState?]
          rw [hsame]
          exact .same _
      · simp only [Database.client, hkeeps.clientState]
    · exact .unchanged rfl rfl

/-- What a transaction does, whichever it is. -/
theorem storeStep_effect (db : Database) (op : StoreOp) :
    StoreEffect db op (storeStep db op).1 (storeStep db op).2 := by
  cases op with
  | claimLatest credit offeredAtMs => exact claimLatest_effect credit offeredAtMs
  | markUnresolved key reason updatedAtMs =>
      exact transitionCurrent_effect key .unresolved (some reason) false updatedAtMs rfl
        (by decide) fun _ => rfl
  | applyRemoteStatus key state reason updatedAtMs =>
      exact applyRemoteStatus_effect key state reason updatedAtMs
  | releaseBeforeSend key state reason updatedAtMs =>
      exact releaseBeforeSend_effect key state reason updatedAtMs
  | retireEligible key state reason updatedAtMs =>
      exact retireEligible_effect key state reason updatedAtMs
  | reconcileNotFound key retryAllowed updatedAtMs =>
      exact reconcileNotFound_effect key retryAllowed updatedAtMs
  | bindProcessingJob captureRunId processingJobId updatedAtMs =>
      exact bindProcessingJob_effect captureRunId processingJobId updatedAtMs
  | persistFrameSetManifest frameSet createdAtMs nowMs =>
      exact persistFrameSetManifest_effect frameSet createdAtMs nowMs
  | updateDeliveryProjection frameSetUid archiveState legacyRelayState reason updatedAtMs =>
      exact updateDeliveryProjection_effect frameSetUid archiveState legacyRelayState reason
        updatedAtMs
  | reconcileArchive files detectedAtMs => exact reconcileArchive_effect files detectedAtMs
  | writeFrames frames => exact .background (fun _ => .same _) rfl rfl rfl

end Effects

end ImageStream
