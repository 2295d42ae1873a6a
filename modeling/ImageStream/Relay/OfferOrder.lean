/-
# The order of offers

The claims of the store are picks above a watermark: the manifest offered last. A claim
takes a newer manifest, or the watermark itself after `reconcile_not_found` has allowed
another offer of it. Two comparisons decide what is newer, the frame-set number inside
one capture run and the offer order across runs; where the numbers of a run agree with
its synchronization times both say the same.
-/

import ImageStream.Base.Watermark
import ImageStream.Relay.StoreRuns

namespace ImageStream

open Base

/-! ## Manifests only come in -/

/-- The frame set that an operation persists. -/
def StoreOp.persisted? : StoreOp → Option SynchronizedFrameSet
  | .persistFrameSetManifest frameSet _ _ => some frameSet
  | _ => none

/-- Whether a manifest has its order from a frame set. -/
structure FrameSetManifest.Records (manifest : FrameSetManifest)
    (frameSet : SynchronizedFrameSet) : Prop where
  captureRunId : frameSet.captureRunId = some manifest.captureRunId
  frameSetId : manifest.frameSetId = frameSet.frameSetId
  synchronizedAtMs : manifest.synchronizedAtMs = frameSet.synchronizedAtMs

/-- A valid frame set has a capture run. -/
theorem newManifest_records {frameSet : SynchronizedFrameSet}
    (h : validateV2FrameSet frameSet = .ok ()) (timestampMs : ℤ) :
    (newManifest frameSet timestampMs).Records frameSet := by
  refine ⟨?_, rfl, rfl⟩
  unfold validateV2FrameSet at h
  split at h
  · cases h
  · rename_i hmissing
    cases hrun : frameSet.captureRunId with
    | none =>
        refine absurd (fun hnil => ?_) hmissing
        have hmem : "capture_run_id" ∈ missingFields frameSet := by
          simp [missingFields, hrun, truthy]
        rw [hnil] at hmem
        cases hmem
    | some captureRunId => simp [newManifest, hrun]

section Manifests

open LatestLive

variable (db : Database)

theorem manifests_claimLatest (credit : CreditIdentity) (offeredAtMs : ℤ) :
    (claimLatest db credit offeredAtMs).1.manifests = db.manifests := by
  dsimp only [claimLatest]
  split
  · exact manifests_ensureStateRow db offeredAtMs
  split
  · rfl
  · exact manifests_ensureStateRow db offeredAtMs
  split
  · rfl
  · rename_i hclaimed
    dsimp only [claimCandidate] at hclaimed
    split at hclaimed
    · cases hclaimed
      exact manifests_ensureStateRow db offeredAtMs
    · cases hclaimed

theorem manifests_moveCurrent (key : FrameSetKey) (liveState : LiveState)
    (reason : Option String) (timestampMs : ℤ)
    (change : RelayV2ClientState → RelayV2ClientState) :
    (moveCurrent db key liveState reason timestampMs change).1.manifests = db.manifests := by
  dsimp only [moveCurrent]
  split
  · rfl
  · split <;> rfl

theorem manifests_bindProcessingJob (captureRunId processingJobId : String) (updatedAtMs : ℤ) :
    (bindProcessingJob db captureRunId processingJobId updatedAtMs).1.manifests =
      db.manifests := by
  dsimp only [bindProcessingJob]
  split
  · rfl
  split
  · rfl
  · exact manifests_ensureStateRow db updatedAtMs

theorem manifests_reconcileArchive (files : ArchiveFiles) (detectedAtMs : ℤ) :
    (reconcileArchive files db detectedAtMs).1.manifests = db.manifests := by
  dsimp only [reconcileArchive]
  split
  · rfl
  · rename_i finished hrun
    split
    · exact (reconcileArchive_keeps hrun).manifests
    · rfl

/-- Persisting adds one new manifest or none. -/
theorem manifests_persistFrameSetManifest (frameSet : SynchronizedFrameSet)
    (createdAtMs : Option ℤ) (nowMs : ℤ) :
    (persistFrameSetManifest db frameSet createdAtMs nowMs).1.manifests = db.manifests ∨
    (∃ timestampMs, (newManifest frameSet timestampMs).Records frameSet ∧
      db.manifests.find frameSet.uid = none ∧
      (persistFrameSetManifest db frameSet createdAtMs nowMs).1.manifests =
        db.manifests.put (newManifest frameSet timestampMs)) := by
  unfold persistFrameSetManifest
  rcases persistCommit_cases db frameSet (persistRead db frameSet createdAtMs nowMs) with
    h | ⟨projection, -, -, h⟩ | ⟨insertion, hplan, -, h⟩
  · exact Or.inl (by rw [h])
  · exact Or.inl (by rw [h])
  · rcases persistRead_cases db frameSet createdAtMs nowMs with
      ⟨result, hread⟩ | hread | ⟨hvalid, habsent, hread⟩
    · rw [hread] at hplan
      cases hplan
    · rw [hread] at hplan
      cases hplan
    · rw [hread] at hplan
      cases hplan
      exact Or.inr ⟨createdAtMs.getD nowMs, newManifest_records hvalid _, habsent, by rw [h]; rfl⟩

/-- Every transaction leaves the manifests, or adds the one of the set it persists. -/
theorem manifests_storeStep (op : StoreOp) :
    (storeStep db op).1.manifests = db.manifests ∨
    (∃ frameSet timestampMs, op.persisted? = some frameSet ∧
      (newManifest frameSet timestampMs).Records frameSet ∧
      db.manifests.find frameSet.uid = none ∧
      (storeStep db op).1.manifests = db.manifests.put (newManifest frameSet timestampMs)) := by
  cases op with
  | claimLatest credit offeredAtMs => exact Or.inl (manifests_claimLatest db credit offeredAtMs)
  | markUnresolved key reason updatedAtMs => exact Or.inl (manifests_moveCurrent db _ _ _ _ _)
  | applyRemoteStatus key state reason updatedAtMs =>
      left
      dsimp only [storeStep, applyRemoteStatus, Prod.map]
      split
      · rfl
      · exact manifests_moveCurrent db _ _ _ _ _
  | releaseBeforeSend key state reason updatedAtMs =>
      left
      dsimp only [storeStep, releaseBeforeSend, Prod.map]
      split
      · rfl
      · exact manifests_moveCurrent db _ _ _ _ _
  | retireEligible key state reason updatedAtMs =>
      left
      dsimp only [storeStep, retireEligible, Prod.map]
      split
      · rfl
      · split <;> rfl
  | reconcileNotFound key retryAllowed updatedAtMs =>
      left
      dsimp only [storeStep, reconcileNotFound, Prod.map]
      exact manifests_moveCurrent db _ _ _ _ _
  | bindProcessingJob captureRunId processingJobId updatedAtMs =>
      exact Or.inl (manifests_bindProcessingJob db captureRunId processingJobId updatedAtMs)
  | persistFrameSetManifest frameSet createdAtMs nowMs =>
      rcases manifests_persistFrameSetManifest db frameSet createdAtMs nowMs with
        h | ⟨timestampMs, hrecords, habsent, h⟩
      · exact Or.inl h
      · exact Or.inr ⟨frameSet, timestampMs, rfl, hrecords, habsent, h⟩
  | updateDeliveryProjection frameSetUid archiveState legacyRelayState reason updatedAtMs =>
      left
      dsimp only [storeStep, updateDeliveryProjection, Prod.map]
      split
      · rfl
      · split <;> rfl
  | reconcileArchive files detectedAtMs =>
      exact Or.inl (manifests_reconcileArchive db files detectedAtMs)
  | writeFrames frames => exact Or.inl rfl

/-- A stored manifest stays as it is. -/
theorem find_manifests_storeStep (op : StoreOp) {uid : String} {manifest : FrameSetManifest}
    (h : db.manifests.find uid = some manifest) :
    (storeStep db op).1.manifests.find uid = some manifest := by
  rcases manifests_storeStep db op with hsame | ⟨frameSet, timestampMs, -, -, habsent, hput⟩
  · rw [hsame, h]
  · have hne : uid ≠ (newManifest frameSet timestampMs).frameSetUid := by
      rintro rfl
      exact absurd (habsent.symm.trans h) nofun
    rw [hput, Table.find_put_of_ne _ hne, h]

end Manifests

/-! ## What is newer -/

/-- Inside one capture run, the numbers of the persisted frame sets are in the order of
their synchronization times. -/
def RunsOrdered (ops : List StoreOp) : Prop :=
  ∀ first ∈ ops.filterMap StoreOp.persisted?, ∀ second ∈ ops.filterMap StoreOp.persisted?,
    first.captureRunId = second.captureRunId → first.frameSetId < second.frameSetId →
      first.synchronizedAtMs < second.synchronizedAtMs

instance (ops : List StoreOp) : Decidable (RunsOrdered ops) :=
  inferInstanceAs (Decidable (∀ first ∈ ops.filterMap StoreOp.persisted?,
    ∀ second ∈ ops.filterMap StoreOp.persisted?,
      first.captureRunId = second.captureRunId → first.frameSetId < second.frameSetId →
        first.synchronizedAtMs < second.synchronizedAtMs))

/-- Inside one capture run, the numbers of the manifests are in the order of offers. -/
def Database.NumbersInOrder (db : Database) : Prop :=
  ∀ first ∈ db.manifests.rows, ∀ second ∈ db.manifests.rows,
    first.captureRunId = second.captureRunId → first.frameSetId < second.frameSetId →
      first.order < second.order

theorem numbersInOrder {ops : List StoreOp} (hruns : RunsOrdered ops) {db : Database}
    (hrecords : ∀ manifest ∈ db.manifests.rows,
      ∃ frameSet ∈ ops.filterMap StoreOp.persisted?, manifest.Records frameSet) :
    db.NumbersInOrder := by
  intro first hfirst second hsecond hrun hnumber
  obtain ⟨set, hset, hset_records⟩ := hrecords first hfirst
  obtain ⟨set', hset', hset'_records⟩ := hrecords second hsecond
  have htime : set.synchronizedAtMs < set'.synchronizedAtMs := by
    refine hruns set hset set' hset' ?_ ?_
    · rw [hset_records.captureRunId, hset'_records.captureRunId, hrun]
    · have hnumbers := hnumber
      rw [hset_records.frameSetId, hset'_records.frameSetId] at hnumbers
      exact_mod_cast hnumbers
  rw [← hset_records.synchronizedAtMs, ← hset'_records.synchronizedAtMs] at htime
  exact Prod.Lex.toLex_lt_toLex.mpr (Or.inl htime)

/-- A picked manifest is stored, and it is the watermark again or newer than it. -/
theorem newestEligible_newer {db : Database} {state : RelayV2ClientState}
    {candidate : FrameSetManifest} (hnumbers : db.NumbersInOrder)
    (h : LatestLive.newestEligible db state = .ok (some candidate)) :
    candidate ∈ db.manifests.rows ∧
      ∀ uid top, state.watermarkFrameSetUid = some uid → db.manifests.find uid = some top →
        state.reofferFrameSetUid = some candidate.frameSetUid ∨ top.order < candidate.order := by
  dsimp only [LatestLive.newestEligible] at h
  cases hnewest : getNewestEligibleManifest db with
  | none =>
      rw [hnewest] at h
      cases h
  | some newest =>
      have hmem : newest ∈ db.manifests.rows :=
        (List.mem_filter.mp (List.argmax_mem hnewest)).1
      rw [hnewest] at h
      cases hwatermark : state.watermarkFrameSetUid with
      | none =>
          rw [hwatermark] at h
          cases h
          refine ⟨hmem, fun uid top huid => ?_⟩
          cases huid
      | some uid =>
          rw [hwatermark] at h
          dsimp only at h
          split at h
          · rename_i hreoffer
            cases h
            exact ⟨hmem, fun _ _ _ _ => Or.inl hreoffer.symm⟩
          split at h
          · cases h
          rename_i watermark hfind
          -- Both comparisons reject by answering that there is nothing to pick.
          have hpicked : newest = candidate ∧ watermark.order < candidate.order := by
            split at h
            · rename_i hrun
              split at h
              · rename_i hnumber
                cases h
                exact ⟨rfl, hnumbers _ (db.manifests.mem_of_find hfind) _ hmem hrun.symm hnumber⟩
              · cases h
            · split at h
              · rename_i horder
                cases h
                exact ⟨rfl, horder⟩
              · cases h
          refine ⟨hpicked.1 ▸ hmem, fun uid' top huid htop => Or.inr ?_⟩
          cases huid
          rw [hfind] at htop
          cases htop
          exact hpicked.2

/-! ## Offers as picks -/

namespace StoreExchange

/-- The manifest that an exchange has offered. -/
def offered? (e : StoreExchange) : Option FrameSetManifest :=
  e.output.claim?.bind fun claim => e.after.manifests.find claim.key.frameSetUid

/-- The manifest that an exchange has allowed to be offered again. -/
def retried? (e : StoreExchange) : Option FrameSetManifest :=
  match notFound? e.input e.output with
  | some (key, true) =>
      (e.after.manifests.find key.frameSetUid).filter fun manifest => manifest.key = key
  | _ => none

def event (e : StoreExchange) : Watermark.Event FrameSetManifest :=
  match e.offered? with
  | some manifest => .pick manifest
  | none =>
      match e.retried? with
      | some manifest => .grant manifest
      | none => .other

theorem event_of_offered? {e : StoreExchange} {manifest : FrameSetManifest}
    (h : e.offered? = some manifest) : e.event = .pick manifest := by
  unfold event
  rw [h]

/-- A grant is a `reconcile_not_found` that has allowed a retry. -/
theorem notFound?_of_event {e : StoreExchange} {manifest : FrameSetManifest}
    (h : e.event = .grant manifest) : notFound? e.input e.output = some (manifest.key, true) := by
  unfold event at h
  split at h
  · cases h
  split at h
  · rename_i hretried
    cases h
    unfold retried? at hretried
    split at hretried
    · rename_i key hfound
      obtain ⟨-, hkey⟩ := Option.filter_eq_some_iff.mp hretried
      rw [hfound, of_decide_eq_true hkey]
    · cases hretried
  · cases h

theorem picked?_event (e : StoreExchange) : e.event.picked? = e.offered? := by
  unfold event
  cases e.offered? with
  | some manifest => rfl
  | none => cases e.retried? <;> rfl

theorem picks_events (history : List StoreExchange) :
    Watermark.picks (history.map event) = history.filterMap offered? := by
  rw [Watermark.picks, List.filterMap_map]
  congr 1
  funext e
  exact e.picked?_event

end StoreExchange

/-- The manifest offered last, and the one that may be offered again. -/
def Database.watermark (db : Database) : Watermark FrameSetManifest where
  last := db.client.watermarkFrameSetUid.bind db.manifests.find
  again := db.client.reofferFrameSetUid.bind db.manifests.find

/-- What the offers of a run keep, with the frame sets that it persists. -/
structure OffersSound (sets : List SynchronizedFrameSet) (past : List StoreExchange)
    (db : Database) : Prop where
  records : ∀ manifest ∈ db.manifests.rows, ∃ frameSet ∈ sets, manifest.Records frameSet
  stored : ∀ uid, db.client.watermarkFrameSetUid = some uid →
    ∃ manifest, db.manifests.find uid = some manifest
  inFlight : db.inFlight? = none ∨ db.inFlight? = db.client.watermarkFrameSetUid
  reoffer : db.client.reofferFrameSetUid = none ∨
    db.client.reofferFrameSetUid = db.client.watermarkFrameSetUid
  run : Watermark.Run FrameSetManifest.order (past.map StoreExchange.event) db.watermark
  offered : ∀ e ∈ past, ∀ claim, e.output.claim? = some claim →
    ∃ manifest, e.offered? = some manifest ∧ manifest.key = claim.key ∧
      db.manifests.find claim.key.frameSetUid = some manifest

/-- The columns that the order of offers depends on. -/
theorem columns_of_offer {db : Database} {state : RelayV2ClientState}
    (h : db.client.offer = state.offer) :
    db.inFlight? = state.inFlightFrameSetUid ∧
      db.client.watermarkFrameSetUid = state.watermarkFrameSetUid ∧
      db.client.reofferFrameSetUid = state.reofferFrameSetUid := by
  have hoffer : ∀ {β : Type} (f : RelayV2ClientState → β),
      f db.client.offer = f state.offer := fun f => by rw [h]
  exact ⟨hoffer (·.inFlightFrameSetUid), hoffer (·.watermarkFrameSetUid),
    hoffer (·.reofferFrameSetUid)⟩

theorem manifest_of_matchesCurrent {db : Database} {key : FrameSetKey}
    (h : LatestLive.matchesCurrent db key = true) :
    ∃ manifest, db.manifests.find key.frameSetUid = some manifest ∧ manifest.key = key := by
  unfold LatestLive.matchesCurrent at h
  obtain ⟨state, -, hstate⟩ := (Option.any_eq_true _ _).mp h
  obtain ⟨manifest, hfind, hkey⟩ :=
    (Option.any_eq_true _ _).mp (Bool.and_eq_true_iff.mp hstate).2
  exact ⟨manifest, hfind, by simpa using hkey⟩

section Step

variable {sets : List SynchronizedFrameSet} {past : List StoreExchange} {db : Database}

/-- A transaction that leaves the columns leaves the watermark. -/
theorem watermark_eq (h : OffersSound sets past db) {op : StoreOp}
    (hwatermark : (storeStep db op).1.client.watermarkFrameSetUid =
      db.client.watermarkFrameSetUid)
    (hreoffer : (storeStep db op).1.client.reofferFrameSetUid = db.client.reofferFrameSetUid) :
    (storeStep db op).1.watermark = db.watermark := by
  have hkept : ∀ uid, db.client.watermarkFrameSetUid = some uid →
      (storeStep db op).1.manifests.find uid = db.manifests.find uid := by
    intro uid huid
    obtain ⟨manifest, hfind⟩ := h.stored uid huid
    rw [hfind, find_manifests_storeStep db op hfind]
  have hlast : (db.client.watermarkFrameSetUid.bind (storeStep db op).1.manifests.find) =
      db.client.watermarkFrameSetUid.bind db.manifests.find := by
    cases huid : db.client.watermarkFrameSetUid with
    | none => rfl
    | some uid => exact hkept uid huid
  unfold Database.watermark
  rw [hwatermark, hreoffer, hlast]
  rcases h.reoffer with hnone | hsame
  · rw [hnone]
    rfl
  · rw [hsame, hlast]

/-- What does not concern the columns, in one step. -/
theorem OffersSound.snoc (h : OffersSound sets past db) {op : StoreOp}
    (hset : ∀ frameSet, op.persisted? = some frameSet → frameSet ∈ sets)
    (hstored : ∀ uid, (storeStep db op).1.client.watermarkFrameSetUid = some uid →
      ∃ manifest, db.manifests.find uid = some manifest)
    (hinFlight : (storeStep db op).1.inFlight? = none ∨
      (storeStep db op).1.inFlight? = (storeStep db op).1.client.watermarkFrameSetUid)
    (hreoffer : (storeStep db op).1.client.reofferFrameSetUid = none ∨
      (storeStep db op).1.client.reofferFrameSetUid =
        (storeStep db op).1.client.watermarkFrameSetUid)
    (hstep : Watermark.Step FrameSetManifest.order db.watermark
      (StoreExchange.event (Machine.exchange storeStep db op)) (storeStep db op).1.watermark)
    (hclaim : ∀ claim, (storeStep db op).2.claim? = some claim →
      ∃ manifest, db.manifests.find claim.key.frameSetUid = some manifest ∧
        manifest.key = claim.key) :
    OffersSound sets (past ++ [Machine.exchange storeStep db op]) (storeStep db op).1 where
  records := by
    rcases manifests_storeStep db op with hsame | ⟨frameSet, timestampMs, hop, hnew, -, hput⟩
    · rw [hsame]
      exact h.records
    · rw [hput]
      intro manifest hmem
      rcases (Table.mem_put_iff _).mp hmem with rfl | ⟨hold, -⟩
      · exact ⟨frameSet, hset frameSet hop, hnew⟩
      · exact h.records manifest hold
  stored uid huid := by
    obtain ⟨manifest, hfind⟩ := hstored uid huid
    exact ⟨manifest, find_manifests_storeStep db op hfind⟩
  inFlight := hinFlight
  reoffer := hreoffer
  run := by
    rw [List.map_append]
    exact h.run.snoc hstep
  offered := by
    intro e he claim heclaim
    rcases List.mem_append.mp he with hold | hnew
    · obtain ⟨manifest, hoffered, hkey, hfind⟩ := h.offered e hold claim heclaim
      exact ⟨manifest, hoffered, hkey, find_manifests_storeStep db op hfind⟩
    · obtain rfl := List.mem_singleton.mp hnew
      obtain ⟨manifest, hfind, hkey⟩ := hclaim claim heclaim
      have hafter := find_manifests_storeStep db op hfind
      refine ⟨manifest, ?_, hkey, hafter⟩
      simp only [StoreExchange.offered?, Machine.exchange] at heclaim ⊢
      rw [heclaim]
      exact hafter

/-- A transaction that claims nothing and finds nothing missing is no event. -/
theorem event_quiet {op : StoreOp} (hclaim : (storeStep db op).2.claim? = none)
    (hfound : notFound? op (storeStep db op).2 = none) :
    StoreExchange.event (Machine.exchange storeStep db op) = .other := by
  simp [StoreExchange.event, StoreExchange.offered?, StoreExchange.retried?, Machine.exchange,
    hclaim, hfound]

/-- A transaction that leaves the watermark and the reoffer is no event for the offers. -/
theorem OffersSound.quiet (h : OffersSound sets past db) {op : StoreOp}
    (hset : ∀ frameSet, op.persisted? = some frameSet → frameSet ∈ sets)
    (hclaim : (storeStep db op).2.claim? = none)
    (hfound : notFound? op (storeStep db op).2 = none)
    (hinFlight : (storeStep db op).1.inFlight? = none ∨
      (storeStep db op).1.inFlight? = db.inFlight?)
    (hwatermark : (storeStep db op).1.client.watermarkFrameSetUid =
      db.client.watermarkFrameSetUid)
    (hreoffer : (storeStep db op).1.client.reofferFrameSetUid =
      db.client.reofferFrameSetUid) :
    OffersSound sets (past ++ [Machine.exchange storeStep db op]) (storeStep db op).1 := by
  refine h.snoc hset ?_ ?_ ?_ ?_ ?_
  · rw [hwatermark]
    exact h.stored
  · rw [hwatermark]
    rcases hinFlight with hnone | hsame
    · exact Or.inl hnone
    · rw [hsame]
      exact h.inFlight
  · rw [hwatermark, hreoffer]
    exact h.reoffer
  · rw [event_quiet hclaim hfound, watermark_eq h hwatermark hreoffer]
    exact .same
  · intro claim hsome
    rw [hclaim] at hsome
    cases hsome

/-- A claim is a pick of a newer manifest, or of the watermark again. -/
theorem OffersSound.claimed (h : OffersSound sets past db) (hnumbers : db.NumbersInOrder)
    {op : StoreOp} {credit : CreditIdentity} {offeredAtMs : ℤ} {candidate : FrameSetManifest}
    (hset : ∀ frameSet, op.persisted? = some frameSet → frameSet ∈ sets)
    (hpicked : LatestLive.newestEligible (LatestLive.ensureStateRow db offeredAtMs)
      (LatestLive.ensureStateRow db offeredAtMs).client = .ok (some candidate))
    (hoffer : (storeStep db op).1.client.offer =
      (db.client.claiming candidate credit offeredAtMs).offer)
    (hclaim : (storeStep db op).2.claim? =
      some (LatestLive.snapshot (storeStep db op).1 candidate credit offeredAtMs)) :
    OffersSound sets (past ++ [Machine.exchange storeStep db op]) (storeStep db op).1 := by
  obtain ⟨hinFlight, hwatermark, hreoffer⟩ := columns_of_offer hoffer
  obtain ⟨-, hwatermark', hreoffer'⟩ :=
    columns_of_offer (LatestLive.offer_ensureStateRow db offeredAtMs)
  have hnumbers' : (LatestLive.ensureStateRow db offeredAtMs).NumbersInOrder := by
    unfold Database.NumbersInOrder
    rw [LatestLive.manifests_ensureStateRow]
    exact hnumbers
  obtain ⟨hmem, hnewer⟩ := newestEligible_newer hnumbers' hpicked
  rw [LatestLive.manifests_ensureStateRow] at hmem hnewer
  rw [hwatermark', hreoffer'] at hnewer
  have hfind : db.manifests.find candidate.frameSetUid = some candidate :=
    db.manifests.find_of_mem hmem
  have hafter := find_manifests_storeStep db op hfind
  refine h.snoc hset ?_ ?_ ?_ ?_ ?_
  · intro uid huid
    rw [hwatermark] at huid
    cases huid
    exact ⟨candidate, hfind⟩
  · rw [hinFlight, hwatermark]
    exact Or.inr rfl
  · rw [hreoffer]
    exact Or.inl rfl
  · have hevent : StoreExchange.event (Machine.exchange storeStep db op) = .pick candidate := by
      simp only [StoreExchange.event, StoreExchange.offered?, Machine.exchange, hclaim,
        Option.bind_some]
      rw [show (LatestLive.snapshot (storeStep db op).1 candidate credit
        offeredAtMs).key.frameSetUid = candidate.frameSetUid from rfl, hafter]
    have hmark : (storeStep db op).1.watermark = { last := some candidate, again := none } := by
      unfold Database.watermark
      rw [hwatermark, hreoffer]
      simp [RelayV2ClientState.claiming, hafter]
    rw [hevent, hmark]
    refine .pick candidate fun top htop => ?_
    obtain ⟨uid, huid, hstored⟩ := Option.bind_eq_some_iff.mp htop
    rcases hnewer uid top huid hstored with hagain | hlt
    · exact Or.inl (Option.bind_eq_some_iff.mpr ⟨_, hagain, hfind⟩)
    · exact Or.inr hlt
  · intro claim hsome
    rw [hclaim] at hsome
    cases hsome
    exact ⟨candidate, hfind, rfl⟩

/-- A frame set that has not been found may be offered again, or it may not. -/
theorem OffersSound.notFound (h : OffersSound sets past db) {op : StoreOp} {key : FrameSetKey}
    {retryAllowed : Bool}
    (hset : ∀ frameSet, op.persisted? = some frameSet → frameSet ∈ sets)
    (hcurrent : LatestLive.matchesCurrent db key = true)
    (hoffer : (storeStep db op).1.client.offer = ({ db.client.released with
      reofferFrameSetUid := if retryAllowed then some key.frameSetUid else none } :
        RelayV2ClientState).offer)
    (hclaim : (storeStep db op).2.claim? = none)
    (hfound : notFound? op (storeStep db op).2 = some (key, retryAllowed)) :
    OffersSound sets (past ++ [Machine.exchange storeStep db op]) (storeStep db op).1 := by
  obtain ⟨hinFlight, hwatermark, hreoffer⟩ := columns_of_offer hoffer
  have hcolumn : db.client.watermarkFrameSetUid = some key.frameSetUid := by
    have hflight := LatestLive.inFlight?_of_matchesCurrent db hcurrent
    rcases h.inFlight with hnone | hsame
    · rw [hflight] at hnone
      cases hnone
    · exact hsame.symm.trans hflight
  obtain ⟨manifest, hfind, hkey⟩ := manifest_of_matchesCurrent hcurrent
  have hafter := find_manifests_storeStep db op hfind
  have hmark : (storeStep db op).1.watermark =
      { last := some manifest, again := if retryAllowed then some manifest else none } := by
    unfold Database.watermark
    rw [hwatermark, hreoffer]
    cases retryAllowed <;> simp [RelayV2ClientState.released, hcolumn, hafter]
  have hlast : db.watermark.last = some manifest := by
    simp [Database.watermark, hcolumn, hfind]
  refine h.snoc hset ?_ ?_ ?_ ?_ ?_
  · rw [hwatermark]
    exact h.stored
  · rw [hinFlight]
    exact Or.inl rfl
  · rw [hreoffer, hwatermark]
    cases retryAllowed
    · exact Or.inl rfl
    · exact Or.inr hcolumn.symm
  · rw [hmark]
    cases retryAllowed with
    | true =>
        have hevent : StoreExchange.event (Machine.exchange storeStep db op) =
            .grant manifest := by
          have hretried : ((storeStep db op).1.manifests.find key.frameSetUid).filter
              (fun manifest => manifest.key = key) = some manifest :=
            Option.filter_eq_some_iff.mpr ⟨hafter, decide_eq_true hkey⟩
          simp only [StoreExchange.event, StoreExchange.offered?, StoreExchange.retried?,
            Machine.exchange, hclaim, hfound, Option.bind_none, hretried]
        rw [hevent]
        exact .grant manifest hlast
    | false =>
        have hevent : StoreExchange.event (Machine.exchange storeStep db op) = .other := by
          simp [StoreExchange.event, StoreExchange.offered?, StoreExchange.retried?,
            Machine.exchange, hclaim, hfound]
        rw [hevent, ← hlast]
        exact .revoke
  · intro claim hsome
    rw [hclaim] at hsome
    cases hsome

theorem OffersSound.step (h : OffersSound sets past db) (hnumbers : db.NumbersInOrder)
    {op : StoreOp} (hset : ∀ frameSet, op.persisted? = some frameSet → frameSet ∈ sets) :
    OffersSound sets (past ++ [Machine.exchange storeStep db op]) (storeStep db op).1 := by
  cases storeStep_effect db op with
  | background items offer unclaimed found =>
      obtain ⟨hinFlight, hwatermark, hreoffer⟩ := columns_of_offer offer
      exact h.quiet hset unclaimed found (Or.inr hinFlight) hwatermark hreoffer
  | claimed credit offeredAtMs candidate empty picked was now others offer claim found =>
      exact h.claimed hnumbers hset picked offer claim
  | moved key state current held now others offer unclaimed found =>
      obtain ⟨hinFlight, hwatermark, hreoffer⟩ := columns_of_offer offer
      exact h.quiet hset unclaimed found (Or.inr hinFlight) hwatermark hreoffer
  | released key state current ended offered now others offer unclaimed found =>
      obtain ⟨hinFlight, hwatermark, hreoffer⟩ := columns_of_offer offer
      exact h.quiet hset unclaimed found (Or.inl hinFlight) hwatermark hreoffer
  | notFound key retryAllowed current now others offer unclaimed found =>
      exact h.notFound hset current offer unclaimed found

end Step

/-! ## Every run -/

theorem offersSound_empty (sets : List SynchronizedFrameSet) : OffersSound sets [] {} where
  records _ hmem := by cases hmem
  stored _ huid := by cases huid
  inFlight := Or.inl rfl
  reoffer := Or.inl rfl
  run := .start
  offered _ he := by cases he

theorem offersSound_of_run {ops : List StoreOp} (hruns : RunsOrdered ops) :
    OffersSound (ops.filterMap StoreOp.persisted?) (Machine.history storeStep {} ops)
      (Machine.after storeStep {} ops) := by
  refine Machine.history_invariant_of storeStep
    (C := fun _ _ op => ∀ frameSet, op.persisted? = some frameSet →
      frameSet ∈ ops.filterMap StoreOp.persisted?)
    (offersSound_empty _) (fun past db op h hset => ?_) ?_
  · exact h.step (numbersInOrder hruns h.records) hset
  · rintro first op second rfl frameSet hop
    exact List.mem_filterMap.mpr ⟨op, by simp, hop⟩

/-- Offers are made in order, and again only after a positive retry decision.

Where the numbers of each capture run agree with the synchronization times: every claim
is of a stored manifest, the claimed manifests never go back in the offer order, two
consecutive claims have one key only if `reconcile_not_found` has allowed a retry of it
between them, and in the database that is reached the set in flight and the set to be
offered again are the watermark or none. -/
theorem offers_in_order (ops : List StoreOp) (hruns : RunsOrdered ops) :
    let history := Machine.history storeStep {} ops
    let state := (Machine.after storeStep {} ops).client
    (∀ e ∈ history, ∀ claim, e.output.claim? = some claim →
      ∃ manifest, StoreExchange.offered? e = some manifest ∧ manifest.key = claim.key) ∧
    (history.filterMap StoreExchange.offered?).Pairwise (fun first second =>
      first.order ≤ second.order) ∧
    (∀ past first between second rest,
      history = past ++ first :: (between ++ second :: rest) →
      ∀ claim again, first.output.claim? = some claim → second.output.claim? = some again →
        (∀ e ∈ between, e.output.claim? = none) → again.key = claim.key →
          ∃ e ∈ between, notFound? e.input e.output = some (claim.key, true)) ∧
    (state.inFlightFrameSetUid = none ∨
      state.inFlightFrameSetUid = state.watermarkFrameSetUid) ∧
    (state.reofferFrameSetUid = none ∨
      state.reofferFrameSetUid = state.watermarkFrameSetUid) := by
  intro history state
  have hsound := offersSound_of_run hruns
  refine ⟨fun e he claim hclaim => ?_, ?_, ?_, hsound.inFlight, hsound.reoffer⟩
  · obtain ⟨manifest, hoffered, hkey, -⟩ := hsound.offered e he claim hclaim
    exact ⟨manifest, hoffered, hkey⟩
  · rw [← StoreExchange.picks_events]
    exact hsound.run.ascending
  · intro past first between second rest hsplit claim again hfirst hsecond hbetween hkey
    have hfirstMem : first ∈ history := by
      rw [hsplit]
      simp
    have hsecondMem : second ∈ history := by
      rw [hsplit]
      simp
    obtain ⟨manifest, hmanifest, hmanifestKey, hstored⟩ :=
      hsound.offered first hfirstMem claim hfirst
    obtain ⟨manifest', hmanifest', -, hstored'⟩ :=
      hsound.offered second hsecondMem again hsecond
    obtain rfl : manifest = manifest' := by
      rw [hkey, hstored] at hstored'
      exact Option.some.inj hstored'
    have hrun : Watermark.Run FrameSetManifest.order (history.map StoreExchange.event) _ :=
      hsound.run
    rw [hsplit, List.map_append, List.map_cons, List.map_append, List.map_cons,
      StoreExchange.event_of_offered? hmanifest,
      StoreExchange.event_of_offered? hmanifest'] at hrun
    have hgrant := hrun.grant_between (by
      intro event hevent
      obtain ⟨e, he, rfl⟩ := List.mem_map.mp hevent
      rw [StoreExchange.picked?_event, StoreExchange.offered?, hbetween e he]
      rfl)
    obtain ⟨e, he, hevent⟩ := List.mem_map.mp hgrant
    exact ⟨e, he, by rw [StoreExchange.notFound?_of_event hevent, hmanifestKey]⟩

/-! ### A retry -/

/-- A durable one-camera frame set of one capture run. -/
def numberedSet (number : ℤ) (uid : String) : SynchronizedFrameSet where
  frameSetId := number
  anchorTimestampMs := 1000 * number
  maxDeltaMs := 0
  frames := Dict.set Table.empty "camera"
    { frameId := some number
      deviceId := "camera"
      timestampMs := 1000 * number
      sequence := some number
      contentType := "image/jpeg"
      imageBytes := []
      filePath := some "frame.jpg"
      sourceSessionId := some "session"
      cameraStreamId := some "camera"
      sourceFrameUid := some (uid ++ "-frame")
      contentDigest := some "digest"
      identityMode := .v2
      archiveState := .durable
      imageSize := 1 }
  spanMs := some 0
  captureSessionId := some "capture"
  captureRunId := some "run"
  frameSetUid := some uid
  manifestDigest := some (uid ++ "-digest")
  manifestJson := some "manifest"
  identityMode := .v2
  synchronizedAtMs := 1000 * number + 20
  memberCount := 1

def numberedKey (number : ℤ) (uid : String) : FrameSetKey where
  captureRunId := "run"
  frameSetId := number
  frameSetUid := uid

def someCredit : CreditIdentity where
  processorInstanceId := "processor"
  streamEpoch := "epoch"
  creditId := "credit"

/-- An offer that is not found, its retry, and a newer offer. -/
def retryRun : List StoreOp :=
  [.persistFrameSetManifest (numberedSet 1 "first") (some 1030) 0,
    .claimLatest someCredit 1040,
    .reconcileNotFound (numberedKey 1 "first") true 1050,
    .claimLatest someCredit 1060,
    .applyRemoteStatus (numberedKey 1 "first") .completed none 1070,
    .persistFrameSetManifest (numberedSet 2 "second") (some 2030) 0,
    .claimLatest someCredit 2040]

theorem offers_in_order_retried :
    let offers := (Machine.history storeStep {} retryRun).filterMap StoreExchange.offered?
    offers.map FrameSetManifest.key =
        [numberedKey 1 "first", numberedKey 1 "first", numberedKey 2 "second"] ∧
      offers.Pairwise fun first second => first.order ≤ second.order :=
  ⟨by decide +kernel, (offers_in_order retryRun (by decide +kernel)).2.1⟩

end ImageStream
