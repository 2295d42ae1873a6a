/-
# What the parts of a connection do

One specification for each part of `_run_connection`: what it leaves of the database, what
it puts into the queue, and what it does to the set in flight, whether it returns or
raises. Ingest threads commit in between, and what they commit never touches the client
state.
-/

import ImageStream.Relay.Connection

namespace ImageStream

open Base LatestLive

/-! ## Transactions -/

/-- The second database comes of the first by store transactions. -/
def Reaches (db db' : Database) : Prop := ∃ ops, db' = Machine.after storeStep db ops

namespace Reaches

variable {db db' db'' : Database}

theorem refl (db : Database) : Reaches db db := ⟨[], rfl⟩

theorem step (db : Database) (op : StoreOp) : Reaches db (storeStep db op).1 := ⟨[op], rfl⟩

theorem trans (h : Reaches db db') (h' : Reaches db' db'') : Reaches db db'' := by
  obtain ⟨first, rfl⟩ := h
  obtain ⟨second, rfl⟩ := h'
  exact ⟨first ++ second, (Machine.after_append storeStep db first second).symm⟩

/-- Whatever every transaction preserves. -/
theorem invariant {P : Database → Prop} (h : Reaches db db')
    (hstep : ∀ db op, P db → P (storeStep db op).1) (hdb : P db) : P db' := by
  obtain ⟨ops, rfl⟩ := h
  exact Machine.invariant_after storeStep hdb hstep ops

theorem manifest (h : Reaches db db') {uid : String} {manifest : FrameSetManifest}
    (hfind : db.manifests.find uid = some manifest) :
    db'.manifests.find uid = some manifest :=
  h.invariant (fun db op => find_manifests_storeStep db op) hfind

end Reaches

/-- A projection does not go away. -/
theorem liveState?_storeStep_isSome (db : Database) (op : StoreOp) {uid : String}
    (h : ∃ state, db.liveState? uid = some state) :
    ∃ state, (storeStep db op).1.liveState? uid = some state := by
  obtain ⟨state, hstate⟩ := h
  have hother : ∀ {acted : String} {moved : LiveState},
      (storeStep db op).1.liveState? acted = some moved →
      (∀ uid', uid' ≠ acted → (storeStep db op).1.liveState? uid' = db.liveState? uid') →
      ∃ state, (storeStep db op).1.liveState? uid = some state := by
    intro acted moved hnow hothers
    by_cases hacted : uid = acted
    · exact ⟨moved, hacted ▸ hnow⟩
    · exact ⟨state, (hothers uid hacted).trans hstate⟩
  cases storeStep_effect db op with
  | background items offer unclaimed found =>
      have hitem := items uid
      rw [hstate] at hitem
      generalize (storeStep db op).1.liveState? uid = after at hitem ⊢
      cases hitem with
      | same => exact ⟨state, rfl⟩
      | givenUp hold hnew => exact ⟨_, rfl⟩
  | claimed credit offeredAtMs candidate empty picked was now others offer claim found =>
      exact hother now others
  | moved key moved current held now others offer unclaimed found => exact hother now others
  | released key moved current ended offered now others offer unclaimed found =>
      exact hother now others
  | notFound key retryAllowed current now others offer unclaimed found => exact hother now others

/-- Ingest never writes the client state. -/
theorem clientState_ingest (db : Database) {op : StoreOp} (h : op.isIngest = true) :
    (storeStep db op).1.clientState = db.clientState := by
  cases op with
  | persistFrameSetManifest frameSet createdAtMs nowMs =>
      exact clientState_persistCommit db frameSet (persistRead db frameSet createdAtMs nowMs)
  | updateDeliveryProjection frameSetUid archiveState legacyRelayState reason updatedAtMs =>
      dsimp only [storeStep, updateDeliveryProjection, Prod.map]
      split
      · rfl
      · split <;> rfl
  | reconcileArchive files detectedAtMs =>
      dsimp only [storeStep, reconcileArchive, Prod.map]
      split
      · rfl
      · rename_i finished hrun
        split
        · exact (reconcileArchive_keeps hrun).clientState
        · rfl
  | writeFrames frames => rfl
  | _ => cases h

theorem reaches_ingested (db : Database) (ops : List IngestOp) : Reaches db (ingested db ops) :=
  ⟨ops.map Subtype.val, rfl⟩

theorem clientState_ingested (db : Database) (ops : List IngestOp) :
    (ingested db ops).clientState = db.clientState := by
  unfold ingested
  induction ops generalizing db with
  | nil => rfl
  | cons op ops ih => exact (ih _).trans (clientState_ingest db op.property)

theorem client_ingested (db : Database) (ops : List IngestOp) :
    (ingested db ops).client = db.client := by
  unfold Database.client
  rw [clientState_ingested]

theorem inFlight?_ingested (db : Database) (ops : List IngestOp) :
    (ingested db ops).inFlight? = db.inFlight? := by
  unfold Database.inFlight?
  rw [client_ingested]

/-- What is in flight stays it as long as the columns name it. -/
theorem InFlightKey.of_reaches {db db' : Database} {key : FrameSetKey} (h : InFlightKey db key)
    (hreaches : Reaches db db') (hinFlight : db'.inFlight? = db.inFlight?) :
    InFlightKey db' key where
  inFlight := hinFlight.trans h.inFlight
  manifest := by
    obtain ⟨manifest, hfind, hkey⟩ := h.manifest
    exact ⟨manifest, hreaches.manifest hfind, hkey⟩
  projection := hreaches.invariant (fun db op => liveState?_storeStep_isSome db op) h.projection

/-! ### Claims -/

/-- The pick depends on the offer columns only. -/
theorem newestEligible_congr {db db' : Database} {state state' : RelayV2ClientState}
    (hmanifests : db'.manifests = db.manifests) (hprojections : db'.projections = db.projections)
    (hoffer : state'.offer = state.offer) :
    newestEligible db' state' = newestEligible db state := by
  have hnewest : getNewestEligibleManifest db' = getNewestEligibleManifest db := by
    unfold getNewestEligibleManifest isEligible
    rw [hmanifests, hprojections]
  have hwatermark : state'.watermarkFrameSetUid = state.watermarkFrameSetUid := by
    have hoffered : state'.offer.watermarkFrameSetUid = state.offer.watermarkFrameSetUid := by
      rw [hoffer]
    exact hoffered
  have hreoffer : state'.reofferFrameSetUid = state.reofferFrameSetUid := by
    have hoffered : state'.offer.reofferFrameSetUid = state.offer.reofferFrameSetUid := by
      rw [hoffer]
    exact hoffered
  unfold newestEligible
  rw [hnewest, hwatermark, hreoffer, hmanifests]

/-- What a claim leaves: the pick of its database in flight, where nothing was. -/
structure Claimed (db db' : Database) (claim : ClaimedFrameSet) : Prop where
  empty : db.inFlight? = none
  picked : ∃ candidate, newestEligible db db.client = .ok (some candidate) ∧
    claim.key = candidate.key
  inFlight : InFlightKey db' claim.key

/-- Either nothing is claimed and what is in flight stays so, or the pick is in flight. -/
theorem claimLatest_cases (db : Database) (credit : CreditIdentity) (offeredAtMs : ℤ) :
    ((∀ claim, (claimLatest db credit offeredAtMs).2 ≠ .ok (some claim)) ∧
      (claimLatest db credit offeredAtMs).1.inFlight? = db.inFlight?) ∨
    ∃ claim, (claimLatest db credit offeredAtMs).2 = .ok (some claim) ∧
      Claimed db (claimLatest db credit offeredAtMs).1 claim := by
  have hensured := inFlight?_ensureStateRow db offeredAtMs
  dsimp only [claimLatest]
  by_cases hflight : (ensureStateRow db offeredAtMs).client.inFlightFrameSetUid ≠ none
  · rw [if_pos hflight]
    exact Or.inl ⟨fun _ h => (by cases h), hensured⟩
  rw [if_neg hflight]
  cases hpicked : newestEligible (ensureStateRow db offeredAtMs)
      (ensureStateRow db offeredAtMs).client with
  | error e => exact Or.inl ⟨fun _ h => (by cases h), rfl⟩
  | ok picked =>
      cases picked with
      | none => exact Or.inl ⟨fun _ h => (by cases h), hensured⟩
      | some candidate =>
          dsimp only [claimCandidate]
          by_cases hguard : (ensureStateRow db offeredAtMs).client.inFlightFrameSetUid = none ∧
              isEligible (ensureStateRow db offeredAtMs) candidate = true
          · rw [if_pos hguard]
            refine Or.inr ⟨_, rfl, ?_⟩
            have hmember : candidate ∈ (ensureStateRow db offeredAtMs).manifests.rows :=
              (List.mem_filter.mp (List.argmax_mem
                (getNewestEligibleManifest_of_newestEligible hpicked))).1
            have hnow := Database.liveState?_moved _ (liveState?_of_isEligible _ hguard.2)
              .offered none offeredAtMs candidate.frameSetUid
            exact
              { empty := hensured.symm.trans hguard.1
                picked := ⟨candidate, (newestEligible_congr (manifests_ensureStateRow db _)
                  (projections_ensureStateRow db _) (offer_ensureStateRow db _)).symm.trans hpicked,
                  rfl⟩
                inFlight :=
                  { inFlight := rfl
                    manifest := ⟨candidate, Table.find_of_mem _ hmember, rfl⟩
                    projection := ⟨.offered, hnow.trans (if_pos rfl)⟩ } }
          · rw [if_neg hguard]
            exact Or.inl ⟨fun _ h => (by cases h), rfl⟩

/-! ### The ends of a claim -/

/-- A claim that is released ends its flight. -/
theorem InFlightKey.releaseBeforeSend {db : Database} {key : FrameSetKey}
    (h : InFlightKey db key) {state : LiveState}
    (hstate : state = .expiredBeforeOffer ∨ state = .rejected) (reason : String)
    (timestampMs : ℤ) :
    (releaseBeforeSend db key state reason timestampMs).2 = .ok true ∧
      (releaseBeforeSend db key state reason timestampMs).1.inFlight? = none := by
  have hallowed : ¬(state ≠ .expiredBeforeOffer ∧ state ≠ .rejected) := by
    rcases hstate with rfl | rfl <;> decide
  unfold LatestLive.releaseBeforeSend transitionCurrent
  rw [if_neg hallowed]
  obtain ⟨hmoved, hresult⟩ := h.moved state (some reason) timestampMs
    fun state => if true then state.released else state
  have hoffer : _ = db.client.released.offer := hmoved.offer
  exact ⟨hresult, StoreEffect.inFlight?_of_offer hoffer⟩

/-- A claim that is marked unresolved stays in flight. -/
theorem InFlightKey.markUnresolved {db : Database} {key : FrameSetKey} (h : InFlightKey db key)
    (reason : String) (timestampMs : ℤ) :
    (markUnresolved db key reason timestampMs).2 = .ok true ∧
      InFlightKey (markUnresolved db key reason timestampMs).1 key := by
  unfold LatestLive.markUnresolved transitionCurrent
  obtain ⟨hmoved, hresult⟩ := h.moved .unresolved (some reason) timestampMs
    fun state => if false then state.released else state
  refine ⟨hresult, ?_⟩
  exact h.of_reaches (Reaches.step db (.markUnresolved key reason timestampMs))
    (StoreEffect.inFlight?_of_offer hmoved.offer)

/-! ## Idle actions -/

namespace RelayClient

/-- What the parts of a connection do that put no message and leave what is in flight. -/
structure Idles (s s' : Relaying) : Prop where
  reaches : Reaches s.db s'.db
  inFlight : s'.db.inFlight? = s.db.inFlight?
  outgoing : s'.outgoing = s.outgoing
  moment : s.moment ≤ s'.moment

theorem Idles.refl (s : Relaying) : Idles s s := ⟨.refl s.db, rfl, rfl, le_rfl⟩

theorem Idles.trans {s s' s'' : Relaying} (h : Idles s s') (h' : Idles s' s'') : Idles s s'' where
  reaches := h.reaches.trans h'.reaches
  inFlight := h'.inFlight.trans h.inFlight
  outgoing := h'.outgoing.trans h.outgoing
  moment := h.moment.trans h'.moment

theorem Idles.inFlightKey {s s' : Relaying} (h : Idles s s') {key : FrameSetKey}
    (hkey : InFlightKey s.db key) : InFlightKey s'.db key :=
  hkey.of_reaches h.reaches h.inFlight

section Primitives

variable {α : Type} (env : Surroundings)

theorem observe_iff {reading : ℕ → α} {s : Relaying} {Q : α → Relaying → Prop}
    {R : RelayError → Relaying → Prop} :
    Ensures (observe reading) s Q R ↔ Q (reading s.moment) { s with moment := s.moment + 1 } :=
  Iff.rfl

theorem put_iff {message : ProducerEnvelope} {s : Relaying} {Q : PUnit → Relaying → Prop}
    {R : RelayError → Relaying → Prop} :
    Ensures (put message) s Q R ↔ Q ⟨⟩ { s with outgoing := s.outgoing ++ [message] } :=
  Iff.rfl

/-- A transaction runs on what ingest has left. -/
theorem transact_iff {method : Database → Database × Except StoreError α} {s : Relaying}
    {Q : α → Relaying → Prop} {R : RelayError → Relaying → Prop} :
    Ensures (transact env method) s Q R ↔
      (∀ a, (method (ingested s.db (env.ingest s.moment))).2 = .ok a →
        Q a { s with
          db := (method (ingested s.db (env.ingest s.moment))).1, moment := s.moment + 1 }) ∧
      ∀ e, (method (ingested s.db (env.ingest s.moment))).2 = .error e →
        R (.store e) { s with
          db := (method (ingested s.db (env.ingest s.moment))).1, moment := s.moment + 1 } := by
  unfold Ensures transact
  dsimp only
  cases (method (ingested s.db (env.ingest s.moment))).2 with
  | ok a => simp
  | error e => simp

theorem observe_idles (reading : ℕ → α) : Action.Within Idles (observe reading : RelayM α) := fun s =>
  observe_iff.mpr ⟨.refl s.db, rfl, rfl, Nat.le_succ s.moment⟩

theorem readFiles_idles (count : ℕ) : Action.Within Idles (readFiles env count) := fun s =>
  ⟨.refl s.db, rfl, rfl, Nat.le_add_right s.moment count⟩

/-- A transaction that leaves what is in flight. -/
theorem transact_idles {method : Database → Database × Except StoreError α}
    (hreaches : ∀ db, Reaches db (method db).1)
    (hinFlight : ∀ db, (method db).1.inFlight? = db.inFlight?) :
    Action.Within Idles (transact env method) := by
  intro s
  have hidles : Idles s { s with
      db := (method (ingested s.db (env.ingest s.moment))).1, moment := s.moment + 1 } :=
    { reaches := (reaches_ingested _ _).trans (hreaches _)
      inFlight := (hinFlight _).trans (inFlight?_ingested _ _)
      outgoing := rfl
      moment := Nat.le_succ s.moment }
  exact (transact_iff env).mpr ⟨fun _ _ => hidles, fun _ _ => hidles⟩

theorem consult_idles (method : Database → Except StoreError α) :
    Action.Within Idles (consult env method) :=
  transact_idles env (fun db => .refl db) fun _ => rfl

end Primitives

/-! ## Credits -/

/-- Whether a credit is for the processor and the epoch of a session. -/
def Negotiated (credit : ProcessorCredit) (session : NegotiatedSession) : Prop :=
  credit.scope.processorInstanceId = session.processorInstanceId ∧
    credit.scope.streamEpoch = session.streamEpoch

/-- Whether the stop event has been found set between two states. -/
def ShutdownBetween (env : Surroundings) (s s' : Relaying) : Prop :=
  ∃ moment, s.moment ≤ moment ∧ moment < s'.moment ∧ env.stopped moment = true

/-- What an action does that may put messages and move what is in flight. -/
structure Advances (s s' : Relaying) (messages : List ProducerEnvelope) : Prop where
  reaches : Reaches s.db s'.db
  outgoing : s'.outgoing = s.outgoing ++ messages
  moment : s.moment ≤ s'.moment

theorem Idles.advances {s s' : Relaying} (h : Idles s s') : Advances s s' [] where
  reaches := h.reaches
  outgoing := h.outgoing.trans (List.append_nil _).symm
  moment := h.moment

theorem Advances.then_advances {s s' s'' : Relaying} {messages : List ProducerEnvelope}
    (h : Advances s s' []) (h' : Advances s' s'' messages) : Advances s s'' messages where
  reaches := h.reaches.trans h'.reaches
  outgoing := by rw [h'.outgoing, h.outgoing, List.append_nil]
  moment := h.moment.trans h'.moment

theorem Idles.then_advances {s s' s'' : Relaying} {messages : List ProducerEnvelope}
    (h : Idles s s') (h' : Advances s' s'' messages) : Advances s s'' messages :=
  h.advances.then_advances h'

/-- A message that is put into the queue. -/
theorem Advances.put {s s' : Relaying} (h : Advances s s' []) (message : ProducerEnvelope) :
    Advances s { s' with outgoing := s'.outgoing ++ [message] } [message] where
  reaches := h.reaches
  outgoing := by rw [h.outgoing, List.append_nil]
  moment := h.moment

section Credits

variable (env : Surroundings) (client : RelayClient)

theorem previewCredit_spec (credit : ProcessorCredit) (session : NegotiatedSession)
    (expectedCaptureRunId : String) (s : Relaying) :
    Ensures (previewCredit env credit session expectedCaptureRunId) s
      (fun previewed s' => Idles s s' ∧ previewed.2 = credit.scope ∧ Negotiated credit session)
      fun _ s' => Idles s s' := by
  unfold previewCredit
  apply Ensures.after_within (observe_idles _) fun _ _ h => h
  intro received s₁ h₁
  apply Ensures.bind_iff.mpr
  apply Ensures.ofExcept_iff.mpr
  refine ⟨fun identity hidentity => ?_, fun _ _ => h₁⟩
  obtain ⟨hscope, hnegotiated⟩ := creditIdentity_eq_ok hidentity
  apply Ensures.after_within (consult_idles env _) fun _ _ h => h₁.trans h
  intro preview s₂ h₂
  cases preview with
  | none => exact ⟨h₁.trans h₂, hscope, hnegotiated⟩
  | some preview =>
      apply Ensures.ite
      · exact fun _ => h₁.trans h₂
      · exact fun _ => ⟨h₁.trans h₂, hscope, hnegotiated⟩

/-- The database that the claim of a credit runs on, from the state after the preview. -/
def claimDatabase (s : Relaying) : Database := ingested s.db (env.ingest (s.moment + 1))

/-- What a claim that has found a candidate leaves. -/
structure Claims (s s' : Relaying) (claim : ClaimedFrameSet) : Prop where
  advances : Advances s s' []
  empty : s.db.inFlight? = none
  picked : ∃ candidate, newestEligible (claimDatabase env s) s.db.client = .ok (some candidate) ∧
    claim.key = candidate.key
  inFlight : InFlightKey s'.db claim.key

theorem claimForCredit_spec (identity : CreditIdentity) (s : Relaying) :
    Ensures (claimForCredit env identity) s
      (fun claim s' => (claim = none ∧ Idles s s') ∨
        ∃ claimed, claim = some claimed ∧ Claims env s s' claimed)
      fun _ s' => Idles s s' := by
  unfold claimForCredit
  apply Ensures.bind_iff.mpr
  apply observe_iff.mpr
  apply (transact_iff env).mpr
  dsimp only
  have hreaches := (reaches_ingested s.db (env.ingest (s.moment + 1))).trans
    (Reaches.step _ (.claimLatest identity (env.utcNowMs s.moment)))
  have hmoment : s.moment ≤ s.moment + 1 + 1 := by omega
  rcases claimLatest_cases (ingested s.db (env.ingest (s.moment + 1))) identity
    (env.utcNowMs s.moment) with ⟨hnone, hinFlight⟩ | ⟨claim, hclaim, hclaimed⟩
  · have hidles : Idles s
        { s with
          db := (claimLatest (ingested s.db (env.ingest (s.moment + 1))) identity
            (env.utcNowMs s.moment)).1
          moment := s.moment + 1 + 1 } :=
      ⟨hreaches, hinFlight.trans (inFlight?_ingested _ _), rfl, hmoment⟩
    constructor
    · intro claim hresult
      cases claim with
      | none => exact Or.inl ⟨rfl, hidles⟩
      | some claim => exact absurd hresult (hnone claim)
    · exact fun _ _ => hidles
  · constructor
    · intro result hresult
      rw [hclaim] at hresult
      cases hresult
      refine Or.inr ⟨claim, rfl, ?_⟩
      exact
        { advances := ⟨hreaches, (List.append_nil _).symm, hmoment⟩
          empty := (inFlight?_ingested _ _).symm.trans hclaimed.empty
          picked := by
            rw [← client_ingested s.db (env.ingest (s.moment + 1))]
            exact hclaimed.picked
          inFlight := hclaimed.inFlight }
    · intro e hresult
      rw [hclaim] at hresult
      cases hresult

/-! ### Answers -/

theorem bindRelayScope_eq_ok {claimed claim : ClaimedFrameSet}
    {scope : Option ProcessingRelayScope} (h : bindRelayScope claimed scope = .ok claim) :
    claim.key = claimed.key := by
  unfold bindRelayScope at h
  split at h
  · cases h
    rfl
  split at h
  · cases h
  · cases h
    rfl

/-- A scope that does not match ends the worker. -/
theorem bindRelayScope_eq_error {claimed : ClaimedFrameSet}
    {scope : Option ProcessingRelayScope} {e : RelayError}
    (h : bindRelayScope claimed scope = .error e) : ∃ message, e = .permanentRelayError message := by
  unfold bindRelayScope at h
  split at h
  · cases h
  split at h
  · cases h
    exact ⟨_, rfl⟩
  · cases h

theorem assemblePayload_spec (opened : Opened) (session : NegotiatedSession)
    (credit : ProcessorCredit) (receivedMonotonic : ℚ) (claim : ClaimedFrameSet) (s : Relaying) :
    Ensures (assemblePayload env client opened session credit receivedMonotonic claim) s
      (fun payload s' => Idles s s' ∧ payload.key = claim.key ∧
        payload.creditScope = credit.scope)
      fun _ s' => Idles s s' := by
  unfold assemblePayload
  apply Ensures.after_within (observe_idles _) fun _ _ h => h
  intro nowMonotonic s₁ h₁
  apply Ensures.after_within (observe_idles _) fun _ _ h => h₁.trans h
  intro nowUtcMs s₂ h₂
  apply Ensures.after_within (readFiles_idles env _) fun _ _ h => (h₁.trans h₂).trans h
  intro read s₃ h₃
  have hidles := (h₁.trans h₂).trans h₃
  apply Ensures.ofExcept_iff.mpr
  exact ⟨fun _ hpayload => ⟨hidles, buildCreditedFrameSet_eq_ok hpayload⟩,
    fun _ _ => hidles⟩

theorem releaseClaim_spec {claim : ClaimedFrameSet} {state : LiveState} (reason : String)
    {s : Relaying} (hkey : InFlightKey s.db claim.key)
    (hstate : state = .expiredBeforeOffer ∨ state = .rejected) :
    Ensures (releaseClaim env claim state reason) s
      (fun _ s' => Advances s s' [] ∧ s'.db.inFlight? = none) fun _ _ => False := by
  unfold releaseClaim
  apply Ensures.bind_iff.mpr
  apply observe_iff.mpr
  apply Ensures.bind_iff.mpr
  apply (transact_iff env).mpr
  have hfound := hkey.of_reaches (reaches_ingested s.db (env.ingest (s.moment + 1)))
    (inFlight?_ingested _ _)
  obtain ⟨hresult, hnone⟩ := hfound.releaseBeforeSend hstate reason (env.utcNowMs s.moment)
  constructor
  · intro released _
    refine ⟨⟨?_, (List.append_nil _).symm, ?_⟩, hnone⟩
    · exact (reaches_ingested _ _).trans
        (Reaches.step _ (.releaseBeforeSend claim.key state reason (env.utcNowMs s.moment)))
    · show s.moment ≤ s.moment + 1 + 1
      omega
  · intro e herror
    cases hresult.symm.trans herror

theorem answerNoData_spec (credit : ProcessorCredit) (reason : Reason)
    (newestKnown : Option FrameSetKey) (s : Relaying) :
    Ensures (answerNoData credit reason newestKnown) s
      (fun _ s' => ∃ noData, noData.scope = credit.scope ∧
        s' = { s with outgoing := s.outgoing ++ [.noData noData] })
      fun _ s' => s' = s := by
  unfold answerNoData
  apply Ensures.bind_iff.mpr
  apply Ensures.ofExcept_iff.mpr
  constructor
  · intro message hmessage
    apply put_iff.mpr
    obtain ⟨noData, hbuilt, hreturned⟩ := bind_eq_ok.mp hmessage
    cases hreturned
    cases construct_eq_ok hbuilt
    exact ⟨_, rfl, rfl⟩
  · exact fun _ _ => rfl

/-- How a claim is answered. -/
inductive ClaimAnswer (credit : ProcessorCredit) (key : FrameSetKey) (s s' : Relaying) : Prop
  | sent (frameSet : CreditedFrameSet) (advances : Advances s s' [.frameSet frameSet])
      (scope : frameSet.creditScope = credit.scope) (claimed : frameSet.key = key)
      (inFlight : InFlightKey s'.db key)
  | refused (noData : NoData) (advances : Advances s s' [.noData noData])
      (scope : noData.scope = credit.scope) (released : s'.db.inFlight? = none)
  | shutdown (advances : Advances s s' []) (stopped : ShutdownBetween env s s')
      (inFlight : InFlightKey s'.db key)

theorem Idles.then_answer {env : Surroundings} {credit : ProcessorCredit} {key : FrameSetKey}
    {s s' s'' : Relaying} (h : Idles s s') (h' : ClaimAnswer env credit key s' s'') :
    ClaimAnswer env credit key s s'' := by
  cases h' with
  | sent frameSet advances scope claimed inFlight =>
      exact .sent frameSet (h.then_advances advances) scope claimed inFlight
  | refused noData advances scope released =>
      exact .refused noData (h.then_advances advances) scope released
  | shutdown advances stopped inFlight =>
      obtain ⟨moment, hle, hlt, hstopped⟩ := stopped
      exact .shutdown (h.then_advances advances)
        ⟨moment, h.moment.trans hle, hlt, hstopped⟩ inFlight

/-- How the answer to a claim fails: without a message, and a rejected credit releases it. -/
structure ClaimFailure (key : FrameSetKey) (s : Relaying) (e : RelayError) (s' : Relaying) :
    Prop where
  advances : Advances s s' []
  kept : s'.db.inFlight? = none ∨ InFlightKey s'.db key
  released : ∀ message, e = .creditRejected message → s'.db.inFlight? = none

/-- A claim is released to one of the two states that the store accepts. -/
theorem released?_state {e : RelayError} {state : LiveState} {reason : String}
    {answer : Option Reason} (h : released? e = some (state, reason, answer)) :
    state = .expiredBeforeOffer ∨ state = .rejected := by
  cases e <;> cases h <;> simp

theorem refuseClaim_spec (credit : ProcessorCredit) {claim : ClaimedFrameSet} (e : RelayError)
    {s : Relaying} (hkey : InFlightKey s.db claim.key) :
    Ensures (refuseClaim env credit claim e) s
      (fun _ s' => ∃ noData, Advances s s' [.noData noData] ∧ noData.scope = credit.scope ∧
        s'.db.inFlight? = none)
      fun e s' => ClaimFailure claim.key s e s' := by
  unfold refuseClaim
  split
  · rename_i state reason answer hreleased
    apply Ensures.bind (releaseClaim_spec env reason hkey (released?_state hreleased))
    · exact fun _ _ h => h.elim
    rintro _ s₁ ⟨hadvances, hnone⟩
    apply (answerNoData_spec credit answer (some claim.key) s₁).imp
    · rintro _ _ ⟨noData, hscope, rfl⟩
      exact ⟨noData, hadvances.put _, hscope, hnone⟩
    · rintro e _ rfl
      exact ⟨hadvances, Or.inl hnone, fun _ _ => hnone⟩
  · rename_i state reason hreleased
    apply Ensures.bind (releaseClaim_spec env reason hkey (released?_state hreleased))
    · exact fun _ _ h => h.elim
    rintro _ s₁ ⟨hadvances, hnone⟩
    exact ⟨hadvances, Or.inl hnone, fun _ _ => hnone⟩
  · rename_i hreleased
    refine ⟨(Idles.refl s).advances, Or.inr hkey, ?_⟩
    rintro message rfl
    cases hreleased

theorem sendPayload_spec {credit : ProcessorCredit} {claim : ClaimedFrameSet}
    {payload : CreditedFrameSet} {s : Relaying} (hkey : InFlightKey s.db claim.key)
    (hclaimed : payload.key = claim.key) (hscope : payload.creditScope = credit.scope) :
    Ensures (sendPayload env claim payload) s
      (fun _ s' => ClaimAnswer env credit claim.key s s') fun _ _ => False := by
  unfold sendPayload
  apply Ensures.bind_iff.mpr
  apply observe_iff.mpr
  apply Ensures.ite
  · intro hstopped
    apply Ensures.bind_iff.mpr
    apply observe_iff.mpr
    apply Ensures.bind_iff.mpr
    apply (transact_iff env).mpr
    have hfound := hkey.of_reaches (reaches_ingested s.db (env.ingest (s.moment + 1 + 1)))
      (inFlight?_ingested _ _)
    obtain ⟨hresult, hmarked⟩ := hfound.markUnresolved "SHUTDOWN_INTERRUPTED"
      (env.utcNowMs (s.moment + 1))
    have hmoment : s.moment ≤ s.moment + 1 + 1 + 1 := by omega
    constructor
    · intro marked _
      refine .shutdown ⟨?_, (List.append_nil _).symm, hmoment⟩ ⟨s.moment, le_rfl, ?_, hstopped⟩
        hmarked
      · exact (reaches_ingested _ _).trans (Reaches.step _ (.markUnresolved claim.key
          "SHUTDOWN_INTERRUPTED" (env.utcNowMs (s.moment + 1))))
      · show s.moment < s.moment + 1 + 1 + 1
        omega
    · intro e herror
      cases hresult.symm.trans herror
  · intro _
    exact .sent payload ⟨.refl _, rfl, Nat.le_succ _⟩ hscope hclaimed hkey

theorem answerClaim_spec (opened : Opened) (session : NegotiatedSession)
    (credit : ProcessorCredit) (receivedMonotonic : ℚ) {claimed : ClaimedFrameSet}
    {s : Relaying} (hkey : InFlightKey s.db claimed.key) :
    Ensures (answerClaim env client opened session credit receivedMonotonic claimed) s
      (fun _ s' => ClaimAnswer env credit claimed.key s s')
      fun e s' => ClaimFailure claimed.key s e s' := by
  unfold answerClaim
  apply Ensures.bind_iff.mpr
  apply Ensures.ofExcept_iff.mpr
  constructor
  · intro claim hclaim
    have hclaimed := bindRelayScope_eq_ok hclaim
    rw [← hclaimed]
    rw [← hclaimed] at hkey
    apply Ensures.bind_iff.mpr
    apply Ensures.attempt_iff.mpr
    apply (assemblePayload_spec env client opened session credit receivedMonotonic claim s).imp
    · rintro payload s₁ ⟨hidles, hpayload, hscope⟩
      apply (sendPayload_spec env (hidles.inFlightKey hkey) hpayload hscope).imp
      · exact fun _ _ h => hidles.then_answer h
      · exact fun _ _ h => h.elim
    · intro e s₁ hidles
      apply (refuseClaim_spec env credit e (hidles.inFlightKey hkey)).imp
      · rintro _ _ ⟨noData, hadvances, hscope, hnone⟩
        exact .refused noData (hidles.then_advances hadvances) hscope hnone
      · exact fun _ _ h => { h with advances := hidles.then_advances h.advances }
  · intro e herror
    refine ⟨(Idles.refl s).advances, Or.inr hkey, ?_⟩
    rintro message rfl
    obtain ⟨_, hmessage⟩ := bindRelayScope_eq_error herror
    cases hmessage

/-! ### The whole handler -/

/-- How a credit is answered. The keys claimed for it have the property `P`. -/
inductive CreditAnswer (credit : ProcessorCredit) (session : NegotiatedSession)
    (P : FrameSetKey → Prop) (s s' : Relaying) : Prop
  | frameSet (frameSet : CreditedFrameSet) (advances : Advances s s' [.frameSet frameSet])
      (scope : frameSet.creditScope = credit.scope) (negotiated : Negotiated credit session)
      (picked : P frameSet.key) (inFlight : InFlightKey s'.db frameSet.key)
  | noData (noData : NoData) (advances : Advances s s' [.noData noData])
      (scope : noData.scope = credit.scope) (kept : s'.db.inFlight? = s.db.inFlight?)
  | shutdown (advances : Advances s s' []) (stopped : ShutdownBetween env s s')
      (key : FrameSetKey) (picked : P key) (inFlight : InFlightKey s'.db key)

/-- How the handling of a credit fails. -/
structure CreditFailure (P : FrameSetKey → Prop) (s : Relaying) (e : RelayError)
    (s' : Relaying) : Prop where
  advances : Advances s s' []
  kept : s'.db.inFlight? = s.db.inFlight? ∨ ∃ key, P key ∧ InFlightKey s'.db key
  released : ∀ message, e = .creditRejected message → s'.db.inFlight? = s.db.inFlight?

theorem Idles.creditFailure {P : FrameSetKey → Prop} {s s' : Relaying} (h : Idles s s')
    (e : RelayError) : CreditFailure P s e s' :=
  ⟨h.advances, Or.inl h.inFlight, fun _ _ => h.inFlight⟩

/-- Whether what a claim for a credit would pick has a property, once the preview is over. -/
def PicksWith (credit : ProcessorCredit) (session : NegotiatedSession)
    (expectedCaptureRunId : String) (P : FrameSetKey → Prop) (s : Relaying) : Prop :=
  ∀ previewed s', previewCredit env credit session expectedCaptureRunId s = .ok previewed s' →
    s'.db.inFlight? = none → ∀ candidate,
      newestEligible (claimDatabase env s') s'.db.client = .ok (some candidate) → P candidate.key

theorem handleCredit_spec {opened : Opened} {session : NegotiatedSession}
    {credit : ProcessorCredit} {P : FrameSetKey → Prop} {s : Relaying}
    (hpicks : PicksWith env credit session opened.helloSnapshot.key.captureRunId P s) :
    Ensures (handleCredit env client opened session credit) s
      (fun _ s' => CreditAnswer env credit session P s s') (CreditFailure P s) := by
  unfold handleCredit
  have hpreview := previewCredit_spec env credit session opened.helloSnapshot.key.captureRunId s
  cases hpreviewed : previewCredit env credit session opened.helloSnapshot.key.captureRunId s with
  | error e s₁ =>
      apply Ensures.bind_iff.mpr
      exact Ensures.of_eq_error hpreviewed ((hpreview.error hpreviewed).creditFailure e)
  | ok previewed s₁ =>
      apply Ensures.bind_iff.mpr
      apply Ensures.of_eq_ok hpreviewed
      obtain ⟨h₁, hidentity, hnegotiated⟩ := hpreview.ok hpreviewed
      apply Ensures.bind (claimForCredit_spec env previewed.2 s₁)
      · exact fun e _ h => (h₁.trans h).creditFailure e
      rintro _ s₂ (⟨rfl, h₂⟩ | ⟨claim, rfl, hclaims⟩)
      · apply Ensures.after_within (consult_idles env _)
        · exact fun e _ h => ((h₁.trans h₂).trans h).creditFailure e
        intro newestKnown s₃ h₃
        have hidles := (h₁.trans h₂).trans h₃
        apply (answerNoData_spec credit .noData newestKnown s₃).imp
        · rintro _ _ ⟨noData, hscope, rfl⟩
          exact .noData noData (hidles.advances.put _) hscope hidles.inFlight
        · rintro e _ rfl
          exact hidles.creditFailure e
      · have hempty : s.db.inFlight? = none := h₁.inFlight.symm.trans hclaims.empty
        have hpicked : P claim.key := by
          obtain ⟨candidate, hcandidate, hkey⟩ := hclaims.picked
          rw [hkey]
          exact hpicks previewed s₁ hpreviewed hclaims.empty candidate hcandidate
        have hadvances := h₁.then_advances hclaims.advances
        apply (answerClaim_spec env client opened session credit previewed.1 hclaims.inFlight).imp
        · intro _ s₃ hanswer
          cases hanswer with
          | sent frameSet advances scope claimed inFlight =>
              exact .frameSet frameSet (hadvances.then_advances advances) scope hnegotiated
                (claimed ▸ hpicked) (claimed ▸ inFlight)
          | refused noData advances scope released =>
              exact .noData noData (hadvances.then_advances advances) scope
                (released.trans hempty.symm)
          | shutdown advances stopped inFlight =>
              obtain ⟨moment, hle, hlt, hstopped⟩ := stopped
              exact .shutdown (hadvances.then_advances advances)
                ⟨moment, hadvances.moment.trans hle, hlt, hstopped⟩ claim.key hpicked inFlight
        · intro e s₃ hfailure
          refine ⟨hadvances.then_advances hfailure.advances, ?_, fun message he =>
            (hfailure.released message he).trans hempty.symm⟩
          rcases hfailure.kept with hnone | hkey
          · exact Or.inl (hnone.trans hempty.symm)
          · exact Or.inr ⟨claim.key, hpicked, hkey⟩

end Credits

end RelayClient

end ImageStream
