/-
# The lease of a credit

A credit is lent for a time, and the client measures that time on its own monotonic clock.
`build_credited_frame_set` tests the lease twice, before it reads the members' files and
after it has serialized the message. `_handle_credit` reads the clock once for both tests,
so the second one cannot see the time that the assembly has taken.

A reading after the assembly is the clock at the moment at which the assembly is over.
-/

import ImageStream.Relay.ConnectionSteps
import ImageStream.Relay.Provenance

namespace ImageStream

open Base LatestLive

/-! ## The assembly -/

/-- The reading of the monotonic clock at which a credit has run out. -/
def ProcessorCredit.leaseDeadline (credit : ProcessorCredit) (receivedMonotonic : ℚ) : ℚ :=
  receivedMonotonic + (credit.creditLeaseDurationMs : ℚ) / 1000

/-- Whether a claim can reach admission before its deadline, and is young enough for the
credit. -/
structure Timely (claim : ClaimedFrameSet) (credit : ProcessorCredit) (config : ProtocolConfig)
    (nowUtcMs : ℤ) : Prop where
  origin : credit.earliestAcceptableFreshnessOriginUtcMs ≤ claim.freshnessOriginMs
  deadline : nowUtcMs + credit.ingressReserveMs < effectiveDeadlineUtcMs config claim credit

/-- The message of a claim with its capture configurations and its frames. -/
def assembledFrameSet (claim : ClaimedFrameSet) (credit : ProcessorCredit)
    (session : NegotiatedSession) (config : ProtocolConfig) (nowUtcMs : ℤ)
    (captureConfigs : List CaptureConfigSnapshot) (frames : List FramePayload) :
    CreditedFrameSet where
  creditScope := credit.scope
  processingJobId := session.processingJobId
  producerSessionId := config.producerSessionId
  captureSessionId := claim.captureSessionId
  key := claim.key
  mode := .live
  manifestDigest := claim.manifestDigest
  contentDigest := sha256Bytes (encodeUtf8 (canonicalJson (.arr (frames.map contentRecord))))
  orderingAnchorUtcMs := claim.anchorTimestampMs
  freshnessOriginUtcMs := claim.freshnessOriginMs
  synchronizedUtcMs := claim.synchronizedAtMs
  offeredUtcMs := nowUtcMs
  producerFreshnessBudgetMs := config.producerFreshnessBudgetMs
  effectiveDeadlineUtcMs := effectiveDeadlineUtcMs config claim credit
  synchronizationSpanMs := claim.synchronizationSpanMs
  clockUncertaintyMs := config.maximumClockUncertaintyMs
  captureConfigs := captureConfigs
  frames := frames
  alertDeadlineUtcMs := effectiveDeadlineUtcMs config claim credit
  reservedDeliveryBoundMs := 0
  processingProfileDigest := config.processingProfileDigest
  tenantId := claim.tenantId.getD ""
  siteId := claim.siteId.getD ""
  authorizedSubject := claim.authorizedSubject.getD ""
  sessionTokenJti := claim.sessionTokenJti.getD ""

/-- Whether a payload can be made of a claim: it is timely, its manifest and its files are
what they should be, and the message is within its bounds. -/
structure Assembles (codec : Codec) (claim : ClaimedFrameSet) (credit : ProcessorCredit)
    (session : NegotiatedSession) (config : ProtocolConfig) (nowUtcMs : ℤ)
    (read : ℕ → String → FileRead) : Prop where
  timely : Timely claim credit config nowUtcMs
  message : ∃ captureConfigs metadataByCamera frames,
    manifestMembers codec claim = .ok (captureConfigs, metadataByCamera) ∧
      framePayloads codec config claim nowUtcMs metadataByCamera read 0 claim.members =
        .ok frames ∧
      (assembledFrameSet claim credit session config nowUtcMs captureConfigs frames).fits ∧
      serializeWithLimit codec
        (assembledFrameSet claim credit session config nowUtcMs captureConfigs frames)
        (min session.maximumPayloadBytes credit.maximumPayloadBytes) = .ok ()

section Building

variable {codec : Codec} {claim : ClaimedFrameSet} {credit : ProcessorCredit}
  {session : NegotiatedSession} {config : ProtocolConfig} {received nowMonotonic : ℚ}
  {nowUtcMs : ℤ} {read : ℕ → String → FileRead}

theorem buildCreditedFrameSet_of_expired (h : credit.leaseDeadline received ≤ nowMonotonic) :
    buildCreditedFrameSet codec claim credit session config received nowMonotonic nowUtcMs read =
      .error (.creditRejected "credit lease expired before payload send") :=
  if_pos h

/-- A payload is built exactly of a claim that it can be made of, while the lease lasts. -/
theorem exists_buildCreditedFrameSet_iff :
    (∃ payload, buildCreditedFrameSet codec claim credit session config received nowMonotonic
      nowUtcMs read = .ok payload) ↔
      nowMonotonic < credit.leaseDeadline received ∧
        Assembles codec claim credit session config nowUtcMs read := by
  constructor
  · rintro ⟨payload, h⟩
    have hlease : nowMonotonic < credit.leaseDeadline received := by
      by_contra hexpired
      rw [buildCreditedFrameSet_of_expired (not_lt.mp hexpired)] at h
      cases h
    unfold buildCreditedFrameSet at h
    dsimp only at h
    split at h
    · cases h
    split at h
    · cases h
    rename_i horigin
    split at h
    · cases h
    rename_i hdeadline
    obtain ⟨⟨captureConfigs, metadataByCamera⟩, hmanifest, h⟩ := bind_eq_ok.mp h
    obtain ⟨frames, hframes, h⟩ := bind_eq_ok.mp h
    obtain ⟨envelope, hbuilt, h⟩ := bind_eq_ok.mp h
    obtain ⟨serialized, hserialized, -⟩ := bind_eq_ok.mp h
    have hconstruct : construct
        (assembledFrameSet claim credit session config nowUtcMs captureConfigs frames).fits
        (assembledFrameSet claim credit session config nowUtcMs captureConfigs frames) =
          .ok envelope := hbuilt
    obtain ⟨hfits, rfl⟩ := construct_eq_ok_iff.mp hconstruct
    refine ⟨hlease, ⟨not_lt.mp horigin, not_le.mp hdeadline⟩, captureConfigs, metadataByCamera,
      frames, hmanifest, hframes, hfits, ?_⟩
    cases serialized
    exact hserialized
  · rintro ⟨hlease, htimely, captureConfigs, metadataByCamera, frames, hmanifest, hframes, hfits,
      hserialized⟩
    have hlasts : ¬received + (credit.creditLeaseDurationMs : ℚ) / 1000 ≤ nowMonotonic :=
      not_le.mpr hlease
    refine ⟨assembledFrameSet claim credit session config nowUtcMs captureConfigs frames, ?_⟩
    unfold buildCreditedFrameSet
    dsimp only
    rw [if_neg hlasts, if_neg (not_lt.mpr htimely.origin),
      if_neg (not_le.mpr htimely.deadline)]
    apply bind_eq_ok.mpr ⟨_, hmanifest, ?_⟩
    apply bind_eq_ok.mpr ⟨_, hframes, ?_⟩
    apply bind_eq_ok.mpr ⟨_, construct_eq_ok_iff.mpr ⟨hfits, rfl⟩, ?_⟩
    apply bind_eq_ok.mpr ⟨_, hserialized, ?_⟩
    exact if_neg hlasts

end Building

namespace RelayClient

/-! ## Answering a credit -/

section Credits

variable (env : Surroundings) (client : RelayClient) (opened : Opened)
  (session : NegotiatedSession) (credit : ProcessorCredit)

/-- The moment at which the assembly of a claim's payload is over, which has begun with the
two clocks' readings. -/
def assembledAt (claim : ClaimedFrameSet) (s : Relaying) : ℕ :=
  s.moment + 2 + claim.members.length

/-- A credit that has arrived at the first state has a claim at the second, bound to the
credential's scope. -/
structure Answering (s : Relaying) (receivedMonotonic : ℚ) (claim : ClaimedFrameSet)
    (s' : Relaying) : Prop where
  taken : ∃ identity previewed claimed,
    previewCredit env credit session opened.helloSnapshot.key.captureRunId s =
        .ok (receivedMonotonic, identity) previewed ∧
      claimForCredit env identity previewed = .ok (some claimed) s' ∧
      bindRelayScope claimed opened.relayScope = .ok claim

/-- Whether a payload can be made of a claim, with the clock and the files from a state on. -/
def Assemblable (claim : ClaimedFrameSet) (s : Relaying) : Prop :=
  Assembles client.codec claim credit session opened.config (env.utcNowMs (s.moment + 1))
    fun index => env.readBytes (s.moment + 2 + index)

/-- No frame set has been put into the queue. -/
def Unsent (s s' : Relaying) : Prop :=
  ∀ payload, .frameSet payload ∈ s'.outgoing → .frameSet payload ∈ s.outgoing

/-- The handler puts no frame set into the queue, however it ends. -/
def SendsNothing (s : Relaying) : Prop :=
  Ensures (handleCredit env client opened session credit) s (fun _ => Unsent s) fun _ => Unsent s

/-- The handler puts no frame set into the queue, releases the claim and rejects the credit. -/
def GivesBack (s : Relaying) : Prop :=
  Ensures (handleCredit env client opened session credit) s (fun _ _ => False) fun e s' =>
    (∃ message, e = .creditRejected message) ∧ s'.db.inFlight? = none ∧ Unsent s s'

/-- What a lease is for, when a credit arrives at a state: nothing is sent once it has run
out, be it before or after the assembly, nor what cannot meet its deadline. -/
structure KeepsLease (s : Relaying) : Prop where
  after : ∀ {receivedMonotonic claim s'},
    Answering env opened session credit s receivedMonotonic claim s' →
      credit.leaseDeadline receivedMonotonic ≤ env.monotonic (assembledAt claim s') →
        SendsNothing env client opened session credit s ∧
          (Assemblable env client opened session credit claim s' →
            GivesBack env client opened session credit s)
  before : ∀ {receivedMonotonic claim s'},
    Answering env opened session credit s receivedMonotonic claim s' →
      credit.leaseDeadline receivedMonotonic ≤ env.monotonic s'.moment ∨
          ¬Timely claim credit opened.config (env.utcNowMs (s'.moment + 1)) →
        SendsNothing env client opened session credit s

end Credits

section Answers

variable {env : Surroundings} {client : RelayClient} {opened : Opened}
  {session : NegotiatedSession} {credit : ProcessorCredit} {s s' : Relaying}
  {receivedMonotonic : ℚ} {claim : ClaimedFrameSet}

/-- The state at which the assembly of a claim's payload is over. -/
def assembled (claim : ClaimedFrameSet) (s : Relaying) : Relaying :=
  { s with moment := assembledAt claim s }

/-- What the assembly from a state comes to. -/
def assembly (env : Surroundings) (client : RelayClient) (opened : Opened)
    (session : NegotiatedSession) (credit : ProcessorCredit) (receivedMonotonic : ℚ)
    (claim : ClaimedFrameSet) (s : Relaying) : Except RelayError CreditedFrameSet :=
  buildCreditedFrameSet client.codec claim credit session opened.config receivedMonotonic
    (env.monotonic s.moment) (env.utcNowMs (s.moment + 1)) fun index =>
      env.readBytes (s.moment + 2 + index)

theorem attempt_assemblePayload :
    (assemblePayload env client opened session credit receivedMonotonic claim).attempt s =
      .ok (assembly env client opened session credit receivedMonotonic claim s)
        (assembled claim s) := by
  unfold Action.attempt assemblePayload assembly
  simp only [bind, EStateM.bind, observe, readFiles]
  cases buildCreditedFrameSet client.codec claim credit session opened.config receivedMonotonic
    (env.monotonic s.moment) (env.utcNowMs (s.moment + 1))
      (fun index => env.readBytes (s.moment + 2 + index)) with
  | ok payload => rfl
  | error e => rfl

/-- The handler of a credit with a claim ends as the handling of the assembly's result. -/
theorem Answering.handleCredit_eq
    (h : Answering env opened session credit s receivedMonotonic claim s') :
    handleCredit env client opened session credit s =
      match assembly env client opened session credit receivedMonotonic claim s' with
      | .ok payload => sendPayload env claim payload (assembled claim s')
      | .error e => refuseClaim env credit claim e (assembled claim s') := by
  obtain ⟨identity, previewed, claimed, hpreview, hclaim, hbound⟩ := h.taken
  unfold handleCredit answerClaim
  simp only [bind, EStateM.bind, hpreview, hclaim, hbound, Action.ofExcept, pure, EStateM.pure,
    attempt_assemblePayload]
  cases assembly env client opened session credit receivedMonotonic claim s' with
  | ok payload => rfl
  | error e => rfl

/-- A claim is in flight when its assembly is over. -/
theorem Answering.inFlightKey
    (h : Answering env opened session credit s receivedMonotonic claim s') :
    Advances s (assembled claim s') [] ∧ InFlightKey (assembled claim s').db claim.key := by
  obtain ⟨identity, previewed, claimed, hpreview, hclaim, hbound⟩ := h.taken
  obtain ⟨hidles, -⟩ := (previewCredit_spec env credit session
    opened.helloSnapshot.key.captureRunId s).ok hpreview
  rcases (claimForCredit_spec env identity previewed).ok hclaim with ⟨hnone, -⟩ | ⟨_, heq, hclaims⟩
  · cases hnone
  · cases heq
    have hadvances := hidles.then_advances hclaims.advances
    rw [bindRelayScope_eq_ok hbound]
    refine ⟨⟨hadvances.reaches, hadvances.outgoing, hadvances.moment.trans ?_⟩, hclaims.inFlight⟩
    show s'.moment ≤ s'.moment + 2 + claim.members.length
    omega

theorem Advances.unsent {messages : List ProducerEnvelope} (h : Advances s s' messages)
    (hmessages : ∀ payload, .frameSet payload ∉ messages) : Unsent s s' := by
  intro payload hmem
  rw [h.outgoing] at hmem
  exact (List.mem_append.mp hmem).resolve_right (hmessages payload)

/-- What is refused is not sent. -/
theorem Answering.sendsNothing
    (h : Answering env opened session credit s receivedMonotonic claim s') {e : RelayError}
    (hrefused : assembly env client opened session credit receivedMonotonic claim s' = .error e) :
    SendsNothing env client opened session credit s := by
  obtain ⟨hadvances, hkey⟩ := h.inFlightKey
  have heq := @Answering.handleCredit_eq env client _ _ _ _ _ _ _ h
  rw [hrefused] at heq
  unfold SendsNothing Ensures
  rw [heq]
  apply (refuseClaim_spec env credit e hkey).imp
  · rintro _ _ ⟨noData, hput, -⟩
    exact (hadvances.then_advances hput).unsent fun payload hmem => by simp at hmem
  · intro _ _ hfailure
    exact (hadvances.then_advances hfailure.advances).unsent fun _ => List.not_mem_nil

/-- A claim whose lease has run out before its assembly is given back. -/
theorem Answering.givesBack
    (h : Answering env opened session credit s receivedMonotonic claim s')
    (hexpired : credit.leaseDeadline receivedMonotonic ≤ env.monotonic s'.moment) :
    GivesBack env client opened session credit s := by
  obtain ⟨hadvances, hkey⟩ := h.inFlightKey
  have heq := @Answering.handleCredit_eq env client _ _ _ _ _ _ _ h
  rw [assembly, buildCreditedFrameSet_of_expired hexpired] at heq
  unfold GivesBack Ensures
  rw [heq]
  apply Ensures.bind (releaseClaim_spec env _ hkey (Or.inr rfl))
  · exact fun _ _ h => h.elim
  rintro _ s'' ⟨hreleased, hnone⟩
  exact ⟨⟨_, rfl⟩, hnone, (hadvances.then_advances hreleased).unsent fun _ => List.not_mem_nil⟩

/-- A payload that has been built is not given back: the handler does not raise. -/
theorem Answering.not_givesBack
    (h : Answering env opened session credit s receivedMonotonic claim s')
    {payload : CreditedFrameSet}
    (hbuilt : assembly env client opened session credit receivedMonotonic claim s' =
      .ok payload) : ¬GivesBack env client opened session credit s := by
  obtain ⟨-, hkey⟩ := h.inFlightKey
  have heq := @Answering.handleCredit_eq env client _ _ _ _ _ _ _ h
  rw [hbuilt] at heq
  obtain ⟨hpayload, hscope⟩ := buildCreditedFrameSet_eq_ok hbuilt
  have hsend := sendPayload_spec env hkey hpayload hscope
  unfold GivesBack Ensures
  rw [heq]
  intro hback
  cases hsent : sendPayload env claim payload (assembled claim s') with
  | ok _ _ => exact Ensures.ok hback hsent
  | error e _ => exact hsend.error hsent

end Answers

/-- **A payload outlives its lease only while it is assembled.** The lease of a credit is kept
if and only if, for the claim of the credit, a payload that can be made of it before the lease
has run out is also finished before. -/
theorem keepsLease_iff (env : Surroundings) (client : RelayClient) (opened : Opened)
    (session : NegotiatedSession) (credit : ProcessorCredit) (s : Relaying) :
    KeepsLease env client opened session credit s ↔
      ∀ receivedMonotonic claim s',
        Answering env opened session credit s receivedMonotonic claim s' →
        Assemblable env client opened session credit claim s' →
          env.monotonic s'.moment < credit.leaseDeadline receivedMonotonic →
            env.monotonic (assembledAt claim s') < credit.leaseDeadline receivedMonotonic := by
  constructor
  · intro h receivedMonotonic claim s' hanswering hassemblable hlasts
    by_contra hexpired
    obtain ⟨payload, hbuilt⟩ := exists_buildCreditedFrameSet_iff.mpr ⟨hlasts, hassemblable⟩
    exact hanswering.not_givesBack hbuilt
      ((h.after hanswering (not_lt.mp hexpired)).2 hassemblable)
  · intro h
    have hrefused : ∀ {receivedMonotonic claim s'},
        Answering env opened session credit s receivedMonotonic claim s' →
          ¬(env.monotonic s'.moment < credit.leaseDeadline receivedMonotonic ∧
            Assemblable env client opened session credit claim s') →
          SendsNothing env client opened session credit s := by
      intro receivedMonotonic claim s' hanswering hnot
      cases hassembly : assembly env client opened session credit receivedMonotonic claim s' with
      | ok payload => exact absurd (exists_buildCreditedFrameSet_iff.mp ⟨payload, hassembly⟩) hnot
      | error e => exact hanswering.sendsNothing hassembly
    constructor
    case after =>
      intro receivedMonotonic claim s' hanswering hover
      by_cases hexpired : credit.leaseDeadline receivedMonotonic ≤ env.monotonic s'.moment
      · exact ⟨hrefused hanswering fun hnot => absurd hexpired (not_le.mpr hnot.1),
          fun _ => hanswering.givesBack hexpired⟩
      · have hnot : ¬Assemblable env client opened session credit claim s' := fun hassemblable =>
          absurd hover (not_le.mpr (h _ _ _ hanswering hassemblable (not_le.mp hexpired)))
        exact ⟨hrefused hanswering fun hboth => hnot hboth.2, fun hassemblable =>
          absurd hassemblable hnot⟩
    case before =>
      rintro receivedMonotonic claim s' hanswering (hexpired | huntimely)
      · exact hrefused hanswering fun hboth => absurd hexpired (not_le.mpr hboth.1)
      · exact hrefused hanswering fun hboth => huntimely hboth.2.timely

/-! ### A slow disk -/

/-- A clock that stands still until the files of a credit's claim are read, which takes five
seconds. -/
def slowReading (moment : ℕ) : ℚ := if moment < 7 then 0 else 5

theorem slowReading_monotone : Monotone slowReading := by
  intro first second h
  unfold slowReading
  by_cases hsecond : second < 7
  · rw [if_pos hsecond, if_pos (h.trans_lt hsecond)]
  · rw [if_neg hsecond]
    split <;> decide

/-- Surroundings in which the archive has the file of the set, and nothing else happens. -/
def storySurroundings (monotonic : ℕ → ℚ) : Surroundings where
  utcNowMs := fun _ => 2000
  monotonic := monotonic
  stopped := fun _ => false
  readBytes := fun _ _ => .bytes [1]
  relayCredentialProvider := none
  credentialStore := fun _ _ => .ok ()
  channelError := fun _ => none
  ingest := fun _ => []

def slowSurroundings : Surroundings := storySurroundings slowReading

def storyClient : RelayClient where
  protocolConfig := storyConfig
  codec := storyCodec

/-- The store with one set. -/
def storyRelaying : Relaying where
  db := firstStored storySet 3000
  outgoing := []

/-- The set as it is announced. -/
def storySnapshot : ClaimedFrameSet :=
  snapshot (firstStored storySet 3000) (newManifest storySet 3000) ⟨"", "", ""⟩ 0

/-- A connection that has announced the set. -/
def storyOpened : Opened where
  helloSnapshot := storySnapshot
  config := storyConfig
  authenticated := false
  relayScope := none
  reconciled := true

theorem previewCredit_eq_ok {env : Surroundings} {credit : ProcessorCredit}
    {session : NegotiatedSession} {s : Relaying} {identity : CreditIdentity}
    {preview : ClaimedFrameSet} (hidentity : creditIdentity credit session = .ok identity)
    (hpreview : snapshotForHello (ingested s.db (env.ingest (s.moment + 1))) =
      .ok (some preview)) :
    previewCredit env credit session preview.key.captureRunId s =
      .ok (env.monotonic s.moment, identity)
        { s with db := ingested s.db (env.ingest (s.moment + 1)), moment := s.moment + 2 } := by
  unfold previewCredit
  simp only [bind, EStateM.bind, observe, hidentity, Action.ofExcept, pure, EStateM.pure, consult,
    transact, hpreview, ne_eq, not_true_eq_false, if_false]

theorem claimForCredit_eq_ok {env : Surroundings} {identity : CreditIdentity} {s : Relaying}
    {db : Database} {claim : Option ClaimedFrameSet}
    (h : claimLatest (ingested s.db (env.ingest (s.moment + 1))) identity
      (env.utcNowMs s.moment) = (db, .ok claim)) :
    claimForCredit env identity s = .ok claim { s with db := db, moment := s.moment + 2 } := by
  unfold claimForCredit
  simp only [bind, EStateM.bind, observe, transact, h]

/-- The credit claims the set, four moments after it has arrived. -/
theorem exists_answering_story : ∃ claim s', ClaimsStory claim ∧ s'.moment = 4 ∧
    Answering slowSurroundings storyOpened storySession storyCredit storyRelaying 0 claim s' := by
  obtain ⟨db, claim, hclaim, hstory, -⟩ := exists_claim_story storyCredit.scope 2000
  exact ⟨claim, { db := db, outgoing := [], moment := 4 }, hstory, rfl, storyCredit.scope,
    { storyRelaying with moment := 2 }, claim,
    previewCredit_eq_ok creditIdentity_story (snapshotForHello_firstStored inserts_storySet 3000),
    claimForCredit_eq_ok hclaim, rfl⟩

theorem length_liveMembers_story : (liveMembers storySet).length = 1 := by
  unfold liveMembers sortedMembers
  rw [members_storySet]
  rfl

/-- The payload of the claim is finished four seconds after the lease has run out. -/
theorem not_keepsLease_story : Monotone slowSurroundings.monotonic ∧
    ¬KeepsLease slowSurroundings storyClient storyOpened storySession storyCredit
      storyRelaying := by
  obtain ⟨claim, s', hstory, hmoment, hanswering⟩ := exists_answering_story
  refine ⟨slowReading_monotone, fun hkeeps => ?_⟩
  have hassembly : assembly slowSurroundings storyClient storyOpened storySession storyCredit 0
      claim s' = buildCreditedFrameSet storyCodec claim storyCredit storySession storyConfig 0 0
        2000 fun _ _ => .bytes [1] := by
    unfold assembly
    rw [hmoment]
    rfl
  obtain ⟨payload, hbuilt⟩ := build_story readsStory_storyCodec hstory
  have hassemblable := exists_buildCreditedFrameSet_iff.mp ⟨payload, hassembly.trans hbuilt⟩
  have hover : storyCredit.leaseDeadline 0 ≤ slowReading (assembledAt claim s') := by
    have hlate : ¬assembledAt claim s' < 7 := by
      unfold assembledAt
      rw [hmoment, hstory.members, length_liveMembers_story]
      decide
    rw [slowReading, if_neg hlate]
    decide +kernel
  exact hanswering.not_givesBack (hassembly.trans hbuilt)
    ((hkeeps.after hanswering hover).2 hassemblable.2)

end RelayClient

end ImageStream
