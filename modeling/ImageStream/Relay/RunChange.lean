/-
# The run of a connection

A connection announces one capture run. Before it claims a set for a credit, the client looks at
the set that is next, and ends the connection if that is of another run. The claim is a
transaction of its own and picks for itself. What ingest persists in between can be of a new
run, and then it is sent under the old hello.
-/

import ImageStream.Relay.Answers
import ImageStream.Relay.Backoff

namespace ImageStream

open Base LatestLive

namespace RelayClient

/-! ## Between the preview and the claim -/

section Laws

variable (env : Surroundings) (client : RelayClient)

/-- The database that the preview for a credit reads, when the credit comes at this state. -/
def previewDatabase (s : Relaying) : Database := ingested s.db (env.ingest (s.moment + 2))

/-- The database that the claim for the credit runs on. -/
def claimingDatabase (s : Relaying) : Database :=
  ingested (previewDatabase env s) (env.ingest (s.moment + 4))

/-- If the preview finds nothing of another run, then neither does the claim. -/
def KeepsRun (captureRunId : String) (s : Relaying) : Prop :=
  ∀ preview, newestEligible (previewDatabase env s) s.db.client = .ok preview →
    (∀ manifest ∈ preview, manifest.captureRunId = captureRunId) →
    ∀ candidate, newestEligible (claimingDatabase env s) s.db.client = .ok (some candidate) →
      candidate.captureRunId = captureRunId

/-- A credit for which a set is going to be claimed finds the announced run kept. -/
def CreditKeepsRun (opened : Opened) (t : Connection) (envelope : ProcessorEnvelope) : Prop :=
  ∀ credit session identity, envelope = .credit credit → t.loop.session = some session →
    t.loop.reconciled = true → env.stopped t.relaying.moment = false →
      creditIdentity credit session = .ok identity → t.relaying.db.inFlight? = none →
        KeepsRun env opened.helloSnapshot.key.captureRunId t.relaying

/-- No new run comes between the preview and the claim for a credit of the connection. -/
def CreditsKeepRun (s : Relaying) (responses : Responses) : Prop :=
  ∀ opened s', openConnection env client s = .ok (.opened opened) s' →
    Machine.EachStep (envelopeStep env client opened) (fun _ => CreditKeepsRun env opened)
      (opened.start s') responses.envelopes

/-- What a connection sends and leaves is of the run that its hello announces. -/
structure SentUnder (s : Relaying) (responses : Responses) (hello : Option ProducerHello) :
    Prop where
  queue : (runConnection env client s responses).1.outgoing = s.outgoing ++
    hello.toList.map ProducerEnvelope.hello ++
      (loopHistory env client s responses.envelopes).flatMap enqueued
  sent : ∀ frameSet : CreditedFrameSet,
    .frameSet frameSet ∈ (loopHistory env client s responses.envelopes).flatMap enqueued →
      ∃ announced ∈ hello, frameSet.key.captureRunId = announced.captureRunId
  left : (runConnection env client s responses).1.db.inFlight? = s.db.inFlight? ∨
    (runConnection env client s responses).1.db.inFlight? = none ∨
    ∃ announced ∈ hello, ∃ key : FrameSetKey, key.captureRunId = announced.captureRunId ∧
      InFlightKey (runConnection env client s responses).1.db key

def SendsUnderHello (s : Relaying) (responses : Responses) : Prop :=
  ∃ hello, SentUnder env client s responses hello

end Laws

section Steps

variable {env : Surroundings} {client : RelayClient} {opened : Opened} {s s' : Relaying}

/-- What a preview has read, when it lets the credit pass. -/
theorem previewCredit_passes (credit : ProcessorCredit) (session : NegotiatedSession)
    (expectedCaptureRunId : String) (s : Relaying) :
    Ensures (previewCredit env credit session expectedCaptureRunId) s
      (fun _ s' => (∃ identity, creditIdentity credit session = .ok identity) ∧
        s' = { s with
          db := ingested s.db (env.ingest (s.moment + 1)), moment := s.moment + 1 + 1 } ∧
        ∃ preview, snapshotForHello (ingested s.db (env.ingest (s.moment + 1))) = .ok preview ∧
          ∀ snapshot ∈ preview, snapshot.key.captureRunId = expectedCaptureRunId)
      fun _ _ => True := by
  unfold previewCredit
  apply Ensures.bind_iff.mpr
  apply observe_iff.mpr
  apply Ensures.bind_iff.mpr
  apply Ensures.ofExcept_iff.mpr
  refine ⟨fun identity hidentity => ?_, fun _ _ => trivial⟩
  apply Ensures.bind_iff.mpr
  apply (transact_iff env).mpr
  refine ⟨fun preview hpreview => ?_, fun _ _ => trivial⟩
  dsimp only at hpreview ⊢
  cases preview with
  | none => exact ⟨⟨identity, hidentity⟩, rfl, none, hpreview, fun _ hmem => by cases hmem⟩
  | some preview =>
      apply Ensures.ite
      · exact fun _ => trivial
      · intro hsame
        refine ⟨⟨identity, hidentity⟩, rfl, some preview, hpreview, fun snapshot hmem => ?_⟩
        obtain rfl := Option.mem_some_iff.mp hmem
        exact not_not.mp hsame

/-- What is announced where nothing is in flight is what is picked. -/
theorem newestEligible_of_snapshotForHello {db : Database} (hnone : db.inFlight? = none)
    {preview : Option ClaimedFrameSet} (h : snapshotForHello db = .ok preview) :
    ∃ picked, newestEligible db db.client = .ok picked ∧
      ∀ manifest ∈ picked, ∃ snapshot ∈ preview, snapshot.key = manifest.key := by
  have hcolumn : db.client.inFlightFrameSetUid = none := hnone
  unfold snapshotForHello at h
  dsimp only at h
  rw [hcolumn] at h
  dsimp only at h
  split at h
  · cases h
  · rename_i hpicked
    exact ⟨none, hpicked, fun _ hmem => by cases hmem⟩
  · rename_i manifest hpicked
    cases h
    refine ⟨some manifest, hpicked, fun manifest' hmem => ⟨_, rfl, ?_⟩⟩
    obtain rfl := Option.mem_some_iff.mp hmem
    rfl

/-- Where the run is kept, a claim for a credit picks a set of the announced run. -/
theorem picks_of_keepsRun {t : Connection} {envelope : ProcessorEnvelope}
    (hrunning : env.stopped t.relaying.moment = false)
    (h : CreditKeepsRun env opened t envelope) :
    EnvelopePicks env opened
      (fun key => key.captureRunId = opened.helloSnapshot.key.captureRunId) t.loop envelope
      t.relaying := by
  intro credit session hcredit hsession hready previewed s' hpreviewed hflight candidate hpicked
  obtain ⟨⟨identity, hidentity⟩, rfl, preview, hpreview, hrun⟩ := (previewCredit_passes credit
    session opened.helloSnapshot.key.captureRunId (tested t.relaying)).ok hpreviewed
  have hflight' : (previewDatabase env t.relaying).inFlight? = none := hflight
  have hnone : t.relaying.db.inFlight? = none := (inFlight?_ingested _ _).symm.trans hflight
  have hclient : (previewDatabase env t.relaying).client = t.relaying.db.client :=
    client_ingested _ _
  obtain ⟨picked, hnext, hannounced⟩ := newestEligible_of_snapshotForHello hflight' hpreview
  rw [hclient] at hnext
  have hpicked' : newestEligible (claimingDatabase env t.relaying)
      (previewDatabase env t.relaying).client = .ok (some candidate) := hpicked
  rw [hclient] at hpicked'
  refine h credit session identity hcredit hsession hready hrunning hidentity hnone picked hnext
    (fun manifest hmem => ?_) candidate hpicked'
  obtain ⟨snapshot, hsnapshot, hkey⟩ := hannounced manifest hmem
  have hsame := hrun snapshot hsnapshot
  rwa [hkey] at hsame

/-- A response that finds the stop event set is not handled. -/
theorem envelopeStep_of_stopped {t : Connection} (hleft : t.left = none)
    (hstopped : env.stopped t.relaying.moment = true) (envelope : ProcessorEnvelope) :
    envelopeStep env client opened t envelope =
      ({ t with relaying := tested t.relaying, left := some .stopped }, .stopped) := by
  have hturn : handleEnvelope env client opened t.loop envelope t.relaying =
      .ok .stopped (tested t.relaying) := by
    unfold handleEnvelope
    simp only [bind, EStateM.bind, observe, hstopped, if_true]
    rfl
  unfold envelopeStep
  rw [hleft]
  dsimp only
  rw [hturn]

/-- Where the run is kept, what is claimed for a response is of the announced run. -/
theorem effect_of_keepsRun {t : Connection} {envelope : ProcessorEnvelope}
    (h : CreditKeepsRun env opened t envelope) :
    EnvelopeEffect env opened
      (fun key => key.captureRunId = opened.helloSnapshot.key.captureRunId) t envelope
      (envelopeStep env client opened t envelope).1
      (envelopeStep env client opened t envelope).2 := by
  cases hrunning : env.stopped t.relaying.moment with
  | false => exact envelopeStep_effect env client fun _ => picks_of_keepsRun hrunning h
  | true =>
      cases hleft : t.left with
      | none =>
          rw [envelopeStep_of_stopped hleft hrunning]
          exact .stopped hleft (.stopped (observe_idles env.stopped t.relaying))
      | some handling =>
          apply envelopeStep_effect
          intro hnone
          cases hleft.symm.trans hnone

end Steps

/-! ## What an effect sends and leaves -/

section Effects

variable {env : Surroundings} {opened : Opened} {P : FrameSetKey → Prop}

/-- What is in flight was so before, or has the property, or nothing is. -/
def Leaves (P : FrameSetKey → Prop) (s s' : Relaying) : Prop :=
  s'.db.inFlight? = s.db.inFlight? ∨ s'.db.inFlight? = none ∨
    ∃ key, P key ∧ InFlightKey s'.db key

theorem Leaves.trans {s s' s'' : Relaying} (h : Leaves P s s') (h' : Leaves P s' s'')
    (hreaches : Reaches s'.db s''.db) : Leaves P s s'' := by
  rcases h' with hsame | hnone | hkey
  · rcases h with hsame' | hnone' | ⟨key, hP, hinFlight⟩
    · exact Or.inl (hsame.trans hsame')
    · exact Or.inr (Or.inl (hsame.trans hnone'))
    · exact Or.inr (Or.inr ⟨key, hP, hinFlight.of_reaches hreaches hsame⟩)
  · exact Or.inr (Or.inl hnone)
  · exact Or.inr (Or.inr hkey)

/-- What a response does to the queue and to what is in flight, when the claims for it have a
property. -/
structure Sends (P : FrameSetKey → Prop) (e : LoopExchange) : Prop where
  reaches : Reaches e.before.relaying.db e.after.relaying.db
  queue : e.after.relaying.outgoing = e.before.relaying.outgoing ++ enqueued e
  sent : ∀ frameSet : CreditedFrameSet, .frameSet frameSet ∈ enqueued e → P frameSet.key
  left : Leaves P e.before.relaying e.after.relaying

theorem Sends.of_advances {e : LoopExchange} {messages : List ProducerEnvelope}
    (h : Advances e.before.relaying e.after.relaying messages)
    (hsent : ∀ frameSet : CreditedFrameSet, .frameSet frameSet ∈ messages → P frameSet.key)
    (hleft : Leaves P e.before.relaying e.after.relaying) : Sends P e := by
  have hmessages := enqueued_eq h.outgoing
  refine ⟨h.reaches, ?_, ?_, hleft⟩
  · rw [hmessages]
    exact h.outgoing
  · rw [hmessages]
    exact hsent

theorem Sends.of_idles {e : LoopExchange} (h : Idles e.before.relaying e.after.relaying) :
    Sends P e :=
  .of_advances h.advances (fun _ hmem => by cases hmem) (Or.inl h.inFlight)

theorem Sends.of_quiets {e : LoopExchange} (h : Quiets e.before.relaying e.after.relaying) :
    Sends P e :=
  .of_advances h.advances (fun _ hmem => by cases hmem) (h.inFlight.imp_right Or.inl)

theorem sends_of_effect {e : LoopExchange}
    (heffect : EnvelopeEffect env opened P e.before e.input e.after e.output) : Sends P e := by
  obtain ⟨before, input, output, after⟩ := e
  dsimp only at heffect
  cases heffect with
  | unread was => exact .of_idles (Idles.refl before.relaying)
  | stopped was effect =>
      cases effect with
      | stopped idles => exact .of_idles idles
  | retired was effect =>
      cases effect with
      | retired first idles => exact .of_idles idles
  | raised was failure =>
      cases failure with
      | idle idles => exact .of_idles idles
      | quiet received quiets => exact .of_quiets quiets
      | credit failure =>
          exact .of_advances failure.advances (fun _ hmem => by cases hmem)
            (failure.kept.imp_right Or.inr)
  | continued was effect =>
      cases effect with
      | accepted first accepts =>
          rcases accepts.advances with hadvances | ⟨request, hadvances⟩
          · exact .of_advances hadvances (fun _ hmem => by cases hmem) (Or.inl accepts.inFlight)
          · refine .of_advances hadvances (fun frameSet hmem => ?_) (Or.inl accepts.inFlight)
            cases List.mem_singleton.mp hmem
      | reconciled started response received quiets => exact .of_quiets quiets
      | reported started received quiets => exact .of_quiets quiets
      | credited started ready credit received answer =>
          cases answer with
          | frameSet frameSet advances scope negotiated picked inFlight =>
              refine .of_advances advances (fun frameSet' hmem => ?_)
                (Or.inr (Or.inr ⟨frameSet.key, picked, inFlight⟩))
              cases List.mem_singleton.mp hmem
              exact picked
          | noData noData advances scope kept =>
              refine .of_advances advances (fun frameSet hmem => ?_) (Or.inl kept)
              cases List.mem_singleton.mp hmem
          | shutdown advances stopped key picked inFlight =>
              exact .of_advances advances (fun _ hmem => by cases hmem)
                (Or.inr (Or.inr ⟨key, picked, inFlight⟩))

end Effects

/-! ## The connection -/

section Connections

variable {env : Surroundings} {client : RelayClient}

/-- Where the run is kept, the loop sends and leaves sets of the announced run only. -/
theorem loop_keepsRun (opened : Opened) (start : Relaying) {envelopes : List ProcessorEnvelope}
    (h : Machine.EachStep (envelopeStep env client opened) (fun _ => CreditKeepsRun env opened)
      (opened.start start) envelopes) :
    (∀ e ∈ Machine.history (envelopeStep env client opened) (opened.start start) envelopes,
      ∀ frameSet : CreditedFrameSet, .frameSet frameSet ∈ enqueued e →
        frameSet.key.captureRunId = opened.helloSnapshot.key.captureRunId) ∧
      Leaves (fun key => key.captureRunId = opened.helloSnapshot.key.captureRunId) start
        (Machine.after (envelopeStep env client opened) (opened.start start) envelopes).relaying := by
  refine Machine.history_invariant_of (envelopeStep env client opened)
    (I := fun past t => (∀ e ∈ past, ∀ frameSet : CreditedFrameSet,
      .frameSet frameSet ∈ enqueued e →
        frameSet.key.captureRunId = opened.helloSnapshot.key.captureRunId) ∧
      Leaves (fun key => key.captureRunId = opened.helloSnapshot.key.captureRunId) start t.relaying)
    ⟨fun _ hmem => (by cases hmem), Or.inl rfl⟩ ?_ h
  rintro past t envelope ⟨hsent, hleft⟩ hkeeps
  have hsends := sends_of_effect (e := Machine.exchange (envelopeStep env client opened) t envelope)
    (effect_of_keepsRun hkeeps)
  refine ⟨?_, hleft.trans hsends.left hsends.reaches⟩
  intro e hmem
  rcases List.mem_append.mp hmem with hpast | hlast
  · exact hsent e hpast
  · rw [List.mem_singleton.mp hlast]
    exact hsends.sent

/-- A connection whose loop is not reached sends nothing and leaves what is in flight. -/
theorem sendsUnderHello_of_greets {s : Relaying} {responses : Responses}
    (h : Greets s (runConnection env client s responses).1)
    (hnone : loopHistory env client s responses.envelopes = []) :
    SendsUnderHello env client s responses := by
  obtain ⟨hello, hqueue⟩ := h.queue
  refine ⟨hello, ?_, ?_, Or.inl h.inFlight⟩
  · rw [hnone]
    exact hqueue.trans (List.append_nil _).symm
  · rw [hnone]
    exact fun _ hmem => by cases hmem

/-- **Frame sets are sent under the hello of their run, unless a new run comes in between.**
Where no set of another run becomes the one to be claimed between the preview and the claim
for a credit, every frame set of the connection is of the run that its hello announces, and so
is what it claims and leaves in flight. -/
theorem sendsUnderHello_of_keepsRun (env : Surroundings) (client : RelayClient) (s : Relaying)
    (responses : Responses) (h : CreditsKeepRun env client s responses) :
    SendsUnderHello env client s responses := by
  have hopening := openConnection_spec env client s
  have hgreets := openConnection_greets env client s
  cases hopened : openConnection env client s with
  | error e s' =>
      apply sendsUnderHello_of_greets
      · unfold runConnection
        rw [hopened]
        exact hgreets.error hopened
      · unfold loopHistory
        rw [hopened]
  | ok opening s' =>
      cases opening with
      | opened opened =>
          cases hopening.ok hopened with
          | opened connection hello announced =>
              obtain ⟨hsent, hleft⟩ := loop_keepsRun opened s' (h opened s' hopened)
              have hcloses := closes_runConnection env client responses hopened
              have hhistory := loopHistory_of_opened env client hopened responses.envelopes
              refine ⟨some hello, ?_, ?_, ?_⟩
              · rw [hcloses.outgoing, outgoing_after, announced.advances.outgoing, hhistory]
                rfl
              · intro frameSet hmem
                rw [hhistory] at hmem
                obtain ⟨e, he, hput⟩ := List.mem_flatMap.mp hmem
                exact ⟨hello, rfl, (hsent e he frameSet hput).trans announced.run.symm⟩
              · have hend := hleft.trans (Or.inl hcloses.inFlight) hcloses.reaches
                rcases hend with hsame | hnone | ⟨key, hrun, hkey⟩
                · exact Or.inl (hsame.trans announced.inFlight)
                · exact Or.inr (Or.inl hnone)
                · exact Or.inr (Or.inr ⟨hello, rfl, key, hrun.trans announced.run.symm, hkey⟩)
      | _ =>
          apply sendsUnderHello_of_greets
          · unfold runConnection
            rw [hopened]
            exact hgreets.ok hopened
          · unfold loopHistory
            rw [hopened]

/-- Without ingest nothing comes in between. -/
theorem creditsKeepRun_of_quiet (hingest : ∀ moment, env.ingest moment = []) (s : Relaying)
    (responses : Responses) : CreditsKeepRun env client s responses := by
  intro opened s' _ first envelope second _ credit session identity _ _ _ _ _ _ preview hpreview
    hrun candidate hcandidate
  have hsame : claimingDatabase env (Machine.after (envelopeStep env client opened)
      (opened.start s') first).relaying = previewDatabase env (Machine.after
        (envelopeStep env client opened) (opened.start s') first).relaying := by
    unfold claimingDatabase
    rw [hingest]
    rfl
  rw [hsame, hpreview] at hcandidate
  exact hrun candidate (Option.mem_def.mpr (Except.ok.inj hcandidate))

end Connections

open RelayWorker

/-- The processor accepts the hello and gives a credit. -/
def creditedResponses : Responses where
  envelopes := [.helloAccepted storyAccepted, .credit storyCredit]

/-- Without ingest the set is sent under its own hello. -/
theorem sendsUnderHello_story :
    CreditsKeepRun slowSurroundings storyClient storyRelaying creditedResponses ∧
      SendsUnderHello slowSurroundings storyClient storyRelaying creditedResponses :=
  ⟨creditsKeepRun_of_quiet (fun _ => rfl) _ _,
    sendsUnderHello_of_keepsRun _ _ _ _ (creditsKeepRun_of_quiet (fun _ => rfl) _ _)⟩

/-! ### A store with two sets -/

section Second

/-- The second of two sets can be stored after the first one, and is not older. -/
structure StoredAfter (first second : SynchronizedFrameSet) : Prop where
  takesFirst : ({} : Database).Inserts first
  takesSecond : ({} : Database).Inserts second
  own : second.OwnMembers
  apart : second.Apart first
  later : first.synchronizedAtMs ≤ second.synchronizedAtMs

/-- The store with one set, once a client state has been written. -/
def storedWith (frameSet : SynchronizedFrameSet) (nowMs : ℤ) (state : RelayV2ClientState) :
    Database :=
  { firstStored frameSet nowMs with clientState := some state }

/-- The store once a second set has been stored. -/
def bothStored (first second : SynchronizedFrameSet) (firstMs secondMs : ℤ)
    (state : RelayV2ClientState) : Database :=
  (planInsert (storedWith first firstMs state) second secondMs).apply
    (storedWith first firstMs state)

variable {first second : SynchronizedFrameSet} {firstMs secondMs : ℤ} {state : RelayV2ClientState}

theorem rows_storedWith (h : ({} : Database).Inserts first) :
    (storedWith first firstMs state).manifests.rows = [newManifest first firstMs] :=
  rows_manifests_insert firstMs h.absent

namespace StoredAfter

/-- The store takes the second set. -/
theorem inserts (h : StoredAfter first second) (firstMs : ℤ) (state : RelayV2ClientState) :
    (storedWith first firstMs state).Inserts second := by
  have hempty : ({} : Database).Records (· = first) := .empty _
  have hstored := hempty.insert rfl h.takesFirst firstMs
  have hrecords : (storedWith first firstMs state).Records (· = first) :=
    ⟨hstored.manifests, hstored.projections, hstored.runs, hstored.sessions, hstored.founders,
      hstored.members⟩
  apply hrecords.inserts h.takesSecond.mode h.takesSecond.takes.valid h.own
  · rw [Table.find_eq_none_iff]
    intro manifest hmem heq
    rw [rows_storedWith h.takesFirst, List.mem_singleton] at hmem
    rw [hmem] at heq
    exact h.apart.uid heq.symm
  · rintro _ rfl -
    exact h.apart

theorem ingested_eq (h : StoredAfter first second) (firstMs secondMs : ℤ)
    (state : RelayV2ClientState) :
    ingested (storedWith first firstMs state)
      [⟨.persistFrameSetManifest second none secondMs, rfl⟩] =
        bothStored first second firstMs secondMs state :=
  congrArg Prod.fst (persist_of_inserts (h.inserts firstMs state) none secondMs)

/-- It supersedes the first one, and is picked. -/
theorem newestEligible (h : StoredAfter first second)
    (hwatermark : state.watermarkFrameSetUid = none) :
    isEligible (bothStored first second firstMs secondMs state) (newManifest second secondMs) =
        true ∧
      LatestLive.newestEligible (bothStored first second firstMs secondMs state) state =
        .ok (some (newManifest second secondMs)) := by
  refine newestEligible_insert (h.inserts firstMs state).absent ?_ rfl rfl hwatermark
  intro hexists
  obtain ⟨manifest, ⟨hmem, -⟩, hlt⟩ := newerEligibleExists_iff.mp hexists
  rw [rows_storedWith h.takesFirst, List.mem_singleton] at hmem
  rw [hmem] at hlt
  exact absurd h.later (not_le.mpr hlt)

/-- It is claimed with its members. -/
theorem exists_claim (h : StoredAfter first second) (hnone : state.inFlightFrameSetUid = none)
    (hwatermark : state.watermarkFrameSetUid = none) (credit : CreditIdentity) (offeredAtMs : ℤ) :
    ∃ db, claimLatest (bothStored first second firstMs secondMs state) credit offeredAtMs =
          (db, .ok (some (snapshot db (newManifest second secondMs) credit offeredAtMs))) ∧
      (snapshot db (newManifest second secondMs) credit offeredAtMs).members =
        liveMembers second := by
  obtain ⟨heligible, hpicked⟩ := @newestEligible _ _ firstMs secondMs _ h hwatermark
  have hclaimed : ∃ db, claimLatest (bothStored first second firstMs secondMs state) credit
      offeredAtMs = (db, .ok (some (snapshot db (newManifest second secondMs) credit
        offeredAtMs))) :=
    claimLatest_of_picked credit hnone hpicked heligible
  obtain ⟨db, hclaim⟩ := hclaimed
  refine ⟨db, hclaim, ?_⟩
  have hfirst : (storedWith first firstMs state).Stores
      (fun frameSet => frameSet = first ∨ frameSet = second) :=
    (stores_firstStored (Or.inl rfl) h.takesFirst firstMs).of_rows rfl rfl
  have hboth : (bothStored first second firstMs secondMs state).Stores
      (fun frameSet => frameSet = first ∨ frameSet = second) := by
    rw [← h.ingested_eq]
    exact hfirst.storeStep fun _ hpersisted => Or.inr (Option.some.inj hpersisted).symm
  have hdb : (storeStep (bothStored first second firstMs secondMs state)
      (.claimLatest credit offeredAtMs)).1 = db := congrArg Prod.fst hclaim
  have hstores : db.Stores (fun frameSet => frameSet = first ∨ frameSet = second) := by
    rw [← hdb]
    exact hboth.storeStep fun _ hpersisted => by cases hpersisted
  have hmem : newManifest second secondMs ∈ db.manifests.rows := by
    rw [← hdb]
    refine Table.mem_of_find _ (find_manifests_storeStep _ _ (Table.find_of_mem _ ?_))
    unfold bothStored
    rw [rows_manifests_insert secondMs (h.inserts firstMs state).absent]
    exact List.mem_append_right _ (List.mem_singleton_self _)
  refine members_snapshot_of_stores hstores hmem ?_ credit offeredAtMs
  rintro other (rfl | rfl) huid
  · exact absurd huid.symm h.apart.uid
  · rfl

end StoredAfter

end Second

/-! ### A set of an earlier run -/

/-- A frame of an earlier session. -/
def earlierFrame : SyncInputFrame :=
  { rotatedFrame "z" 500 with captureConfigDigest := some "config" }

def earlierSets : List SynchronizedFrameSet :=
  emittedSets (newMatcher ["left"] 50 20 "run-0") [matchOp earlierFrame 501 "run-1"]

theorem length_earlierSets : 0 < earlierSets.length := by decide +kernel

/-- The set of an earlier run, once it is archived. -/
def earlierSet : SynchronizedFrameSet :=
  (earlierSets.get ⟨0, length_earlierSets⟩).archived (buildBufferKey earlierFrame) 2
    "/archive/earlier.jpg"

/-- What the set has. -/
theorem header_earlierSet : earlierSet.members =
      [earlierFrame.stored.withArchive (some 2) (some "/archive/earlier.jpg") .durable none] ∧
    earlierSet.identityMode = .v2 ∧ earlierSet.Durable ∧ earlierSet.captureRunId = some "run-0" ∧
    earlierSet.synchronizedAtMs = 501 ∧ earlierSet.processingJobId = none ∧
    earlierSet.profileDigest = none ∧
    storyFrame.sourceFrameUid ≠ earlierFrame.sourceFrameUid := by
  decide +kernel

theorem inserts_earlierSet : ({} : Database).Inserts earlierSet := by
  obtain ⟨hmembers, hmode, hdurable, -⟩ := header_earlierSet
  exact inserts_of_emitted (by decide) (List.get_mem earlierSets ⟨0, length_earlierSets⟩)
    (SynchronizedFrameSet.sameContent_archived _ _ _ _) hmode hdurable hmembers

theorem coherent_earlierSet : earlierSet.Coherent := by
  have hcompleted : IsCompleted earlierSets earlierSet :=
    ⟨_, List.get_mem _ _, SynchronizedFrameSet.sameContent_archived _ _ _ _⟩
  exact coherent_of_isEmitted (isEmitted_of_isCompleted hcompleted) header_earlierSet.2.1

theorem runs_story : earlierSet.captureRunId = some "run-0" ∧
    storySet.captureRunId = some "run-1" :=
  ⟨header_earlierSet.2.2.2.1, header_storySet.2.2.2.1⟩

/-- The uids are different; they are digests of the two manifests. -/
theorem uids_differ : uidOfPayload storySet.payload ≠ uidOfPayload earlierSet.payload := by
  rw [uidOfPayload_eq, uidOfPayload_eq]
  decide +kernel

theorem texts_differ : canonicalJson storySet.payload ≠ canonicalJson earlierSet.payload := by
  intro heq
  apply uids_differ
  unfold uidOfPayload buildManifestDigest
  rw [heq]

theorem apart_story : storySet.Apart earlierSet := by
  have hfirst := coherent_storySet
  have hsecond := coherent_earlierSet
  have hruns : storySet.captureRunId ≠ earlierSet.captureRunId := by
    rw [runs_story.1, runs_story.2]
    decide
  constructor
  case uid =>
    intro heq
    unfold SynchronizedFrameSet.uid at heq
    rw [hfirst.frameSetUid, hsecond.frameSetUid] at heq
    exact uids_differ heq
  case digest =>
    intro heq
    rw [hfirst.manifestDigest, hsecond.manifestDigest] at heq
    apply uids_differ
    unfold uidOfPayload
    rw [Option.some.inj heq]
  case number => exact fun hboth => hruns hboth.1
  case session => exact fun hsame => absurd hsame hruns
  case sources =>
    intro member hmember other hother
    rw [members_storySet, List.mem_singleton] at hmember
    rw [header_earlierSet.1, List.mem_singleton] at hother
    rw [hmember, hother]
    exact header_earlierSet.2.2.2.2.2.2.2

/-- What `json.loads` reads for the member of the earlier set. -/
def earlierMember : JsonValue :=
  .obj
    [("authorized_camera_id", .null),
      ("authorized_subject", .null),
      ("camera_claim_id", .null),
      ("camera_stream_id", .str "left"),
      ("capture_config_digest", .str "config"),
      ("capture_metadata_json", .str "\x7b\x7d"),
      ("capture_timestamp_ms", .int 500),
      ("content_digest", .str (sha256Bytes [1])),
      ("content_type", .str "image/jpeg"),
      ("device_id", .str "left"),
      ("frame_sequence", .int 1),
      ("image_size", .int 1),
      ("session_token_jti", .null),
      ("source_frame_uid", .str (earlierFrame.sourceFrameUid.getD "")),
      ("source_session_id", .str "z")]

/-- What `json.loads` reads from the manifest of the earlier set. -/
def earlierManifest : JsonValue :=
  .obj
    [("authorization", .null),
      ("capture_session_id", .str (earlierSet.captureSessionId.getD "")),
      ("identity_mode", .str "V2"),
      ("members", .arr [earlierMember]),
      ("schema_version", .int 2),
      ("synchronization", .obj
        [("algorithm", .str "minimum-span-v1"),
          ("anchor_timestamp_ms", .int 500),
          ("freshness_origin_ms", .int 500),
          ("span_ms", .int 0),
          ("window_ms", .int 50)])]

/-- A reader of the texts of both sets. -/
def runsCodec : Codec :=
  { storyCodec with
    loads := fun text =>
      if text = canonicalJson earlierSet.payload then some earlierManifest
      else storyCodec.loads text }

theorem loads_runsCodec : runsCodec.loads = fun text =>
    if text = canonicalJson earlierSet.payload then some earlierManifest
    else storyCodec.loads text := rfl

theorem load_runsCodec {text : String} (h : text ≠ canonicalJson earlierSet.payload) :
    runsCodec.load text = storyCodec.load text := by
  unfold Codec.load
  rw [loads_runsCodec]
  beta_reduce
  rw [if_neg h]

theorem readsStory_runsCodec : runsCodec.ReadsStory where
  empty :=
    (load_runsCodec (canonicalJson_payload_ne_empty earlierSet).symm).trans
      readsStory_storyCodec.empty
  story := (load_runsCodec texts_differ).trans readsStory_storyCodec.story
  size _ := rfl

/-- The earlier set as it is announced. -/
def earlierSnapshot : ClaimedFrameSet :=
  snapshot (firstStored earlierSet 600) (newManifest earlierSet 600) ⟨"", "", ""⟩ 0

theorem exists_hello_earlier (job : Option String) : ∃ hello,
    buildProducerHello runsCodec storyConfig earlierSnapshot none [] job 2000 =
        .ok (.hello hello) ∧
      hello.captureRunId = earlierSnapshot.key.captureRunId := by
  have hmember : ∃ config, config.cameraStreamId = "left" ∧
      readManifestMember runsCodec earlierMember =
        .ok (config, [("capture_config_digest", .str "config")]) :=
    readManifestMember_of_fields readsStory_runsCodec.empty rfl rfl rfl rfl
  obtain ⟨config, hcamera, hread⟩ := hmember
  have htext : earlierSnapshot.manifestJson = canonicalJson earlierSet.payload :=
    manifestJson_snapshot coherent_earlierSet _ _ _ _
  have hload : runsCodec.load earlierSnapshot.manifestJson = .ok earlierManifest := by
    apply Codec.load_of_loads
    rw [htext, loads_runsCodec]
    beta_reduce
    rw [if_pos rfl]
  have hstreams : earlierSnapshot.members.map (·.cameraStreamId) = ["left"] := by
    have hmembers := members_snapshot_firstStored inserts_earlierSet 600 ⟨"", "", ""⟩ 0
    unfold earlierSnapshot
    rw [hmembers]
    unfold liveMembers sortedMembers
    rw [header_earlierSet.1]
    rfl
  exact exists_hello (manifestMembers_of_member hload rfl hcamera hread hstreams) job


theorem storedAfter_story : StoredAfter earlierSet storySet where
  takesFirst := inserts_earlierSet
  takesSecond := inserts_storySet
  own := ownMembers_of_singleton members_storySet
  apart := apart_story
  later := by
    rw [header_earlierSet.2.2.2.2.1, header_storySet.2.2.2.2.2.2.2.1]
    decide

/-! ### A new run after the preview -/

/-- Surroundings in which the set of the new run is stored just before the claim for the
credit. -/
def newRunSurroundings : Surroundings :=
  { storySurroundings (fun _ => 0) with
    ingest := fun moment =>
      if moment = 16 then [⟨.persistFrameSetManifest storySet none 3000, rfl⟩] else [] }

def runsClient : RelayClient where
  protocolConfig := storyConfig
  codec := runsCodec

/-- The store with the earlier set, at some moment of the connection. -/
def earlierAt (outgoing : List ProducerEnvelope) (moment : ℕ) : Relaying where
  db := firstStored earlierSet 600
  outgoing := outgoing
  moment := moment

/-- A connection that has announced the earlier set. -/
def earlierOpened : Opened where
  helloSnapshot := earlierSnapshot
  config := storyConfig
  authenticated := false
  relayScope := none
  reconciled := true

theorem ingest_newRun {moment : ℕ} (h : moment < 16) : newRunSurroundings.ingest moment = [] :=
  if_neg h.ne

theorem openConnection_earlier : ∃ hello : ProducerHello,
    hello.captureRunId = earlierSnapshot.key.captureRunId ∧
      openConnection newRunSurroundings runsClient (earlierAt [] 0) =
        .ok (.opened earlierOpened) (earlierAt [.hello hello] 8) := by
  obtain ⟨hello, hbuilt, hrun⟩ := exists_hello_earlier earlierSnapshot.processingJobId
  obtain ⟨-, -, -, -, -, hjob, hprofile, -⟩ := header_earlierSet
  have hconfig := @bindAuthorizedClaim_story earlierSnapshot hprofile
  have hjob : truthy earlierSnapshot.processingJobId = false := by
    show truthy earlierSet.processingJobId = false
    rw [hjob]
    rfl
  refine ⟨hello, hrun, openConnection_eq (fun moment hlt => ingest_newRun ?_) (fun _ => rfl)
    (fun _ => rfl) rfl (snapshotForHello_firstStored inserts_earlierSet 600) hconfig hjob hbuilt⟩
  exact hlt.trans (by decide)

theorem snapshotForHello_storedWith {frameSet : SynchronizedFrameSet}
    (h : ({} : Database).Inserts frameSet) (nowMs : ℤ) {state : RelayV2ClientState}
    (hnone : state.inFlightFrameSetUid = none) (hwatermark : state.watermarkFrameSetUid = none) :
    snapshotForHello (storedWith frameSet nowMs state) =
      .ok (some (snapshot (storedWith frameSet nowMs state) (newManifest frameSet nowMs)
        ⟨"", "", ""⟩ 0)) := by
  have hpicked := (@newestEligible_firstStored _ h nowMs (storedWith frameSet nowMs state) rfl rfl
    state hwatermark).2
  unfold snapshotForHello storedWith Database.client at *
  dsimp only [Option.getD_some] at hpicked ⊢
  rw [hnone, hpicked]

/-- The set that the preview finds is of the announced run, and the claim takes that of the new
run. -/
theorem answering_newRun {state : RelayV2ClientState} (hnone : state.inFlightFrameSetUid = none)
    (hwatermark : state.watermarkFrameSetUid = none) (outgoing : List ProducerEnvelope) :
    ∃ claim s', ClaimsStory claim ∧
      claim.key.captureRunId = (newManifest storySet 3000).captureRunId ∧ s'.moment = 17 ∧
        s'.outgoing = outgoing ∧
          Answering newRunSurroundings earlierOpened storySession storyCredit
            { db := storedWith earlierSet 600 state, outgoing := outgoing, moment := 13 } 0 claim
              s' := by
  have hquiet : ingested (storedWith earlierSet 600 state) (newRunSurroundings.ingest 14) =
      storedWith earlierSet 600 state := ingested_of_quiet (ingest_newRun (by decide)) _
  have hingest : newRunSurroundings.ingest 16 =
      [⟨.persistFrameSetManifest storySet none 3000, rfl⟩] := by
    unfold newRunSurroundings
    dsimp only
    rw [if_pos rfl]
  have hpreview := snapshotForHello_storedWith inserts_earlierSet 600 hnone hwatermark
  obtain ⟨db, hclaim, hmembers⟩ := @StoredAfter.exists_claim _ _ 600 3000 _ storedAfter_story hnone
    hwatermark storyCredit.scope 2000
  rw [← storedAfter_story.ingested_eq, ← hingest] at hclaim
  rw [← hquiet] at hpreview
  have hpreviewed := @previewCredit_eq_ok newRunSurroundings storyCredit storySession
    { db := storedWith earlierSet 600 state, outgoing := outgoing, moment := 13 } _ _
    creditIdentity_story hpreview
  dsimp only at hpreviewed
  rw [hquiet] at hpreviewed
  have hclaimed := @claimForCredit_eq_ok newRunSurroundings storyCredit.scope
    { db := storedWith earlierSet 600 state, outgoing := outgoing, moment := 15 } _ _ hclaim
  exact ⟨_, { db := db, outgoing := outgoing, moment := 17 }, claimsStory hmembers, rfl, rfl, rfl,
    storyCredit.scope, _, _, hpreviewed, hclaimed, rfl⟩

/-- The payload of the new run's set is put into the queue. -/
theorem handleCredit_newRun {state : RelayV2ClientState} (hnone : state.inFlightFrameSetUid = none)
    (hwatermark : state.watermarkFrameSetUid = none) (outgoing : List ProducerEnvelope) :
    ∃ (payload : CreditedFrameSet) (s' : Relaying),
      payload.key.captureRunId = (newManifest storySet 3000).captureRunId ∧
        s'.outgoing = outgoing ++ [.frameSet payload] ∧
          handleCredit newRunSurroundings runsClient earlierOpened storySession storyCredit
            { db := storedWith earlierSet 600 state, outgoing := outgoing, moment := 13 } =
              .ok ⟨⟩ s' := by
  obtain ⟨claim, s', hstory, hrun, hmoment, houtgoing, hanswering⟩ :=
    answering_newRun hnone hwatermark outgoing
  obtain ⟨payload, hbuilt⟩ := build_story readsStory_runsCodec hstory
  have hassembly : assembly newRunSurroundings runsClient earlierOpened storySession storyCredit 0
      claim s' = .ok payload := hbuilt
  have hkey := (buildCreditedFrameSet_eq_ok hbuilt).1
  have hhandled := @Answering.handleCredit_eq newRunSurroundings runsClient _ _ _ _ _ _ _ hanswering
  rw [hassembly] at hhandled
  refine ⟨payload, { assembled claim s' with
    outgoing := outgoing ++ [.frameSet payload], moment := (assembled claim s').moment + 1 }, ?_,
    rfl, hhandled.trans ?_⟩
  · rw [hkey]
    exact hrun
  · rw [← houtgoing]
    rfl

/-- A credit that is handled in a turn of the loop. -/
theorem envelopeStep_of_credit {env : Surroundings} {client : RelayClient} {opened : Opened}
    {t : Connection} {session : NegotiatedSession} {credit : ProcessorCredit} {s' : Relaying}
    (hleft : t.left = none) (hsession : t.loop.session = some session)
    (hready : t.loop.reconciled = true) (hrunning : env.stopped t.relaying.moment = false)
    (hhandled : handleCredit env client opened session credit (tested t.relaying) = .ok ⟨⟩ s') :
    (envelopeStep env client opened t (.credit credit)).1.relaying = s' := by
  have hturn : handleEnvelope env client opened t.loop (.credit credit) t.relaying =
      .ok (.next t.loop) s' := by
    unfold handleEnvelope respond
    simp only [bind, EStateM.bind, observe, hrunning, hsession, hready, not_true_eq_false, if_false,
      Bool.false_eq_true]
    change handleCredit env client opened session credit { t.relaying with moment := t.relaying.moment + 1 } = _ at hhandled
    rw [hhandled]
    rfl
  unfold envelopeStep
  rw [hleft]
  dsimp only
  rw [hturn]

/-- What is put into the queue for a credit that comes second. -/
theorem mem_enqueued_of_credit {env : Surroundings} {client : RelayClient} {opened : Opened}
    {s s₁ s₂ s₃ : Relaying} {first : ProcessorEnvelope} {loop : Loop} {session : NegotiatedSession}
    {credit : ProcessorCredit} {payload : CreditedFrameSet}
    (hopened : openConnection env client s = .ok (.opened opened) s₁)
    (hstep : (envelopeStep env client opened (opened.start s₁) first).1 =
      { relaying := s₂, loop := loop })
    (hsession : loop.session = some session) (hready : loop.reconciled = true)
    (hrunning : env.stopped s₂.moment = false)
    (hhandled : handleCredit env client opened session credit (tested s₂) = .ok ⟨⟩ s₃)
    (houtgoing : s₃.outgoing = s₂.outgoing ++ [.frameSet payload]) :
    .frameSet payload ∈ (loopHistory env client s [first, .credit credit]).flatMap enqueued := by
  have hcredit := @envelopeStep_of_credit env client opened { relaying := s₂, loop := loop } session
    credit s₃ rfl hsession hready hrunning hhandled
  rw [loopHistory_of_opened env client hopened]
  refine List.mem_flatMap.mpr ⟨_, List.mem_cons_of_mem _ List.mem_cons_self, ?_⟩
  rw [hstep, @enqueued_eq _ [.frameSet payload] (hcredit ▸ houtgoing)]
  exact List.mem_singleton_self _

/-- A frame set of another run than that of the hello. -/
theorem not_sendsUnderHello {env : Surroundings} {client : RelayClient} {opened : Opened}
    {s s' : Relaying} {responses : Responses} {hello : ProducerHello} {payload : CreditedFrameSet}
    (hopened : openConnection env client s = .ok (.opened opened) s')
    (hannounced : s'.outgoing = s.outgoing ++ [.hello hello])
    (hsent : .frameSet payload ∈ (loopHistory env client s responses.envelopes).flatMap enqueued)
    (hne : payload.key.captureRunId ≠ hello.captureRunId) :
    ¬SendsUnderHello env client s responses := by
  rintro ⟨announced, hunder⟩
  have hqueue := hunder.queue
  rw [(closes_runConnection env client responses hopened).outgoing, outgoing_after, hannounced,
    loopHistory_of_opened env client hopened, List.append_assoc, List.append_assoc] at hqueue
  have hhello := List.append_cancel_right (List.append_cancel_left hqueue)
  cases announced with
  | none => cases hhello
  | some hello' =>
      obtain rfl : hello = hello' := ProducerEnvelope.hello.inj (List.singleton_inj.mp hhello)
      obtain ⟨other, hmem, hsame⟩ := hunder.sent payload hsent
      obtain rfl := Option.mem_some_iff.mp hmem
      exact hne hsame

/-- **A frame set of another run is sent.** The connection announces the earlier run, and the
credit gets the set of the new run. -/
theorem not_sendsUnderHello_newRun :
    ¬SendsUnderHello newRunSurroundings runsClient (earlierAt [] 0) creditedResponses := by
  obtain ⟨hello, hrun, hopened⟩ := openConnection_earlier
  have hnamed : earlierOpened.helloSnapshot.key.captureRunId ≠ "" := by
    show earlierSet.captureRunId.getD "" ≠ ""
    rw [runs_story.1]
    decide
  obtain ⟨state, hnone, hwatermark, hstep⟩ := @envelopeStep_of_acceptance newRunSurroundings
    runsClient earlierOpened (earlierAt [.hello hello] 8) (.helloAccepted storyAccepted)
    storySession (fun moment hlt => ingest_newRun (hlt.trans (by decide : 8 + 4 < 16))) rfl rfl
    acceptHello_story hnamed (by decide) rfl
  obtain ⟨payload, s', hpayload, houtgoing, hhandled⟩ := handleCredit_newRun hnone hwatermark
    [.hello hello]
  have hsent := mem_enqueued_of_credit hopened hstep rfl rfl rfl hhandled houtgoing
  apply not_sendsUnderHello hopened rfl hsent
  rw [hpayload, hrun]
  show storySet.captureRunId.getD "" ≠ earlierSet.captureRunId.getD ""
  rw [runs_story.1, runs_story.2]
  decide

end RelayClient

end ImageStream
