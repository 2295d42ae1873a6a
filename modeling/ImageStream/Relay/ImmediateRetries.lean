/-
# Immediate retries

`_run` calls `_run_connection` again at once when it returns `None`, and it only returns
`None` without a wait when it has retired the set that it has announced. An eligible set is
retired for good, so what is left to announce dwindles and the worker comes to rest.

A set in flight is announced before any other one, and it is not eligible. When its session is
inactive, nothing is retired, and the next connection announces it again.
-/

import ImageStream.Relay.EligibleSets
import ImageStream.Relay.Lease
import ImageStream.Relay.Openings

namespace ImageStream

open Base LatestLive

/-! ## What a connection does to the eligible sets -/

/-- From a database on, nothing that ingest commits makes a frame set eligible. -/
def Surroundings.AddsNoEligible (env : Surroundings) (origin : Database) : Prop :=
  ∀ moment db, Reaches origin db → EligibleWithin db (ingested db (env.ingest moment))

theorem Surroundings.AddsNoEligible.later {env : Surroundings} {origin db : Database}
    (h : env.AddsNoEligible origin) (hreaches : Reaches origin db) : env.AddsNoEligible db :=
  fun moment db' h' => h moment db' (hreaches.trans h')

theorem Database.Projected.of_reaches {db db' : Database} (h : db.Projected)
    (hreaches : Reaches db db') : db'.Projected :=
  hreaches.invariant (fun _ op hdb => hdb.step op) h

/-- Ingest that persists nothing makes nothing eligible, where every manifest has its
projection. -/
theorem Surroundings.addsNoEligible_of_projected {env : Surroundings} {origin : Database}
    (h : origin.Projected)
    (hingest : ∀ moment, ∀ op ∈ env.ingest moment, op.val.persisted? = none) :
    env.AddsNoEligible origin := by
  intro moment db hreaches
  have hprojected := h.of_reaches hreaches
  have hall : ∀ ops : List IngestOp, (∀ op ∈ ops, op.val.persisted? = none) →
      ∀ db : Database, db.Projected → EligibleWithin db (ingested db ops) := by
    intro ops
    induction ops with
    | nil => exact fun _ db _ => .refl db
    | cons op ops ih =>
        intro hops db hdb
        have hfirst := eligibleWithin_ingest hdb op.property (hops op List.mem_cons_self)
        exact hfirst.trans (ih (fun op' hop' => hops op' (List.mem_cons_of_mem op hop')) _
          (hdb.step op.val))
  exact hall _ (hingest moment) db hprojected

namespace RelayClient

/-- What the parts of a connection do that leave what is in flight. Of a database that comes
of the origin, they make nothing eligible. -/
structure Wanes (origin : Database) (s s' : Relaying) : Prop where
  reaches : Reaches s.db s'.db
  inFlight : s'.db.inFlight? = s.db.inFlight?
  eligible : Reaches origin s.db → EligibleWithin s.db s'.db

theorem Wanes.refl (origin : Database) (s : Relaying) : Wanes origin s s :=
  ⟨.refl s.db, rfl, fun _ => .refl s.db⟩

theorem Wanes.trans {origin : Database} {s s' s'' : Relaying} (h : Wanes origin s s')
    (h' : Wanes origin s' s'') : Wanes origin s s'' where
  reaches := h.reaches.trans h'.reaches
  inFlight := h'.inFlight.trans h.inFlight
  eligible horigin := (h.eligible horigin).trans (h'.eligible (horigin.trans h.reaches))

instance (origin : Database) : IsPreorder Relaying (Wanes origin) where
  refl := Wanes.refl origin
  trans _ _ _ := Wanes.trans

section Parts

variable {env : Surroundings} (client : RelayClient) {origin : Database}

theorem observe_wanes {α : Type} (reading : ℕ → α) :
    Action.Within (Wanes origin) (observe reading : RelayM α) := fun s =>
  observe_iff.mpr ⟨.refl s.db, rfl, fun _ => .refl s.db⟩

theorem put_wanes (message : ProducerEnvelope) : Action.Within (Wanes origin) (put message) :=
  fun s => put_iff.mpr ⟨.refl s.db, rfl, fun _ => .refl s.db⟩

theorem resolveCredential_wanes (snapshot : ClaimedFrameSet) :
    Action.Within (Wanes origin) (resolveCredential env snapshot) := by
  unfold resolveCredential
  apply Action.Within.ite _ (Action.Within.pure _)
  split
  · apply Action.Within.bind (observe_wanes _)
    intro answer
    cases answer with
    | issued scope => exact Action.Within.pure _
    | sessionInactive => exact Action.Within.pure _
    | raised typeName message => exact Action.Within.throw _
  · apply Action.Within.bind (observe_wanes _)
    intro answer
    exact Action.Within.bind (Action.Within.ofExcept _) fun _ => Action.Within.pure _

section Quiet

variable (henv : env.AddsNoEligible origin)
include henv

theorem transact_wanes {α : Type} {method : Database → Database × Except StoreError α}
    (hreaches : ∀ db, Reaches db (method db).1)
    (hinFlight : ∀ db, (method db).1.inFlight? = db.inFlight?)
    (heligible : ∀ db, EligibleWithin db (method db).1) :
    Action.Within (Wanes origin) (transact env method) := by
  intro s
  have hwanes : Wanes origin s { s with
      db := (method (ingested s.db (env.ingest s.moment))).1, moment := s.moment + 1 } :=
    { reaches := (reaches_ingested _ _).trans (hreaches _)
      inFlight := (hinFlight _).trans (inFlight?_ingested _ _)
      eligible := fun horigin => (henv s.moment s.db horigin).trans (heligible _) }
  exact (transact_iff env).mpr ⟨fun _ _ => hwanes, fun _ _ => hwanes⟩

theorem consult_wanes {α : Type} (method : Database → Except StoreError α) :
    Action.Within (Wanes origin) (consult env method) :=
  transact_wanes henv (fun db => .refl db) (fun _ => rfl) fun db => .refl db

theorem retire_wanes (key : FrameSetKey) (state : RetiredState) (reason : String)
    (updatedAtMs : ℤ) :
    Action.Within (Wanes origin) (transact env fun db =>
      (retireEligible db key state reason updatedAtMs).map id (Except.ok (ε := StoreError))) :=
  transact_wanes henv (fun db => Reaches.step db (.retireEligible key state reason updatedAtMs))
    (fun db => retireEligible_inFlight? db key state reason updatedAtMs)
    fun _ => eligibleWithin_retireEligible key state reason updatedAtMs

theorem announce_wanes (snapshot : ClaimedFrameSet) (config : ProtocolConfig)
    (scope : Option ProcessingRelayScope) :
    Action.Within (Wanes origin) (announce env client snapshot config scope) := by
  unfold announce
  apply Action.Within.bind (Action.Within.ofExcept _)
  intro authorized
  apply Action.Within.bind (consult_wanes henv _)
  intro watermark
  apply Action.Within.bind (consult_wanes henv _)
  intro unresolved
  apply Action.Within.bind (consult_wanes henv _)
  intro jobId
  apply Action.Within.bind (observe_wanes _)
  intro measuredUtcMs
  exact Action.Within.bind (Action.Within.ofExcept _) fun message => put_wanes message

theorem connect_wanes (snapshot : ClaimedFrameSet) (config : ProtocolConfig)
    (authenticated : Bool) (scope : Option ProcessingRelayScope) :
    Action.Within (Wanes origin) (connect env client snapshot config authenticated scope) := by
  unfold connect
  apply Action.Within.bind (announce_wanes client henv _ _ _)
  intro _
  apply Action.Within.bind (observe_wanes _)
  intro channelError
  cases channelError with
  | some e => exact Action.Within.throw _
  | none =>
      apply Action.Within.bind (observe_wanes _)
      intro stopped
      apply Action.Within.ite (Action.Within.pure _)
      exact Action.Within.bind (consult_wanes henv _) fun _ => Action.Within.pure _

theorem openConnection_wanes : Action.Within (Wanes origin) (openConnection env client) := by
  unfold openConnection
  apply Action.Within.bind (consult_wanes henv _)
  intro found
  cases found with
  | none => exact Action.Within.pure _
  | some snapshot =>
      apply Action.Within.bind (Action.Within.ofExcept _)
      intro config
      apply Action.Within.bind (resolveCredential_wanes snapshot)
      intro credential
      cases credential with
      | unneeded => exact connect_wanes client henv _ _ _ _
      | active scope => exact connect_wanes client henv _ _ _ _
      | sessionInactive =>
          apply Action.Within.bind (observe_wanes _)
          intro updatedAtMs
          exact Action.Within.bind (retire_wanes henv _ _ _ _) fun _ => Action.Within.pure _

theorem closeConnection_wanes : Action.Within (Wanes origin) (closeConnection env) := by
  unfold closeConnection
  apply Action.Within.bind (consult_wanes henv _)
  intro current
  cases current with
  | none => exact Action.Within.pure _
  | some current =>
      apply Action.Within.bind (observe_wanes _)
      intro updatedAtMs
      apply Action.Within.bind _ fun _ => Action.Within.pure _
      exact transact_wanes henv
        (fun db => Reaches.step db (.markUnresolved current "TRANSPORT_DISCONNECTED" updatedAtMs))
        (fun db => inFlight?_markUnresolved db _ _ _) fun _ => eligibleWithin_markUnresolved _ _ _

/-! ### A set that is retired in the loop -/

/-- The second state has fewer eligible projections. -/
structure Lessens (origin : Database) (s s' : Relaying) : Prop where
  wanes : Wanes origin s s'
  fewer : s'.db.eligibleCount < s.db.eligibleCount

theorem rejectHello_lessens (opened : Opened) (rejected : HelloRejected) {s : Relaying}
    (hs : Reaches origin s.db) :
    Ensures (rejectHello env opened rejected) s (fun _ s' => Lessens origin s s')
      fun _ _ => True := by
  unfold rejectHello
  apply Ensures.ite
  · intro _
    apply Ensures.after_within (consult_wanes henv _) fun _ _ _ => trivial
    intro current s₁ h₁
    cases current with
    | some current => exact trivial
    | none =>
        apply Ensures.after_within (observe_wanes _) fun _ _ _ => trivial
        intro updatedAtMs s₂ h₂
        have hidle := h₁.trans h₂
        apply Ensures.bind_iff.mpr
        apply ((retire_wanes henv opened.helloSnapshot.key .rejected "SESSION_TOKEN_SCOPE_INVALID"
          updatedAtMs s₂).and (transact_iff (Q := fun retired s₃ => retired = true →
            ∃ uid, s₂.db.liveState? uid = some .eligible ∧ s₃.db.liveState? uid ≠ some .eligible)
              (R := fun _ _ => True) env |>.mpr ?_)).imp
        · rintro retired s₃ ⟨h₃, hretired⟩
          apply Ensures.ite
          · intro htrue
            have hwanes := hidle.trans h₃
            obtain ⟨uid, hwas, hgone⟩ := hretired htrue
            exact ⟨hwanes, Database.eligibleCount_lt (hwanes.eligible hs)
              (hidle.eligible hs uid hwas) hgone⟩
          · exact fun _ => trivial
        · exact fun _ _ _ => trivial
        · refine ⟨fun retired hresult htrue => ?_, fun _ _ => trivial⟩
          have hanswer : (retireEligible (ingested s₂.db (env.ingest s₂.moment))
              opened.helloSnapshot.key .rejected "SESSION_TOKEN_SCOPE_INVALID" updatedAtMs).2 =
                retired := Except.ok.inj hresult
          obtain ⟨hwas, hgone⟩ := eligible_of_retireEligible (hanswer.trans htrue)
          exact ⟨_, henv s₂.moment s₂.db (hs.trans hidle.reaches) _ hwas, hgone⟩
  · exact fun _ => trivial

/-- A turn of the loop that retires the announced set. -/
theorem handleEnvelope_lessens (opened : Opened) (loop : Loop) (envelope : ProcessorEnvelope)
    {s : Relaying} (hs : Reaches origin s.db) :
    Ensures (handleEnvelope env client opened loop envelope) s
      (fun turned s' => turned = .retired → Lessens origin s s')
      fun _ _ => True := by
  have htested : Wanes origin s (tested s) := observe_wanes env.stopped s
  cases hsession : loop.session with
  | some session =>
      apply (@handleEnvelope_spec env client opened (fun _ => True) loop envelope s
        fun _ _ _ _ _ _ _ _ _ _ _ => trivial).imp
      · rintro turned s' heffect rfl
        cases heffect with
        | retired first idles => cases hsession.symm.trans first
      · exact fun _ _ _ => trivial
  | none =>
      unfold handleEnvelope
      apply Ensures.bind_iff.mpr
      apply observe_iff.mpr
      apply Ensures.ite
      · intro _ heq
        cases heq
      intro _
      change Ensures _ (tested s) _ _
      rw [hsession]
      dsimp only
      split
      · rename_i rejected hrejected
        apply (rejectHello_lessens henv opened rejected (hs.trans htested.reaches)).imp
        · intro turned s' hlessens _
          exact ⟨htested.trans hlessens.wanes, hlessens.fewer⟩
        · exact fun _ _ _ => trivial
      · apply (acceptSession_spec env opened loop envelope (tested s)).imp
        · rintro _ s' ⟨session, loop', rfl, -⟩ heq
          cases heq
        · exact fun _ _ _ => trivial

/-- A loop that is left because the announced set has been retired was at its first response. -/
theorem lessens_of_retired (opened : Opened) {s : Relaying} (hs : Reaches origin s.db)
    (envelopes : List ProcessorEnvelope)
    (h : (Machine.after (envelopeStep env client opened) (opened.start s) envelopes).left =
      some .retired) :
    Lessens origin s
      (Machine.after (envelopeStep env client opened) (opened.start s) envelopes).relaying := by
  have hrun := Machine.invariant_after (envelopeStep env client opened)
    (I := fun t => (t.left = none → t.loop.session = none → t.relaying = s) ∧
      (t.left = some .retired → Lessens origin s t.relaying))
    (s := opened.start s) ⟨fun _ _ => rfl, fun hleft => by cases hleft⟩ ?_ envelopes
  · exact hrun.2 h
  rintro t envelope ⟨hfirst, hretired⟩
  have hturned := @handleEnvelope_spec env client opened (fun _ => True) t.loop envelope t.relaying
    fun _ _ _ _ _ _ _ _ _ _ _ => trivial
  unfold envelopeStep
  cases hleft : t.left with
  | some handling =>
      dsimp only
      rw [hleft] at hfirst hretired ⊢
      exact ⟨hfirst, hretired⟩
  | none =>
      dsimp only
      cases hturn : handleEnvelope env client opened t.loop envelope t.relaying with
      | error e relaying => exact ⟨fun hnone => (by cases hnone), fun heq => by cases heq⟩
      | ok turned relaying =>
          have heffect := hturned.ok hturn
          cases turned with
          | stopped => exact ⟨fun hnone => (by cases hnone), fun heq => by cases heq⟩
          | next loop =>
              refine ⟨fun _ hsession => ?_, fun heq => by cases heq⟩
              cases heffect with
              | accepted first accepts => cases accepts.session.symm.trans hsession
              | reconciled started response received quiets => cases started.symm.trans hsession
              | reported started received quiets => cases started.symm.trans hsession
              | credited started ready credit received answer =>
                  cases started.symm.trans hsession
          | retired =>
              refine ⟨fun hnone => (by cases hnone), fun _ => ?_⟩
              have hsession : t.loop.session = none := by
                cases heffect with
                | retired first idles => exact first
              have hrelaying := hfirst hleft hsession
              have hlessens := (handleEnvelope_lessens client henv opened t.loop envelope
                (hrelaying ▸ hs)).ok hturn rfl
              rw [hrelaying] at hlessens
              exact hlessens

end Quiet

end Parts

/-! ### An inactive session -/

section Sessions

variable (env : Surroundings) (client : RelayClient)

/-- A connection that starts here announces a set whose session its provider finds inactive. -/
structure SessionInactive (s : Relaying) (snapshot : ClaimedFrameSet) : Prop where
  found : snapshotForHello (ingested s.db (env.ingest s.moment)) = .ok (some snapshot)
  bound : ∃ config, bindAuthorizedClaim client.protocolConfig snapshot = .ok config
  job : truthy snapshot.processingJobId
  refused : ∃ resolveForClaim, env.relayCredentialProvider = some resolveForClaim ∧
    resolveForClaim (s.moment + 1) snapshot = .sessionInactive

/-- What a connection leaves that retires the set of an inactive session. -/
def retiring (s : Relaying) (snapshot : ClaimedFrameSet) : Relaying :=
  { s with
    db := (retireEligible
      (ingested (ingested s.db (env.ingest s.moment)) (env.ingest (s.moment + 3))) snapshot.key
      .sessionInactive "RELAY_CREDENTIAL_SESSION_INACTIVE" (env.utcNowMs (s.moment + 2))).1
    moment := s.moment + 4 }

variable {env client} {s : Relaying}

theorem openConnection_of_sessionInactive {snapshot : ClaimedFrameSet}
    (h : SessionInactive env client s snapshot) :
    openConnection env client s = .ok .sessionInactive (retiring env s snapshot) := by
  obtain ⟨config, hconfig⟩ := h.bound
  obtain ⟨resolveForClaim, hprovider, hrefused⟩ := h.refused
  unfold openConnection resolveCredential
  simp only [bind, EStateM.bind, consult, transact, h.found, hconfig, Action.ofExcept, pure,
    EStateM.pure, h.job, if_true, hprovider, observe, hrefused, Prod.map, id]
  rfl

theorem connect_ne_sessionInactive (snapshot : ClaimedFrameSet) (config : ProtocolConfig)
    (authenticated : Bool) (scope : Option ProcessingRelayScope) (s : Relaying) :
    Ensures (connect env client snapshot config authenticated scope) s
      (fun opening _ => opening ≠ .sessionInactive) fun _ _ => True := by
  unfold connect
  apply Ensures.bind (announce_spec env client snapshot config scope s) fun _ _ _ => trivial
  intro _ s₁ _
  apply Ensures.after_within (observe_idles _) fun _ _ _ => trivial
  intro channelError s₂ _
  cases channelError with
  | some e => trivial
  | none =>
      apply Ensures.after_within (observe_idles _) fun _ _ _ => trivial
      intro stopped s₃ _
      apply Ensures.ite
      · intro _ heq
        cases heq
      intro _
      apply Ensures.after_within (consult_idles env _) fun _ _ _ => trivial
      intro _ _ _ heq
      cases heq

/-- Nothing else makes a connection begin so. -/
theorem sessionInactive_of_openConnection :
    Ensures (openConnection env client) s
      (fun opening _ => opening = .sessionInactive → ∃ snapshot,
        SessionInactive env client s snapshot) fun _ _ => True := by
  unfold openConnection
  apply Ensures.bind_iff.mpr
  apply (transact_iff env).mpr
  refine ⟨fun found hfound => ?_, fun _ _ => trivial⟩
  cases found with
  | none =>
      intro heq
      cases heq
  | some snapshot =>
      apply Ensures.bind_iff.mpr
      apply Ensures.ofExcept_iff.mpr
      refine ⟨fun config hconfig => ?_, fun _ _ => trivial⟩
      have hconnect : ∀ authenticated scope (s' : Relaying),
          Ensures (connect env client snapshot config authenticated scope) s'
            (fun opening _ => opening = .sessionInactive → ∃ snapshot,
              SessionInactive env client s snapshot) fun _ _ => True :=
        fun authenticated scope s' =>
          (connect_ne_sessionInactive snapshot config authenticated scope s').imp
            (fun _ _ hne heq => absurd heq hne) fun _ _ h => h
      apply Ensures.bind_iff.mpr
      unfold resolveCredential
      apply Ensures.ite
      · intro hjob
        split
        · rename_i resolveForClaim hprovider
          apply Ensures.bind_iff.mpr
          apply observe_iff.mpr
          dsimp only
          cases hanswer : resolveForClaim (s.moment + 1) snapshot with
          | issued scope => exact hconnect _ _ _
          | raised typeName message => trivial
          | sessionInactive =>
              have hinactive : SessionInactive env client s snapshot :=
                ⟨hfound, ⟨config, hconfig⟩, hjob, resolveForClaim, hprovider, hanswer⟩
              refine Ensures.pure_iff.mpr ?_
              apply Ensures.after_within (observe_idles _) fun _ _ _ => trivial
              intro updatedAtMs s₁ _
              apply Ensures.bind_iff.mpr
              exact (transact_iff env).mpr ⟨fun _ _ _ => ⟨snapshot, hinactive⟩, fun _ _ => trivial⟩
        · apply Ensures.bind_iff.mpr
          apply observe_iff.mpr
          apply Ensures.bind_iff.mpr
          apply Ensures.ofExcept_iff.mpr
          exact ⟨fun _ _ => hconnect _ _ _, fun _ _ => trivial⟩
      · intro _
        exact hconnect _ _ _

/-! ## Progress -/

variable {snapshot : ClaimedFrameSet} {responses : Responses}

theorem runConnection_of_sessionInactive (h : SessionInactive env client s snapshot)
    (responses : Responses) :
    runConnection env client s responses = (retiring env s snapshot, .retryAtOnce) := by
  unfold runConnection
  rw [openConnection_of_sessionInactive h]

theorem retiring_wanes (henv : env.AddsNoEligible s.db)
    (h : SessionInactive env client s snapshot) : Wanes s.db s (retiring env s snapshot) :=
  (openConnection_wanes client henv s).ok (openConnection_of_sessionInactive h)

/-- The set of an inactive session is not eligible in the end. -/
theorem not_eligible_retiring (h : SessionInactive env client s snapshot) :
    (retiring env s snapshot).db.liveState? snapshot.key.frameSetUid ≠ some .eligible := by
  obtain ⟨manifest, hfind, hkey, -⟩ := snapshotForHello_cases h.found
  have hlater := (reaches_ingested (ingested s.db (env.ingest s.moment))
    (env.ingest (s.moment + 3))).manifest hfind
  unfold retiring
  dsimp only
  rw [hkey]
  exact not_eligible_retireEligible hlater _ _ _

/-- Where nothing is in flight, the announced set was eligible. -/
theorem eligible_of_found (henv : env.AddsNoEligible s.db)
    (h : SessionInactive env client s snapshot) (hflight : s.db.inFlight? = none) :
    s.db.liveState? snapshot.key.frameSetUid = some .eligible := by
  obtain ⟨manifest, -, hkey, hheld | ⟨-, heligible⟩⟩ := snapshotForHello_cases h.found
  · rw [inFlight?_ingested, hflight] at hheld
    cases hheld
  · rw [hkey]
    exact henv s.moment s.db (.refl s.db) _ heligible

/-- Where no set whose session is inactive is in flight, an immediate retry has fewer eligible
projections before it, and as little in flight. -/
theorem lessens_of_retryAtOnce (henv : env.AddsNoEligible s.db)
    (hflight : ∀ snapshot, SessionInactive env client s snapshot → s.db.inFlight? = none)
    (h : (runConnection env client s responses).2 = .retryAtOnce) :
    Lessens s.db s (runConnection env client s responses).1 := by
  have hopening := openConnection_wanes client henv s
  cases hopened : openConnection env client s with
  | error e s' =>
      unfold runConnection at h
      rw [hopened] at h
      cases h
  | ok opening s' =>
      have hwanes := hopening.ok hopened
      cases opening with
      | sessionInactive =>
          obtain ⟨snapshot, hinactive⟩ := sessionInactive_of_openConnection.ok hopened rfl
          rw [runConnection_of_sessionInactive hinactive responses]
          have hretiring := retiring_wanes henv hinactive
          exact ⟨hretiring, Database.eligibleCount_lt (hretiring.eligible (.refl s.db))
            (eligible_of_found henv hinactive (hflight snapshot hinactive))
            (not_eligible_retiring hinactive)⟩
      | nothingEligible =>
          unfold runConnection at h
          rw [hopened] at h
          cases h
      | stopped =>
          unfold runConnection at h
          rw [hopened] at h
          cases h
      | opened opened =>
          have hloop := lessens_of_retired client henv opened hwanes.reaches responses.envelopes
          unfold runConnection at h ⊢
          rw [hopened] at h ⊢
          dsimp only at h ⊢
          generalize Machine.after (envelopeStep env client opened) (opened.start s')
            responses.envelopes = connection at h hloop ⊢
          have hclosing := closeConnection_wanes henv connection.relaying
          cases hclosed : closeConnection env connection.relaying with
          | error e s'' =>
              rw [hclosed] at h
              cases h
          | ok _ s'' =>
              rw [hclosed] at h
              dsimp only at h ⊢
              have hretired : connection.left = some .retired := by
                unfold Connection.outcome at h
                split at h
                · assumption
                · cases h
                · cases h
                · cases h
              have hlessens := hloop hretired
              have hclose := hclosing.ok hclosed
              have hbefore := hwanes.trans hlessens.wanes
              have hend := Database.eligibleCount_le (hclose.eligible hbefore.reaches)
              have hstart := Database.eligibleCount_le (hwanes.eligible (.refl s.db))
              exact ⟨hbefore.trans hclose, (hend.trans_lt hlessens.fewer).trans_le hstart⟩

variable (env client) in
/-- What an immediate retry comes after: fewer sets are eligible, and the next connection does
not announce the set again whose session has been found inactive. -/
structure RetriesForward (s : Relaying) (responses : Responses) : Prop where
  fewer : (runConnection env client s responses).2 = .retryAtOnce →
    (runConnection env client s responses).1.db.eligibleCount < s.db.eligibleCount
  another : ∀ snapshot, SessionInactive env client s snapshot → ∀ next,
    snapshotForHello (ingested (runConnection env client s responses).1.db
      (env.ingest (runConnection env client s responses).1.moment)) = .ok (some next) →
    next.key ≠ snapshot.key

/-- A set in flight whose session is inactive is announced again. -/
theorem not_retriesForward_of_inFlight (h : SessionInactive env client s snapshot)
    (hflight : s.db.inFlight? ≠ none) (responses : Responses) :
    ¬RetriesForward env client s responses := by
  intro hforward
  have hanother := hforward.another snapshot h
  rw [runConnection_of_sessionInactive h responses] at hanother
  obtain ⟨manifest, hfind, hkey, hheld | ⟨hnone, -⟩⟩ := snapshotForHello_cases h.found
  · have hretired := retireEligible_inFlight?
      (ingested (ingested s.db (env.ingest s.moment)) (env.ingest (s.moment + 3))) snapshot.key
      .sessionInactive "RELAY_CREDENTIAL_SESSION_INACTIVE" (env.utcNowMs (s.moment + 2))
    have hreaches : Reaches (ingested s.db (env.ingest s.moment)) (retiring env s snapshot).db :=
      (reaches_ingested _ _).trans (Reaches.step _ (.retireEligible snapshot.key .sessionInactive
        "RELAY_CREDENTIAL_SESSION_INACTIVE" (env.utcNowMs (s.moment + 2))))
    have hlater := hreaches.trans
      (reaches_ingested _ (env.ingest (retiring env s snapshot).moment))
    have hflying : (ingested (retiring env s snapshot).db
        (env.ingest (retiring env s snapshot).moment)).inFlight? = some manifest.frameSetUid := by
      rw [inFlight?_ingested]
      exact hretired.trans ((inFlight?_ingested _ _).trans hheld)
    obtain ⟨credit, offeredAtMs, hnext⟩ :=
      snapshotForHello_of_inFlight hflying (hlater.manifest hfind)
    exact hanother _ hnext hkey.symm
  · exact hflight ((inFlight?_ingested _ _).symm.trans hnone)

/-- **An immediate retry makes progress unless an inactive set is in flight.** While nothing
becomes eligible meanwhile, every connection that is retried at once leaves fewer eligible
projections, and does not let the next one announce an inactive set again, if and only if
nothing is in flight when the provider finds the session of the announced set inactive. -/
theorem retriesForward_iff (env : Surroundings) (client : RelayClient) (s : Relaying)
    (responses : Responses) (henv : env.AddsNoEligible s.db) :
    RetriesForward env client s responses ↔
      ∀ snapshot, SessionInactive env client s snapshot → s.db.inFlight? = none := by
  constructor
  · intro hforward snapshot h
    by_contra hflight
    exact not_retriesForward_of_inFlight h hflight responses hforward
  · intro hflight
    constructor
    case fewer =>
      intro hretry
      exact (lessens_of_retryAtOnce henv hflight hretry).fewer
    case another =>
      intro snapshot h next hnext hkey
      rw [runConnection_of_sessionInactive h responses] at hnext
      have hwanes := retiring_wanes henv h
      obtain ⟨manifest, -, hmanifest, hheld | ⟨-, heligible⟩⟩ := snapshotForHello_cases hnext
      · rw [inFlight?_ingested, hwanes.inFlight, hflight snapshot h] at hheld
        cases hheld
      · have hbefore := henv _ _ hwanes.reaches _ heligible
        have huid : snapshot.key.frameSetUid = manifest.frameSetUid := by
          rw [← hkey, hmanifest]
          rfl
        exact not_eligible_retiring h (huid ▸ hbefore)

/-! ### Retries in a row -/

variable (env client) in
/-- The connections of these responses are all retried at once, one after the other. -/
def RetriedAtOnce (s : Relaying) : List Responses → Prop
  | [] => True
  | responses :: rest =>
      (runConnection env client s responses).2 = .retryAtOnce ∧
        RetriedAtOnce (runConnection env client s responses).1 rest

/-- The worker comes to rest: where nothing is in flight, there are at most as many immediate
retries in a row as there are eligible projections. -/
theorem length_le_of_retriedAtOnce (henv : env.AddsNoEligible s.db)
    (hflight : s.db.inFlight? = none) {retries : List Responses}
    (h : RetriedAtOnce env client s retries) : retries.length ≤ s.db.eligibleCount := by
  induction retries generalizing s with
  | nil => exact Nat.zero_le _
  | cons responses rest ih =>
      obtain ⟨hretry, hrest⟩ := h
      have hlessens := lessens_of_retryAtOnce henv (fun _ _ => hflight) hretry
      have hlater := ih (henv.later hlessens.wanes.reaches)
        (hlessens.wanes.inFlight.trans hflight) hrest
      rw [List.length_cons]
      exact Nat.succ_le_of_lt (hlater.trans_lt hlessens.fewer)

/-- In particular in every reachable store, while ingest persists nothing. -/
theorem length_le_of_reachable {ops : List StoreOp}
    (hs : s.db = Machine.after storeStep {} ops)
    (hingest : ∀ moment, ∀ op ∈ env.ingest moment, op.val.persisted? = none)
    (hflight : s.db.inFlight? = none) {retries : List Responses}
    (h : RetriedAtOnce env client s retries) : retries.length ≤ s.db.eligibleCount := by
  have hprojected : s.db.Projected := by
    rw [hs]
    exact projected_after ops
  exact length_le_of_retriedAtOnce (Surroundings.addsNoEligible_of_projected hprojected hingest)
    hflight h

end Sessions

/-! ### A set in flight whose session has ended -/

section Interruption

variable {frameSet : SynchronizedFrameSet}

/-- A set that an empty store takes, of a processing job with the profile of the client. -/
structure Interruptible (frameSet : SynchronizedFrameSet) : Prop where
  inserts : ({} : Database).Inserts frameSet
  job : truthy frameSet.processingJobId = true
  profile : frameSet.profileDigest = some "profile"

/-- The set is stored and claimed, and then the transport is lost. -/
def interruptedOps (frameSet : SynchronizedFrameSet) : List StoreOp :=
  [.persistFrameSetManifest frameSet none 3000, .claimLatest ⟨"processor", "epoch", "credit"⟩ 3001,
    .markUnresolved (newManifest frameSet 3000).key "TRANSPORT_DISCONNECTED" 3002]

/-- The store afterwards. -/
def interrupted (frameSet : SynchronizedFrameSet) : Database :=
  Machine.after storeStep {} (interruptedOps frameSet)

theorem interrupted_inFlight (h : ({} : Database).Inserts frameSet) :
    (interrupted frameSet).inFlight? = some (newManifest frameSet 3000).frameSetUid ∧
      (interrupted frameSet).manifests.find (newManifest frameSet 3000).frameSetUid =
        some (newManifest frameSet 3000) ∧
      (interrupted frameSet).liveState? (newManifest frameSet 3000).frameSetUid =
        some .unresolved := by
  obtain ⟨db, hclaim, -⟩ := exists_claim_of_inserts h 3000 ⟨"processor", "epoch", "credit"⟩ 3001
  have hstored : (storeStep {} (.persistFrameSetManifest frameSet none 3000)).1 =
      firstStored frameSet 3000 :=
    congrArg Prod.fst (persist_of_inserts h none 3000)
  have hclaimed : (storeStep (firstStored frameSet 3000)
      (.claimLatest ⟨"processor", "epoch", "credit"⟩ 3001)).1 = db :=
    congrArg Prod.fst hclaim
  have hinterrupted : interrupted frameSet =
      (markUnresolved db (newManifest frameSet 3000).key "TRANSPORT_DISCONNECTED" 3002).1 := by
    unfold interrupted interruptedOps Machine.after Machine.after
    rw [hstored, hclaimed]
    rfl
  have hkey : InFlightKey db (newManifest frameSet 3000).key := by
    rcases claimLatest_cases (firstStored frameSet 3000) ⟨"processor", "epoch", "credit"⟩ 3001
      with ⟨hnone, -⟩ | ⟨claim, hanswer, hclaims⟩
    · exact absurd (congrArg Prod.snd hclaim) (hnone _)
    · obtain rfl := Option.some.inj (Except.ok.inj (hanswer.symm.trans (congrArg Prod.snd hclaim)))
      rw [hclaim] at hclaims
      exact hclaims.inFlight
  have hfind : (firstStored frameSet 3000).manifests.find (newManifest frameSet 3000).frameSetUid =
      some (newManifest frameSet 3000) := by
    apply Table.find_of_mem
    rw [firstStored, rows_manifests_insert 3000 h.absent]
    exact List.mem_singleton_self _
  have hreaches : Reaches (firstStored frameSet 3000) (interrupted frameSet) := by
    have hclaiming := Reaches.step (firstStored frameSet 3000)
      (.claimLatest ⟨"processor", "epoch", "credit"⟩ 3001)
    rw [hclaimed] at hclaiming
    rw [hinterrupted]
    exact hclaiming.trans (Reaches.step db
      (.markUnresolved (newManifest frameSet 3000).key "TRANSPORT_DISCONNECTED" 3002))
  obtain ⟨hmoved, -⟩ := hkey.moved .unresolved (some "TRANSPORT_DISCONNECTED") 3002
    fun state => if false then state.released else state
  refine ⟨?_, hreaches.manifest hfind, ?_⟩
  · rw [hinterrupted]
    exact (hkey.markUnresolved "TRANSPORT_DISCONNECTED" 3002).2.inFlight
  · rw [hinterrupted]
    exact hmoved.now

/-- A provider that finds every session inactive. -/
def inactiveSurroundings : Surroundings :=
  { storySurroundings fun _ => 0 with
    relayCredentialProvider := some fun _ _ => .sessionInactive }

theorem inactiveSurroundings_addsNoEligible (origin : Database) :
    inactiveSurroundings.AddsNoEligible origin := fun _ _ _ _ h => h

/-- The set in flight is announced at any moment, and its session is inactive. -/
theorem exists_sessionInactive_interrupted (h : Interruptible frameSet) {s : Relaying}
    (hdb : s.db = interrupted frameSet) :
    ∃ snapshot, SessionInactive inactiveSurroundings storyClient s snapshot ∧
      snapshot.key = (newManifest frameSet 3000).key := by
  obtain ⟨hflight, hfind, -⟩ := interrupted_inFlight h.inserts
  obtain ⟨credit, offeredAtMs, hsnapshot⟩ := snapshotForHello_of_inFlight hflight hfind
  refine ⟨snapshot (interrupted frameSet) (newManifest frameSet 3000) credit offeredAtMs,
    ⟨?_, ?_, h.job, _, rfl, rfl⟩, rfl⟩
  · rw [hdb]
    exact hsnapshot
  · have hclaimed : (snapshot (interrupted frameSet) (newManifest frameSet 3000) credit
        offeredAtMs).profileDigest = some "profile" := h.profile
    unfold bindAuthorizedClaim
    rw [hclaimed]
    exact ⟨_, rfl⟩

/-- While the set is in flight, every connection is retried at once. -/
theorem retriedAtOnce_interrupted (h : Interruptible frameSet) (responses : Responses) (count : ℕ)
    {s : Relaying} (hdb : s.db = interrupted frameSet) :
    RetriedAtOnce inactiveSurroundings storyClient s (List.replicate count responses) := by
  obtain ⟨-, -, hstate⟩ := interrupted_inFlight h.inserts
  induction count generalizing s with
  | zero => exact trivial
  | succ count ih =>
      obtain ⟨snapshot, hinactive, hkey⟩ := exists_sessionInactive_interrupted h hdb
      have hrun := runConnection_of_sessionInactive hinactive responses
      have hkept : (retiring inactiveSurroundings s snapshot).db = interrupted frameSet := by
        unfold retiring retireEligible
        dsimp only
        rw [hkey]
        split
        · exact hdb
        rw [if_pos]
        · exact hdb
        · show s.db.liveState? (newManifest frameSet 3000).frameSetUid ≠ some .eligible
          rw [hdb, hstate]
          exact fun heq => by cases heq
      refine ⟨congrArg Prod.snd hrun, ?_⟩
      rw [hrun]
      exact ih hkept

/-- The set in flight is announced again and again, without a wait. -/
theorem spins_interrupted (h : Interruptible frameSet) :
    ¬RetriesForward inactiveSurroundings storyClient { db := interrupted frameSet }
        { envelopes := [] } ∧
      ∀ count, RetriedAtOnce inactiveSurroundings storyClient { db := interrupted frameSet }
        (List.replicate count { envelopes := [] }) := by
  obtain ⟨hflight, -⟩ := interrupted_inFlight h.inserts
  obtain ⟨snapshot, hinactive, -⟩ := exists_sessionInactive_interrupted h
    (s := { db := interrupted frameSet }) rfl
  refine ⟨not_retriesForward_of_inFlight hinactive ?_ _, fun count =>
    retriedAtOnce_interrupted h _ count rfl⟩
  show (interrupted frameSet).inFlight? ≠ none
  rw [hflight]
  exact Option.some_ne_none _

end Interruption

/-- A set of an authorized session, once it is archived. -/
def claimedSets : List SynchronizedFrameSet :=
  emittedSets (newMatcher ["left"] 50 20 "run-1") [matchOp authorizedFrame 1001 "run-2"]

theorem length_claimedSets : 0 < claimedSets.length := by decide +kernel

def claimedSet : SynchronizedFrameSet :=
  (claimedSets.get ⟨0, length_claimedSets⟩).archived (buildBufferKey authorizedFrame) 1
    "/archive/left.jpg"

theorem header_claimedSet : claimedSet.members =
      [authorizedFrame.stored.withArchive (some 1) (some "/archive/left.jpg") .durable none] ∧
    claimedSet.identityMode = .v2 ∧ claimedSet.Durable ∧
    truthy claimedSet.processingJobId = true ∧ claimedSet.profileDigest = some "profile" := by
  decide +kernel

theorem interruptible_claimedSet : Interruptible claimedSet := by
  obtain ⟨hmembers, hmode, hdurable, hjob, hprofile⟩ := header_claimedSet
  exact ⟨inserts_of_emitted (by decide) (List.get_mem claimedSets ⟨0, length_claimedSets⟩)
    (SynchronizedFrameSet.sameContent_archived _ _ _ _) hmode hdurable hmembers, hjob, hprofile⟩

/-- The worker announces the set again and again, without a wait. -/
theorem not_retriesForward_interrupted :
    ¬RetriesForward inactiveSurroundings storyClient { db := interrupted claimedSet }
        { envelopes := [] } ∧
      ∀ count, RetriedAtOnce inactiveSurroundings storyClient { db := interrupted claimedSet }
        (List.replicate count { envelopes := [] }) :=
  spins_interrupted interruptible_claimedSet

/-- The condition for the worker with the set in flight. -/
theorem retriesForward_iff_interrupted :
    inactiveSurroundings.AddsNoEligible (interrupted claimedSet) ∧
      (RetriesForward inactiveSurroundings storyClient { db := interrupted claimedSet }
          { envelopes := [] } ↔
        ∀ snapshot, SessionInactive inactiveSurroundings storyClient
          { db := interrupted claimedSet } snapshot → (interrupted claimedSet).inFlight? = none) :=
  ⟨inactiveSurroundings_addsNoEligible _,
    retriesForward_iff _ _ _ _ (inactiveSurroundings_addsNoEligible _)⟩

end RelayClient

end ImageStream
