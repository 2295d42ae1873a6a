/-
# Runs of a connection

`EnvelopeEffect` says once what the loop over the responses can do with one of them.
Whatever holds of every connection follows from it by induction over the responses.
-/

import ImageStream.Relay.ConnectionSteps

namespace ImageStream

open Base LatestLive

namespace RelayClient

/-! ## Statuses -/

/-- What statuses do: no message, and what is in flight stays so or ends. -/
structure Quiets (s s' : Relaying) : Prop where
  advances : Advances s s' []
  inFlight : s'.db.inFlight? = s.db.inFlight? ∨ s'.db.inFlight? = none

theorem Idles.quiets {s s' : Relaying} (h : Idles s s') : Quiets s s' :=
  ⟨h.advances, Or.inl h.inFlight⟩

theorem Quiets.refl (s : Relaying) : Quiets s s := (Idles.refl s).quiets

theorem Quiets.trans {s s' s'' : Relaying} (h : Quiets s s') (h' : Quiets s' s'') :
    Quiets s s'' where
  advances := h.advances.then_advances h'.advances
  inFlight := by
    rcases h'.inFlight with hsame | hnone
    · rw [hsame]
      exact h.inFlight
    · exact Or.inr hnone

instance : IsPreorder Relaying Quiets where
  refl := Quiets.refl
  trans _ _ _ := Quiets.trans

/-- A change of the set in flight leaves it in flight or ends its flight. -/
theorem inFlight?_transitionCurrent (db : Database) (key : FrameSetKey) (liveState : LiveState)
    (reason : Option String) (release : Bool) (timestampMs : ℤ) :
    (transitionCurrent db key liveState reason release timestampMs).1.inFlight? = db.inFlight? ∨
      (transitionCurrent db key liveState reason release timestampMs).1.inFlight? = none := by
  unfold transitionCurrent
  rcases moveCurrent_cases db key liveState reason timestampMs
    (fun state => if release then state.released else state) with ⟨hdb, -⟩ | ⟨hmoved, -⟩
  · exact Or.inl (congrArg Database.inFlight? hdb)
  · cases release with
    | false => exact Or.inl (StoreEffect.inFlight?_of_offer hmoved.offer)
    | true =>
        have hoffer : _ = db.client.released.offer := hmoved.offer
        exact Or.inr (StoreEffect.inFlight?_of_offer hoffer)

section Statuses

variable (env : Surroundings)

theorem transact_quiets {α : Type} {method : Database → Database × Except StoreError α}
    (hreaches : ∀ db, Reaches db (method db).1)
    (hinFlight : ∀ db, (method db).1.inFlight? = db.inFlight? ∨ (method db).1.inFlight? = none) :
    Action.Within Quiets (transact env method) := by
  intro s
  have hquiets : Quiets s { s with
      db := (method (ingested s.db (env.ingest s.moment))).1, moment := s.moment + 1 } :=
    { advances :=
        ⟨(reaches_ingested _ _).trans (hreaches _), (List.append_nil _).symm,
          Nat.le_succ s.moment⟩
      inFlight := by
        rw [← inFlight?_ingested s.db (env.ingest s.moment)]
        exact hinFlight _ }
  exact (transact_iff env).mpr ⟨fun _ _ => hquiets, fun _ _ => hquiets⟩

theorem applyStatus_quiets (status : FrameStatusEvent) :
    Action.Within Quiets (applyStatus env status) := by
  unfold applyStatus
  apply Action.Within.bind _ fun _ => Action.Within.pure _
  apply transact_quiets
  · intro db
    unfold ImageStream.applyStatus
    split
    · exact .refl db
    · exact Reaches.step db (.applyRemoteStatus status.key _ _ status.updatedAtMs)
  · intro db
    unfold ImageStream.applyStatus
    split
    · exact Or.inl rfl
    unfold applyRemoteStatus
    split
    · exact Or.inl rfl
    · exact inFlight?_transitionCurrent db _ _ _ _ _

theorem applyStatuses_quiets (statuses : List FrameStatusEvent) :
    Action.Within Quiets (applyStatuses env statuses) := by
  induction statuses with
  | nil => exact Action.Within.pure _
  | cons status statuses ih =>
      exact Action.Within.bind (applyStatus_quiets env status) fun _ => ih

theorem observe_quiets {α : Type} (reading : ℕ → α) :
    Action.Within Quiets (observe reading : RelayM α) :=
  (observe_idles reading).imp fun _ _ h => h.quiets

theorem consult_quiets {α : Type} (method : Database → Except StoreError α) :
    Action.Within Quiets (consult env method) :=
  (consult_idles env method).imp fun _ _ h => h.quiets

theorem reconcileUnseen_quiets (seen : List String) (keys : List FrameSetKey) :
    Action.Within Quiets (reconcileUnseen env seen keys) := by
  induction keys with
  | nil => exact Action.Within.pure _
  | cons key keys ih =>
      unfold reconcileUnseen
      apply Action.Within.ite ih
      apply Action.Within.bind (consult_quiets env _)
      intro newer
      apply Action.Within.bind (observe_quiets _)
      intro updatedAtMs
      apply Action.Within.bind _ fun _ => ih
      apply transact_quiets
      · exact fun db => Reaches.step db (.reconcileNotFound key (!newer) updatedAtMs)
      · intro db
        unfold reconcileNotFound
        rcases moveCurrent_cases db key _ _ updatedAtMs _ with ⟨hdb, -⟩ | ⟨hmoved, -⟩
        · exact Or.inl (congrArg Database.inFlight? hdb)
        · exact Or.inr (StoreEffect.inFlight?_of_offer hmoved.offer)

/-- A reconciliation answers whether it is complete. -/
theorem applyReconciliation_spec (response : ReconciliationResponse) (s : Relaying) :
    Ensures (applyReconciliation env response) s
      (fun reconciled s' => reconciled = response.complete ∧ Quiets s s')
      fun _ s' => Quiets s s' := by
  unfold applyReconciliation
  apply Ensures.after_within (applyStatuses_quiets env _) fun _ _ h => h
  intro _ s₁ h₁
  apply Ensures.ite
  · intro hcomplete
    apply Ensures.after_within (consult_quiets env _) fun _ _ h => h₁.trans h
    intro keys s₂ h₂
    apply Ensures.after_within (reconcileUnseen_quiets env _ keys)
      fun _ _ h => (h₁.trans h₂).trans h
    intro _ s₃ h₃
    exact ⟨hcomplete.symm, (h₁.trans h₂).trans h₃⟩
  · intro hincomplete
    exact ⟨(Bool.eq_false_iff.mpr hincomplete).symm, h₁⟩

end Statuses

/-! ## The first response -/

/-- No keys are unresolved when nothing is in flight. -/
theorem inFlight?_of_unresolvedKeys {db : Database} (h : unresolvedKeys db = .ok []) :
    db.inFlight? = none := by
  unfold unresolvedKeys currentInFlight at h
  split at h
  · cases h
  rename_i hcurrent
  cases hinFlight : db.inFlight? with
  | none => rfl
  | some uid =>
      rw [hinFlight] at hcurrent
      dsimp only at hcurrent
      split at hcurrent
      · cases hcurrent
      · cases hcurrent
        cases h

theorem inFlight?_bindProcessingJob (db : Database) (captureRunId processingJobId : String)
    (updatedAtMs : ℤ) :
    (bindProcessingJob db captureRunId processingJobId updatedAtMs).1.inFlight? =
      db.inFlight? := by
  dsimp only [bindProcessingJob]
  split
  · rfl
  split
  · rfl
  · exact inFlight?_ensureStateRow db updatedAtMs

/-- What the acceptance of a session leaves. -/
structure Accepts (opened : Opened) (envelope : ProcessorEnvelope) (s s' : Relaying)
    (session : NegotiatedSession) (loop : Loop) : Prop where
  accepted : acceptHello envelope opened.config = .ok session
  advances : Advances s s' [] ∨ ∃ request, Advances s s' [.reconciliation request]
  inFlight : s'.db.inFlight? = s.db.inFlight?
  session : loop.session = some session
  connected : loop.connected = true
  reconciled : loop.reconciled = true → s'.db.inFlight? = none

section FirstResponse

variable (env : Surroundings)

theorem consult_unresolvedKeys_spec (s : Relaying) :
    Ensures (consult env unresolvedKeys) s
      (fun keys s' => Idles s s' ∧ (keys = [] → s'.db.inFlight? = none))
      fun _ s' => Idles s s' := by
  have hempty : Ensures (consult env unresolvedKeys) s
      (fun keys s' => keys = [] → s'.db.inFlight? = none) fun _ _ => True := by
    apply (transact_iff env).mpr
    refine ⟨fun keys hkeys hnil => ?_, fun _ _ => trivial⟩
    rw [hnil] at hkeys
    exact inFlight?_of_unresolvedKeys hkeys
  exact ((consult_idles env unresolvedKeys s).and hempty).imp (fun _ _ h => h) fun _ _ h => h.1

theorem acceptSession_spec (opened : Opened) (loop : Loop) (envelope : ProcessorEnvelope)
    (s : Relaying) :
    Ensures (acceptSession env opened loop envelope) s
      (fun turned s' => ∃ session loop', turned = .next loop' ∧
        Accepts opened envelope s s' session loop')
      fun _ s' => Idles s s' := by
  unfold acceptSession
  apply Ensures.bind_iff.mpr
  apply Ensures.ofExcept_iff.mpr
  refine ⟨fun session hsession => ?_, fun _ _ => Idles.refl s⟩
  apply Ensures.after_within (observe_idles _) fun _ _ h => h
  intro updatedAtMs s₁ h₁
  apply Ensures.after_within (transact_idles env
    (fun db => Reaches.step db (.bindProcessingJob _ _ updatedAtMs))
    fun db => inFlight?_bindProcessingJob db _ _ updatedAtMs) fun _ _ h => h₁.trans h
  intro _ s₂ h₂
  apply Ensures.bind (consult_unresolvedKeys_spec env s₂) fun _ _ h => (h₁.trans h₂).trans h
  rintro unresolved s₃ ⟨h₃, hunresolved⟩
  have hidles := (h₁.trans h₂).trans h₃
  apply Ensures.ite
  · intro _
    apply Ensures.bind_iff.mpr
    apply Ensures.ofExcept_iff.mpr
    refine ⟨fun message hmessage => ?_, fun _ _ => hidles⟩
    obtain ⟨request, -, hreturned⟩ := bind_eq_ok.mp hmessage
    cases hreturned
    refine ⟨session, _, rfl, ?_⟩
    exact
      { accepted := hsession
        advances := Or.inr ⟨request, hidles.advances.put _⟩
        inFlight := hidles.inFlight
        session := rfl
        connected := rfl
        reconciled := fun hempty => hunresolved (List.isEmpty_iff.mp hempty) }
  · intro hresolved
    push Not at hresolved
    refine ⟨session, _, rfl, ?_⟩
    exact
      { accepted := hsession
        advances := Or.inl hidles.advances
        inFlight := hidles.inFlight
        session := rfl
        connected := rfl
        reconciled := fun _ => hunresolved hresolved.2 }

/-- A connection that retires the announced set leaves everything else. -/
theorem rejectHello_idles (opened : Opened) (rejected : HelloRejected) (s : Relaying) :
    Ensures (rejectHello env opened rejected) s
      (fun turned s' => turned = .retired ∧ Idles s s') fun _ s' => Idles s s' := by
  unfold rejectHello
  apply Ensures.ite
  · intro _
    apply Ensures.after_within (consult_idles env _) fun _ _ h => h
    intro current s₁ h₁
    cases current with
    | some current => exact h₁
    | none =>
        apply Ensures.after_within (observe_idles _) fun _ _ h => h₁.trans h
        intro updatedAtMs s₂ h₂
        apply Ensures.after_within (transact_idles env _ _) fun _ _ h => (h₁.trans h₂).trans h
        · intro retired s₃ h₃
          have hidles := (h₁.trans h₂).trans h₃
          apply Ensures.ite
          · exact fun _ => ⟨rfl, hidles⟩
          · exact fun _ => hidles
        · exact fun db => Reaches.step db (.retireEligible opened.helloSnapshot.key .rejected
            "SESSION_TOKEN_SCOPE_INVALID" updatedAtMs)
        · intro db
          dsimp only [retireEligible, Prod.map]
          split
          · rfl
          · split <;> rfl
  · exact fun _ => Idles.refl s

end FirstResponse

/-! ## One turn of the loop -/

section Turns

variable (env : Surroundings) (client : RelayClient)

/-- What one response does to a connection that takes it. The keys that are claimed for a
credit have the property `P`. -/
inductive TurnEffect (opened : Opened) (P : FrameSetKey → Prop) (loop : Loop)
    (envelope : ProcessorEnvelope) (s : Relaying) : Turned → Relaying → Prop
  | stopped {s' : Relaying} (idles : Idles s s') :
      TurnEffect opened P loop envelope s .stopped s'
  | retired {s' : Relaying} (first : loop.session = none) (idles : Idles s s') :
      TurnEffect opened P loop envelope s .retired s'
  | accepted {s' : Relaying} {session : NegotiatedSession} {loop' : Loop}
      (first : loop.session = none) (accepts : Accepts opened envelope s s' session loop') :
      TurnEffect opened P loop envelope s (.next loop') s'
  | reconciled {s' : Relaying} {session : NegotiatedSession}
      (started : loop.session = some session) (response : ReconciliationResponse)
      (received : envelope = .reconciliation response) (quiets : Quiets s s') :
      TurnEffect opened P loop envelope s
        (.next { loop with reconciled := response.complete }) s'
  | reported {s' : Relaying} {session : NegotiatedSession}
      (started : loop.session = some session)
      (received : ∀ credit, envelope ≠ .credit credit) (quiets : Quiets s s') :
      TurnEffect opened P loop envelope s (.next loop) s'
  | credited {s' : Relaying} {session : NegotiatedSession}
      (started : loop.session = some session) (ready : loop.reconciled = true)
      (credit : ProcessorCredit) (received : envelope = .credit credit)
      (answer : CreditAnswer env credit session P s s') :
      TurnEffect opened P loop envelope s (.next loop) s'

/-- What a response does to a connection that raises. -/
inductive TurnFailure (P : FrameSetKey → Prop) (envelope : ProcessorEnvelope) (s : Relaying)
    (e : RelayError) (s' : Relaying) : Prop
  | idle (idles : Idles s s')
  | quiet (received : ∀ credit, envelope ≠ .credit credit) (quiets : Quiets s s')
  | credit (failure : CreditFailure P s e s')

theorem Idles.then_creditAnswer {env : Surroundings} {credit : ProcessorCredit}
    {session : NegotiatedSession} {P : FrameSetKey → Prop} {s s' s'' : Relaying}
    (h : Idles s s') (h' : CreditAnswer env credit session P s' s'') :
    CreditAnswer env credit session P s s'' := by
  cases h' with
  | frameSet frameSet advances scope negotiated picked inFlight =>
      exact .frameSet frameSet (h.then_advances advances) scope negotiated picked inFlight
  | noData noData advances scope kept =>
      exact .noData noData (h.then_advances advances) scope (kept.trans h.inFlight)
  | shutdown advances stopped key picked inFlight =>
      obtain ⟨moment, hle, hlt, hstopped⟩ := stopped
      exact .shutdown (h.then_advances advances)
        ⟨moment, h.moment.trans hle, hlt, hstopped⟩ key picked inFlight

theorem Idles.then_creditFailure {P : FrameSetKey → Prop} {s s' s'' : Relaying} {e : RelayError}
    (h : Idles s s') (h' : CreditFailure P s' e s'') : CreditFailure P s e s'' where
  advances := h.then_advances h'.advances
  kept := by
    rw [← h.inFlight]
    exact h'.kept
  released message he := (h'.released message he).trans h.inFlight

/-- The state in which a response is handled, once the stop event has been tested. -/
def tested (s : Relaying) : Relaying := { s with moment := s.moment + 1 }

/-- Whether what would be claimed for a credit has a property, if the response is one. -/
def EnvelopePicks (opened : Opened) (P : FrameSetKey → Prop) (loop : Loop)
    (envelope : ProcessorEnvelope) (s : Relaying) : Prop :=
  ∀ credit session, envelope = .credit credit → loop.session = some session →
    loop.reconciled = true →
      PicksWith env credit session opened.helloSnapshot.key.captureRunId P (tested s)

theorem handleEnvelope_spec {opened : Opened} {P : FrameSetKey → Prop} {loop : Loop}
    {envelope : ProcessorEnvelope} {s : Relaying}
    (hpicks : EnvelopePicks env opened P loop envelope s) :
    Ensures (handleEnvelope env client opened loop envelope) s
      (TurnEffect env opened P loop envelope s) (TurnFailure P envelope s) := by
  have htested : Idles s (tested s) := observe_idles env.stopped s
  unfold handleEnvelope
  apply Ensures.bind_iff.mpr
  apply observe_iff.mpr
  apply Ensures.ite
  · exact fun _ => .stopped htested
  intro _
  change Ensures _ (tested s) _ _
  cases hsession : loop.session with
  | none =>
      dsimp only
      split
      · rename_i rejected hrejected
        apply (rejectHello_idles env opened rejected (tested s)).imp
        · rintro _ s' ⟨rfl, hidles⟩
          exact .retired hsession (htested.trans hidles)
        · exact fun _ _ hidles => .idle (htested.trans hidles)
      · apply (acceptSession_spec env opened loop envelope (tested s)).imp
        · rintro _ s' ⟨session, loop', rfl, haccepts⟩
          have htaken : Accepts opened envelope s s' session loop' :=
            { haccepts with
              advances := haccepts.advances.imp htested.then_advances
                fun ⟨request, h⟩ => ⟨request, htested.then_advances h⟩
              inFlight := haccepts.inFlight.trans htested.inFlight }
          exact .accepted hsession htaken
        · exact fun _ _ hidles => .idle (htested.trans hidles)
  | some session =>
      dsimp only
      unfold respond
      cases envelope with
      | reconciliation response =>
          apply Ensures.bind (applyReconciliation_spec env response (tested s))
          · exact fun _ _ h => .quiet (fun _ heq => by cases heq) (htested.quiets.trans h)
          rintro _ s' ⟨rfl, hquiets⟩
          exact .reconciled hsession response rfl (htested.quiets.trans hquiets)
      | credit credit =>
          apply Ensures.ite
          · exact fun _ => .idle htested
          intro hready
          have hready := not_not.mp hready
          apply Ensures.bind (handleCredit_spec env client
            (hpicks credit session rfl hsession hready))
          · exact fun _ _ h => .credit (htested.then_creditFailure h)
          intro _ s' hanswer
          exact .credited hsession hready credit rfl (htested.then_creditAnswer hanswer)
      | status status =>
          apply Ensures.after_within (applyStatus_quiets env status)
          · exact fun _ _ h => .quiet (fun _ heq => by cases heq) (htested.quiets.trans h)
          intro _ s' hquiets
          exact .reported hsession (fun _ heq => by cases heq) (htested.quiets.trans hquiets)
      | helloAccepted accepted => exact .idle htested
      | helloRejected rejected => exact .idle htested
      | unset => exact .reported hsession (fun _ heq => by cases heq) htested.quiets

/-! ## The loop -/

/-- What a response does to a connection. -/
inductive EnvelopeEffect (opened : Opened) (P : FrameSetKey → Prop) (connection : Connection)
    (envelope : ProcessorEnvelope) : Connection → Handling → Prop
  | unread (was : connection.left ≠ none) :
      EnvelopeEffect opened P connection envelope connection .unread
  | continued {relaying : Relaying} {loop : Loop} (was : connection.left = none)
      (effect : TurnEffect env opened P connection.loop envelope connection.relaying
        (.next loop) relaying) :
      EnvelopeEffect opened P connection envelope
        { relaying := relaying, loop := loop } .continued
  | stopped {relaying : Relaying} (was : connection.left = none)
      (effect : TurnEffect env opened P connection.loop envelope connection.relaying
        .stopped relaying) :
      EnvelopeEffect opened P connection envelope
        { connection with relaying := relaying, left := some .stopped } .stopped
  | retired {relaying : Relaying} (was : connection.left = none)
      (effect : TurnEffect env opened P connection.loop envelope connection.relaying
        .retired relaying) :
      EnvelopeEffect opened P connection envelope
        { connection with relaying := relaying, left := some .retired } .retired
  | raised {relaying : Relaying} {e : RelayError} (was : connection.left = none)
      (failure : TurnFailure P envelope connection.relaying e relaying) :
      EnvelopeEffect opened P connection envelope
        { connection with relaying := relaying, left := some (.raised e) } (.raised e)

theorem envelopeStep_effect {opened : Opened} {P : FrameSetKey → Prop} {connection : Connection}
    {envelope : ProcessorEnvelope}
    (hpicks : connection.left = none →
      EnvelopePicks env opened P connection.loop envelope connection.relaying) :
    EnvelopeEffect env opened P connection envelope
      (envelopeStep env client opened connection envelope).1
      (envelopeStep env client opened connection envelope).2 := by
  unfold envelopeStep
  cases hleft : connection.left with
  | some handling => exact .unread (fun hnone => by rw [hleft] at hnone; cases hnone)
  | none =>
      have hspec := handleEnvelope_spec env client (hpicks hleft)
      dsimp only
      cases hturn : handleEnvelope env client opened connection.loop envelope
          connection.relaying with
      | error e relaying => exact .raised hleft (hspec.error hturn)
      | ok turned relaying =>
          have heffect := hspec.ok hturn
          cases turned with
          | next loop => exact .continued hleft heffect
          | stopped => exact .stopped hleft heffect
          | retired => exact .retired hleft heffect

/-- What a response does to a connection, whatever is claimed for credits. -/
theorem envelopeStep_cases (opened : Opened) (connection : Connection)
    (envelope : ProcessorEnvelope) :
    EnvelopeEffect env opened (fun _ => True) connection envelope
      (envelopeStep env client opened connection envelope).1
      (envelopeStep env client opened connection envelope).2 :=
  envelopeStep_effect env client fun _ _ _ _ _ _ _ _ _ _ _ _ => trivial

end Turns

end RelayClient

end ImageStream
