/-
# How a connection begins and ends

Before its loop a connection announces one capture run, unless it has nothing to announce, finds
the session of its set inactive, or is stopped. Until then it claims nothing. After its loop it
marks what is in flight as unresolved and puts no message.
-/

import ImageStream.Relay.ConnectionRuns

namespace ImageStream

open Base LatestLive

/-! ## The beginning -/

namespace RelayClient

instance : IsPreorder Relaying Idles where
  refl := Idles.refl
  trans _ _ _ := Idles.trans

section Openings

variable (env : Surroundings) (client : RelayClient)

theorem resolveCredential_idles (snapshot : ClaimedFrameSet) :
    Action.Within Idles (resolveCredential env snapshot) := by
  unfold resolveCredential
  apply Action.Within.ite _ (Action.Within.pure _)
  split
  · apply Action.Within.bind (observe_idles _)
    intro answer
    cases answer with
    | issued scope => exact Action.Within.pure _
    | sessionInactive => exact Action.Within.pure _
    | raised typeName message => exact Action.Within.throw _
  · apply Action.Within.bind (observe_idles _)
    intro answer
    exact Action.Within.bind (Action.Within.ofExcept _) fun _ => Action.Within.pure _

theorem captureRunId_bindRelayScope {claimed claim : ClaimedFrameSet}
    {scope : Option ProcessingRelayScope} (h : bindRelayScope claimed scope = .ok claim) :
    claim.key.captureRunId = claimed.key.captureRunId := by
  rw [bindRelayScope_eq_ok h]

/-- A hello announces the run of its set. -/
theorem buildProducerHello_eq_ok {codec : Codec} {config : ProtocolConfig}
    {claim : ClaimedFrameSet} {watermark : Option FrameSetKey} {unresolved : List FrameSetKey}
    {job : Option String} {measuredUtcMs : ℤ} {message : ProducerEnvelope}
    (h : buildProducerHello codec config claim watermark unresolved job measuredUtcMs =
      .ok message) :
    ∃ hello : ProducerHello, message = .hello hello ∧
      hello.captureRunId = claim.key.captureRunId := by
  unfold buildProducerHello at h
  obtain ⟨⟨captureConfigs, metadata⟩, -, h⟩ := bind_eq_ok.mp h
  obtain ⟨hello, hbuilt, h⟩ := bind_eq_ok.mp h
  cases h
  refine ⟨hello, rfl, ?_⟩
  rw [construct_eq_ok hbuilt]

/-- A connection that has put its hello, and nothing else. -/
structure Announced (snapshot : ClaimedFrameSet) (s s' : Relaying) (hello : ProducerHello) :
    Prop where
  advances : Advances s s' [.hello hello]
  inFlight : s'.db.inFlight? = s.db.inFlight?
  run : hello.captureRunId = snapshot.key.captureRunId

theorem Announced.then_idles {snapshot : ClaimedFrameSet} {s s' s'' : Relaying}
    {hello : ProducerHello} (h : Announced snapshot s s' hello) (h' : Idles s' s'') :
    Announced snapshot s s'' hello where
  advances :=
    ⟨h.advances.reaches.trans h'.reaches, h'.outgoing.trans h.advances.outgoing,
      h.advances.moment.trans h'.moment⟩
  inFlight := h'.inFlight.trans h.inFlight
  run := h.run

theorem Idles.then_announced {snapshot : ClaimedFrameSet} {s s' s'' : Relaying}
    {hello : ProducerHello} (h : Idles s s') (h' : Announced snapshot s' s'' hello) :
    Announced snapshot s s'' hello where
  advances := h.then_advances h'.advances
  inFlight := h'.inFlight.trans h.inFlight
  run := h'.run

theorem announce_spec (snapshot : ClaimedFrameSet) (config : ProtocolConfig)
    (scope : Option ProcessingRelayScope) (s : Relaying) :
    Ensures (announce env client snapshot config scope) s
      (fun _ s' => ∃ hello, Announced snapshot s s' hello) fun _ s' => Idles s s' := by
  unfold announce
  apply Ensures.bind_iff.mpr
  apply Ensures.ofExcept_iff.mpr
  refine ⟨fun authorized hauthorized => ?_, fun _ _ => Idles.refl s⟩
  apply Ensures.after_within (consult_idles env _) fun _ _ h => h
  intro watermark s₁ h₁
  apply Ensures.after_within (consult_idles env _) fun _ _ h => h₁.trans h
  intro unresolved s₂ h₂
  apply Ensures.after_within (consult_idles env _) fun _ _ h => (h₁.trans h₂).trans h
  intro jobId s₃ h₃
  apply Ensures.after_within (observe_idles _) fun _ _ h => ((h₁.trans h₂).trans h₃).trans h
  intro measuredUtcMs s₄ h₄
  have hidles := ((h₁.trans h₂).trans h₃).trans h₄
  apply Ensures.bind_iff.mpr
  apply Ensures.ofExcept_iff.mpr
  refine ⟨fun message hmessage => ?_, fun _ _ => hidles⟩
  obtain ⟨hello, rfl, hrun⟩ := buildProducerHello_eq_ok hmessage
  refine ⟨hello, hidles.advances.put _, hidles.inFlight, ?_⟩
  rw [hrun, captureRunId_bindRelayScope hauthorized]

/-- How a connection begins, when it does not raise. -/
inductive OpeningEffect (s : Relaying) : Opening → Relaying → Prop
  | nothingEligible {s' : Relaying} (idles : Idles s s') : OpeningEffect s .nothingEligible s'
  | sessionInactive {s' : Relaying} (idles : Idles s s') : OpeningEffect s .sessionInactive s'
  | stopped {s' : Relaying} (snapshot : ClaimedFrameSet) (hello : ProducerHello)
      (announced : Announced snapshot s s' hello) : OpeningEffect s .stopped s'
  | opened {s' : Relaying} (connection : Opened) (hello : ProducerHello)
      (announced : Announced connection.helloSnapshot s s' hello) :
      OpeningEffect s (.opened connection) s'

/-- How a connection begins that raises. -/
inductive OpeningFailure (s s' : Relaying) : Prop
  | idle (idles : Idles s s')
  | announced (snapshot : ClaimedFrameSet) (hello : ProducerHello)
      (announced : Announced snapshot s s' hello)

theorem Idles.then_openingFailure {s s' s'' : Relaying} (h : Idles s s')
    (h' : OpeningFailure s' s'') : OpeningFailure s s'' := by
  cases h' with
  | idle idles => exact .idle (h.trans idles)
  | announced snapshot hello announced => exact .announced snapshot hello (h.then_announced announced)

theorem Idles.then_openingEffect {s s' s'' : Relaying} {opening : Opening} (h : Idles s s')
    (h' : OpeningEffect s' opening s'') : OpeningEffect s opening s'' := by
  cases h' with
  | nothingEligible idles => exact .nothingEligible (h.trans idles)
  | sessionInactive idles => exact .sessionInactive (h.trans idles)
  | stopped snapshot hello announced => exact .stopped snapshot hello (h.then_announced announced)
  | opened connection hello announced => exact .opened connection hello (h.then_announced announced)

theorem connect_spec (snapshot : ClaimedFrameSet) (config : ProtocolConfig)
    (authenticated : Bool) (scope : Option ProcessingRelayScope) (s : Relaying) :
    Ensures (connect env client snapshot config authenticated scope) s (OpeningEffect s)
      fun _ s' => OpeningFailure s s' := by
  unfold connect
  apply Ensures.bind (announce_spec env client snapshot config scope s)
  · exact fun _ _ h => .idle h
  rintro _ s₁ ⟨hello, hannounced⟩
  apply Ensures.after_within (observe_idles _)
  · exact fun _ _ h => .announced snapshot hello (hannounced.then_idles h)
  intro channelError s₂ h₂
  cases channelError with
  | some e => exact .announced snapshot hello (hannounced.then_idles h₂)
  | none =>
      apply Ensures.after_within (observe_idles _)
      · exact fun _ _ h => .announced snapshot hello (hannounced.then_idles (h₂.trans h))
      intro stopped s₃ h₃
      apply Ensures.ite
      · exact fun _ => .stopped snapshot hello (hannounced.then_idles (h₂.trans h₃))
      intro _
      apply Ensures.after_within (consult_idles env _)
      · exact fun _ _ h => .announced snapshot hello
          (hannounced.then_idles ((h₂.trans h₃).trans h))
      intro unresolved s₄ h₄
      exact .opened _ hello (hannounced.then_idles ((h₂.trans h₃).trans h₄))

/-- The set of an inactive session is retired, whatever is in flight. -/
theorem retireEligible_inFlight? (db : Database) (key : FrameSetKey) (state : RetiredState)
    (reason : String) (timestampMs : ℤ) :
    (retireEligible db key state reason timestampMs).1.inFlight? = db.inFlight? := by
  unfold retireEligible
  split
  · rfl
  · split <;> rfl

/-- How a connection begins: before its hello it changes nothing that is in flight. -/
theorem openConnection_spec (s : Relaying) :
    Ensures (openConnection env client) s (OpeningEffect s) fun _ s' => OpeningFailure s s' := by
  unfold openConnection
  apply Ensures.after_within (consult_idles env _) fun _ _ h => .idle h
  intro found s₁ h₁
  cases found with
  | none => exact .nothingEligible h₁
  | some snapshot =>
      apply Ensures.bind_iff.mpr
      apply Ensures.ofExcept_iff.mpr
      refine ⟨fun config _ => ?_, fun _ _ => .idle h₁⟩
      apply Ensures.after_within (resolveCredential_idles env _)
      · exact fun _ _ h => .idle (h₁.trans h)
      intro credential s₂ h₂
      have hconnect : ∀ authenticated scope,
          Ensures (connect env client snapshot config authenticated scope) s₂ (OpeningEffect s)
            fun _ s' => OpeningFailure s s' := fun authenticated scope =>
        (connect_spec env client snapshot config authenticated scope s₂).imp
          (fun _ _ => (h₁.trans h₂).then_openingEffect)
          fun _ _ => (h₁.trans h₂).then_openingFailure
      cases credential with
      | unneeded => exact hconnect false none
      | active scope => exact hconnect true scope
      | sessionInactive =>
          apply Ensures.after_within (observe_idles _)
          · exact fun _ _ h => .idle ((h₁.trans h₂).trans h)
          intro updatedAtMs s₃ h₃
          apply Ensures.after_within (transact_idles env
            (fun db => Reaches.step db (.retireEligible snapshot.key .sessionInactive
              "RELAY_CREDENTIAL_SESSION_INACTIVE" updatedAtMs))
            fun db => retireEligible_inFlight? db _ _ _ _)
          · exact fun _ _ h => .idle (((h₁.trans h₂).trans h₃).trans h)
          intro _ s₄ h₄
          exact .sessionInactive (((h₁.trans h₂).trans h₃).trans h₄)

/-! ## The end -/

/-- What is marked as unresolved stays in flight. -/
theorem inFlight?_markUnresolved (db : Database) (key : FrameSetKey) (reason : String)
    (timestampMs : ℤ) : (markUnresolved db key reason timestampMs).1.inFlight? = db.inFlight? := by
  unfold markUnresolved transitionCurrent
  rcases moveCurrent_cases db key .unresolved (some reason) timestampMs
    (fun state => if false then state.released else state) with ⟨hdb, -⟩ | ⟨hmoved, -⟩
  · exact congrArg Database.inFlight? hdb
  · exact StoreEffect.inFlight?_of_offer hmoved.offer

theorem closeConnection_idles : Action.Within Idles (closeConnection env) := by
  unfold closeConnection
  apply Action.Within.bind (consult_idles env _)
  intro current
  cases current with
  | none => exact Action.Within.pure _
  | some current =>
      apply Action.Within.bind (observe_idles _)
      intro updatedAtMs
      apply Action.Within.bind _ fun _ => Action.Within.pure _
      exact transact_idles env
        (fun db => Reaches.step db (.markUnresolved current "TRANSPORT_DISCONNECTED" updatedAtMs))
        fun db => inFlight?_markUnresolved db _ _ _

end Openings

end RelayClient

end ImageStream
