/-
# What an acknowledgement stands for

The sender of an alert takes `APPLIED` and `DUPLICATE` as an acknowledgement of the
transition that it has sent. A call that applies a transition acknowledges that very
transition. A replay compares the claimed payload digest with that of the receipt and
looks at nothing else, so what it acknowledges is the transition of its key's receipt.

The two agree exactly as long as nobody sends an applied key and digest again with
another transition or another payload.
-/

import ImageStream.Alerts.Replays

namespace ImageStream.Alerts

open Base

universe u

variable {π : Type u} (canonicalPayload : π → Option String)

/-- Two envelopes of one transition: the same hazard, states, versions and payload. -/
structure SameTransition (applied later : RelayV2AlertEnvelope π) : Prop where
  hazardKey : later.hazardKey = applied.hazardKey
  fromState : later.fromState = applied.fromState
  toState : later.toState = applied.toState
  fromVersion : later.fromVersion = applied.fromVersion
  toVersion : later.toVersion = applied.toVersion
  alertPayload : canonicalPayload later.alertPayload = canonicalPayload applied.alertPayload

theorem SameTransition.refl (envelope : RelayV2AlertEnvelope π) :
    SameTransition canonicalPayload envelope envelope := ⟨rfl, rfl, rfl, rfl, rfl, rfl⟩

/-- The payload of an envelope hashes to its claimed digest. -/
def HashesToDigest (envelope : RelayV2AlertEnvelope π) : Prop :=
  ∃ payloadJson, canonicalPayload envelope.alertPayload = some payloadJson ∧
    Digest.sha256Hex (encodeUtf8 payloadJson) = envelope.payloadDigest

/-- The effect of an applied envelope is recorded. -/
def EffectRecorded (db : AlertDb) (applied : RelayV2AlertEnvelope π) : Prop :=
  ∃ row ∈ db.effects.rows, row.idempotencyKey = applied.idempotencyKey ∧
    row.hazardKey = applied.hazardKey ∧ row.hazardVersion = applied.toVersion ∧
    canonicalPayload applied.alertPayload = some row.payloadJson

/-- The statuses that acknowledge. -/
def Acknowledges (status : ReceiveStatus) : Prop := status = .applied ∨ status = .duplicate

/-- A call is acknowledged only if that very transition was applied: its effect is
recorded, no applied envelope with its key is another transition, and its payload hashes
to its digest. -/
def AcknowledgesApplied (past : List (ReceiverExchange π)) (db : AlertDb) :
    ReceiverInput π → Prop
  | .receive envelope receivedAt =>
      let exchange := Machine.exchange (receiverStep canonicalPayload) db
        (.receive envelope receivedAt)
      ∀ result, (receive canonicalPayload db envelope receivedAt).2 = .ok result →
        Acknowledges result.status →
        (∃ applied ∈ appliedEnvelopes (past ++ [exchange]),
          SameTransition canonicalPayload applied envelope ∧
            EffectRecorded canonicalPayload exchange.after applied) ∧
        (∀ applied ∈ appliedEnvelopes past, applied.idempotencyKey = envelope.idempotencyKey →
          SameTransition canonicalPayload applied envelope) ∧
        HashesToDigest canonicalPayload envelope
  | .reopen => True

/-- A call that reaches the receipts does not send an applied key and digest again with
another transition or another payload. -/
def RepeatsApplied (past : List (ReceiverExchange π)) (_ : AlertDb) : ReceiverInput π → Prop
  | .receive envelope receivedAt =>
      0 < receivedAt → canonicalPayload envelope.alertPayload ≠ none →
        ∀ applied ∈ appliedEnvelopes past, applied.idempotencyKey = envelope.idempotencyKey →
          applied.payloadDigest = envelope.payloadDigest →
          SameTransition canonicalPayload applied envelope
  | .reopen => True

/-! ## What the tables know of the applied envelopes -/

/-- An applied envelope with its receipt and its effect. -/
structure Settled (db : AlertDb) (applied : RelayV2AlertEnvelope π) : Prop where
  hashes : HashesToDigest canonicalPayload applied
  receipt : ∃ receipt, db.receipts.find applied.idempotencyKey = some receipt ∧
    receipt.status = .applied ∧ receipt.payloadDigest = applied.payloadDigest
  effect : EffectRecorded canonicalPayload db applied

/-- The receipts of a history and its applied envelopes belong together. -/
structure Settles (past : List (ReceiverExchange π)) (db : AlertDb) : Prop where
  settled : ∀ applied ∈ appliedEnvelopes past, Settled canonicalPayload db applied
  status_ne_duplicate : ∀ key receipt, db.receipts.find key = some receipt →
    receipt.status ≠ .duplicate
  exists_applied : ∀ key receipt, db.receipts.find key = some receipt →
    receipt.status = .applied → ∃ applied ∈ appliedEnvelopes past,
      applied.idempotencyKey = key ∧ applied.payloadDigest = receipt.payloadDigest

theorem settles_initial : Settles canonicalPayload [] AlertDb.initial where
  settled _ h := by cases h
  status_ne_duplicate _ _ h := by cases h
  exists_applied _ _ h := by cases h

variable {canonicalPayload}

theorem validate_ne_duplicate {envelope : RelayV2AlertEnvelope π} {digest : String}
    {status : ReceiveStatus} (h : validate envelope digest = some status) :
    status ≠ .duplicate := by
  unfold validate at h
  repeat' split at h
  all_goals first
    | cases h; decide
    | cases h

/-- No first answer is a duplicate. -/
theorem refusal_ne_duplicate (db : AlertDb) (envelope : RelayV2AlertEnvelope π) (receivedAt : ℤ)
    (hnew : db.receipts.find envelope.idempotencyKey = none) (result : RelayV2ReceiveResult)
    (hresult : (receive canonicalPayload db envelope receivedAt).2 = .ok result) :
    result.status ≠ .duplicate := by
  unfold receive at hresult
  split at hresult
  · cases hresult
  split at hresult
  · cases hresult
  rw [hnew] at hresult
  dsimp only at hresult
  split at hresult
  · rename_i rejection hvalid
    rw [recordRejection, recordReceipt_of_new _ _ _ _ hnew] at hresult
    cases hresult
    exact validate_ne_duplicate hvalid
  · split at hresult
    · rw [recordRejection, recordReceipt_of_new _ _ _ _ hnew] at hresult
      cases hresult
      intro hduplicate
      cases hduplicate
    · unfold commitOr at hresult
      split at hresult
      · cases hresult
        intro hduplicate
        cases hduplicate
      · cases hresult

theorem digest_of_validate {envelope : RelayV2AlertEnvelope π} {digest : String}
    (h : validate envelope digest = none) : digest = envelope.payloadDigest := by
  unfold validate at h
  repeat' split at h
  any_goals cases h
  rename_i hdigest _ _ _ _
  exact not_not.mp hdigest

section Step

variable {past : List (ReceiverExchange π)} {db : AlertDb}

/-- A receipt that keeps its place, and an effect that stays, settle what they settled. -/
theorem Settled.mono {applied : RelayV2AlertEnvelope π} (h : Settled canonicalPayload db applied)
    {next : AlertDb}
    (hreceipts : ∀ receipt, db.receipts.find applied.idempotencyKey = some receipt →
      next.receipts.find applied.idempotencyKey = some receipt)
    (heffects : ∀ row ∈ db.effects.rows, row ∈ next.effects.rows) :
    Settled canonicalPayload next applied where
  hashes := h.hashes
  receipt := by
    obtain ⟨receipt, hfind, hrest⟩ := h.receipt
    exact ⟨receipt, hreceipts receipt hfind, hrest⟩
  effect := by
    obtain ⟨row, hrow, hrest⟩ := h.effect
    exact ⟨row, heffects row hrow, hrest⟩

/-- A receipt under a new key leaves the others in their places. -/
theorem find_put_of_new {receipts : Table ReceiptRow.idempotencyKey} {row receipt : ReceiptRow}
    {key : String} (hnew : receipts.find row.idempotencyKey = none)
    (h : receipts.find key = some receipt) : (receipts.put row).find key = some receipt := by
  rw [Table.find_put_of_ne, h]
  rintro rfl
  rw [hnew] at h
  cases h

/-- An input that applies nothing and leaves receipts and effects. -/
theorem Settles.silent (h : Settles canonicalPayload past db) {e : ReceiverExchange π}
    (he : appliedEnvelope e = none) {next : AlertDb} (hreceipts : next.receipts = db.receipts)
    (heffects : next.effects = db.effects) : Settles canonicalPayload (past ++ [e]) next := by
  have happlied : appliedEnvelopes (past ++ [e]) = appliedEnvelopes past := by
    simp [appliedEnvelopes, he]
  refine ⟨?_, ?_, ?_⟩
  · rw [happlied]
    intro applied hmem
    refine (h.settled applied hmem).mono ?_ ?_
    · rw [hreceipts]
      exact fun _ => id
    · rw [heffects]
      exact fun _ => id
  · rw [hreceipts]
    exact h.status_ne_duplicate
  · rw [hreceipts, happlied]
    exact h.exists_applied

/-- A refusal leaves a receipt that is not applied. -/
theorem Settles.refuse (h : Settles canonicalPayload past db) {e : ReceiverExchange π}
    (he : appliedEnvelope e = none) {row : ReceiptRow}
    (hnew : db.receipts.find row.idempotencyKey = none) (happlied : row.status ≠ .applied)
    (hduplicate : row.status ≠ .duplicate) {next : AlertDb}
    (hreceipts : next.receipts = db.receipts.put row) (heffects : next.effects = db.effects) :
    Settles canonicalPayload (past ++ [e]) next := by
  have hsame : appliedEnvelopes (past ++ [e]) = appliedEnvelopes past := by
    simp [appliedEnvelopes, he]
  refine ⟨?_, ?_, ?_⟩
  · rw [hsame]
    intro applied hmem
    refine (h.settled applied hmem).mono (fun receipt hfind => ?_) ?_
    · rw [hreceipts]
      exact find_put_of_new hnew hfind
    · rw [heffects]
      exact fun _ => id
  · intro key receipt hfind
    rw [hreceipts, Table.find_put] at hfind
    split at hfind
    · cases hfind
      exact hduplicate
    · exact h.status_ne_duplicate key receipt hfind
  · rw [hsame]
    intro key receipt hfind hstatus
    rw [hreceipts, Table.find_put] at hfind
    split at hfind
    · cases hfind
      exact absurd hstatus happlied
    · exact h.exists_applied key receipt hfind hstatus

/-- An accepted transition settles its envelope. -/
theorem Settles.apply (h : Settles canonicalPayload past db) {e : ReceiverExchange π}
    {envelope : RelayV2AlertEnvelope π} (he : appliedEnvelope e = some envelope)
    {payloadJson : String} (receivedAt : ℤ)
    (hpayload : canonicalPayload envelope.alertPayload = some payloadJson)
    (hnew : db.receipts.find envelope.idempotencyKey = none)
    (hvalid : validate envelope (Digest.sha256Hex (encodeUtf8 payloadJson)) = none)
    (hfresh : db.effects.find envelope.idempotencyKey = none) :
    Settles canonicalPayload (past ++ [e]) (appliedDb db envelope payloadJson receivedAt) := by
  have happend : appliedEnvelopes (past ++ [e]) = appliedEnvelopes past ++ [envelope] := by
    simp [appliedEnvelopes, he]
  refine ⟨?_, ?_, ?_⟩
  · rw [happend]
    intro applied hmem
    rcases List.mem_append.mp hmem with hold | hlast
    · refine (h.settled applied hold).mono (fun receipt hfind => ?_) (fun row hrow => ?_)
      · exact find_put_of_new hnew hfind
      · refine (Table.mem_put_iff _).mpr (Or.inr ⟨hrow, ?_⟩)
        exact db.effects.find_eq_none_iff.mp hfresh row hrow
    · rw [List.mem_singleton.mp hlast]
      refine ⟨⟨payloadJson, hpayload, digest_of_validate hvalid⟩, ?_, ?_⟩
      · exact ⟨_, Table.find_put_self _ _, rfl, rfl⟩
      · exact ⟨_, (Table.mem_put_iff _).mpr (Or.inl rfl), rfl, rfl, rfl, hpayload⟩
  · intro key receipt hfind
    dsimp only [appliedDb] at hfind
    rw [Table.find_put] at hfind
    split at hfind
    · cases hfind
      intro hduplicate
      cases hduplicate
    · exact h.status_ne_duplicate key receipt hfind
  · rw [happend]
    intro key receipt hfind hstatus
    dsimp only [appliedDb] at hfind
    rw [Table.find_put] at hfind
    split at hfind
    · rename_i hkey
      cases hfind
      exact ⟨envelope, List.mem_append_right _ (List.mem_singleton_self _), hkey.symm, rfl⟩
    · obtain ⟨applied, hmem, hrest⟩ := h.exists_applied key receipt hfind hstatus
      exact ⟨applied, List.mem_append_left _ hmem, hrest⟩

/-- One input keeps receipts and applied envelopes together. -/
theorem Settles.step (h : Settles canonicalPayload past db) (input : ReceiverInput π) :
    Settles canonicalPayload
      (past ++ [Machine.exchange (receiverStep canonicalPayload) db input])
      (receiverStep canonicalPayload db input).1 := by
  cases input with
  | reopen => exact h.silent rfl rfl rfl
  | receive envelope receivedAt =>
      have houtcome := receive_outcome canonicalPayload db envelope receivedAt
      have hrefusal := @refusal_ne_duplicate π canonicalPayload db envelope receivedAt
      generalize hanswer : receive canonicalPayload db envelope receivedAt = answer
        at houtcome hrefusal
      have hstep : receiverStep canonicalPayload db (.receive envelope receivedAt) =
          (answer.1, some answer.2) := by
        simp [receiverStep, hanswer]
      rw [Machine.exchange, hstep]
      cases houtcome with
      | raised e => exact h.silent rfl rfl rfl
      | replayed previous hprevious =>
          unfold Alerts.replay
          split
          · exact h.silent rfl rfl rfl
          · exact h.silent rfl rfl rfl
      | refused status version hnew hstatus =>
          exact h.refuse rfl hnew hstatus (hrefusal hnew _ rfl) rfl rfl
      | applied payloadJson hpayload hnew hvalid hadmits hfresh =>
          exact h.apply rfl receivedAt hpayload hnew hvalid hfresh

/-- A key with an applied envelope has that envelope's receipt. -/
theorem Settles.receipt_eq (h : Settles canonicalPayload past db)
    {applied : RelayV2AlertEnvelope π} (hmem : applied ∈ appliedEnvelopes past)
    {receipt : ReceiptRow} (hfind : db.receipts.find applied.idempotencyKey = some receipt) :
    receipt.status = .applied ∧ receipt.payloadDigest = applied.payloadDigest := by
  obtain ⟨found, hfound, hrest⟩ := (h.settled applied hmem).receipt
  rw [hfind] at hfound
  cases hfound
  exact hrest

/-- A replay acknowledges what was applied exactly when it repeats it. -/
theorem acknowledgesApplied_replay_iff (h : Settles canonicalPayload past db)
    {envelope : RelayV2AlertEnvelope π} {receivedAt : ℤ} (htime : 0 < receivedAt)
    (hpayload : canonicalPayload envelope.alertPayload ≠ none) {previous : ReceiptRow}
    (hprevious : db.receipts.find envelope.idempotencyKey = some previous) :
    AcknowledgesApplied canonicalPayload past db (.receive envelope receivedAt) ↔
      RepeatsApplied canonicalPayload past db (.receive envelope receivedAt) := by
  have hreceive := receive_of_receipt htime hpayload hprevious
  have hkeyed : ∀ applied ∈ appliedEnvelopes past,
      applied.idempotencyKey = envelope.idempotencyKey →
      previous.status = .applied ∧ previous.payloadDigest = applied.payloadDigest := by
    intro applied hmem hkey
    exact h.receipt_eq hmem (by rw [hkey]; exact hprevious)
  have hexchange : (Machine.exchange (receiverStep canonicalPayload) db
      (.receive envelope receivedAt)).after = (replay db envelope previous receivedAt).1 :=
    congrArg Prod.fst hreceive
  constructor
  · intro hlaw _ _ applied hmem hkey hdigest
    obtain ⟨hstatus, hsame⟩ := hkeyed applied hmem hkey
    have hanswer : (receive canonicalPayload db envelope receivedAt).2 = .ok (envelope.result
        .duplicate previous.receiverHazardVersion receivedAt previous.deliveryDeadlineMet
        false) := by
      rw [hreceive, replay, if_neg (by rw [hsame, hdigest]; exact fun hne => hne rfl), hstatus]
      rfl
    exact (hlaw _ hanswer (Or.inr rfl)).2.1 applied hmem hkey
  · intro hrepeats result hresult hacknowledges
    rw [hreceive, replay] at hresult
    split at hresult
    · -- Another digest is a conflict, which acknowledges nothing.
      cases hresult
      rcases hacknowledges with hstatus | hstatus <;> cases hstatus
    · rename_i hdigest
      have hsame : previous.payloadDigest = envelope.payloadDigest := not_not.mp hdigest
      cases hresult
      have hstatus : previous.status = .applied := by
        by_contra hother
        dsimp only [RelayV2AlertEnvelope.result] at hacknowledges
        rw [if_neg hother] at hacknowledges
        rcases hacknowledges with happlied | hduplicate
        · exact hother happlied
        · exact h.status_ne_duplicate _ _ hprevious hduplicate
      have hrepeat : ∀ applied ∈ appliedEnvelopes past,
          applied.idempotencyKey = envelope.idempotencyKey →
          SameTransition canonicalPayload applied envelope := by
        intro applied hmem hkey
        exact hrepeats htime hpayload applied hmem hkey
          ((hkeyed applied hmem hkey).2.symm.trans hsame)
      obtain ⟨applied, hmem, hkey, happliedDigest⟩ :=
        h.exists_applied _ _ hprevious hstatus
      have htransition := hrepeat applied hmem hkey
      refine ⟨⟨applied, ?_, htransition, ?_⟩, hrepeat, ?_⟩
      · rw [appliedEnvelopes, List.filterMap_append]
        exact List.mem_append_left _ hmem
      · rw [hexchange, replay, if_neg hdigest]
        exact (h.settled applied hmem).effect
      · obtain ⟨payloadJson, hjson, hhash⟩ := (h.settled applied hmem).hashes
        refine ⟨payloadJson, ?_, ?_⟩
        · rw [htransition.alertPayload]
          exact hjson
        · rw [hhash, happliedDigest, hsame]

/-- A call with a new key acknowledges what it applies itself. -/
theorem acknowledgesApplied_of_new (h : Settles canonicalPayload past db)
    {envelope : RelayV2AlertEnvelope π} (receivedAt : ℤ)
    (hnew : db.receipts.find envelope.idempotencyKey = none) :
    AcknowledgesApplied canonicalPayload past db (.receive envelope receivedAt) := by
  intro result hresult hacknowledges
  have hkeyed : ∀ applied ∈ appliedEnvelopes past,
      applied.idempotencyKey ≠ envelope.idempotencyKey := by
    intro applied hmem hkey
    obtain ⟨receipt, hfound, -⟩ := (h.settled applied hmem).receipt
    rw [hkey, hnew] at hfound
    cases hfound
  have houtcome := receive_outcome canonicalPayload db envelope receivedAt
  have hrefusal := @refusal_ne_duplicate π canonicalPayload db envelope receivedAt hnew result
    hresult
  have hexchange : Machine.exchange (receiverStep canonicalPayload) db
      (.receive envelope receivedAt) = ⟨db, .receive envelope receivedAt,
        some (receive canonicalPayload db envelope receivedAt).2,
        (receive canonicalPayload db envelope receivedAt).1⟩ := rfl
  rw [hexchange]
  generalize receive canonicalPayload db envelope receivedAt = answer at houtcome hresult ⊢
  cases houtcome with
  | raised e => cases hresult
  | replayed previous hprevious =>
      rw [hnew] at hprevious
      cases hprevious
  | refused status version _ hstatus =>
      cases hresult
      rcases hacknowledges with happlied | hduplicate
      · exact absurd happlied hstatus
      · exact absurd hduplicate hrefusal
  | applied payloadJson hpayload _ hvalid hadmits hfresh =>
      refine ⟨⟨envelope, ?_, .refl canonicalPayload envelope, ?_⟩, ?_, ?_⟩
      · rw [appliedEnvelopes, List.filterMap_append]
        exact List.mem_append_right _ (List.mem_singleton_self _)
      · exact ⟨_, (Table.mem_put_iff _).mpr (Or.inl rfl), rfl, rfl, rfl, hpayload⟩
      · intro applied hmem hkey
        exact absurd hkey (hkeyed applied hmem)
      · exact ⟨payloadJson, hpayload, digest_of_validate hvalid⟩

/-- One input acknowledges what was applied exactly when it repeats it. -/
theorem acknowledgesApplied_iff (h : Settles canonicalPayload past db)
    (input : ReceiverInput π) :
    AcknowledgesApplied canonicalPayload past db input ↔
      RepeatsApplied canonicalPayload past db input := by
  cases input with
  | reopen => exact Iff.rfl
  | receive envelope receivedAt =>
      by_cases hraises : receivedAt ≤ 0 ∨ canonicalPayload envelope.alertPayload = none
      · constructor
        · intro _ htime hpayload
          rcases hraises with hle | hnone
          · exact absurd htime (not_lt.mpr hle)
          · exact absurd hnone hpayload
        · intro _ result hresult
          obtain ⟨e, he⟩ := receive_raises db envelope hraises
          rw [he] at hresult
          cases hresult
      · rw [not_or, not_le] at hraises
        cases hfind : db.receipts.find envelope.idempotencyKey with
        | some previous => exact acknowledgesApplied_replay_iff h hraises.1 hraises.2 hfind
        | none =>
            constructor
            · intro _ _ _ applied hmem hkey
              obtain ⟨receipt, hfound, -⟩ := (h.settled applied hmem).receipt
              rw [hkey, hfind] at hfound
              cases hfound
            · exact fun _ => acknowledgesApplied_of_new h receivedAt hfind

end Step

/-- **An alert is acknowledged only if that very transition was applied**, in every call of
a run, if and only if no call of the run that reaches the receipts sends the idempotency
key and the claimed digest of an applied envelope with another hazard, state, version or
payload. -/
theorem acknowledged_only_if_applied_iff (canonicalPayload : π → Option String)
    (inputs : List (ReceiverInput π)) :
    Machine.EachStep (receiverStep canonicalPayload) (AcknowledgesApplied canonicalPayload)
        AlertDb.initial inputs ↔
      Machine.EachStep (receiverStep canonicalPayload) (RepeatsApplied canonicalPayload)
        AlertDb.initial inputs :=
  Machine.eachStep_iff_of_invariant (receiverStep canonicalPayload)
    (settles_initial canonicalPayload) (fun _ _ input h _ => h.step input)
    (fun _ _ input h => acknowledgesApplied_iff h input) inputs

/-! ### Another hazard under an applied key -/

/-- The key and the digest of the applied alert, with another hazard and payload. -/
def windowAlert : RelayV2AlertEnvelope String :=
  { doorAlert with
    hazardKey := "subject:other-rule"
    alertPayload := "\"window\"" }

/-- The second alert is answered `DUPLICATE`, but its hazard never had an effect. -/
theorem reused_key_acknowledged :
    ¬Machine.EachStep (receiverStep some) (AcknowledgesApplied some) AlertDb.initial
      [.receive doorAlert 1000, .receive windowAlert 1001] := by
  intro h
  have hlaw := h [.receive doorAlert 1000] (.receive windowAlert 1001) [] rfl
  have hanswer : (receive some (Machine.after (receiverStep some) AlertDb.initial
      [.receive doorAlert 1000]) windowAlert 1001).2 =
      .ok (windowAlert.result .duplicate 1 1001 (some true) false) := by
    decide +kernel
  have happlied : doorAlert ∈ appliedEnvelopes (Machine.history (receiverStep some)
      AlertDb.initial [.receive doorAlert 1000]) := by
    simp [appliedEnvelopes, appliedEnvelope, Machine.history, Machine.exchange, receiverStep,
      doorAlert_applied, RelayV2AlertEnvelope.result]
  have htransition := (hlaw _ hanswer (Or.inr rfl)).2.1 doorAlert happlied rfl
  exact absurd htransition.hazardKey (by decide)

end ImageStream.Alerts
