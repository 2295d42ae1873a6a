/-
# Replays of an alert

The receipts remember how each idempotency key was first answered, and nothing else
decides how a later call with that key is answered. `Remembers` says that the receipts
table is the history's first answers; it is an invariant of the receiver, so an answer
does not depend on what was received in between.

A call that raises is not an answer. It leaves no receipt, and a key is still new after it.
-/

import ImageStream.Alerts.ExactlyOnce

namespace ImageStream.Alerts

open Base

universe u

variable {π : Type u} {canonicalPayload : π → Option String}

/-- One exchange of a receiver's run. -/
abbrev ReceiverExchange (π : Type u) :=
  Exchange AlertDb (ReceiverInput π) (Option (Except ReceiverError RelayV2ReceiveResult))

/-- The call that an exchange answered, with the answer. -/
def answered? (e : ReceiverExchange π) :
    Option (RelayV2AlertEnvelope π × RelayV2ReceiveResult) :=
  match e.input, e.output with
  | .receive envelope _, some (.ok result) => some (envelope, result)
  | _, _ => none

/-- The first answered call with an idempotency key. -/
def firstAnswer (idempotencyKey : String) (past : List (ReceiverExchange π)) :
    Option (RelayV2AlertEnvelope π × RelayV2ReceiveResult) :=
  (past.filterMap answered?).find? fun call => call.1.idempotencyKey = idempotencyKey

/-- The receipt of an answered call. -/
def receiptOf (call : RelayV2AlertEnvelope π × RelayV2ReceiveResult) : ReceiptRow :=
  receiptRow call.1 call.2.receivedAtUtcMs call.2.status call.2.receiverHazardVersion
    call.2.deliveryDeadlineMet

/-- The receipts are the first answers. -/
def Remembers (past : List (ReceiverExchange π)) (db : AlertDb) : Prop :=
  ∀ idempotencyKey,
    db.receipts.find idempotencyKey = (firstAnswer idempotencyKey past).map receiptOf

theorem remembers_initial : Remembers (π := π) [] AlertDb.initial := fun _ => rfl

theorem firstAnswer_snoc_unanswered {e : ReceiverExchange π} (he : answered? e = none)
    (idempotencyKey : String) (past : List (ReceiverExchange π)) :
    firstAnswer idempotencyKey (past ++ [e]) = firstAnswer idempotencyKey past := by
  simp [firstAnswer, he]

theorem firstAnswer_snoc {e : ReceiverExchange π}
    {call : RelayV2AlertEnvelope π × RelayV2ReceiveResult} (he : answered? e = some call)
    (idempotencyKey : String) (past : List (ReceiverExchange π)) :
    firstAnswer idempotencyKey (past ++ [e]) =
      (firstAnswer idempotencyKey past).or
        (if call.1.idempotencyKey = idempotencyKey then some call else none) := by
  simp [firstAnswer, he, List.find?_append, List.find?_cons]
  split <;> simp_all

section Step

variable {past : List (ReceiverExchange π)} {db : AlertDb}

/-- A call that is answered from a receipt changes no first answer. -/
theorem Remembers.replay (h : Remembers past db) {e : ReceiverExchange π}
    {call : RelayV2AlertEnvelope π × RelayV2ReceiveResult} (he : answered? e = some call)
    {previous : ReceiptRow} (hprevious : db.receipts.find call.1.idempotencyKey = some previous)
    {next : AlertDb} (hreceipts : next.receipts = db.receipts) :
    Remembers (past ++ [e]) next := by
  intro idempotencyKey
  rw [hreceipts, firstAnswer_snoc he, h idempotencyKey]
  by_cases hkey : call.1.idempotencyKey = idempotencyKey
  · have hold := h idempotencyKey
    rw [← hkey, hprevious] at hold
    obtain ⟨first, hfirst, -⟩ := Option.map_eq_some_iff.mp hold.symm
    rw [← hkey, hfirst]
    rfl
  · rw [if_neg hkey, Option.or_none]

/-- A call that leaves a receipt is the first answer of its key. -/
theorem Remembers.record (h : Remembers past db) {e : ReceiverExchange π}
    {call : RelayV2AlertEnvelope π × RelayV2ReceiveResult} (he : answered? e = some call)
    (hnew : db.receipts.find call.1.idempotencyKey = none)
    {next : AlertDb} (hreceipts : next.receipts = db.receipts.put (receiptOf call)) :
    Remembers (past ++ [e]) next := by
  intro idempotencyKey
  have hkeyOf : (receiptOf call).idempotencyKey = call.1.idempotencyKey := rfl
  rw [hreceipts, firstAnswer_snoc he, Table.find_put, h idempotencyKey, hkeyOf]
  by_cases hkey : idempotencyKey = call.1.idempotencyKey
  · have hnone := h idempotencyKey
    rw [hkey, hnew] at hnone
    rw [hkey, if_pos rfl, if_pos rfl, Option.map_eq_none_iff.mp hnone.symm]
    rfl
  · rw [if_neg hkey, if_neg fun heq => hkey heq.symm, Option.or_none]

/-- One input keeps the first answers. -/
theorem Remembers.step (h : Remembers past db) (input : ReceiverInput π) :
    Remembers (past ++ [Machine.exchange (receiverStep canonicalPayload) db input])
      (receiverStep canonicalPayload db input).1 := by
  cases input with
  | reopen =>
      intro idempotencyKey
      rw [firstAnswer_snoc_unanswered rfl]
      exact h idempotencyKey
  | receive envelope receivedAt =>
      have houtcome := receive_outcome canonicalPayload db envelope receivedAt
      generalize hanswer : receive canonicalPayload db envelope receivedAt = answer at houtcome
      have hstep : receiverStep canonicalPayload db (.receive envelope receivedAt) =
          (answer.1, some answer.2) := by
        simp [receiverStep, hanswer]
      rw [Machine.exchange, hstep]
      cases houtcome with
      | raised e =>
          intro idempotencyKey
          rw [firstAnswer_snoc_unanswered rfl]
          exact h idempotencyKey
      | replayed previous hprevious =>
          unfold Alerts.replay
          split
          · exact h.replay rfl hprevious rfl
          · exact h.replay rfl hprevious rfl
      | refused status version hnew hstatus => exact h.record rfl hnew rfl
      | applied payloadJson hpayload hnew hvalid hadmits hfresh => exact h.record rfl hnew rfl

end Step

/-- Every history of a receiver is remembered. -/
theorem remembers_of_run (inputs : List (ReceiverInput π)) :
    Remembers (Machine.history (receiverStep canonicalPayload) AlertDb.initial inputs)
      (Machine.after (receiverStep canonicalPayload) AlertDb.initial inputs) :=
  Machine.history_invariant (receiverStep canonicalPayload) remembers_initial
    (fun _ _ input h => h.step input) inputs

/-- A call raises without an effect when the clock or the payload does not allow it. -/
theorem receive_raises (db : AlertDb) (envelope : RelayV2AlertEnvelope π) {receivedAt : ℤ}
    (h : receivedAt ≤ 0 ∨ canonicalPayload envelope.alertPayload = none) :
    ∃ e, receive canonicalPayload db envelope receivedAt = (db, .error e) := by
  unfold receive
  by_cases htime : receivedAt ≤ 0
  · exact ⟨_, if_pos htime⟩
  · rcases h with hle | hpayload
    · exact absurd hle htime
    · rw [if_neg htime, hpayload]
      exact ⟨_, rfl⟩

/-- Any other call with a receipt is answered from it. -/
theorem receive_of_receipt {db : AlertDb} {envelope : RelayV2AlertEnvelope π} {receivedAt : ℤ}
    (htime : 0 < receivedAt) (hpayload : canonicalPayload envelope.alertPayload ≠ none)
    {previous : ReceiptRow} (hprevious : db.receipts.find envelope.idempotencyKey = some previous) :
    receive canonicalPayload db envelope receivedAt = replay db envelope previous receivedAt := by
  obtain ⟨payloadJson, hjson⟩ := Option.ne_none_iff_exists'.mp hpayload
  unfold receive
  rw [if_neg (not_le.mpr htime), hjson]
  dsimp only
  rw [hprevious]

/-- The status of a replay of a first answer. -/
def replayStatus (status : ReceiveStatus) : ReceiveStatus :=
  if status = .applied then .duplicate else status

/-- An alert whose payload is its own canonical text. -/
def doorAlert : RelayV2AlertEnvelope String where
  contractVersion := 1
  idempotencyKey := "alert-1"
  payloadDigest := Digest.sha256Hex (encodeUtf8 "\"door\"")
  processingJobId := "job-1"
  frameSetUid := "frame-1"
  transitionEventId := "transition-1"
  hazardKey := "subject:rule"
  fromState := "CLEAR"
  toState := "DANGER"
  fromVersion := 0
  toVersion := 1
  severity := "danger"
  observationEventUtcMs := 900
  deliveryDeadlineUtcMs := 1100
  alertPayload := "\"door\""

theorem doorAlert_applied :
    (receive some AlertDb.initial doorAlert 1000).2 =
      .ok (doorAlert.result .applied 1 1000 (some true) true) := by
  decide +kernel

end ImageStream.Alerts
