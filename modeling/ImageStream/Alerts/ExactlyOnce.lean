/-
# Exactly-once, gap-free hazard effects

The receiver's three tables are compared with the history of calls. The calls
that reported a user-visible effect are the ledger: per hazard they carry the
versions one, two, three and so on, each starts in the state where the one before
it ended, and the tables hold nothing else. `receive_outcome` says once what a
call can do; the invariant is then kept case by case.
-/

import ImageStream.Alerts.Receiver
import Mathlib.Data.List.Chain

namespace ImageStream.Alerts

open Base

universe u

variable {π : Type u} {canonicalPayload : π → Option String}

/-- The database after an accepted transition. -/
def appliedDb (db : AlertDb) (envelope : RelayV2AlertEnvelope π) (payloadJson : String)
    (receivedAt : ℤ) : AlertDb where
  hazards := db.hazards.put
    ⟨envelope.hazardKey, envelope.toState, envelope.toVersion, receivedAt⟩
  receipts := db.receipts.put (receiptRow envelope receivedAt .applied envelope.toVersion
    (some (receivedAt < envelope.deliveryDeadlineUtcMs)))
  effects := db.effects.put
    ⟨envelope.idempotencyKey, envelope.hazardKey, envelope.toVersion, payloadJson, receivedAt,
      receivedAt < envelope.deliveryDeadlineUtcMs⟩
  conflicts := db.conflicts

/-- The hazard admits the transition: it is new and the envelope starts at version
zero, or it stands where the envelope starts. -/
def Admits (db : AlertDb) (envelope : RelayV2AlertEnvelope π) : Prop :=
  match db.hazards.find envelope.hazardKey with
  | none => envelope.fromVersion = 0
  | some row => row.version = envelope.fromVersion ∧ row.state = envelope.fromState

/-- Everything a call can do. -/
inductive ReceiveOutcome (canonicalPayload : π → Option String) (db : AlertDb)
    (envelope : RelayV2AlertEnvelope π) (receivedAt : ℤ) :
    AlertDb × Except ReceiverError RelayV2ReceiveResult → Prop
  | raised (e : ReceiverError) :
      ReceiveOutcome canonicalPayload db envelope receivedAt (db, .error e)
  | replayed (previous : ReceiptRow)
      (hprevious : db.receipts.find envelope.idempotencyKey = some previous) :
      ReceiveOutcome canonicalPayload db envelope receivedAt
        (replay db envelope previous receivedAt)
  | refused (status : ReceiveStatus) (version : ℤ)
      (hnew : db.receipts.find envelope.idempotencyKey = none) (hstatus : status ≠ .applied) :
      ReceiveOutcome canonicalPayload db envelope receivedAt
        ({ db with receipts :=
            db.receipts.put (receiptRow envelope receivedAt status version none) },
          .ok (envelope.result status version receivedAt none false))
  | applied (payloadJson : String)
      (hpayload : canonicalPayload envelope.alertPayload = some payloadJson)
      (hnew : db.receipts.find envelope.idempotencyKey = none)
      (hvalid : validate envelope (Digest.sha256Hex (encodeUtf8 payloadJson)) = none)
      (hadmits : Admits db envelope)
      (hfresh : db.effects.find envelope.idempotencyKey = none) :
      ReceiveOutcome canonicalPayload db envelope receivedAt
        (appliedDb db envelope payloadJson receivedAt,
          .ok (envelope.result .applied envelope.toVersion receivedAt
            (some (receivedAt < envelope.deliveryDeadlineUtcMs)) true))

theorem validate_ne_applied {envelope : RelayV2AlertEnvelope π} {digest : String}
    {status : ReceiveStatus} (h : validate envelope digest = some status) :
    status ≠ .applied := by
  unfold validate at h
  repeat' split at h
  all_goals first
    | cases h; decide
    | cases h

/-- What an envelope that passes validation satisfies of its versions. -/
theorem versions_of_validate {envelope : RelayV2AlertEnvelope π} {digest : String}
    (h : validate envelope digest = none) :
    0 ≤ envelope.fromVersion ∧ envelope.toVersion = envelope.fromVersion + 1 := by
  unfold validate at h
  repeat' split at h
  any_goals cases h
  rename_i hversions _
  rw [not_or, not_lt, not_not] at hversions
  exact hversions

theorem recordReceipt_of_new {db : AlertDb} {envelope : RelayV2AlertEnvelope π}
    (receivedAt : ℤ) (status : ReceiveStatus) (version : ℤ) (deadlineMet : Option Bool)
    (hnew : db.receipts.find envelope.idempotencyKey = none) :
    recordReceipt db envelope receivedAt status version deadlineMet =
      .ok { db with receipts :=
        db.receipts.put (receiptRow envelope receivedAt status version deadlineMet) } := by
  have hkey : db.receipts.find (ReceiptRow.idempotencyKey
      (receiptRow envelope receivedAt status version deadlineMet)) = none := hnew
  rw [recordReceipt, insertRow, if_pos hkey]
  rfl

/-- When the compare-and-set condition holds, the guarded upsert does write. -/
theorem upsertHazard_of_admits {db : AlertDb} {envelope : RelayV2AlertEnvelope π}
    (receivedAt : ℤ) (hversion : 0 ≤ envelope.toVersion) (hadmits : Admits db envelope) :
    upsertHazard db.hazards
        ⟨envelope.hazardKey, envelope.toState, envelope.toVersion, receivedAt⟩
        envelope.fromVersion envelope.fromState =
      .ok (db.hazards.put
        ⟨envelope.hazardKey, envelope.toState, envelope.toVersion, receivedAt⟩) := by
  unfold upsertHazard
  rw [if_neg (not_lt.mpr hversion)]
  unfold Admits at hadmits
  cases hfind : db.hazards.find envelope.hazardKey with
  | none => rfl
  | some row =>
      rw [hfind] at hadmits
      simp only [hadmits, and_self, if_true]

theorem applyTransition_of_admits {db : AlertDb} {envelope : RelayV2AlertEnvelope π}
    (payloadJson : String) (receivedAt : ℤ) (hversion : 0 ≤ envelope.toVersion)
    (hadmits : Admits db envelope)
    (hnew : db.receipts.find envelope.idempotencyKey = none) :
    applyTransition db envelope payloadJson receivedAt =
      if db.effects.find envelope.idempotencyKey = none then
        .ok (appliedDb db envelope payloadJson receivedAt)
      else .error .integrityError := by
  unfold applyTransition
  simp only [upsertHazard_of_admits receivedAt hversion hadmits]
  by_cases hfresh : db.effects.find envelope.idempotencyKey = none
  · simp only [bind, Except.bind, insertRow, if_pos hfresh]
    exact recordReceipt_of_new receivedAt .applied envelope.toVersion _ hnew
  · simp only [bind, Except.bind, insertRow, if_neg hfresh]

/-- A call does one of the four things. -/
theorem receive_outcome (canonicalPayload : π → Option String) (db : AlertDb)
    (envelope : RelayV2AlertEnvelope π) (receivedAt : ℤ) :
    ReceiveOutcome canonicalPayload db envelope receivedAt
      (receive canonicalPayload db envelope receivedAt) := by
  unfold receive
  by_cases htime : receivedAt ≤ 0
  · rw [if_pos htime]
    exact .raised _
  rw [if_neg htime]
  cases hpayload : canonicalPayload envelope.alertPayload with
  | none => exact .raised _
  | some payloadJson =>
  dsimp only
  cases hreceipt : db.receipts.find envelope.idempotencyKey with
  | some previous => exact .replayed previous hreceipt
  | none =>
  dsimp only
  cases hvalid : validate envelope (Digest.sha256Hex (encodeUtf8 payloadJson)) with
  | some rejection =>
      dsimp only
      rw [recordRejection, recordReceipt_of_new _ _ _ _ hreceipt]
      exact .refused rejection _ hreceipt (validate_ne_applied hvalid)
  | none =>
      dsimp only
      obtain ⟨hfrom, hto⟩ := versions_of_validate hvalid
      split
      · rw [recordRejection, recordReceipt_of_new _ _ _ _ hreceipt]
        exact .refused .versionGap _ hreceipt (by decide)
      · rename_i hcurrent
        have hadmits : Admits db envelope := by
          unfold Admits
          cases hfind : db.hazards.find envelope.hazardKey with
          | none =>
              simp only [hfind, Option.map_none, Option.getD_none, not_or, not_not] at hcurrent
              exact hcurrent.1.symm
          | some row =>
              simp only [hfind, Option.map_some, Option.getD_some, not_or, not_not] at hcurrent
              exact hcurrent
        rw [applyTransition_of_admits payloadJson receivedAt (by omega) hadmits hreceipt]
        split
        · exact .applied payloadJson hpayload hreceipt hvalid hadmits ‹_›
        · exact .raised _

/-! ## The ledger of a history -/

/-- The envelope of a call that reported a user-visible effect. -/
def appliedEnvelope
    (e : Exchange AlertDb (ReceiverInput π) (Option (Except ReceiverError RelayV2ReceiveResult))) :
    Option (RelayV2AlertEnvelope π) :=
  match e.input, e.output with
  | .receive envelope _, some (.ok result) =>
      if result.userVisibleEffectApplied then some envelope else none
  | _, _ => none

/-- The applied envelopes of a history, oldest first. -/
def appliedEnvelopes
    (past : List
      (Exchange AlertDb (ReceiverInput π) (Option (Except ReceiverError RelayV2ReceiveResult)))) :
    List (RelayV2AlertEnvelope π) :=
  past.filterMap appliedEnvelope

/-- The applied envelopes of one hazard. -/
def appliedTo (hazardKey : String) (envelopes : List (RelayV2AlertEnvelope π)) :
    List (RelayV2AlertEnvelope π) :=
  envelopes.filter fun envelope => envelope.hazardKey = hazardKey

/-- Versions one to `n`, each transition starting where the one before it ended. -/
def GapFree (envelopes : List (RelayV2AlertEnvelope π)) : Prop :=
  envelopes.map RelayV2AlertEnvelope.toVersion =
      (List.range envelopes.length).map (fun i : ℕ => (i : ℤ) + 1) ∧
    envelopes.IsChain fun earlier later => later.fromState = earlier.toState

/-- The tables hold exactly the ledger. -/
structure Ledger
    (past : List
      (Exchange AlertDb (ReceiverInput π) (Option (Except ReceiverError RelayV2ReceiveResult))))
    (db : AlertDb) : Prop where
  effects : db.effects.rows.map (fun row => (row.idempotencyKey, row.hazardKey, row.hazardVersion)) =
    (appliedEnvelopes past).map fun envelope =>
      (envelope.idempotencyKey, envelope.hazardKey, envelope.toVersion)
  gapFree : ∀ hazardKey, GapFree (appliedTo hazardKey (appliedEnvelopes past))
  hazards : ∀ hazardKey,
    (db.hazards.find hazardKey).map (fun row => (row.state, row.version)) =
      (appliedTo hazardKey (appliedEnvelopes past)).getLast?.map
        fun envelope => (envelope.toState, envelope.toVersion)
  receipts : ∀ key, (∃ row, db.effects.find key = some row) ↔
    ∃ receipt, db.receipts.find key = some receipt ∧ receipt.status = .applied

theorem ledger_initial : Ledger (π := π) [] AlertDb.initial where
  effects := rfl
  gapFree _ := ⟨rfl, List.IsChain.nil⟩
  hazards _ := rfl
  receipts key := by simp [AlertDb.initial]

/-- The current version of a gap-free hazard is the number of its transitions. -/
theorem GapFree.last_version {envelopes : List (RelayV2AlertEnvelope π)}
    (h : GapFree envelopes) {last : RelayV2AlertEnvelope π}
    (hlast : envelopes.getLast? = some last) : last.toVersion = envelopes.length := by
  have hmap := congrArg List.getLast? h.1
  rw [List.getLast?_map, hlast, List.getLast?_map, List.getLast?_range] at hmap
  split at hmap
  · simp at hmap
  · simp only [Option.map_some, Option.some.injEq] at hmap
    omega

theorem GapFree.snoc {envelopes : List (RelayV2AlertEnvelope π)} (h : GapFree envelopes)
    {envelope : RelayV2AlertEnvelope π} (hversion : envelope.toVersion = envelopes.length + 1)
    (hstate : ∀ last, envelopes.getLast? = some last → envelope.fromState = last.toState) :
    GapFree (envelopes ++ [envelope]) := by
  refine ⟨?_, List.IsChain.append h.2 (List.IsChain.singleton _) ?_⟩
  · rw [List.map_append, h.1]
    simp [List.range_succ, hversion]
  · intro last hlast next hnext
    cases hnext
    exact hstate last hlast

theorem appliedTo_snoc_self (envelopes : List (RelayV2AlertEnvelope π))
    (envelope : RelayV2AlertEnvelope π) :
    appliedTo envelope.hazardKey (envelopes ++ [envelope]) =
      appliedTo envelope.hazardKey envelopes ++ [envelope] := by
  simp [appliedTo]

theorem appliedTo_snoc_of_ne {hazardKey : String} (envelopes : List (RelayV2AlertEnvelope π))
    {envelope : RelayV2AlertEnvelope π} (h : hazardKey ≠ envelope.hazardKey) :
    appliedTo hazardKey (envelopes ++ [envelope]) = appliedTo hazardKey envelopes := by
  have hne : envelope.hazardKey ≠ hazardKey := fun heq => h heq.symm
  simp [appliedTo, hne]

/-- The hazard's row and the ledger agree on where the next transition starts. -/
theorem Ledger.next
    {past : List
      (Exchange AlertDb (ReceiverInput π) (Option (Except ReceiverError RelayV2ReceiveResult)))}
    {db : AlertDb} (h : Ledger past db) {envelope : RelayV2AlertEnvelope π}
    (hadmits : Admits db envelope) :
    envelope.fromVersion = (appliedTo envelope.hazardKey (appliedEnvelopes past)).length ∧
      ∀ last, (appliedTo envelope.hazardKey (appliedEnvelopes past)).getLast? = some last →
        envelope.fromState = last.toState := by
  have hrow := h.hazards envelope.hazardKey
  unfold Admits at hadmits
  cases hfind : db.hazards.find envelope.hazardKey with
  | none =>
      rw [hfind] at hadmits hrow
      have hnil : appliedTo envelope.hazardKey (appliedEnvelopes past) = [] := by
        have := Option.map_eq_none_iff.mp hrow.symm
        exact List.getLast?_eq_none_iff.mp this
      rw [hnil]
      exact ⟨hadmits, by simp⟩
  | some row =>
      rw [hfind] at hadmits hrow
      obtain ⟨last, hlast, heq⟩ := Option.map_eq_some_iff.mp hrow.symm
      have hversion := (h.gapFree envelope.hazardKey).last_version hlast
      obtain ⟨hstate, hrowVersion⟩ := Prod.mk.inj heq
      refine ⟨?_, fun other hother => ?_⟩
      · rw [← hversion, hrowVersion]
        exact hadmits.1.symm
      · rw [hlast] at hother
        cases hother
        rw [hstate]
        exact hadmits.2.symm

section Step

variable {past : List
    (Exchange AlertDb (ReceiverInput π) (Option (Except ReceiverError RelayV2ReceiveResult)))}
  {db : AlertDb}

/-- An input that applies nothing and keeps hazards, effects and the applied
receipts keeps the ledger. -/
theorem Ledger.of_silent (h : Ledger past db)
    {e : Exchange AlertDb (ReceiverInput π) (Option (Except ReceiverError RelayV2ReceiveResult))}
    {next : AlertDb} (hsilent : appliedEnvelope e = none)
    (hhazards : next.hazards = db.hazards) (heffects : next.effects = db.effects)
    (hreceipts : ∀ key, (∃ receipt, next.receipts.find key = some receipt ∧
        receipt.status = .applied) ↔
      ∃ receipt, db.receipts.find key = some receipt ∧ receipt.status = .applied) :
    Ledger (past ++ [e]) next := by
  have happlied : appliedEnvelopes (past ++ [e]) = appliedEnvelopes past := by
    simp [appliedEnvelopes, hsilent]
  refine ⟨?_, ?_, ?_, ?_⟩
  · rw [happlied, heffects]
    exact h.effects
  · rw [happlied]
    exact h.gapFree
  · rw [happlied, hhazards]
    exact h.hazards
  · intro key
    rw [heffects, hreceipts]
    exact h.receipts key

/-- An accepted transition extends the ledger by its envelope. -/
theorem Ledger.apply (h : Ledger past db)
    {e : Exchange AlertDb (ReceiverInput π) (Option (Except ReceiverError RelayV2ReceiveResult))}
    {envelope : RelayV2AlertEnvelope π} (payloadJson : String) (receivedAt : ℤ)
    (happlied : appliedEnvelope e = some envelope)
    (hversion : envelope.toVersion = envelope.fromVersion + 1)
    (hadmits : Admits db envelope) (hfresh : db.effects.find envelope.idempotencyKey = none) :
    Ledger (past ++ [e]) (appliedDb db envelope payloadJson receivedAt) := by
  have happend : appliedEnvelopes (past ++ [e]) = appliedEnvelopes past ++ [envelope] := by
    simp [appliedEnvelopes, happlied]
  obtain ⟨hcount, hstate⟩ := h.next hadmits
  refine ⟨?_, ?_, ?_, ?_⟩
  · rw [happend, List.map_append, ← h.effects, appliedDb]
    dsimp only
    rw [Table.rows_put_of_absent _ (by exact hfresh), List.map_append]
    rfl
  · intro hazardKey
    rw [happend]
    by_cases hkey : hazardKey = envelope.hazardKey
    · subst hkey
      rw [appliedTo_snoc_self]
      exact (h.gapFree _).snoc (by omega) hstate
    · rw [appliedTo_snoc_of_ne _ hkey]
      exact h.gapFree hazardKey
  · intro hazardKey
    rw [happend]
    by_cases hkey : hazardKey = envelope.hazardKey
    · subst hkey
      rw [appliedTo_snoc_self]
      simp [appliedDb]
    · rw [appliedTo_snoc_of_ne _ hkey, ← h.hazards hazardKey]
      simp [appliedDb, Table.find_put, hkey]
  · intro key
    by_cases hkey : key = envelope.idempotencyKey
    · subst hkey
      simp [appliedDb, receiptRow]
    · simpa [appliedDb, Table.find_put, receiptRow, hkey] using h.receipts key

/-- One input keeps the ledger. -/
theorem Ledger.step (h : Ledger past db) (input : ReceiverInput π) :
    Ledger (past ++ [Machine.exchange (receiverStep canonicalPayload) db input])
      (receiverStep canonicalPayload db input).1 := by
  cases input with
  | reopen => exact h.of_silent rfl rfl rfl fun _ => Iff.rfl
  | receive envelope receivedAt =>
      have houtcome := receive_outcome canonicalPayload db envelope receivedAt
      generalize hanswer : receive canonicalPayload db envelope receivedAt = answer at houtcome
      have hstep : receiverStep canonicalPayload db (.receive envelope receivedAt) =
          (answer.1, some answer.2) := by
        simp [receiverStep, hanswer]
      rw [Machine.exchange, hstep]
      cases houtcome with
      | raised e => exact h.of_silent rfl rfl rfl fun _ => Iff.rfl
      | replayed previous hprevious =>
          unfold replay
          split
          · exact h.of_silent rfl rfl rfl fun _ => Iff.rfl
          · exact h.of_silent rfl rfl rfl fun _ => Iff.rfl
      | refused status version hnew hstatus =>
          refine h.of_silent rfl rfl rfl fun key => ?_
          by_cases hkey : key = envelope.idempotencyKey
          · subst hkey
            simp [receiptRow, hnew, hstatus]
          · simp [Table.find_put, receiptRow, hkey]
      | applied payloadJson hpayload hnew hvalid hadmits hfresh =>
          exact h.apply payloadJson receivedAt rfl (versions_of_validate hvalid).2 hadmits hfresh

end Step

/-- Every history of a receiver keeps the ledger. -/
theorem ledger_of_run (inputs : List (ReceiverInput π)) :
    Ledger (Machine.history (receiverStep canonicalPayload) AlertDb.initial inputs)
      (Machine.after (receiverStep canonicalPayload) AlertDb.initial inputs) :=
  Machine.history_invariant (receiverStep canonicalPayload) ledger_initial
    (fun _ _ input h => h.step input) inputs

/-- The effects of one hazard, oldest first. -/
def AlertDb.effectsOf (db : AlertDb) (hazardKey : String) : List EffectRow :=
  db.effects.rows.filter fun row => row.hazardKey = hazardKey

section Tables

variable {past : List
    (Exchange AlertDb (ReceiverInput π) (Option (Except ReceiverError RelayV2ReceiveResult)))}
  {db : AlertDb}

/-- The effect rows of a hazard are its part of the ledger. -/
theorem Ledger.effectsOf (h : Ledger past db) (hazardKey : String) :
    (db.effectsOf hazardKey).map (fun row => (row.idempotencyKey, row.hazardVersion)) =
      (appliedTo hazardKey (appliedEnvelopes past)).map fun envelope =>
        (envelope.idempotencyKey, envelope.toVersion) := by
  have hfilter := congrArg
    (fun entries => (entries.filter fun entry : String × String × ℤ =>
      entry.2.1 = hazardKey).map fun entry => (entry.1, entry.2.2)) h.effects
  simpa [AlertDb.effectsOf, appliedTo, List.filter_map, Function.comp_def] using hfilter

theorem Ledger.length_effectsOf (h : Ledger past db) (hazardKey : String) :
    (db.effectsOf hazardKey).length = (appliedTo hazardKey (appliedEnvelopes past)).length := by
  simpa using congrArg List.length (h.effectsOf hazardKey)

theorem Ledger.hazard_row (h : Ledger past db) (hazardKey : String) :
    (db.hazards.find hazardKey).map (fun row => (row.state, row.version)) =
      (appliedTo hazardKey (appliedEnvelopes past)).getLast?.map
        fun envelope => (envelope.toState, ((db.effectsOf hazardKey).length : ℤ)) := by
  rw [h.hazards hazardKey, h.length_effectsOf]
  cases hlast : (appliedTo hazardKey (appliedEnvelopes past)).getLast? with
  | none => rfl
  | some last =>
      simp only [Option.map_some, (h.gapFree hazardKey).last_version hlast]

theorem Ledger.hazard_absent_iff (h : Ledger past db) (hazardKey : String) :
    db.hazards.find hazardKey = none ↔ db.effectsOf hazardKey = [] := by
  have hrow := h.hazards hazardKey
  rw [← List.length_eq_zero_iff, h.length_effectsOf, List.length_eq_zero_iff,
    ← List.getLast?_eq_none_iff]
  constructor
  · intro hnone
    rw [hnone] at hrow
    exact Option.map_eq_none_iff.mp hrow.symm
  · intro hnone
    rw [hnone] at hrow
    exact Option.map_eq_none_iff.mp hrow

/-- A key with an effect was reported by one call, any other key by none. -/
theorem Ledger.reports (h : Ledger past db) (key : String) :
    (appliedEnvelopes past).countP (fun envelope => envelope.idempotencyKey = key) =
      if db.effects.find key = none then 0 else 1 := by
  have hkeys : (appliedEnvelopes past).map RelayV2AlertEnvelope.idempotencyKey =
      db.effects.rows.map EffectRow.idempotencyKey := by
    have := congrArg (List.map Prod.fst) h.effects
    simpa [Function.comp_def] using this.symm
  have hcount : (appliedEnvelopes past).countP (fun envelope => envelope.idempotencyKey = key) =
      (db.effects.rows.map EffectRow.idempotencyKey).count key := by
    rw [← hkeys, List.count, List.countP_map]
    apply List.countP_congr
    intro envelope _
    simp
  rw [hcount]
  split
  · rename_i hnone
    apply List.count_eq_zero_of_not_mem
    intro hmem
    obtain ⟨row, hrow, hkey⟩ := List.mem_map.mp hmem
    exact db.effects.find_eq_none_iff.mp hnone row hrow hkey
  · rename_i hsome
    obtain ⟨row, hrow⟩ := Option.ne_none_iff_exists'.mp hsome
    apply List.count_eq_one_of_mem db.effects.keys_nodup
    exact List.mem_map.mpr ⟨row, db.effects.mem_of_find hrow, db.effects.key_of_find hrow⟩

end Tables

/-- **Exactly-once, gap-free effects.** After any sequence of calls and reopenings,
each hazard's effects carry the versions one to `n`, each applied envelope starts
in the state in which the one before it ended, and the hazard row holds the last
of them, or is absent when there is none. Each idempotency key has at most one
receipt and one effect, it has an effect exactly when its receipt is `APPLIED`,
and then exactly one call for it reported a user-visible effect. -/
theorem hazard_effects_exactly_once (inputs : List (ReceiverInput π)) :
    let past := Machine.history (receiverStep canonicalPayload) AlertDb.initial inputs
    let db := Machine.after (receiverStep canonicalPayload) AlertDb.initial inputs
    (∀ hazardKey : String,
      let effects := db.effectsOf hazardKey
      let applied := appliedTo hazardKey (appliedEnvelopes past)
      effects.map EffectRow.hazardVersion =
          (List.range effects.length).map (fun i : ℕ => (i : ℤ) + 1) ∧
        effects.map (fun row => (row.idempotencyKey, row.hazardVersion)) =
          applied.map (fun envelope => (envelope.idempotencyKey, envelope.toVersion)) ∧
        applied.IsChain (fun earlier later => later.fromState = earlier.toState) ∧
        (db.hazards.find hazardKey).map (fun row => (row.state, row.version)) =
          applied.getLast?.map (fun envelope => (envelope.toState, (effects.length : ℤ))) ∧
        (db.hazards.find hazardKey = none ↔ effects = [])) ∧
    (∀ key : String,
      (db.receipts.rows.filter fun row => row.idempotencyKey = key).length ≤ 1 ∧
        (db.effects.rows.filter fun row => row.idempotencyKey = key).length ≤ 1 ∧
        ((∃ row ∈ db.effects.rows, row.idempotencyKey = key) ↔
          ∃ receipt ∈ db.receipts.rows,
            receipt.idempotencyKey = key ∧ receipt.status = .applied) ∧
        ((∃ receipt ∈ db.receipts.rows,
            receipt.idempotencyKey = key ∧ receipt.status = .applied) →
          (appliedEnvelopes past).countP (fun envelope => envelope.idempotencyKey = key) = 1) ∧
        ((¬ ∃ receipt ∈ db.receipts.rows,
            receipt.idempotencyKey = key ∧ receipt.status = .applied) →
          (appliedEnvelopes past).countP (fun envelope => envelope.idempotencyKey = key) = 0)) := by
  intro past db
  have h : Ledger past db := ledger_of_run inputs
  refine ⟨fun hazardKey => ?_, fun key => ?_⟩
  · have heffects := h.effectsOf hazardKey
    refine ⟨?_, heffects, (h.gapFree hazardKey).2, h.hazard_row hazardKey,
      h.hazard_absent_iff hazardKey⟩
    have hversions := congrArg (List.map Prod.snd) heffects
    simp only [List.map_map, Function.comp_def] at hversions
    rw [hversions, h.length_effectsOf]
    exact (h.gapFree hazardKey).1
  · have heffect : (∃ row ∈ db.effects.rows, row.idempotencyKey = key) ↔
        db.effects.find key ≠ none := by
      rw [Ne, Table.find_eq_none_iff]
      simp
    have hreceipt : (∃ receipt ∈ db.receipts.rows,
        receipt.idempotencyKey = key ∧ receipt.status = .applied) ↔
        ∃ receipt, db.receipts.find key = some receipt ∧ receipt.status = .applied := by
      simp only [Table.find_eq_some_iff, and_assoc]
    have happlied := h.receipts key
    rw [← Option.ne_none_iff_exists'] at happlied
    refine ⟨db.receipts.length_filter_key_le_one key, db.effects.length_filter_key_le_one key,
      ?_, ?_, ?_⟩
    · rw [heffect, hreceipt]
      exact happlied
    · intro hsome
      rw [h.reports, if_neg (happlied.mpr (hreceipt.mp hsome))]
    · intro hnone
      rw [h.reports, if_pos]
      by_contra hsome
      exact hnone (hreceipt.mpr (happlied.mp hsome))

end ImageStream.Alerts
