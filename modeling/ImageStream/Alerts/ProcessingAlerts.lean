/-
# The alerts of the processor

The store keeps the alerts that it has accepted last in a deque of bounded length, and their
event ids in a set, which is how a repeated alert is recognised. The deque drops its oldest
record by itself when a record is appended to it while it is full, so the id of that record is
struck out of the set just before.
-/

import ImageStream.Base.Deque
import ImageStream.Base.Machine
import ImageStream.Alerts.PhoneDelivery

namespace ImageStream.Alerts

open Base

universe u

variable {α : Type u}

/-- An alert as the processor sends it. -/
structure ProcessingAlertEvent (α : Type u) where
  eventId : String
  timestampMs : ℤ
  ttlMs : ℤ
  /-- `source.camera_devices`. -/
  cameraDevices : List String
  /-- What else the alert says. -/
  alert : α

/-- The record of an alert, with the routing that `build_alert_routing` gives it. -/
def ProcessingAlertEvent.record (event : ProcessingAlertEvent α) (receivedAtMs : ℤ) :
    ProcessingAlertRecord α where
  eventId := event.eventId
  cameraDevices := event.cameraDevices
  alert := event.alert
  receivedAtMs := receivedAtMs
  expiresAtMs := event.timestampMs + event.ttlMs
  routingSessionId := none

inductive AlertStatus
  | duplicate
  | expired
  | accepted
  deriving DecidableEq

/-- The oldest record of an empty deque was asked for. -/
inductive IndexError
  | dequeIndexOutOfRange
  deriving DecidableEq

/-- `items[start:]`, where a negative start counts from the end. -/
def sliceFrom (start : ℤ) (items : List α) : List α :=
  items.drop (if start < 0 then (items.length + start).toNat else start.toNat)

structure ProcessingAlertStore (α : Type u) where
  maxAlerts : ℕ
  records : List (ProcessingAlertRecord α) := []
  eventIds : Finset String := ∅
  receivedCount : ℕ := 0
  duplicateCount : ℕ := 0
  expiredCount : ℕ := 0

namespace ProcessingAlertStore

variable (store : ProcessingAlertStore α)

/-- Append an accepted record to the deque. -/
def append (record : ProcessingAlertRecord α) : Except IndexError (ProcessingAlertStore α) :=
  let appended := (store.records ++ [record]).rtake store.maxAlerts
  if store.records.length = store.maxAlerts then
    match store.records with
    | [] => .error .dequeIndexOutOfRange
    | oldest :: _ =>
        .ok { store with
          records := appended
          eventIds := insert record.eventId (store.eventIds.erase oldest.eventId) }
  else
    .ok { store with
      records := appended
      eventIds := insert record.eventId store.eventIds }

def addAlert (event : ProcessingAlertEvent α) (receivedAtMs : ℤ) :
    ProcessingAlertStore α × Except IndexError (ProcessingAlertRecord α × AlertStatus) :=
  let record := event.record receivedAtMs
  let received := { store with receivedCount := store.receivedCount + 1 }
  if event.eventId ∈ store.eventIds then
    ({ received with duplicateCount := store.duplicateCount + 1 }, .ok (record, .duplicate))
  else if record.isExpired receivedAtMs then
    ({ received with expiredCount := store.expiredCount + 1 }, .ok (record, .expired))
  else
    match received.append record with
    | .ok appended => (appended, .ok (record, .accepted))
    | .error e => (received, .error e)

def recent (limit nowMs : ℤ) : List (ProcessingAlertRecord α) :=
  let active := store.records.filter fun record => !record.isExpired nowMs
  (sliceFrom (-limit) active).reverse

end ProcessingAlertStore

/-- A call of `add_alert`, with the time that it takes for now. -/
structure AddAlert (α : Type u) where
  event : ProcessingAlertEvent α
  receivedAtMs : ℤ

def alertStep (store : ProcessingAlertStore α) (call : AddAlert α) :
    ProcessingAlertStore α × Except IndexError (ProcessingAlertRecord α × AlertStatus) :=
  store.addAlert call.event call.receivedAtMs

abbrev AlertExchange (α : Type u) :=
  Exchange (ProcessingAlertStore α) (AddAlert α)
    (Except IndexError (ProcessingAlertRecord α × AlertStatus))

/-- The record that a call has put into the deque. -/
def AlertExchange.accepted? (e : AlertExchange α) : Option (ProcessingAlertRecord α) :=
  match e.output with
  | .ok (record, .accepted) => some record
  | _ => none

/-- The accepted records of a history, oldest first. -/
def acceptedRecords (past : List (AlertExchange α)) : List (ProcessingAlertRecord α) :=
  past.filterMap AlertExchange.accepted?

/-! ## What a call does -/

/-- A deque that has room for one record holds the oldest one when it is full. -/
theorem ProcessingAlertStore.append_spec (store : ProcessingAlertStore α)
    (hsize : 0 < store.maxAlerts) (record : ProcessingAlertRecord α) :
    ∃ eventIds, store.append record = .ok { store with
        records := (store.records ++ [record]).rtake store.maxAlerts
        eventIds := eventIds } ∧
      (Booked ProcessingAlertRecord.eventId store.records store.eventIds →
        store.records.length ≤ store.maxAlerts → record.eventId ∉ store.eventIds →
        Booked ProcessingAlertRecord.eventId
          ((store.records ++ [record]).rtake store.maxAlerts) eventIds) := by
  unfold append
  by_cases hfull : store.records.length = store.maxAlerts
  · rw [if_pos hfull]
    cases hrecords : store.records with
    | nil =>
        rw [hrecords] at hfull
        exact absurd hfull hsize.ne
    | cons oldest records =>
        refine ⟨_, rfl, fun hbooked _ hnew => ?_⟩
        rw [hrecords] at hfull
        rw [rtake_concat_of_full hfull]
        exact hbooked.tail.concat fun hmem => hnew (Finset.mem_of_mem_erase hmem)
  · rw [if_neg hfull]
    refine ⟨_, rfl, fun hbooked hlength hnew => ?_⟩
    rw [rtake_concat_of_lt (hlength.lt_of_ne hfull)]
    exact hbooked.concat hnew

/-- What the store keeps of a history: the last records that were accepted, with their ids and
no other ones booked, and a count of every call. -/
structure Retains (maxAlerts : ℕ) (past : List (AlertExchange α))
    (store : ProcessingAlertStore α) : Prop where
  size : store.maxAlerts = maxAlerts
  booked : Booked ProcessingAlertRecord.eventId store.records store.eventIds
  records : store.records = (acceptedRecords past).rtake maxAlerts
  counts : store.receivedCount =
    store.duplicateCount + store.expiredCount + (acceptedRecords past).length
  answered : ∀ e ∈ past, ∃ answer, e.output = .ok answer

theorem retains_initial (maxAlerts : ℕ) :
    Retains maxAlerts [] ({ maxAlerts := maxAlerts } : ProcessingAlertStore α) where
  size := rfl
  booked := .nil
  records := (List.rtake_nil maxAlerts).symm
  counts := rfl
  answered _ he := by cases he

variable {maxAlerts : ℕ} {past : List (AlertExchange α)} {store : ProcessingAlertStore α}

theorem acceptedRecords_snoc (past : List (AlertExchange α)) (e : AlertExchange α) :
    acceptedRecords (past ++ [e]) = acceptedRecords past ++ e.accepted?.toList := by
  rw [acceptedRecords, List.filterMap_append]
  rfl

/-- A call that only counts. -/
theorem Retains.count (h : Retains maxAlerts past store) {e : AlertExchange α}
    {record : ProcessingAlertRecord α} {status : AlertStatus}
    (houtput : e.output = .ok (record, status)) (hstatus : status ≠ .accepted)
    (duplicateCount expiredCount : ℕ)
    (hcounts : duplicateCount + expiredCount = store.duplicateCount + store.expiredCount + 1) :
    Retains maxAlerts (past ++ [e]) { store with
      receivedCount := store.receivedCount + 1
      duplicateCount := duplicateCount
      expiredCount := expiredCount } := by
  have haccepted : acceptedRecords (past ++ [e]) = acceptedRecords past := by
    have hnone : e.accepted? = none := by
      unfold AlertExchange.accepted?
      rw [houtput]
      cases status with
      | accepted => exact absurd rfl hstatus
      | duplicate => rfl
      | expired => rfl
    rw [acceptedRecords_snoc, hnone, Option.toList_none, List.append_nil]
  constructor
  case size => exact h.size
  case booked => exact h.booked
  case records => rw [haccepted]; exact h.records
  case counts =>
    rw [haccepted]
    dsimp only
    have hbefore := h.counts
    omega
  case answered =>
    intro e' he'
    rcases List.mem_append.mp he' with hold | hnew
    · exact h.answered e' hold
    · rw [List.mem_singleton.mp hnew]
      exact ⟨_, houtput⟩

/-- A call that accepts its alert. -/
theorem Retains.accept (h : Retains maxAlerts past store) {e : AlertExchange α}
    {record : ProcessingAlertRecord α} (houtput : e.output = .ok (record, .accepted))
    {eventIds : Finset String}
    (hbooked : Booked ProcessingAlertRecord.eventId
      ((store.records ++ [record]).rtake store.maxAlerts) eventIds) :
    Retains maxAlerts (past ++ [e]) { store with
      receivedCount := store.receivedCount + 1
      records := (store.records ++ [record]).rtake store.maxAlerts
      eventIds := eventIds } := by
  have haccepted : acceptedRecords (past ++ [e]) = acceptedRecords past ++ [record] := by
    have hsome : e.accepted? = some record := by
      unfold AlertExchange.accepted?
      rw [houtput]
    rw [acceptedRecords_snoc, hsome, Option.toList_some]
  constructor
  case size => exact h.size
  case booked => exact hbooked
  case records =>
    rw [haccepted, ← rtake_rtake_concat maxAlerts, ← h.records]
    exact congrArg (List.rtake _) h.size
  case counts =>
    rw [haccepted, List.length_append, List.length_singleton]
    dsimp only
    rw [h.counts]
    rfl
  case answered =>
    intro e' he'
    rcases List.mem_append.mp he' with hold | hnew
    · exact h.answered e' hold
    · rw [List.mem_singleton.mp hnew]
      exact ⟨_, houtput⟩

theorem Retains.step (h : Retains maxAlerts past store) (hsize : 0 < maxAlerts)
    (call : AddAlert α) :
    Retains maxAlerts (past ++ [Machine.exchange alertStep store call])
      (alertStep store call).1 := by
  unfold Machine.exchange alertStep ProcessingAlertStore.addAlert
  by_cases hknown : call.event.eventId ∈ store.eventIds
  · rw [if_pos hknown]
    exact h.count rfl (fun hstatus => by cases hstatus) (store.duplicateCount + 1)
      store.expiredCount (by omega)
  rw [if_neg hknown]
  by_cases hexpired : (call.event.record call.receivedAtMs).isExpired call.receivedAtMs = true
  · rw [if_pos hexpired]
    exact h.count rfl (fun hstatus => by cases hstatus) store.duplicateCount
      (store.expiredCount + 1) (by omega)
  rw [if_neg hexpired]
  have hroom : 0 < store.maxAlerts := h.size ▸ hsize
  obtain ⟨eventIds, happend, hbooks⟩ := ProcessingAlertStore.append_spec
    { store with receivedCount := store.receivedCount + 1 } hroom
    (call.event.record call.receivedAtMs)
  have hlength : store.records.length ≤ store.maxAlerts := by
    rw [h.records, h.size]
    exact length_rtake_le _ _
  rw [happend]
  exact h.accept rfl (hbooks h.booked hlength hknown)

/-! ## Recent alerts -/

/-- A slice from the end holds the last items. -/
theorem sliceFrom_neg {limit : ℤ} (hlimit : 1 ≤ limit) (items : List α) :
    sliceFrom (-limit) items = items.rtake limit.toNat := by
  rw [sliceFrom, if_pos (by omega), List.rtake]
  congr 1
  omega

theorem ProcessingAlertStore.recent_eq (store : ProcessingAlertStore α) {limit : ℤ}
    (hlimit : 1 ≤ limit) (nowMs : ℤ) :
    store.recent limit nowMs =
      (store.records.reverse.filter fun record => !record.isExpired nowMs).take limit.toNat := by
  rw [recent, sliceFrom_neg hlimit, List.rtake_eq_reverse_take_reverse, List.reverse_reverse,
    List.filter_reverse]

/-- **The store keeps its books.** After any calls, the event ids are those of the retained
records, which are the last accepted ones and have an id each of their own, every call has been
counted once, and the recent alerts are the newest retained ones that have not expired. -/
theorem retention_keeps_books {maxAlerts : ℕ} (hsize : 1 ≤ maxAlerts) (calls : List (AddAlert α)) :
    let store := Machine.after alertStep { maxAlerts := maxAlerts } calls
    let accepted := acceptedRecords (Machine.history alertStep { maxAlerts := maxAlerts } calls)
    store.eventIds = (store.records.map ProcessingAlertRecord.eventId).toFinset ∧
      (store.records.map ProcessingAlertRecord.eventId).Nodup ∧
      store.records = accepted.rtake maxAlerts ∧ store.records.length ≤ maxAlerts ∧
      store.receivedCount = store.duplicateCount + store.expiredCount + accepted.length ∧
      ∀ limit nowMs : ℤ, 1 ≤ limit →
        store.recent limit nowMs =
          (store.records.reverse.filter fun record => !record.isExpired nowMs).take
            limit.toNat ∧
        ((store.recent limit nowMs).map ProcessingAlertRecord.eventId).Nodup := by
  intro store accepted
  have hretains : Retains maxAlerts (Machine.history alertStep { maxAlerts := maxAlerts } calls)
      store :=
    Machine.history_invariant alertStep (retains_initial maxAlerts)
      (fun _ _ call h => h.step hsize call) calls
  refine ⟨hretains.booked.keys_eq, hretains.booked.nodup, hretains.records, ?_, hretains.counts,
    fun limit nowMs hlimit => ⟨store.recent_eq hlimit nowMs, ?_⟩⟩
  · rw [hretains.records]
    exact length_rtake_le _ _
  · rw [store.recent_eq hlimit nowMs]
    have hreversed : (store.records.reverse.map ProcessingAlertRecord.eventId).Nodup := by
      rw [List.map_reverse, List.nodup_reverse]
      exact hretains.booked.nodup
    exact hreversed.sublist (((List.take_sublist _ _).trans List.filter_sublist).map _)

/-- Three alerts of a store for two; the first one comes again when it has been dropped. -/
def cameraAlerts : List (AddAlert Unit) :=
  ["first", "second", "third", "first"].map fun eventId =>
    { event :=
        { eventId := eventId
          timestampMs := 1000
          ttlMs := 500
          cameraDevices := ["camera-1"]
          alert := () }
      receivedAtMs := 1200 }

theorem retention_keeps_books_full :
    let store := Machine.after alertStep { maxAlerts := 2 } cameraAlerts
    store.eventIds = (store.records.map ProcessingAlertRecord.eventId).toFinset ∧
      store.records.map ProcessingAlertRecord.eventId = ["third", "first"] ∧
      (store.recent 1 1500).map ProcessingAlertRecord.eventId = ["first"] ∧
      ((store.recent 1 1500).map ProcessingAlertRecord.eventId).Nodup := by
  intro store
  have hbooks := retention_keeps_books (by decide : 1 ≤ 2) cameraAlerts
  obtain ⟨heventIds, -, -, -, -, hrecent⟩ := hbooks
  exact ⟨heventIds, by decide, by decide, (hrecent 1 1500 (by decide)).2⟩

end ImageStream.Alerts
