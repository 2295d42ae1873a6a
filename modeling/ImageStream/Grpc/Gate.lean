/-
# The ingest gate

A collection of streams starts when every expected device is there and stops when one of them
goes. The gate counts the open streams of each device, keeps the latest device time of each,
and drops what comes before it opens and what is older than its start.

`AgreesExceptSequence` compares two states of the gate up to the number of the last packet
received, which the gate counts but never looks at.
-/

import ImageStream.Base.Table
import ImageStream.Base.Text
import Mathlib.Data.Finset.Sort
import Mathlib.Data.String.Basic

namespace ImageStream

open Base

/-- What the service keeps under its gate lock, and what the gate is configured with. -/
structure IngestGate where
  expectedDeviceCount : Option ℕ
  expectedDeviceIds : Finset String
  gateOpen : Bool
  observedDeviceIds : Finset String
  activeDeviceIds : Finset String
  activeDeviceStreamCounts : Dict String ℕ
  streamClosedAtMs : Dict String ℤ
  latestDeviceTimestampMs : Dict String ℤ
  gateStartTimestampMs : Option ℤ
  firstAcceptedTimestampMs : Option ℤ
  preGateDroppedCount : ℕ
  staleAfterGateDroppedCount : ℕ
  serverReceiveSequence : ℕ
  collectionStarted : Bool
  collectionStopped : Bool
  collectionStopReason : Option String
  collectionCaptureSessionId : Option String
  activeAuthorizedStreamCount : ℕ
  deriving DecidableEq

namespace IngestGate

def gateEnabled (gate : IngestGate) : Bool := gate.expectedDeviceCount.isSome

def resetCollection (gate : IngestGate) : IngestGate :=
  { gate with
    gateOpen := !gate.gateEnabled
    observedDeviceIds := ∅
    activeDeviceIds := ∅
    activeDeviceStreamCounts := .empty
    streamClosedAtMs := .empty
    latestDeviceTimestampMs := .empty
    gateStartTimestampMs := none
    firstAcceptedTimestampMs := none
    preGateDroppedCount := 0
    staleAfterGateDroppedCount := 0
    serverReceiveSequence := 0
    collectionStarted := !gate.gateEnabled
    collectionStopped := false
    collectionStopReason := none }

/-- The gate of a service that has been configured. -/
def configure (expectedDeviceCount : Option ℕ) (expectedDeviceIds : List String) : IngestGate :=
  let normalizedExpectedIds :=
    ((expectedDeviceIds.filter fun deviceId => strip deviceId != "").map strip).toFinset
  let count :=
    if normalizedExpectedIds.Nonempty then
      if 1 < normalizedExpectedIds.card then some normalizedExpectedIds.card else none
    else expectedDeviceCount.filter (1 < ·)
  resetCollection
    { expectedDeviceCount := count
      expectedDeviceIds := normalizedExpectedIds
      gateOpen := true
      observedDeviceIds := ∅
      activeDeviceIds := ∅
      activeDeviceStreamCounts := .empty
      streamClosedAtMs := .empty
      latestDeviceTimestampMs := .empty
      gateStartTimestampMs := none
      firstAcceptedTimestampMs := none
      preGateDroppedCount := 0
      staleAfterGateDroppedCount := 0
      serverReceiveSequence := 0
      collectionStarted := false
      collectionStopped := false
      collectionStopReason := none
      collectionCaptureSessionId := none
      activeAuthorizedStreamCount := 0 }

/-! ## Streams come and go -/

/-- `none` when another capture session has streams open. -/
def acquireAuthorizedCollection (gate : IngestGate) (captureSessionId : String) :
    Option IngestGate :=
  match gate.collectionCaptureSessionId with
  | none =>
      some { gate with
        collectionCaptureSessionId := some captureSessionId
        activeAuthorizedStreamCount := gate.activeAuthorizedStreamCount + 1 }
  | some owner =>
      if owner = captureSessionId then
        some { gate with activeAuthorizedStreamCount := gate.activeAuthorizedStreamCount + 1 }
      else if 0 < gate.activeAuthorizedStreamCount then none
      else
        some { gate.resetCollection with
          collectionCaptureSessionId := some captureSessionId
          activeAuthorizedStreamCount := gate.activeAuthorizedStreamCount + 1 }

def releaseAuthorizedCollection (gate : IngestGate) (captureSessionId : String) : IngestGate :=
  if gate.collectionCaptureSessionId = some captureSessionId then
    { gate with activeAuthorizedStreamCount := gate.activeAuthorizedStreamCount - 1 }
  else gate

def markDeviceActive (gate : IngestGate) (deviceId : String) : IngestGate :=
  { gate with
    observedDeviceIds := insert deviceId gate.observedDeviceIds
    activeDeviceStreamCounts := gate.activeDeviceStreamCounts.set deviceId
      ((gate.activeDeviceStreamCounts.get? deviceId).getD 0 + 1)
    activeDeviceIds := insert deviceId gate.activeDeviceIds
    streamClosedAtMs := gate.streamClosedAtMs.pop deviceId }

/-- What the end of a stream does to one of its devices. -/
def closeDevice (closedAtMs : ℤ) (gate : IngestGate) (deviceId : String) : IngestGate :=
  let streamCount := (gate.activeDeviceStreamCounts.get? deviceId).getD 0 - 1
  if 0 < streamCount then
    { gate with
      activeDeviceStreamCounts := gate.activeDeviceStreamCounts.set deviceId streamCount }
  else
    { gate with
      activeDeviceStreamCounts := gate.activeDeviceStreamCounts.pop deviceId
      activeDeviceIds := gate.activeDeviceIds.erase deviceId
      streamClosedAtMs := gate.streamClosedAtMs.set deviceId closedAtMs }

def stopCollection (gate : IngestGate) (reason : String) : IngestGate :=
  { gate with gateOpen := false, collectionStopped := true, collectionStopReason := some reason }

/-- Why a started collection cannot go on, if it cannot. -/
def disconnection (gate : IngestGate) : Option String :=
  if !gate.collectionStarted || gate.collectionStopped || !gate.gateEnabled then none
  else if gate.expectedDeviceIds.Nonempty then
    let missingDeviceIds := (gate.expectedDeviceIds \ gate.activeDeviceIds).sort
    if missingDeviceIds.isEmpty then none
    else some ("expected device disconnected: " ++ String.intercalate "," missingDeviceIds)
  else if gate.activeDeviceIds.card < gate.expectedDeviceCount.getD 0 then
    some "expected device count disconnected"
  else none

/-- Stop a started collection that lacks an expected device. -/
def stopIncomplete (gate : IngestGate) : IngestGate :=
  match gate.disconnection with
  | none => gate
  | some reason => gate.stopCollection reason

def markStreamClosed (gate : IngestGate) (deviceIds : List String) (closedAtMs : ℤ) :
    IngestGate :=
  if deviceIds.isEmpty then gate
  else (deviceIds.foldl (closeDevice closedAtMs) gate).stopIncomplete

/-! ## Packets -/

def recordDeviceTimestamp (gate : IngestGate) (deviceId : String) (timestampMs : ℤ) :
    IngestGate :=
  let latest := { gate with
    latestDeviceTimestampMs := gate.latestDeviceTimestampMs.set deviceId timestampMs }
  match gate.latestDeviceTimestampMs.get? deviceId with
  | none => latest
  | some previousTimestampMs => if previousTimestampMs < timestampMs then latest else gate

def nextServerReceiveSequence (gate : IngestGate) : IngestGate :=
  { gate with serverReceiveSequence := gate.serverReceiveSequence + 1 }

def openGate (gate : IngestGate) : IngestGate :=
  let opened := { gate with gateOpen := true, collectionStarted := true }
  match gate.gateStartTimestampMs with
  | some _ => opened
  | none =>
      let devices :=
        if gate.expectedDeviceIds.Nonempty then gate.expectedDeviceIds else gate.activeDeviceIds
      let timestamps := devices.sort.filterMap gate.latestDeviceTimestampMs.get?
      { opened with gateStartTimestampMs := timestamps.max? }

/-- Whether a packet may be stored, with the counters it leaves. -/
def allowIngest (gate : IngestGate) (deviceId : String) (timestampMs : ℤ) : IngestGate × Bool :=
  let dropped := fun gate : IngestGate =>
    ({ gate with preGateDroppedCount := gate.preGateDroppedCount + 1 }, false)
  if gate.collectionStopped then (gate, false)
  else if gate.expectedDeviceIds.Nonempty ∧ deviceId ∉ gate.expectedDeviceIds then (gate, false)
  else if gate.gateOpen then
    if gate.gateEnabled ∧ (gate.gateStartTimestampMs.any fun start => timestampMs < start) then
      ({ gate with staleAfterGateDroppedCount := gate.staleAfterGateDroppedCount + 1 }, false)
    else
      ({ gate with
          firstAcceptedTimestampMs :=
            some (gate.firstAcceptedTimestampMs.getD timestampMs) }, true)
  else if gate.expectedDeviceIds.Nonempty then
    if gate.expectedDeviceIds ⊆ gate.activeDeviceIds then dropped gate.openGate
    else dropped gate
  else if gate.expectedDeviceCount.getD 0 ≤ gate.activeDeviceIds.card then dropped gate.openGate
  else dropped gate

/-! ## The number of the last packet -/

def atSequence (gate : IngestGate) (serverReceiveSequence : ℕ) : IngestGate :=
  { gate with serverReceiveSequence := serverReceiveSequence }

/-- Whether two states of the gate are equal in all but the number of the last packet. -/
def AgreesExceptSequence (gate other : IngestGate) : Prop :=
  other = gate.atSequence other.serverReceiveSequence

theorem agreesExceptSequence_atSequence (gate : IngestGate) (n : ℕ) :
    gate.AgreesExceptSequence (gate.atSequence n) := rfl

theorem AgreesExceptSequence.refl (gate : IngestGate) : gate.AgreesExceptSequence gate := rfl

/-- What leaves the number alone and does not look at it keeps the agreement. -/
theorem AgreesExceptSequence.map {gate other : IngestGate} (h : gate.AgreesExceptSequence other)
    {f : IngestGate → IngestGate} (hf : ∀ gate n, f (gate.atSequence n) = (f gate).atSequence n) :
    (f gate).AgreesExceptSequence (f other) := by
  rw [h, hf]
  exact agreesExceptSequence_atSequence (f gate) _

theorem closeDevice_atSequence (closedAtMs : ℤ) (gate : IngestGate) (n : ℕ) (deviceId : String) :
    closeDevice closedAtMs (gate.atSequence n) deviceId =
      (closeDevice closedAtMs gate deviceId).atSequence n := by
  unfold closeDevice
  rw [apply_ite (atSequence · n)]
  rfl

theorem foldl_closeDevice_atSequence (closedAtMs : ℤ) (gate : IngestGate) (n : ℕ)
    (deviceIds : List String) :
    deviceIds.foldl (closeDevice closedAtMs) (gate.atSequence n) =
      (deviceIds.foldl (closeDevice closedAtMs) gate).atSequence n := by
  induction deviceIds generalizing gate with
  | nil => rfl
  | cons deviceId deviceIds ih =>
      rw [List.foldl_cons, List.foldl_cons, closeDevice_atSequence, ih]

theorem disconnection_atSequence (gate : IngestGate) (n : ℕ) :
    (gate.atSequence n).disconnection = gate.disconnection := rfl

theorem stopIncomplete_atSequence (gate : IngestGate) (n : ℕ) :
    (gate.atSequence n).stopIncomplete = gate.stopIncomplete.atSequence n := by
  unfold stopIncomplete
  rw [disconnection_atSequence]
  cases gate.disconnection with
  | none => rfl
  | some reason => rfl

/-- Closing a stream does not look at the number of the last packet. -/
theorem markStreamClosed_atSequence (deviceIds : List String) (closedAtMs : ℤ)
    (gate : IngestGate) (n : ℕ) :
    (gate.atSequence n).markStreamClosed deviceIds closedAtMs =
      (gate.markStreamClosed deviceIds closedAtMs).atSequence n := by
  unfold markStreamClosed
  cases deviceIds with
  | nil => rfl
  | cons deviceId deviceIds =>
      rw [foldl_closeDevice_atSequence, stopIncomplete_atSequence]
      rfl

theorem releaseAuthorizedCollection_atSequence (captureSessionId : String) (gate : IngestGate)
    (n : ℕ) :
    (gate.atSequence n).releaseAuthorizedCollection captureSessionId =
      (gate.releaseAuthorizedCollection captureSessionId).atSequence n := by
  unfold releaseAuthorizedCollection
  rw [apply_ite (atSequence · n)]
  rfl

end IngestGate

end ImageStream
