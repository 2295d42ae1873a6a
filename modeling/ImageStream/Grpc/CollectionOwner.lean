/-
# The owner of the collection

The gate counts the streams that are inside, and for each device the open streams that have
brought it. The counts are those of the streams themselves, in whatever order the streams take
their steps: another session takes the collection over only when nobody is counted, so a reset
forgets no stream that would still count down.

Everything inside belongs to the session that owns the collection, so only streams of the owner
change the gate.
-/

import ImageStream.Base.Crew
import ImageStream.Grpc.Streams
import Mathlib.Data.List.Nodup

namespace ImageStream

open Base

namespace IngestGate

/-! ## What the gate counts -/

/-- The counts of the devices, as numbers of streams. -/
structure Counts (gate : IngestGate) (streams : String → ℕ) : Prop where
  counts : ∀ deviceId, (gate.activeDeviceStreamCounts.get? deviceId).getD 0 = streams deviceId
  active : ∀ deviceId, deviceId ∈ gate.activeDeviceIds ↔ 0 < streams deviceId

theorem Counts.of_eq {gate : IngestGate} {streams streams' : String → ℕ}
    (h : gate.Counts streams) (heq : ∀ deviceId, streams' deviceId = streams deviceId) :
    gate.Counts streams' := by
  rwa [funext heq]

theorem counts_resetCollection (gate : IngestGate) :
    gate.resetCollection.Counts fun _ => 0 := by
  refine ⟨fun _ => rfl, fun deviceId => ?_⟩
  exact ⟨fun hmem => absurd hmem (Finset.notMem_empty deviceId),
    fun hpos => absurd hpos (Nat.lt_irrefl 0)⟩

theorem Counts.markDeviceActive {gate : IngestGate} {streams : String → ℕ}
    (h : gate.Counts streams) (deviceId : String) :
    (gate.markDeviceActive deviceId).Counts fun other =>
      streams other + if other = deviceId then 1 else 0 := by
  refine ⟨fun other => ?_, fun other => ?_⟩
  · have hother := h.counts other
    unfold IngestGate.markDeviceActive
    rw [Dict.get?_set]
    split
    · rename_i heq
      rw [← heq, hother]
      rfl
    · rw [hother]
      rfl
  · have hother := h.active other
    unfold IngestGate.markDeviceActive
    rw [Finset.mem_insert]
    split
    · rename_i heq
      exact ⟨fun _ => Nat.succ_pos _, fun _ => .inl heq⟩
    · rename_i hne
      rw [Nat.add_zero, ← hother]
      exact ⟨fun hmem => hmem.resolve_left hne, .inr⟩

theorem Counts.closeDevice {gate : IngestGate} {streams : String → ℕ} (h : gate.Counts streams)
    (closedAtMs : ℤ) (deviceId : String) :
    (closeDevice closedAtMs gate deviceId).Counts fun other =>
      streams other - if other = deviceId then 1 else 0 := by
  have hdevice := h.counts deviceId
  unfold IngestGate.closeDevice
  dsimp only
  split
  · rename_i hpos
    rw [hdevice] at hpos ⊢
    refine ⟨fun other => ?_, fun other => ?_⟩
    · dsimp only
      rw [Dict.get?_set]
      split
      · rename_i heq
        rw [heq]
        rfl
      · exact h.counts other
    · rw [h.active other]
      split
      · rename_i heq
        rw [heq]
        omega
      · rfl
  · rename_i hlast
    rw [hdevice] at hlast
    refine ⟨fun other => ?_, fun other => ?_⟩
    · dsimp only
      rw [Dict.get?_pop]
      split
      · rename_i heq
        rw [heq]
        exact (Nat.eq_zero_of_not_pos hlast).symm
      · exact h.counts other
    · dsimp only
      rw [Finset.mem_erase, h.active other]
      split
      · rename_i heq
        rw [heq]
        exact ⟨fun hmem => absurd rfl hmem.1, fun hpos => absurd hpos hlast⟩
      · rename_i hne
        exact ⟨And.right, fun hpos => ⟨hne, hpos⟩⟩

theorem Counts.foldl_closeDevice {gate : IngestGate} {streams : String → ℕ}
    (h : gate.Counts streams) (closedAtMs : ℤ) (deviceIds : List String) :
    (deviceIds.foldl (IngestGate.closeDevice closedAtMs) gate).Counts fun other =>
      streams other - deviceIds.count other := by
  induction deviceIds generalizing gate streams with
  | nil => exact h
  | cons deviceId deviceIds ih =>
      refine (ih (h.closeDevice closedAtMs deviceId)).of_eq fun other => ?_
      rw [List.count_cons, Nat.sub_sub, Nat.add_comm (deviceIds.count other)]
      simp only [beq_iff_eq, @eq_comm _ other deviceId]

/-- Stopping does not change who is there. -/
theorem stopIncomplete_eq (gate : IngestGate) :
    gate.disconnection = none ∧ gate.stopIncomplete = gate ∨
      ∃ reason, gate.stopIncomplete = gate.stopCollection reason := by
  unfold stopIncomplete
  cases gate.disconnection with
  | none => exact .inl ⟨rfl, rfl⟩
  | some reason => exact .inr ⟨reason, rfl⟩

theorem Counts.markStreamClosed {gate : IngestGate} {streams : String → ℕ}
    (h : gate.Counts streams) (deviceIds : List String) (closedAtMs : ℤ) :
    (gate.markStreamClosed deviceIds closedAtMs).Counts fun other =>
      streams other - deviceIds.count other := by
  unfold IngestGate.markStreamClosed
  cases deviceIds with
  | nil => exact h
  | cons deviceId deviceIds =>
      have hclosed := h.foldl_closeDevice closedAtMs (deviceId :: deviceIds)
      rcases stopIncomplete_eq ((deviceId :: deviceIds).foldl
        (IngestGate.closeDevice closedAtMs) gate) with ⟨_, hsame⟩ | ⟨reason, hstopped⟩
      · rw [List.isEmpty_cons, if_neg Bool.false_ne_true, hsame]
        exact hclosed
      · rw [List.isEmpty_cons, if_neg Bool.false_ne_true, hstopped]
        exact ⟨hclosed.counts, hclosed.active⟩

/-! ## What the gate decides -/

/-- Every expected device is there, or as many devices as are expected. -/
def Complete (gate : IngestGate) : Prop :=
  if gate.expectedDeviceIds.Nonempty then gate.expectedDeviceIds ⊆ gate.activeDeviceIds
  else gate.expectedDeviceCount.getD 0 ≤ gate.activeDeviceIds.card

/-- A device that the gate lets through when it is configured with devices. -/
def Expects (gate : IngestGate) (deviceId : String) : Prop :=
  gate.expectedDeviceIds.Nonempty → deviceId ∈ gate.expectedDeviceIds

/-- What the gate can make of a packet. -/
inductive Decision (gate : IngestGate) (deviceId : String) (timestampMs : ℤ) :
    IngestGate → Bool → Prop
  | dropped (preGate staleAfterGate : ℕ) :
      Decision gate deviceId timestampMs
        { gate with
          preGateDroppedCount := preGate
          staleAfterGateDroppedCount := staleAfterGate } false
  | opened (running : gate.collectionStopped = false) (expected : gate.Expects deviceId)
      (shut : gate.gateOpen = false) (complete : gate.Complete) (preGate : ℕ) :
      Decision gate deviceId timestampMs
        { gate.openGate with preGateDroppedCount := preGate } false
  | accepted (running : gate.collectionStopped = false) (expected : gate.Expects deviceId)
      (isOpen : gate.gateOpen = true)
      (fresh : gate.gateEnabled = true →
        ∀ start, gate.gateStartTimestampMs = some start → start ≤ timestampMs)
      (first : Option ℤ) :
      Decision gate deviceId timestampMs { gate with firstAcceptedTimestampMs := first } true

theorem allowIngest_decision (gate : IngestGate) (deviceId : String) (timestampMs : ℤ) :
    gate.Decision deviceId timestampMs (gate.allowIngest deviceId timestampMs).1
      (gate.allowIngest deviceId timestampMs).2 := by
  unfold allowIngest
  dsimp only
  split
  · exact .dropped _ _
  · rename_i hrunning
    replace hrunning := Bool.eq_false_iff.mpr hrunning
    split
    · exact .dropped _ _
    · rename_i hexpected
      have hexpects : gate.Expects deviceId := fun hids =>
        Classical.not_not.mp fun hmem => hexpected ⟨hids, hmem⟩
      split
      · rename_i hopen
        split
        · exact .dropped _ _
        · rename_i hstale
          refine .accepted hrunning hexpects hopen (fun henabled start hstart => ?_) _
          refine Int.not_lt.mp fun hlt => hstale ⟨henabled, ?_⟩
          rw [hstart]
          exact decide_eq_true hlt
      · rename_i hshut
        replace hshut := Bool.eq_false_iff.mpr hshut
        split
        · rename_i hids
          split
          · rename_i hall
            exact .opened hrunning hexpects hshut (by rwa [Complete, if_pos hids]) _
          · exact .dropped _ _
        · rename_i hids
          split
          · rename_i hall
            exact .opened hrunning hexpects hshut (by rwa [Complete, if_neg hids]) _
          · exact .dropped _ _

/-! ## What the operations leave alone -/

/-- The owner, its streams and the settings of the gate. -/
structure SameCollection (gate gate' : IngestGate) : Prop where
  expectedDeviceCount : gate'.expectedDeviceCount = gate.expectedDeviceCount
  expectedDeviceIds : gate'.expectedDeviceIds = gate.expectedDeviceIds
  owner : gate'.collectionCaptureSessionId = gate.collectionCaptureSessionId
  streamCount : gate'.activeAuthorizedStreamCount = gate.activeAuthorizedStreamCount

/-- The devices that are there. -/
structure SameDevices (gate gate' : IngestGate) : Prop where
  counts : gate'.activeDeviceStreamCounts = gate.activeDeviceStreamCounts
  active : gate'.activeDeviceIds = gate.activeDeviceIds

theorem SameCollection.refl (gate : IngestGate) : gate.SameCollection gate :=
  ⟨rfl, rfl, rfl, rfl⟩

theorem SameDevices.refl (gate : IngestGate) : gate.SameDevices gate := ⟨rfl, rfl⟩

theorem SameCollection.trans {first second third : IngestGate}
    (h : first.SameCollection second) (h' : second.SameCollection third) :
    first.SameCollection third :=
  ⟨h'.expectedDeviceCount.trans h.expectedDeviceCount,
    h'.expectedDeviceIds.trans h.expectedDeviceIds, h'.owner.trans h.owner,
    h'.streamCount.trans h.streamCount⟩

theorem Counts.of_sameDevices {gate gate' : IngestGate} {streams : String → ℕ}
    (h : gate.Counts streams) (hsame : gate.SameDevices gate') : gate'.Counts streams := by
  refine ⟨fun deviceId => ?_, fun deviceId => ?_⟩
  · rw [hsame.counts]
    exact h.counts deviceId
  · rw [hsame.active]
    exact h.active deviceId

theorem openGate_same (gate : IngestGate) :
    gate.SameCollection gate.openGate ∧ gate.SameDevices gate.openGate := by
  unfold openGate
  cases gate.gateStartTimestampMs with
  | none => exact ⟨⟨rfl, rfl, rfl, rfl⟩, rfl, rfl⟩
  | some start => exact ⟨⟨rfl, rfl, rfl, rfl⟩, rfl, rfl⟩

theorem Decision.same {gate gate' : IngestGate} {deviceId : String} {timestampMs : ℤ}
    {allowed : Bool} (h : gate.Decision deviceId timestampMs gate' allowed) :
    gate.SameCollection gate' ∧ gate.SameDevices gate' := by
  cases h with
  | dropped preGate staleAfterGate => exact ⟨⟨rfl, rfl, rfl, rfl⟩, rfl, rfl⟩
  | accepted running expected isOpen fresh first => exact ⟨⟨rfl, rfl, rfl, rfl⟩, rfl, rfl⟩
  | opened running expected shut complete preGate =>
      obtain ⟨hcollection, hdevices⟩ := openGate_same gate
      exact ⟨⟨hcollection.1, hcollection.2, hcollection.3, hcollection.4⟩, hdevices.1, hdevices.2⟩

theorem recordDeviceTimestamp_eq (gate : IngestGate) (deviceId : String) (timestampMs : ℤ) :
    ∃ latest, gate.recordDeviceTimestamp deviceId timestampMs =
      { gate with latestDeviceTimestampMs := latest } := by
  unfold recordDeviceTimestamp
  dsimp only
  split
  · exact ⟨_, rfl⟩
  · split
    · exact ⟨_, rfl⟩
    · exact ⟨gate.latestDeviceTimestampMs, rfl⟩

theorem sameCollection_closeDevice (closedAtMs : ℤ) (gate : IngestGate) (deviceId : String) :
    gate.SameCollection (closeDevice closedAtMs gate deviceId) := by
  unfold closeDevice
  dsimp only
  split <;> exact ⟨rfl, rfl, rfl, rfl⟩

theorem sameCollection_foldl_closeDevice (closedAtMs : ℤ) (gate : IngestGate)
    (deviceIds : List String) :
    gate.SameCollection (deviceIds.foldl (closeDevice closedAtMs) gate) := by
  induction deviceIds generalizing gate with
  | nil => exact .refl gate
  | cons deviceId deviceIds ih =>
      exact (sameCollection_closeDevice closedAtMs gate deviceId).trans (ih _)

theorem sameCollection_markStreamClosed (gate : IngestGate) (deviceIds : List String)
    (closedAtMs : ℤ) : gate.SameCollection (gate.markStreamClosed deviceIds closedAtMs) := by
  unfold markStreamClosed
  split
  · exact .refl gate
  · have hclosed := sameCollection_foldl_closeDevice closedAtMs gate deviceIds
    rcases stopIncomplete_eq (deviceIds.foldl (closeDevice closedAtMs) gate) with
      ⟨_, hsame⟩ | ⟨reason, hstopped⟩
    · rwa [hsame]
    · rw [hstopped]
      exact ⟨hclosed.1, hclosed.2, hclosed.3, hclosed.4⟩

/-- Acquiring counts one more stream; if another session takes the collection over, the gate
starts again. -/
theorem acquireAuthorizedCollection_cases {gate gate' : IngestGate} {captureSessionId : String}
    (h : gate.acquireAuthorizedCollection captureSessionId = some gate') :
    ((gate.collectionCaptureSessionId = none ∨
        gate.collectionCaptureSessionId = some captureSessionId) ∧
      gate' = { gate with
        collectionCaptureSessionId := some captureSessionId
        activeAuthorizedStreamCount := gate.activeAuthorizedStreamCount + 1 }) ∨
    ((∃ owner, gate.collectionCaptureSessionId = some owner ∧ owner ≠ captureSessionId) ∧
      gate.activeAuthorizedStreamCount = 0 ∧
      gate' = { gate.resetCollection with
        collectionCaptureSessionId := some captureSessionId
        activeAuthorizedStreamCount := 1 }) := by
  unfold acquireAuthorizedCollection at h
  cases howner : gate.collectionCaptureSessionId with
  | none =>
      rw [howner] at h
      exact .inl ⟨.inl rfl, (Option.some.inj h).symm⟩
  | some owner =>
      rw [howner] at h
      dsimp only at h
      split at h
      · rename_i hsame
        refine .inl ⟨.inr (congrArg some hsame), ?_⟩
        rw [← Option.some.inj h, ← hsame, ← howner]
      · rename_i hother
        split at h
        · cases h
        · rename_i hnone
          have hcount := Nat.eq_zero_of_not_pos hnone
          refine .inr ⟨⟨owner, rfl, hother⟩, hcount, ?_⟩
          rw [← Option.some.inj h, hcount]

end IngestGate

namespace IngestStream

variable {stream : IngestStream}

/-- Whether the stream counts for the collection. -/
def holds (stream : IngestStream) : Bool := stream.authorization.isSome && stream.phase.isInside

/-- Whether the stream counts for a device. -/
def marks (deviceId : String) (stream : IngestStream) : Bool :=
  stream.phase.isOpen && decide (deviceId ∈ stream.streamDeviceIds)

theorem isInside_of_marks {deviceId : String} (h : stream.marks deviceId = true) :
    stream.phase.isInside = true :=
  StreamPhase.isInside_of_isOpen (Bool.and_eq_true_iff.mp h).1

theorem holds_of_isInside (hadmitted : stream.Admitted true)
    (h : stream.phase.isInside = true) : stream.holds = true := by
  unfold holds
  rw [((admitted_iff_of_isInside h).mp hadmitted).1, h]
  rfl

theorem marks_of_no_devices (h : stream.streamDeviceIds = []) (deviceId : String) :
    stream.marks deviceId = false := by
  unfold marks
  rw [h, decide_eq_false List.not_mem_nil, Bool.and_false]

theorem marks_of_isOpen (h : stream.phase.isOpen = true) (deviceId : String) :
    stream.marks deviceId = decide (deviceId ∈ stream.streamDeviceIds) := by
  unfold marks
  rw [h, Bool.true_and]

theorem holds_of_no_authorization (h : stream.authorization = none) : stream.holds = false := by
  unfold holds
  rw [h]
  rfl

end IngestStream

/-! ## What the streams and the gate agree on -/

/-- The gate counts the streams as they are. -/
structure Owned (configured : IngestGate) (s : ServedStreams) : Prop where
  expectedDeviceCount : s.service.gate.expectedDeviceCount = configured.expectedDeviceCount
  expectedDeviceIds : s.service.gate.expectedDeviceIds = configured.expectedDeviceIds
  admitted : ∀ stream ∈ s.streams, stream.Admitted s.asksForCredentials
  counted : s.service.gate.activeAuthorizedStreamCount = s.streams.countP IngestStream.holds
  owner : ∀ stream ∈ s.streams, stream.holds = true → ∀ scope,
    stream.authorization = some scope →
      s.service.gate.collectionCaptureSessionId = some scope.captureSessionId
  devices : s.service.gate.Counts fun deviceId =>
    s.streams.countP (IngestStream.marks deviceId)

namespace Owned

variable {configured : IngestGate} {s : ServedStreams} {i : ℕ} {stream stream' : IngestStream}
  {service : GrpcIngestService}

/-- The owner after a step that does not change it, if the stream has not come in. -/
theorem owner_set (h : Owned configured s) (hfound : s.streams[i]? = some stream)
    (howner : service.gate.collectionCaptureSessionId =
      s.service.gate.collectionCaptureSessionId)
    (hstays : stream'.holds = true → stream.holds = true)
    (hauthorization : stream'.authorization = stream.authorization) :
    ∀ other ∈ s.streams.set i stream', other.holds = true → ∀ scope,
      other.authorization = some scope →
        service.gate.collectionCaptureSessionId = some scope.captureSessionId := by
  rw [howner]
  refine Crew.forall_set h.owner fun hholds scope hscope => ?_
  exact h.owner stream (Crew.mem_of_found hfound) (hstays hholds) scope
    (hauthorization ▸ hscope)

/-- A step that leaves the collection alone, and counts for the devices what the stream does. -/
theorem set_of_sameCollection (h : Owned configured s) (hfound : s.streams[i]? = some stream)
    (hcollection : s.service.gate.SameCollection service.gate)
    (hadmitted : stream'.Admitted s.asksForCredentials)
    (hholds : stream'.holds = stream.holds)
    (hauthorization : stream'.authorization = stream.authorization)
    (hdevices : service.gate.Counts fun deviceId =>
      (s.streams.set i stream').countP (IngestStream.marks deviceId)) :
    Owned configured { s with service := service, streams := s.streams.set i stream' } where
  expectedDeviceCount := hcollection.expectedDeviceCount.trans h.expectedDeviceCount
  expectedDeviceIds := hcollection.expectedDeviceIds.trans h.expectedDeviceIds
  admitted := Crew.forall_set h.admitted hadmitted
  counted := by
    rw [hcollection.streamCount, Crew.countP_set_of_same hfound hholds]
    exact h.counted
  owner := h.owner_set hfound hcollection.owner (fun hstays => hholds ▸ hstays) hauthorization
  devices := hdevices

/-- A step that changes nothing that the gate counts. -/
theorem set_of_quiet (h : Owned configured s) (hfound : s.streams[i]? = some stream)
    (hcollection : s.service.gate.SameCollection service.gate)
    (hsame : s.service.gate.SameDevices service.gate)
    (hadmitted : stream'.Admitted s.asksForCredentials)
    (hholds : stream'.holds = stream.holds)
    (hauthorization : stream'.authorization = stream.authorization)
    (hmarks : ∀ deviceId, stream'.marks deviceId = stream.marks deviceId) :
    Owned configured { s with service := service, streams := s.streams.set i stream' } := by
  refine h.set_of_sameCollection hfound hcollection hadmitted hholds hauthorization ?_
  refine (h.devices.of_sameDevices hsame).of_eq fun deviceId => ?_
  exact Crew.countP_set_of_same hfound (hmarks deviceId)

/-- A step between two phases in which the stream is inside, and open in both or in neither. -/
theorem set_of_moveTo (h : Owned configured s) (hfound : s.streams[i]? = some stream)
    {phase : StreamPhase} (hcollection : s.service.gate.SameCollection service.gate)
    (hsame : s.service.gate.SameDevices service.gate) (hwas : stream.phase.isOpen = true)
    (hopen : phase.isOpen = true) :
    Owned configured
      { s with service := service, streams := s.streams.set i (stream.moveTo phase) } := by
  have hadmitted := h.admitted stream (Crew.mem_of_found hfound)
  have hinside := StreamPhase.isInside_of_isOpen hopen
  have hwasInside := StreamPhase.isInside_of_isOpen hwas
  refine h.set_of_quiet hfound hcollection hsame ?_ ?_ rfl fun deviceId => ?_
  · have hmoves : (stream.moveTo phase).phase.isInside = true := hinside
    exact (IngestStream.admitted_iff_of_isInside hmoves).mpr
      ((IngestStream.admitted_iff_of_isInside hwasInside).mp hadmitted)
  · unfold IngestStream.holds
    rw [hwasInside]
    exact congrArg _ hinside
  · unfold IngestStream.marks
    rw [hwas]
    exact congrArg (· && _) hopen

/-- While no stream counts and one comes in, nobody is inside: the service asks for
credentials. -/
theorem nobody_inside (h : Owned configured s) (hfound : s.streams[i]? = some stream)
    {scope : AuthorizationScope} (hphase : stream.phase = .acquiring scope)
    (hcount : s.service.gate.activeAuthorizedStreamCount = 0) :
    ∀ other ∈ s.streams, ¬ other.phase.isInside = true := by
  have hadmitted := h.admitted stream (Crew.mem_of_found hfound)
  unfold IngestStream.Admitted at hadmitted
  rw [hphase] at hadmitted
  obtain ⟨hasks, _, _⟩ := hadmitted
  intro other hmem hinside
  have hnone := List.countP_eq_zero.mp (h.counted.symm.trans hcount) other hmem
  exact hnone (IngestStream.holds_of_isInside (hasks ▸ h.admitted other hmem) hinside)

/-- What a stream that comes in leaves of the counts of the others. -/
theorem set_acquired (h : Owned configured s) (hfound : s.streams[i]? = some stream)
    {scope : AuthorizationScope} {gate : IngestGate} (hphase : stream.phase = .acquiring scope)
    (hacquires : s.service.gate.acquireAuthorizedCollection scope.captureSessionId = some gate)
    (hgate : service.gate = gate) (hphase' : stream'.phase = .reading)
    (hauthorization' : stream'.authorization = some scope)
    (hdevices' : stream'.streamDeviceIds = stream.streamDeviceIds) :
    Owned configured { s with service := service, streams := s.streams.set i stream' } := by
  have hadmitted := h.admitted stream (Crew.mem_of_found hfound)
  unfold IngestStream.Admitted at hadmitted
  rw [hphase] at hadmitted
  obtain ⟨hasks, hauthorization, hnoDevices⟩ := hadmitted
  have hinside : stream'.phase.isInside = true := by
    rw [hphase']
    rfl
  have hcomes : stream'.Admitted s.asksForCredentials := by
    refine (IngestStream.admitted_iff_of_isInside hinside).mpr ⟨?_, ?_⟩
    · rw [hauthorization', hasks]
      rfl
    · rw [hdevices', hnoDevices]
      exact List.nodup_nil
  have hgains : (s.streams.set i stream').countP IngestStream.holds =
      s.streams.countP IngestStream.holds + 1 := by
    refine Crew.countP_set_of_gains hfound
      (IngestStream.holds_of_no_authorization hauthorization) ?_
    exact IngestStream.holds_of_isInside (hasks ▸ hcomes) hinside
  have hmarks : ∀ deviceId, (s.streams.set i stream').countP (IngestStream.marks deviceId) =
      s.streams.countP (IngestStream.marks deviceId) := by
    intro deviceId
    refine Crew.countP_set_of_same hfound ?_
    rw [IngestStream.marks_of_no_devices hnoDevices,
      IngestStream.marks_of_no_devices (hdevices'.trans hnoDevices)]
  rcases IngestGate.acquireAuthorizedCollection_cases hacquires with
    ⟨howner, rfl⟩ | ⟨_, hcount, rfl⟩
  · refine ⟨hgate ▸ h.expectedDeviceCount, hgate ▸ h.expectedDeviceIds,
      Crew.forall_set h.admitted hcomes, ?_, ?_, ?_⟩
    · rw [hgate, hgains, ← h.counted]
    · rw [hgate]
      refine Crew.forall_set ?_ ?_
      · intro other hmem hholds otherScope hscope
        have hsame := h.owner other hmem hholds otherScope hscope
        rcases howner with hnone | howner
        · rw [hnone] at hsame
          cases hsame
        · exact howner.symm.trans hsame
      · intro _ other hscope
        rw [← Option.some.inj (hauthorization'.symm.trans hscope)]
    · rw [hgate]
      exact (h.devices.of_eq hmarks).of_sameDevices ⟨rfl, rfl⟩
  · have hnobody := h.nobody_inside hfound hphase hcount
    refine ⟨hgate ▸ h.expectedDeviceCount, hgate ▸ h.expectedDeviceIds,
      Crew.forall_set h.admitted hcomes, ?_, ?_, ?_⟩
    · rw [hgate, hgains, ← h.counted, hcount]
    · rw [hgate]
      refine Crew.forall_set ?_ ?_
      · intro other hmem hholds
        exact absurd (Bool.and_eq_true_iff.mp hholds).2 (hnobody other hmem)
      · intro _ other hscope
        rw [← Option.some.inj (hauthorization'.symm.trans hscope)]
    · -- The reset forgets no device, because a stream that marks one is inside.
      rw [hgate]
      have hreset := IngestGate.counts_resetCollection s.service.gate
      refine (hreset.of_eq fun deviceId => ?_).of_sameDevices ⟨rfl, rfl⟩
      rw [hmarks deviceId]
      exact List.countP_eq_zero.mpr fun other hmem hmarked =>
        hnobody other hmem (IngestStream.isInside_of_marks hmarked)

/-- A device that is new for its stream counts once more. -/
theorem set_marked (h : Owned configured s) (hfound : s.streams[i]? = some stream)
    {deviceId : String} (hgate : service.gate = s.service.gate.markDeviceActive deviceId)
    (hopen : stream.phase.isOpen = true) (hopen' : stream'.phase.isOpen = true)
    (hauthorization : stream'.authorization = stream.authorization)
    (hfresh : deviceId ∉ stream.streamDeviceIds)
    (hdevices : stream'.streamDeviceIds = stream.streamDeviceIds ++ [deviceId]) :
    Owned configured { s with service := service, streams := s.streams.set i stream' } := by
  have hinside := StreamPhase.isInside_of_isOpen hopen
  have hinside' := StreamPhase.isInside_of_isOpen hopen'
  obtain ⟨hsome, hnodup⟩ := (IngestStream.admitted_iff_of_isInside hinside).mp
    (h.admitted stream (Crew.mem_of_found hfound))
  refine h.set_of_sameCollection hfound ?_ ?_ ?_ hauthorization ?_
  · rw [hgate]
    exact ⟨rfl, rfl, rfl, rfl⟩
  · refine (IngestStream.admitted_iff_of_isInside hinside').mpr ⟨hauthorization ▸ hsome, ?_⟩
    rw [hdevices]
    rw [← List.concat_eq_append]
    exact hnodup.concat hfresh
  · unfold IngestStream.holds
    rw [hauthorization, hinside, hinside']
  · rw [hgate]
    refine (h.devices.markDeviceActive deviceId).of_eq fun other => ?_
    have hbefore := IngestStream.marks_of_isOpen hopen other
    have hafter := IngestStream.marks_of_isOpen hopen' other
    rw [hdevices] at hafter
    split
    · rename_i heq
      rw [heq] at hbefore hafter ⊢
      refine Crew.countP_set_of_gains hfound (hbefore.trans (decide_eq_false hfresh)) ?_
      exact hafter.trans (decide_eq_true (List.mem_append_right _ (List.mem_singleton_self _)))
    · rename_i hne
      refine Crew.countP_set_of_same hfound ?_
      rw [hbefore, hafter]
      refine decide_eq_decide.mpr ?_
      rw [List.mem_append, List.mem_singleton]
      exact ⟨fun hmem => hmem.resolve_right hne, .inl⟩

/-- A stream that closes does not count for its devices any more. -/
theorem set_closed (h : Owned configured s) (hfound : s.streams[i]? = some stream)
    {closedAtMs : ℤ} {ending : StreamEnding} (hphase : stream.phase = .closing ending)
    (hgate : service.gate = s.service.gate.markStreamClosed stream.streamDeviceIds closedAtMs) :
    Owned configured
      { s with
        service := service
        streams := s.streams.set i (stream.moveTo (.releasing ending)) } := by
  have hopen : stream.phase.isOpen = true := by
    rw [hphase]
    rfl
  have hinside := StreamPhase.isInside_of_isOpen hopen
  obtain ⟨hsome, hnodup⟩ := (IngestStream.admitted_iff_of_isInside hinside).mp
    (h.admitted stream (Crew.mem_of_found hfound))
  refine h.set_of_sameCollection hfound ?_ ⟨hsome, hnodup⟩ ?_ rfl ?_
  · rw [hgate]
    exact IngestGate.sameCollection_markStreamClosed _ _ _
  · unfold IngestStream.holds
    rw [hinside]
    rfl
  · rw [hgate]
    refine (h.devices.markStreamClosed stream.streamDeviceIds closedAtMs).of_eq fun other => ?_
    have hbefore := IngestStream.marks_of_isOpen hopen other
    by_cases hmem : other ∈ stream.streamDeviceIds
    · rw [List.count_eq_one_of_mem hnodup hmem]
      exact Crew.countP_set_of_loses hfound (hbefore.trans (decide_eq_true hmem)) rfl
    · rw [List.count_eq_zero_of_not_mem hmem]
      refine Crew.countP_set_of_same hfound ?_
      rw [hbefore, decide_eq_false hmem]
      rfl

/-- A stream that is released does not count for the collection any more. -/
theorem set_released (h : Owned configured s) (hfound : s.streams[i]? = some stream)
    {scope : AuthorizationScope} {ending : StreamEnding} (hphase : stream.phase = .releasing ending)
    (hauthorization : stream.authorization = some scope)
    (hgate : service.gate =
      s.service.gate.releaseAuthorizedCollection scope.captureSessionId) :
    Owned configured
      { s with
        service := service
        streams := s.streams.set i (stream.moveTo (.ended ending)) } := by
  have hholds : stream.holds = true := by
    unfold IngestStream.holds
    rw [hauthorization, hphase]
    rfl
  have howner := h.owner stream (Crew.mem_of_found hfound) hholds scope hauthorization
  have hleaves : (stream.moveTo (.ended ending)).holds = false := by
    unfold IngestStream.holds
    exact Bool.and_false _
  rw [IngestGate.releaseAuthorizedCollection, if_pos howner] at hgate
  refine ⟨hgate ▸ h.expectedDeviceCount, hgate ▸ h.expectedDeviceIds,
    Crew.forall_set h.admitted trivial, ?_, ?_, ?_⟩
  · rw [Crew.countP_set_of_loses hfound hholds hleaves, hgate, ← h.counted]
  · refine h.owner_set hfound ?_ (fun hstays => ?_) rfl
    · rw [hgate]
    · exact absurd (hleaves.symm.trans hstays) Bool.false_ne_true
  · rw [hgate]
    refine (h.devices.of_eq fun other => ?_).of_sameDevices ⟨rfl, rfl⟩
    refine Crew.countP_set_of_same hfound ?_
    unfold IngestStream.marks
    rw [hphase]
    rfl

/-- **What one step of a stream preserves.** -/
theorem set_of_effect (h : Owned configured s) (hfound : s.streams[i]? = some stream)
    {accepted : Option AcceptedFrame}
    (heffect : StreamEffect s.service stream service stream' accepted) :
    Owned configured { s with service := service, streams := s.streams.set i stream' } := by
  have hadmitted := h.admitted stream (Crew.mem_of_found hfound)
  cases heffect with
  | idle =>
      exact h.set_of_quiet hfound (.refl _) (.refl _) hadmitted rfl rfl fun _ => rfl
  | apart gate inside isOpen authorization devices rests admitted =>
      refine h.set_of_quiet hfound (gate ▸ .refl _) (gate ▸ .refl _) ?_ ?_ authorization ?_
      · cases hinside : stream'.phase.isInside with
        | false => exact admitted _ hinside hadmitted
        | true =>
            refine (IngestStream.admitted_iff_of_isInside hinside).mpr ?_
            rw [authorization, devices]
            exact (IngestStream.admitted_iff_of_isInside (inside ▸ hinside)).mp hadmitted
      · unfold IngestStream.holds
        rw [authorization, inside]
      · intro deviceId
        unfold IngestStream.marks
        rw [isOpen, devices]
  | entered opening was unasked =>
      unfold IngestStream.Admitted at hadmitted
      rw [was] at hadmitted
      obtain ⟨hasks, hauthorization, hnoDevices⟩ := hadmitted
      rw [unasked] at hasks
      refine h.set_of_quiet hfound (.refl _) (.refl _) ⟨?_, ?_⟩ ?_ rfl fun deviceId => ?_
      · exact (congrArg Option.isSome hauthorization).trans hasks
      · exact hnoDevices.symm ▸ List.nodup_nil
      · rw [IngestStream.holds_of_no_authorization hauthorization]
        exact IngestStream.holds_of_no_authorization hauthorization
      · have hmoved : (stream.moveTo .reading).streamDeviceIds = [] := hnoDevices
        rw [IngestStream.marks_of_no_devices hnoDevices, IngestStream.marks_of_no_devices hmoved]
  | acquired scope gate was acquires =>
      exact h.set_acquired hfound was acquires rfl rfl rfl rfl
  | numbered was isOpen rests =>
      exact h.set_of_moveTo hfound ⟨rfl, rfl, rfl, rfl⟩ ⟨rfl, rfl⟩ was isOpen
  | marked arrival n was fresh =>
      exact h.set_marked hfound rfl (by rw [was]; rfl) rfl rfl fresh rfl
  | known arrival n was mem =>
      exact h.set_of_moveTo hfound (.refl _) (.refl _) (by rw [was]; rfl) rfl
  | recorded arrival n was =>
      obtain ⟨latest, hrecorded⟩ := IngestGate.recordDeviceTimestamp_eq s.service.gate
        arrival.packet.metadata.internalDeviceId arrival.packet.metadata.deviceTimestampMs
      refine h.set_of_moveTo hfound ?_ ?_ (by rw [was]; rfl) rfl
      · exact hrecorded ▸ ⟨rfl, rfl, rfl, rfl⟩
      · exact hrecorded ▸ ⟨rfl, rfl⟩
  | decided arrival n gate allowed was decides =>
      have hdecision := IngestGate.allowIngest_decision s.service.gate
        arrival.packet.metadata.internalDeviceId arrival.packet.metadata.deviceTimestampMs
      rw [decides] at hdecision
      refine h.set_of_moveTo hfound hdecision.same.1 hdecision.same.2 (by rw [was]; rfl) ?_
      cases allowed <;> rfl
  | closed ending closedAtMs was => exact h.set_closed hfound was rfl
  | released ending scope was authorized => exact h.set_released hfound was authorized rfl
  | left ending was unauthorized =>
      refine h.set_of_quiet hfound (.refl _) (.refl _) trivial ?_ rfl fun deviceId => ?_
      · rw [IngestStream.holds_of_no_authorization unauthorized]
        exact IngestStream.holds_of_no_authorization unauthorized
      · unfold IngestStream.marks
        rw [was]
        rfl

theorem snoc_called (h : Owned configured s) (verification : Verification) (now : ℚ) :
    Owned configured { s with streams := s.streams ++ [s.calledStream verification now] } := by
  refine ⟨h.expectedDeviceCount, h.expectedDeviceIds, Crew.forall_snoc h.admitted ⟨?_, rfl, rfl⟩,
    ?_, Crew.forall_snoc h.owner ?_, h.devices.of_eq fun deviceId => ?_⟩
  · cases s.asksForCredentials <;> rfl
  · rw [Crew.countP_snoc_of_false (IngestStream.holds_of_no_authorization rfl)]
    exact h.counted
  · intro _ scope hscope
    cases hscope
  · exact Crew.countP_snoc_of_false (IngestStream.marks_of_no_devices rfl deviceId)

theorem of_effect (h : Owned configured s) {op : StreamsOp} {s' : ServedStreams}
    {accepted : Option AcceptedFrame} (heffect : StreamsEffect s op s' accepted) :
    Owned configured s' := by
  cases heffect with
  | absent i input => exact h
  | stepped i input found effect => exact h.set_of_effect found effect
  | called verification now => exact h.snoc_called verification now

end Owned

/-! ## Runs -/

namespace IngestGate

theorem resetCollection_configure (expectedDeviceCount : Option ℕ)
    (expectedDeviceIds : List String) :
    (configure expectedDeviceCount expectedDeviceIds).resetCollection =
      configure expectedDeviceCount expectedDeviceIds := rfl

/-- What a reset leaves depends on the settings alone. -/
theorem resetCollection_eq {gate other : IngestGate}
    (hcount : gate.expectedDeviceCount = other.expectedDeviceCount)
    (hids : gate.expectedDeviceIds = other.expectedDeviceIds) (owner : Option String) (n : ℕ) :
    { gate.resetCollection with
      collectionCaptureSessionId := owner
      activeAuthorizedStreamCount := n } =
    { other.resetCollection with
      collectionCaptureSessionId := owner
      activeAuthorizedStreamCount := n } := by
  unfold resetCollection gateEnabled
  rw [hcount, hids]

end IngestGate

namespace ServedStreams

/-- A service whose gate has been configured, before any stream. -/
def configured (gate : IngestGate)
    (credentialStore : Dict String (ActiveSessionCredential AuthorizedSessionScope))
    (cameraCredentialStore : CameraCredentials) (asksForCredentials : Bool) : ServedStreams where
  service :=
    { gate := gate
      credentialStore := credentialStore
      cameraCredentialStore := cameraCredentialStore }
  asksForCredentials := asksForCredentials

end ServedStreams

theorem asksForCredentials_of_effect {s s' : ServedStreams} {op : StreamsOp}
    {accepted : Option AcceptedFrame} (h : StreamsEffect s op s' accepted) :
    s'.asksForCredentials = s.asksForCredentials := by
  cases h <;> rfl

namespace StreamsExchange

/-- A capture session takes the collection over from another. -/
def TakesOver (e : StreamsExchange) (captureSessionId : String) : Prop :=
  ∃ owner, e.before.service.gate.collectionCaptureSessionId = some owner ∧
    owner ≠ captureSessionId ∧
    e.after.service.gate.collectionCaptureSessionId = some captureSessionId

end StreamsExchange

/-- One session at most has streams inside, and the gate counts them. -/
structure HasOneOwner (s : ServedStreams) : Prop where
  counted : s.service.gate.activeAuthorizedStreamCount =
    s.streams.countP fun stream => stream.phase.isInside
  owner : ∀ stream ∈ s.streams, stream.phase.isInside = true → ∃ scope,
    stream.authorization = some scope ∧
      s.service.gate.collectionCaptureSessionId = some scope.captureSessionId
  exclusive : ∀ stream ∈ s.streams, ∀ other ∈ s.streams, stream.phase.isInside = true →
    other.phase.isInside = true →
      stream.authorization.map (·.captureSessionId) = other.authorization.map (·.captureSessionId)
  deviceCounts : ∀ deviceId, (s.service.gate.activeDeviceStreamCounts.get? deviceId).getD 0 =
    s.streams.countP (IngestStream.marks deviceId)
  activeDevices : ∀ deviceId, deviceId ∈ s.service.gate.activeDeviceIds ↔
    0 < s.streams.countP (IngestStream.marks deviceId)

theorem Owned.hasOneOwner {configured : IngestGate} {s : ServedStreams} (h : Owned configured s)
    (hasks : s.asksForCredentials = true) : HasOneOwner s := by
  have hadmitted : ∀ stream ∈ s.streams, stream.Admitted true := fun stream hmem =>
    hasks ▸ h.admitted stream hmem
  have howner : ∀ stream ∈ s.streams, stream.phase.isInside = true → ∃ scope,
      stream.authorization = some scope ∧
        s.service.gate.collectionCaptureSessionId = some scope.captureSessionId := by
    intro stream hmem hinside
    have hholds := IngestStream.holds_of_isInside (hadmitted stream hmem) hinside
    obtain ⟨hsome, _⟩ := (IngestStream.admitted_iff_of_isInside hinside).mp
      (hadmitted stream hmem)
    obtain ⟨scope, hscope⟩ := Option.isSome_iff_exists.mp hsome
    exact ⟨scope, hscope, h.owner stream hmem hholds scope hscope⟩
  refine ⟨?_, howner, ?_, h.devices.counts, h.devices.active⟩
  · rw [h.counted]
    refine List.countP_congr fun stream hmem => ?_
    refine ⟨fun hholds => (Bool.and_eq_true_iff.mp hholds).2, fun hinside => ?_⟩
    exact IngestStream.holds_of_isInside (hadmitted stream hmem) hinside
  · intro stream hmem other hother hinside hinside'
    obtain ⟨scope, hscope, hsame⟩ := howner stream hmem hinside
    obtain ⟨scope', hscope', hsame'⟩ := howner other hother hinside'
    rw [hscope, hscope']
    exact hsame.symm.trans hsame'

/-! ## Who changes the gate -/

/-- What becomes of the owner in a step of a stream. -/
theorem StreamEffect.owner {service service' : GrpcIngestService} {stream stream' : IngestStream}
    {accepted : Option AcceptedFrame} (h : StreamEffect service stream service' stream' accepted) :
    service'.gate = service.gate ∨
    (∃ scope, stream.phase = .acquiring scope ∧
      service.gate.acquireAuthorizedCollection scope.captureSessionId = some service'.gate) ∨
    (stream.phase.isInside = true ∧ service'.gate.collectionCaptureSessionId =
      service.gate.collectionCaptureSessionId) := by
  cases h with
  | idle => exact .inl rfl
  | apart gate => exact .inl gate
  | entered opening was unasked => exact .inl rfl
  | known arrival n was mem => exact .inl rfl
  | left ending was unauthorized => exact .inl rfl
  | acquired scope gate was acquires => exact .inr (.inl ⟨scope, was, acquires⟩)
  | numbered was isOpen rests =>
      exact .inr (.inr ⟨StreamPhase.isInside_of_isOpen was, rfl⟩)
  | marked arrival n was fresh => exact .inr (.inr ⟨by rw [was]; rfl, rfl⟩)
  | recorded arrival n was =>
      obtain ⟨latest, hrecorded⟩ := IngestGate.recordDeviceTimestamp_eq service.gate
        arrival.packet.metadata.internalDeviceId arrival.packet.metadata.deviceTimestampMs
      refine .inr (.inr ⟨by rw [was]; rfl, ?_⟩)
      dsimp only
      rw [hrecorded]
  | decided arrival n gate allowed was decides =>
      have hdecision := IngestGate.allowIngest_decision service.gate
        arrival.packet.metadata.internalDeviceId arrival.packet.metadata.deviceTimestampMs
      rw [decides] at hdecision
      exact .inr (.inr ⟨by rw [was]; rfl, hdecision.same.1.owner⟩)
  | closed ending closedAtMs was =>
      exact .inr (.inr ⟨by rw [was]; rfl,
        (IngestGate.sameCollection_markStreamClosed _ _ _).owner⟩)
  | released ending scope was authorized =>
      refine .inr (.inr ⟨by rw [was]; rfl, ?_⟩)
      unfold IngestGate.releaseAuthorizedCollection
      split <;> rfl

namespace StreamsExchange

/-- What changes the gate is a stream that comes in, or one that is inside, of the session that
owns the collection before and after. -/
def ByOwner (e : StreamsExchange) : Prop :=
  e.after.service.gate = e.before.service.gate ∨
  ∃ i input stream scope, e.input = .step i input ∧ e.before.streams[i]? = some stream ∧
    e.after.service.gate.collectionCaptureSessionId = some scope.captureSessionId ∧
    (stream.phase = .acquiring scope ∨
      stream.phase.isInside = true ∧ stream.authorization = some scope ∧
        e.before.service.gate.collectionCaptureSessionId = some scope.captureSessionId)

end StreamsExchange

theorem IngestGate.owner_of_acquired {gate gate' : IngestGate} {captureSessionId : String}
    (h : gate.acquireAuthorizedCollection captureSessionId = some gate') :
    gate'.collectionCaptureSessionId = some captureSessionId := by
  rcases IngestGate.acquireAuthorizedCollection_cases h with ⟨_, rfl⟩ | ⟨_, _, rfl⟩
  · rfl
  · rfl

theorem HasOneOwner.byOwner {e : StreamsExchange} (h : HasOneOwner e.before)
    (heffect : StreamsEffect e.before e.input e.after e.output) : e.ByOwner := by
  obtain ⟨before, input, output, after⟩ := e
  dsimp only at heffect
  cases heffect with
  | called verification now => exact .inl rfl
  | absent i input => exact .inl rfl
  | stepped i input found effect =>
      rename_i stream stream' service
      rcases effect.owner with hsame | ⟨scope, hphase, hacquires⟩ | ⟨hinside, howner⟩
      · exact .inl hsame
      · exact .inr ⟨i, input, stream, scope, rfl, found,
          IngestGate.owner_of_acquired hacquires, .inl hphase⟩
      · obtain ⟨scope, hscope, howns⟩ := h.owner stream (Crew.mem_of_found found) hinside
        exact .inr ⟨i, input, stream, scope, rfl, found, howner.trans howns,
          .inr ⟨hinside, hscope, howns⟩⟩

/-- A session takes over a collection for which no stream counts, and the gate starts afresh. -/
theorem Owned.takesOver {expectedDeviceCount : Option ℕ} {expectedDeviceIds : List String}
    {e : StreamsExchange} (h : Owned (.configure expectedDeviceCount expectedDeviceIds) e.before)
    (heffect : StreamsEffect e.before e.input e.after e.output) {captureSessionId : String}
    (htakes : e.TakesOver captureSessionId) :
    e.before.service.gate.activeAuthorizedStreamCount = 0 ∧
      e.after.service.gate =
        { IngestGate.configure expectedDeviceCount expectedDeviceIds with
          collectionCaptureSessionId := some captureSessionId
          activeAuthorizedStreamCount := 1 } := by
  obtain ⟨before, input, output, after⟩ := e
  obtain ⟨owner, hbefore, hne, hafter⟩ := htakes
  dsimp only at h hbefore hafter heffect ⊢
  -- A step that leaves the owner is no takeover.
  have hkeeps : after.service.gate.collectionCaptureSessionId ≠
      before.service.gate.collectionCaptureSessionId := by
    rw [hbefore, hafter]
    exact fun hsame => hne (Option.some.inj hsame).symm
  cases heffect with
  | called verification now => exact absurd rfl hkeeps
  | absent i input => exact absurd rfl hkeeps
  | stepped i input found effect =>
      rcases effect.owner with hsame | ⟨scope, hphase, hacquires⟩ | ⟨hinside, howner⟩
      · exact absurd (congrArg IngestGate.collectionCaptureSessionId hsame) hkeeps
      · have hnew := IngestGate.owner_of_acquired hacquires
        rw [← Option.some.inj (hafter.symm.trans hnew)] at hacquires
        rcases IngestGate.acquireAuthorizedCollection_cases hacquires with
          ⟨hnone | hsame, _⟩ | ⟨_, hcount, hgate⟩
        · rw [hbefore] at hnone
          cases hnone
        · exact absurd (Option.some.inj (hbefore.symm.trans hsame)) hne
        · refine ⟨hcount, ?_⟩
          rw [← IngestGate.resetCollection_configure]
          exact hgate.trans
            (IngestGate.resetCollection_eq h.expectedDeviceCount h.expectedDeviceIds _ _)
      · exact absurd howner hkeeps

/-! ## Streams that have ended -/

theorem IngestStream.step_ended (service : GrpcIngestService) {stream : IngestStream}
    {ending : StreamEnding} (hphase : stream.phase = .ended ending) (input : StreamInput) :
    stream.step service input = (service, stream, none) := by
  unfold IngestStream.step
  rw [hphase]
  cases input with
  | packet arrival => rfl
  | packetsEnd => rfl
  | raised => rfl
  | proceed nowMs =>
      dsimp only
      unfold IngestStream.proceed
      rw [hphase]

/-- A stream that has ended does nothing more. -/
theorem streamsStep_ended {s : ServedStreams} {i : ℕ} {stream : IngestStream}
    (hfound : s.streams[i]? = some stream) {ending : StreamEnding}
    (hphase : stream.phase = .ended ending) (input : StreamInput) :
    streamsStep s (.step i input) = ({ s with streams := s.streams.set i stream }, none) := by
  unfold streamsStep
  dsimp only
  rw [hfound]
  dsimp only
  rw [IngestStream.step_ended s.service hphase]

theorem streamsStep_keeps_ended {s : ServedStreams} {i : ℕ} {stream : IngestStream}
    (hfound : s.streams[i]? = some stream) {ending : StreamEnding}
    (hphase : stream.phase = .ended ending) (op : StreamsOp) :
    (streamsStep s op).1.streams[i]? = some stream := by
  have hlt := (List.getElem?_eq_some_iff.mp hfound).1
  cases op with
  | call verification now => exact (List.getElem?_append_left hlt).trans hfound
  | step j input =>
      by_cases hsame : j = i
      · rw [hsame, streamsStep_ended hfound hphase]
        exact List.getElem?_set_self hlt
      · unfold streamsStep
        dsimp only
        cases s.streams[j]? with
        | none => exact hfound
        | some other => exact (List.getElem?_set_ne hsame).trans hfound

/-- Along a run a stream that has ended leaves the gate alone. -/
theorem ended_leaves_gate {s : ServedStreams} {i : ℕ} {stream : IngestStream}
    (hfound : s.streams[i]? = some stream) {ending : StreamEnding}
    (hphase : stream.phase = .ended ending) {ops : List StreamsOp} {e : StreamsExchange}
    (he : e ∈ Machine.history streamsStep s ops) {input : StreamInput}
    (hinput : e.input = .step i input) :
    e.after.service.gate = e.before.service.gate := by
  obtain ⟨hbefore, hexchange⟩ := Machine.invariant_before_of_mem_history streamsStep
    (I := fun s => s.streams[i]? = some stream) hfound
    (fun _ op hstays => streamsStep_keeps_ended hstays hphase op) he
  rw [hexchange, hinput]
  unfold Machine.exchange
  rw [streamsStep_ended hbefore hphase]

/-- A stream that has come in and is not inside any more has ended. -/
theorem IngestStream.ended_of_not_inside {stream : IngestStream} {asksForCredentials : Bool}
    (hadmitted : stream.Admitted asksForCredentials)
    (hauthorized : stream.authorization.isSome = true) (houtside : ¬ stream.phase.isInside = true) :
    ∃ ending, stream.phase = .ended ending := by
  unfold IngestStream.Admitted at hadmitted
  cases hphase : stream.phase with
  | ended ending => exact ⟨ending, rfl⟩
  | presenting opening =>
      rw [hphase] at hadmitted
      obtain ⟨_, hnone, _⟩ := hadmitted
      rw [hnone] at hauthorized
      cases hauthorized
  | acquiring scope =>
      rw [hphase] at hadmitted
      obtain ⟨_, hnone, _⟩ := hadmitted
      rw [hnone] at hauthorized
      cases hauthorized
  | _ => exact absurd (by rw [hphase]; rfl) houtside

/-! ## The law -/

section Runs

variable (expectedDeviceCount : Option ℕ) (expectedDeviceIds : List String)
  (credentialStore : Dict String (ActiveSessionCredential AuthorizedSessionScope))
  (cameraCredentialStore : CameraCredentials) (asksForCredentials : Bool)

theorem owned_configured :
    Owned (.configure expectedDeviceCount expectedDeviceIds)
      (.configured (.configure expectedDeviceCount expectedDeviceIds) credentialStore
        cameraCredentialStore asksForCredentials) where
  expectedDeviceCount := rfl
  expectedDeviceIds := rfl
  admitted := by
    intro stream hmem
    cases hmem
  counted := rfl
  owner := by
    intro stream hmem
    cases hmem
  devices := IngestGate.counts_resetCollection _

/-- In every run the gate counts the streams as they are. -/
theorem owned_after (ops : List StreamsOp) :
    Owned (.configure expectedDeviceCount expectedDeviceIds)
        (Machine.after streamsStep (.configured
          (.configure expectedDeviceCount expectedDeviceIds) credentialStore
          cameraCredentialStore asksForCredentials) ops) ∧
      (Machine.after streamsStep (.configured
          (.configure expectedDeviceCount expectedDeviceIds) credentialStore
          cameraCredentialStore asksForCredentials) ops).asksForCredentials =
        asksForCredentials :=
  Machine.invariant_after streamsStep
    (I := fun s => Owned (.configure expectedDeviceCount expectedDeviceIds) s ∧
      s.asksForCredentials = asksForCredentials)
    ⟨owned_configured expectedDeviceCount expectedDeviceIds credentialStore
      cameraCredentialStore asksForCredentials, rfl⟩
    (fun s op h => ⟨h.1.of_effect (streamsStep_effect s op),
      (asksForCredentials_of_effect (streamsStep_effect s op)).trans h.2⟩) ops

/-- **One owner.** Whatever order the streams take their steps in, the gate counts them as they
are, one session at most is inside, and only streams of the owner change the gate. A session
that takes over finds nobody inside and a gate as if it were just configured, and no stream that
came in before it changes the gate any more. -/
theorem collection_has_one_owner (ops : List StreamsOp) :
    let configured := IngestGate.configure expectedDeviceCount expectedDeviceIds
    let start := ServedStreams.configured configured credentialStore cameraCredentialStore true
    HasOneOwner (Machine.after streamsStep start ops) ∧
    (∀ e : StreamsExchange, e ∈ Machine.history streamsStep start ops → e.ByOwner ∧
      ∀ captureSessionId, e.TakesOver captureSessionId →
        (∀ stream ∈ e.before.streams, stream.phase.isInside = false) ∧
        e.after.service.gate =
          { configured with
            collectionCaptureSessionId := some captureSessionId
            activeAuthorizedStreamCount := 1 }) ∧
    ∀ first op second captureSessionId, ops = first ++ op :: second →
      StreamsExchange.TakesOver
        (Machine.exchange streamsStep (Machine.after streamsStep start first) op)
        captureSessionId →
      ∀ (i : ℕ) (stream : IngestStream),
        (Machine.after streamsStep start first).streams[i]? = some stream →
        stream.authorization.isSome = true →
        ∀ e ∈ Machine.history streamsStep (Machine.after streamsStep start (first ++ [op])) second,
          ∀ input, e.input = .step i input → e.after.service.gate = e.before.service.gate := by
  intro configured start
  have howned := owned_after expectedDeviceCount expectedDeviceIds credentialStore
    cameraCredentialStore true
  have hone : ∀ ops, HasOneOwner (Machine.after streamsStep start ops) := fun ops =>
    (howned ops).1.hasOneOwner (howned ops).2
  have hnobody : ∀ ops, let s := Machine.after streamsStep start ops
      s.service.gate.activeAuthorizedStreamCount = 0 →
        ∀ stream ∈ s.streams, ¬ stream.phase.isInside = true := by
    intro ops s hcount
    exact List.countP_eq_zero.mp ((hone ops).counted.symm.trans hcount)
  refine ⟨hone ops, fun e he => ?_, ?_⟩
  · obtain ⟨first, op, second, -, rfl⟩ := Machine.exists_split_of_mem_history streamsStep he
    have heffect := streamsStep_effect (Machine.after streamsStep start first) op
    refine ⟨HasOneOwner.byOwner (e := Machine.exchange streamsStep _ op) (hone first) heffect,
      fun captureSessionId htakes => ?_⟩
    obtain ⟨hcount, hgate⟩ := (howned first).1.takesOver heffect htakes
    refine ⟨fun stream hmem => ?_, hgate⟩
    exact Bool.eq_false_iff.mpr (hnobody first hcount stream hmem)
  · intro first op second captureSessionId _ htakes i stream hfound hauthorized e he input hinput
    have hmem := Crew.mem_of_found hfound
    obtain ⟨hcount, _⟩ := (howned first).1.takesOver
      (streamsStep_effect (Machine.after streamsStep start first) op) htakes
    obtain ⟨ending, hphase⟩ := IngestStream.ended_of_not_inside
      ((howned first).1.admitted stream hmem) hauthorized (hnobody first hcount stream hmem)
    rw [Machine.after_snoc] at he
    exact ended_leaves_gate (streamsStep_keeps_ended hfound hphase op) hphase he hinput

end Runs

end ImageStream
