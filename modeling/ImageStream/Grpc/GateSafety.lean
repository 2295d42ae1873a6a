/-
# The gate is safe

The gate opens when every expected device is there and stops the collection when one of them
goes. Streams of many devices meet in any order, so what the gate lets through is guarded by what
holds between any two of its operations: while it is open nobody is missing and the collection has
a start, and before it opens there is none.

A stopped collection stays stopped, and a start stays as it is, until another session takes the
collection over.
-/

import ImageStream.Grpc.CollectionOwner

namespace ImageStream

open Base

namespace IngestGate

/-! ## Between two operations -/

/-- What holds of a gate that waits for devices. -/
structure Guarded (gate : IngestGate) : Prop where
  enabled : gate.gateEnabled = true
  complete : gate.gateOpen = true → gate.Complete
  started : gate.gateOpen = true → gate.collectionStarted = true ∧
    gate.collectionStopped = false ∧ gate.gateStartTimestampMs.isSome = true
  waiting : gate.gateOpen = false → gate.collectionStopped = false →
    gate.collectionStarted = false ∧ gate.gateStartTimestampMs = none

/-- How far a collection has come. -/
structure SameCourse (gate gate' : IngestGate) : Prop where
  gateOpen : gate'.gateOpen = gate.gateOpen
  started : gate'.collectionStarted = gate.collectionStarted
  stopped : gate'.collectionStopped = gate.collectionStopped
  start : gate'.gateStartTimestampMs = gate.gateStartTimestampMs

/-- How a collection goes on: it gets its start when the gate opens and keeps it, and it stays
stopped. -/
structure GoesOn (gate gate' : IngestGate) : Prop where
  start : gate'.gateStartTimestampMs = gate.gateStartTimestampMs ∧
      (gate'.gateOpen = true → gate.gateOpen = true) ∨
    gate.gateStartTimestampMs = none ∧ gate'.gateStartTimestampMs.isSome = true ∧
      gate.gateOpen = false ∧ gate'.gateOpen = true
  stopped : gate.collectionStopped = true → gate'.collectionStopped = true

/-- The devices whose times are known stay so. -/
def KeepsTimes (gate gate' : IngestGate) : Prop :=
  ∀ deviceId, (gate.latestDeviceTimestampMs.get? deviceId).isSome = true →
    (gate'.latestDeviceTimestampMs.get? deviceId).isSome = true

variable {gate gate' : IngestGate}

theorem SameCourse.refl (gate : IngestGate) : gate.SameCourse gate := ⟨rfl, rfl, rfl, rfl⟩

theorem SameCourse.trans {first second third : IngestGate} (h : first.SameCourse second)
    (h' : second.SameCourse third) : first.SameCourse third :=
  ⟨h'.gateOpen.trans h.gateOpen, h'.started.trans h.started, h'.stopped.trans h.stopped,
    h'.start.trans h.start⟩

theorem SameCourse.goesOn (h : gate.SameCourse gate') : gate.GoesOn gate' :=
  ⟨.inl ⟨h.start, fun hopen => h.gateOpen ▸ hopen⟩, fun hstopped => h.stopped.trans hstopped⟩

theorem KeepsTimes.of_eq (h : gate'.latestDeviceTimestampMs = gate.latestDeviceTimestampMs) :
    gate.KeepsTimes gate' := by
  intro deviceId hknown
  rwa [h]

/-- More devices do not make a gate incomplete. -/
theorem Complete.mono (h : gate.Complete) (hcollection : gate.SameCollection gate')
    (hactive : gate.activeDeviceIds ⊆ gate'.activeDeviceIds) : gate'.Complete := by
  unfold Complete at h ⊢
  rw [hcollection.expectedDeviceIds, hcollection.expectedDeviceCount]
  split
  · rename_i hids
    rw [if_pos hids] at h
    exact h.trans hactive
  · rename_i hids
    rw [if_neg hids] at h
    exact h.trans (Finset.card_le_card hactive)

theorem Guarded.of_sameCourse (h : gate.Guarded)
    (hsettings : gate'.expectedDeviceCount = gate.expectedDeviceCount)
    (hcomplete : gate.Complete → gate'.Complete) (hcourse : gate.SameCourse gate') :
    gate'.Guarded where
  enabled := by
    have henabled := h.enabled
    unfold gateEnabled at henabled ⊢
    rwa [hsettings]
  complete := fun hopen => hcomplete (h.complete (hcourse.gateOpen ▸ hopen))
  started := by
    rw [hcourse.gateOpen, hcourse.started, hcourse.stopped, hcourse.start]
    exact h.started
  waiting := by
    rw [hcourse.gateOpen, hcourse.started, hcourse.stopped, hcourse.start]
    exact h.waiting

/-- What starts afresh waits for its devices. -/
theorem guarded_resetCollection (h : gate.gateEnabled = true) : gate.resetCollection.Guarded where
  enabled := h
  complete := by
    intro hopen
    unfold resetCollection at hopen
    rw [h] at hopen
    cases hopen
  started := by
    intro hopen
    unfold resetCollection at hopen
    rw [h] at hopen
    cases hopen
  waiting := by
    intro _ _
    refine ⟨?_, rfl⟩
    unfold resetCollection
    rw [h]
    rfl

/-! ## The gate opens -/

/-- A started collection that nothing disconnects is complete. -/
theorem complete_of_connected (h : gate.disconnection = none) (henabled : gate.gateEnabled = true)
    (hstarted : gate.collectionStarted = true) (hrunning : gate.collectionStopped = false) :
    gate.Complete := by
  unfold disconnection at h
  rw [henabled, hstarted, hrunning] at h
  rw [if_neg (by decide)] at h
  unfold Complete
  split at h
  · rename_i hids
    rw [if_pos hids]
    dsimp only at h
    split at h
    · rename_i hmissing
      rw [List.isEmpty_iff] at hmissing
      refine Finset.sdiff_eq_empty_iff_subset.mp ?_
      refine Finset.eq_empty_of_forall_notMem fun deviceId hmem => ?_
      have hsorted := (Finset.mem_sort (· ≤ ·)).mpr hmem
      rw [hmissing] at hsorted
      cases hsorted
    · cases h
  · rename_i hids
    rw [if_neg hids]
    split at h
    · cases h
    · rename_i hcount
      exact Nat.not_lt.mp hcount

/-- What opening the gate leaves: the collection starts at the time of one of its devices. -/
theorem openGate_started {deviceId : String} (hexpected : gate.Expects deviceId)
    (hactive : deviceId ∈ gate.activeDeviceIds)
    (hknown : (gate.latestDeviceTimestampMs.get? deviceId).isSome = true) :
    gate.openGate.gateStartTimestampMs.isSome = true := by
  unfold openGate
  cases hstart : gate.gateStartTimestampMs with
  | some start => rfl
  | none =>
      dsimp only
      obtain ⟨timestampMs, htimestamp⟩ := Option.isSome_iff_exists.mp hknown
      refine List.isSome_max?_of_mem (List.mem_filterMap.mpr ⟨deviceId, ?_, htimestamp⟩)
      refine (Finset.mem_sort (· ≤ ·)).mpr ?_
      split
      · rename_i hids
        exact hexpected hids
      · exact hactive

theorem openGate_opens (gate : IngestGate) : gate.openGate.gateOpen = true ∧
    gate.openGate.collectionStarted = true ∧
    gate.openGate.collectionStopped = gate.collectionStopped ∧
    gate.openGate.latestDeviceTimestampMs = gate.latestDeviceTimestampMs := by
  unfold openGate
  cases gate.gateStartTimestampMs <;> exact ⟨rfl, rfl, rfl, rfl⟩

/-! ## The operations keep the guard -/

/-- The gate decides about a packet of a device that is there and whose time it knows. -/
theorem Guarded.decision (h : gate.Guarded) {deviceId : String} {timestampMs : ℤ} {allowed : Bool}
    (hdecision : gate.Decision deviceId timestampMs gate' allowed)
    (hactive : deviceId ∈ gate.activeDeviceIds)
    (hknown : (gate.latestDeviceTimestampMs.get? deviceId).isSome = true) :
    gate'.Guarded ∧ gate.GoesOn gate' ∧ gate.KeepsTimes gate' := by
  cases hdecision with
  | dropped preGate staleAfterGate =>
      exact ⟨h.of_sameCourse rfl id ⟨rfl, rfl, rfl, rfl⟩, SameCourse.goesOn ⟨rfl, rfl, rfl, rfl⟩,
        .of_eq rfl⟩
  | accepted running expected isOpen fresh first =>
      exact ⟨h.of_sameCourse rfl id ⟨rfl, rfl, rfl, rfl⟩, SameCourse.goesOn ⟨rfl, rfl, rfl, rfl⟩,
        .of_eq rfl⟩
  | opened running expected shut complete preGate =>
      obtain ⟨hcollection, hdevices⟩ := openGate_same gate
      obtain ⟨hopen, hstarted, hstopped, htimes⟩ := openGate_opens gate
      have hstart := openGate_started expected hactive hknown
      have hcomplete : gate.openGate.Complete :=
        complete.mono hcollection (hdevices.active ▸ Finset.Subset.refl _)
      have henabled : gate.openGate.gateEnabled = true := by
        unfold gateEnabled
        rw [hcollection.expectedDeviceCount]
        exact h.enabled
      refine ⟨⟨henabled, fun _ => hcomplete, fun _ => ⟨hstarted, hstopped.trans running, hstart⟩,
        fun hshut => ?_⟩,
        ⟨.inr ⟨(h.waiting shut running).2, hstart, shut, hopen⟩, fun hstays => ?_⟩,
        .of_eq htimes⟩
      · exact absurd (hopen.symm.trans hshut) Bool.true_eq_false.mp
      · exact hstopped.trans hstays

theorem sameCourse_closeDevice (closedAtMs : ℤ) (gate : IngestGate) (deviceId : String) :
    gate.SameCourse (closeDevice closedAtMs gate deviceId) ∧
      gate.KeepsTimes (closeDevice closedAtMs gate deviceId) := by
  unfold closeDevice
  dsimp only
  split <;> exact ⟨⟨rfl, rfl, rfl, rfl⟩, .of_eq rfl⟩

theorem sameCourse_foldl_closeDevice (closedAtMs : ℤ) (gate : IngestGate)
    (deviceIds : List String) :
    gate.SameCourse (deviceIds.foldl (closeDevice closedAtMs) gate) ∧
      gate.KeepsTimes (deviceIds.foldl (closeDevice closedAtMs) gate) := by
  induction deviceIds generalizing gate with
  | nil => exact ⟨.refl gate, fun _ => id⟩
  | cons deviceId deviceIds ih =>
      obtain ⟨hcourse, htimes⟩ := sameCourse_closeDevice closedAtMs gate deviceId
      obtain ⟨hcourse', htimes'⟩ := ih (closeDevice closedAtMs gate deviceId)
      exact ⟨hcourse.trans hcourse', fun other hknown => htimes' other (htimes other hknown)⟩

/-- A stream that closes leaves a complete gate, or a stopped collection. -/
theorem Guarded.markStreamClosed (h : gate.Guarded) (deviceIds : List String) (closedAtMs : ℤ) :
    (gate.markStreamClosed deviceIds closedAtMs).Guarded ∧
      gate.GoesOn (gate.markStreamClosed deviceIds closedAtMs) ∧
      gate.KeepsTimes (gate.markStreamClosed deviceIds closedAtMs) := by
  unfold IngestGate.markStreamClosed
  split
  · exact ⟨h, (SameCourse.refl gate).goesOn, fun _ => id⟩
  · obtain ⟨hcourse, htimes⟩ := sameCourse_foldl_closeDevice closedAtMs gate deviceIds
    have hcollection := sameCollection_foldl_closeDevice closedAtMs gate deviceIds
    generalize deviceIds.foldl (closeDevice closedAtMs) gate = closed at *
    have henabled : closed.gateEnabled = true := by
      unfold gateEnabled
      rw [hcollection.expectedDeviceCount]
      exact h.enabled
    have hstarted : closed.gateOpen = true → closed.collectionStarted = true ∧
        closed.collectionStopped = false ∧ closed.gateStartTimestampMs.isSome = true := by
      rw [hcourse.gateOpen, hcourse.started, hcourse.stopped, hcourse.start]
      exact h.started
    rcases stopIncomplete_eq closed with ⟨hconnected, hsame⟩ | ⟨reason, hstopped⟩
    · rw [hsame]
      refine ⟨⟨henabled, fun hopen => ?_, hstarted, ?_⟩, hcourse.goesOn, htimes⟩
      · obtain ⟨hstart, hrunning, _⟩ := hstarted hopen
        exact complete_of_connected hconnected henabled hstart hrunning
      · rw [hcourse.gateOpen, hcourse.started, hcourse.stopped, hcourse.start]
        exact h.waiting
    · rw [hstopped]
      refine ⟨⟨henabled, ?_, ?_, ?_⟩, ⟨.inl ⟨hcourse.start, ?_⟩, fun _ => rfl⟩, htimes⟩
      · intro hopen
        cases hopen
      · intro hopen
        cases hopen
      · intro _ hrunning
        cases hrunning
      · intro hopen
        cases hopen

/-- A device's time is known once it is recorded, and so are those of the others. -/
theorem isSome_recordDeviceTimestamp (gate : IngestGate) (deviceId : String) (timestampMs : ℤ)
    {other : String} (h : other = deviceId ∨
      (gate.latestDeviceTimestampMs.get? other).isSome = true) :
    ((gate.recordDeviceTimestamp deviceId timestampMs).latestDeviceTimestampMs.get?
      other).isSome = true := by
  have hset :
      ((gate.latestDeviceTimestampMs.set deviceId timestampMs).get? other).isSome = true := by
    rw [Dict.get?_set]
    split
    · rfl
    · rename_i hne
      exact h.resolve_left hne
  unfold recordDeviceTimestamp
  dsimp only
  split
  · exact hset
  · rename_i previousTimestampMs hprevious
    split
    · exact hset
    · rcases h with rfl | hknown
      · rw [hprevious]
        rfl
      · exact hknown

end IngestGate

namespace IngestStream

/-- What a stream has told the gate before the gate decides about its packet. -/
def Announced (gate : IngestGate) (stream : IngestStream) : Prop :=
  match stream.phase with
  | .recording arrival _ => arrival.packet.metadata.internalDeviceId ∈ stream.streamDeviceIds
  | .deciding arrival _ => arrival.packet.metadata.internalDeviceId ∈ stream.streamDeviceIds ∧
      (gate.latestDeviceTimestampMs.get?
        arrival.packet.metadata.internalDeviceId).isSome = true
  | _ => True

variable {gate gate' : IngestGate} {stream : IngestStream}

theorem announced_of_rests (h : stream.Rests) : stream.Announced gate := by
  unfold Rests at h
  unfold Announced
  cases hphase : stream.phase with
  | recording arrival n =>
      rw [hphase] at h
      exact h.elim
  | deciding arrival n =>
      rw [hphase] at h
      exact h.elim
  | _ => trivial

/-- What others do to the gate while the stream is inside keeps what it has told. -/
theorem Announced.mono (h : stream.Announced gate)
    (htimes : stream.phase.isInside = true → gate.KeepsTimes gate') :
    stream.Announced gate' := by
  unfold Announced at h ⊢
  cases hphase : stream.phase with
  | recording arrival n =>
      rw [hphase] at h
      exact h
  | deciding arrival n =>
      rw [hphase] at h
      exact ⟨h.1, htimes (by rw [hphase]; rfl) _ h.2⟩
  | _ => trivial

end IngestStream

/-! ## Steps -/

/-- The gate is guarded, and has been told of what it is to decide about. -/
structure Safe (s : ServedStreams) : Prop where
  guarded : s.service.gate.Guarded
  announced : ∀ stream ∈ s.streams, stream.Announced s.service.gate

namespace IngestGate

/-- A frame that the gate lets through. -/
def LetsThrough (gate : IngestGate) (frame : AcceptedFrame) : Prop :=
  gate.gateOpen = true ∧ gate.collectionStopped = false ∧ gate.Expects frame.1 ∧
    ∃ start, gate.gateStartTimestampMs = some start ∧ start ≤ frame.2

theorem Guarded.letsThrough {gate gate' : IngestGate} (h : gate.Guarded) {deviceId : String}
    {timestampMs : ℤ} (hdecision : gate.Decision deviceId timestampMs gate' true) :
    gate.LetsThrough (deviceId, timestampMs) := by
  cases hdecision with
  | accepted running expected isOpen fresh first =>
      obtain ⟨_, _, hstarted⟩ := h.started isOpen
      obtain ⟨start, hstart⟩ := Option.isSome_iff_exists.mp hstarted
      exact ⟨isOpen, running, expected, start, hstart, fresh h.enabled start hstart⟩

theorem releaseAuthorizedCollection_eq (gate : IngestGate) (captureSessionId : String) :
    ∃ n, gate.releaseAuthorizedCollection captureSessionId =
      { gate with activeAuthorizedStreamCount := n } := by
  unfold releaseAuthorizedCollection
  split
  · exact ⟨_, rfl⟩
  · exact ⟨gate.activeAuthorizedStreamCount, rfl⟩

end IngestGate

/-- What a step leaves: the same guard, and the collection goes on or another session takes it
over. -/
structure StepsSafely (s s' : ServedStreams) (accepted : Option AcceptedFrame) : Prop where
  safe : Safe s'
  accepted : ∀ frame, accepted = some frame → s.service.gate.LetsThrough frame
  course : (∃ owner captureSessionId,
      s.service.gate.collectionCaptureSessionId = some owner ∧ owner ≠ captureSessionId ∧
        s'.service.gate.collectionCaptureSessionId = some captureSessionId) ∨
    s.service.gate.GoesOn s'.service.gate

namespace Safe

variable {configured : IngestGate} {s : ServedStreams} {i : ℕ} {stream stream' : IngestStream}
  {service : GrpcIngestService}

/-- A step within a collection that lets nothing through. -/
theorem set_quietly (h : Safe s) (hgate : service.gate.Guarded)
    (hgoes : s.service.gate.GoesOn service.gate)
    (htimes : s.service.gate.KeepsTimes service.gate)
    (hannounced : stream'.Announced service.gate) :
    StepsSafely s { s with service := service, streams := s.streams.set i stream' } none where
  safe := ⟨hgate, Crew.forall_set
    (fun other hmem => (h.announced other hmem).mono fun _ => htimes) hannounced⟩
  accepted := by
    intro frame hframe
    cases hframe
  course := .inr hgoes

theorem set_of_same (h : Safe s) (hgate : service.gate = s.service.gate)
    (hannounced : stream'.Announced service.gate) :
    StepsSafely s { s with service := service, streams := s.streams.set i stream' } none := by
  refine h.set_quietly (hgate ▸ h.guarded) ?_ (.of_eq (congrArg _ hgate)) hannounced
  rw [hgate]
  exact (IngestGate.SameCourse.refl _).goesOn

/-- The gate looks at the packet of a stream whose device is there. -/
theorem device_there (h : Safe s) (howned : Owned configured s)
    (hfound : s.streams[i]? = some stream) {arrival : Arrival} {n : ℕ}
    (hphase : stream.phase = .deciding arrival n) :
    arrival.packet.metadata.internalDeviceId ∈ s.service.gate.activeDeviceIds ∧
      (s.service.gate.latestDeviceTimestampMs.get?
        arrival.packet.metadata.internalDeviceId).isSome = true := by
  have hmem := Crew.mem_of_found hfound
  have hannounced := h.announced stream hmem
  unfold IngestStream.Announced at hannounced
  rw [hphase] at hannounced
  obtain ⟨hdevice, hknown⟩ := hannounced
  refine ⟨(howned.devices.active _).mpr (List.countP_pos_iff.mpr ⟨stream, hmem, ?_⟩), hknown⟩
  rw [IngestStream.marks_of_isOpen (by rw [hphase]; rfl)]
  exact decide_eq_true hdevice

theorem set_acquired (h : Safe s) (howned : Owned configured s)
    (hfound : s.streams[i]? = some stream) {scope : AuthorizationScope}
    (hphase : stream.phase = .acquiring scope)
    (hacquires : s.service.gate.acquireAuthorizedCollection scope.captureSessionId =
      some service.gate) (hphase' : stream'.phase = .reading) :
    StepsSafely s { s with service := service, streams := s.streams.set i stream' } none := by
  have hrests : stream'.Announced service.gate := by
    apply IngestStream.announced_of_rests
    unfold IngestStream.Rests
    rw [hphase']
    trivial
  have hnew := IngestGate.owner_of_acquired hacquires
  rcases IngestGate.acquireAuthorizedCollection_cases hacquires with
    ⟨_, hgate⟩ | ⟨⟨owner, howner, hother⟩, hcount, hgate⟩
  · have hcourse : s.service.gate.SameCourse service.gate := hgate ▸ ⟨rfl, rfl, rfl, rfl⟩
    refine h.set_quietly (h.guarded.of_sameCourse ?_ ?_ hcourse) hcourse.goesOn ?_ hrests
    · rw [hgate]
    · rw [hgate]
      exact id
    · rw [hgate]
      exact .of_eq rfl
  · -- The reset forgets the times, but nobody is inside who has recorded one.
    have hnobody := howned.nobody_inside hfound hphase hcount
    have hreset := IngestGate.guarded_resetCollection h.guarded.enabled
    refine ⟨⟨hreset.of_sameCourse ?_ ?_ ?_, Crew.forall_set (fun other hmem => ?_) hrests⟩,
      fun frame hframe => ?_, .inl ⟨owner, scope.captureSessionId, howner, hother, hnew⟩⟩
    · rw [hgate]
    · rw [hgate]
      exact id
    · rw [hgate]
      exact ⟨rfl, rfl, rfl, rfl⟩
    · exact (h.announced other hmem).mono fun hinside => absurd hinside (hnobody other hmem)
    · cases hframe

theorem set_marked (h : Safe s) {arrival : Arrival} {n : ℕ}
    (hgate : service.gate =
      s.service.gate.markDeviceActive arrival.packet.metadata.internalDeviceId)
    (hphase' : stream'.phase = .recording arrival n)
    (hdevice : arrival.packet.metadata.internalDeviceId ∈ stream'.streamDeviceIds) :
    StepsSafely s { s with service := service, streams := s.streams.set i stream' } none := by
  have hcourse : s.service.gate.SameCourse service.gate := hgate ▸ ⟨rfl, rfl, rfl, rfl⟩
  refine h.set_quietly (h.guarded.of_sameCourse ?_ (fun hcomplete => ?_) hcourse) hcourse.goesOn
    ?_ ?_
  · rw [hgate]
    rfl
  · rw [hgate]
    exact hcomplete.mono ⟨rfl, rfl, rfl, rfl⟩ (Finset.subset_insert _ _)
  · rw [hgate]
    exact .of_eq rfl
  · unfold IngestStream.Announced
    rw [hphase']
    exact hdevice

theorem set_recorded (h : Safe s) (hfound : s.streams[i]? = some stream) {arrival : Arrival}
    {n : ℕ} (hphase : stream.phase = .recording arrival n)
    (hgate : service.gate = s.service.gate.recordDeviceTimestamp
      arrival.packet.metadata.internalDeviceId arrival.packet.metadata.deviceTimestampMs) :
    StepsSafely s
      { s with
        service := service
        streams := s.streams.set i (stream.moveTo (.deciding arrival n)) } none := by
  have hannounced := h.announced stream (Crew.mem_of_found hfound)
  unfold IngestStream.Announced at hannounced
  rw [hphase] at hannounced
  obtain ⟨latest, hrecorded⟩ := IngestGate.recordDeviceTimestamp_eq s.service.gate
    arrival.packet.metadata.internalDeviceId arrival.packet.metadata.deviceTimestampMs
  have hcourse : s.service.gate.SameCourse service.gate := by
    rw [hgate, hrecorded]
    exact ⟨rfl, rfl, rfl, rfl⟩
  refine h.set_quietly (h.guarded.of_sameCourse ?_ ?_ hcourse) hcourse.goesOn ?_
    ⟨hannounced, ?_⟩
  · rw [hgate, hrecorded]
  · rw [hgate, hrecorded]
    exact id
  · intro deviceId hknown
    rw [hgate]
    exact IngestGate.isSome_recordDeviceTimestamp _ _ _ (.inr hknown)
  · rw [hgate]
    exact IngestGate.isSome_recordDeviceTimestamp _ _ _ (.inl rfl)

theorem set_decided (h : Safe s) (howned : Owned configured s)
    (hfound : s.streams[i]? = some stream) {arrival : Arrival} {n : ℕ} {allowed : Bool}
    (hphase : stream.phase = .deciding arrival n)
    (hdecides : s.service.gate.allowIngest arrival.packet.metadata.internalDeviceId
      arrival.packet.metadata.deviceTimestampMs = (service.gate, allowed))
    (hrests : stream'.Rests) :
    StepsSafely s { s with service := service, streams := s.streams.set i stream' }
      (if allowed then some (arrival.packet.metadata.internalDeviceId,
        arrival.packet.metadata.deviceTimestampMs) else none) := by
  have hdecision := IngestGate.allowIngest_decision s.service.gate
    arrival.packet.metadata.internalDeviceId arrival.packet.metadata.deviceTimestampMs
  rw [hdecides] at hdecision
  obtain ⟨hactive, hknown⟩ := h.device_there howned hfound hphase
  obtain ⟨hguarded, hgoes, htimes⟩ := h.guarded.decision hdecision hactive hknown
  have hset := h.set_quietly (i := i) hguarded hgoes htimes
    (IngestStream.announced_of_rests hrests)
  refine ⟨hset.safe, fun frame hframe => ?_, hset.course⟩
  cases allowed with
  | false => cases hframe
  | true =>
      rw [← Option.some.inj hframe]
      exact h.guarded.letsThrough hdecision

/-- **What one step of a stream preserves.** -/
theorem set_of_effect (h : Safe s) (howned : Owned configured s)
    (hfound : s.streams[i]? = some stream) {accepted : Option AcceptedFrame}
    (heffect : StreamEffect s.service stream service stream' accepted) :
    StepsSafely s { s with service := service, streams := s.streams.set i stream' } accepted := by
  cases heffect with
  | idle => exact h.set_of_same rfl (h.announced stream (Crew.mem_of_found hfound))
  | apart gate inside isOpen authorization devices rests admitted =>
      exact h.set_of_same gate (IngestStream.announced_of_rests rests)
  | entered opening was unasked =>
      exact h.set_of_same rfl (IngestStream.announced_of_rests trivial)
  | left ending was unauthorized =>
      exact h.set_of_same rfl (IngestStream.announced_of_rests trivial)
  | known arrival n was mem => exact h.set_of_same rfl mem
  | acquired scope gate was acquires => exact h.set_acquired howned hfound was acquires rfl
  | numbered was isOpen rests =>
      exact h.set_quietly (h.guarded.of_sameCourse rfl id ⟨rfl, rfl, rfl, rfl⟩)
        (IngestGate.SameCourse.goesOn ⟨rfl, rfl, rfl, rfl⟩) (.of_eq rfl)
        (IngestStream.announced_of_rests rests)
  | marked arrival n was fresh =>
      exact h.set_marked rfl rfl (List.mem_append_right _ (List.mem_singleton_self _))
  | recorded arrival n was => exact h.set_recorded hfound was rfl
  | decided arrival n gate allowed was decides =>
      refine h.set_decided howned hfound was decides ?_
      cases allowed <;> trivial
  | closed ending closedAtMs was =>
      obtain ⟨hguarded, hgoes, htimes⟩ :=
        h.guarded.markStreamClosed stream.streamDeviceIds closedAtMs
      exact h.set_quietly hguarded hgoes htimes (IngestStream.announced_of_rests trivial)
  | released ending scope was authorized =>
      obtain ⟨n, hreleased⟩ := IngestGate.releaseAuthorizedCollection_eq s.service.gate
        scope.captureSessionId
      rw [hreleased]
      exact h.set_quietly (h.guarded.of_sameCourse rfl id ⟨rfl, rfl, rfl, rfl⟩)
        (IngestGate.SameCourse.goesOn ⟨rfl, rfl, rfl, rfl⟩) (.of_eq rfl)
        (IngestStream.announced_of_rests trivial)

theorem of_effect (h : Safe s) (howned : Owned configured s) {op : StreamsOp}
    {s' : ServedStreams} {accepted : Option AcceptedFrame}
    (heffect : StreamsEffect s op s' accepted) : StepsSafely s s' accepted := by
  cases heffect with
  | stepped i input found effect => exact h.set_of_effect howned found effect
  | absent i input =>
      exact ⟨h, fun frame hframe => (by cases hframe), .inr (IngestGate.SameCourse.refl _).goesOn⟩
  | called verification now =>
      refine ⟨⟨h.guarded, Crew.forall_snoc h.announced ?_⟩, fun frame hframe => (by cases hframe),
        .inr (IngestGate.SameCourse.refl _).goesOn⟩
      exact IngestStream.announced_of_rests trivial

end Safe

/-! ## Runs -/

section Runs

variable {expectedDeviceCount : Option ℕ} {expectedDeviceIds : List String}
  (credentialStore : Dict String (ActiveSessionCredential AuthorizedSessionScope))
  (cameraCredentialStore : CameraCredentials) (asksForCredentials : Bool)

/-- In every run with an enabled gate, each step is safe. -/
theorem safe_after
    (henabled : (IngestGate.configure expectedDeviceCount expectedDeviceIds).gateEnabled = true)
    (ops : List StreamsOp) :
    let s := Machine.after streamsStep (.configured
      (.configure expectedDeviceCount expectedDeviceIds) credentialStore cameraCredentialStore
      asksForCredentials) ops
    Owned (.configure expectedDeviceCount expectedDeviceIds) s ∧ Safe s := by
  refine Machine.invariant_after streamsStep
    (I := fun s => Owned (.configure expectedDeviceCount expectedDeviceIds) s ∧ Safe s) ⟨?_, ?_⟩
    (fun s op h => ⟨h.1.of_effect (streamsStep_effect s op),
      (h.2.of_effect h.1 (streamsStep_effect s op)).safe⟩) ops
  · exact owned_configured expectedDeviceCount expectedDeviceIds credentialStore
      cameraCredentialStore asksForCredentials
  · refine ⟨?_, fun stream hmem => by cases hmem⟩
    exact IngestGate.resetCollection_configure expectedDeviceCount expectedDeviceIds ▸
      IngestGate.guarded_resetCollection henabled

/-- While no other session takes over, the collection keeps its start, and once it is stopped
nothing is let through. -/
theorem goesOn_after {configured : IngestGate} {s : ServedStreams} (howned : Owned configured s)
    (hsafe : Safe s) {ops : List StreamsOp}
    (hnone : ∀ e : StreamsExchange, e ∈ Machine.history streamsStep s ops →
      ∀ captureSessionId, ¬ e.TakesOver captureSessionId) :
    (∀ start, s.service.gate.gateStartTimestampMs = some start →
      (Machine.after streamsStep s ops).service.gate.gateStartTimestampMs = some start) ∧
    (s.service.gate.collectionStopped = true →
      (Machine.after streamsStep s ops).service.gate.collectionStopped = true ∧
        ∀ e ∈ Machine.history streamsStep s ops, e.output = none) := by
  have heach : Machine.EachStep streamsStep (fun _ t op => ∀ captureSessionId,
      ¬ StreamsExchange.TakesOver (Machine.exchange streamsStep t op) captureSessionId) s ops := by
    refine Machine.eachStep_of_forall_history streamsStep fun e he => ?_
    obtain ⟨first, op, second, -, rfl⟩ := Machine.exists_split_of_mem_history streamsStep he
    exact hnone _ he
  refine (Machine.history_invariant_of streamsStep
    (I := fun past t => (Owned configured t ∧ Safe t) ∧
      (∀ start, s.service.gate.gateStartTimestampMs = some start →
        t.service.gate.gateStartTimestampMs = some start) ∧
      (s.service.gate.collectionStopped = true → t.service.gate.collectionStopped = true ∧
        ∀ e ∈ past, e.output = none))
    ⟨⟨howned, hsafe⟩, fun _ => id, fun hstopped => ⟨hstopped, fun e he => by cases he⟩⟩ ?_
    heach).2
  rintro past t op ⟨⟨hownedBefore, hsafeBefore⟩, hstart, hstopped⟩ hstays
  have heffect := streamsStep_effect t op
  have hstep := hsafeBefore.of_effect hownedBefore heffect
  have hgoes := hstep.course.resolve_left fun ⟨owner, captureSessionId, htakes⟩ =>
    hstays captureSessionId ⟨owner, htakes⟩
  refine ⟨⟨hownedBefore.of_effect heffect, hstep.safe⟩, fun start hset => ?_, fun hstop => ?_⟩
  · rcases hgoes.start with ⟨hsame, _⟩ | ⟨hnone, _⟩
    · exact hsame.trans (hstart start hset)
    · cases hnone.symm.trans (hstart start hset)
  · obtain ⟨hstopBefore, hquiet⟩ := hstopped hstop
    refine ⟨hgoes.stopped hstopBefore, fun e he => ?_⟩
    rcases List.mem_append.mp he with hpast | hlast
    · exact hquiet e hpast
    · rw [List.mem_singleton.mp hlast]
      refine Option.eq_none_iff_forall_not_mem.mpr fun frame hframe => ?_
      obtain ⟨_, hrunning, _⟩ := hstep.accepted frame hframe
      exact Bool.false_ne_true (hrunning.symm.trans hstopBefore)

/-- **The gate is safe.** Whatever order the streams take their steps in: while the gate is open
every expected device is there; what it lets through is of an expected device and not older than
the start of the collection, which has not been stopped; and the collection gets its start when
the gate opens, once, and stays stopped, until another session takes it over. -/
theorem gate_is_safe
    (henabled : (IngestGate.configure expectedDeviceCount expectedDeviceIds).gateEnabled = true)
    (ops : List StreamsOp) :
    let start := ServedStreams.configured
      (IngestGate.configure expectedDeviceCount expectedDeviceIds) credentialStore
      cameraCredentialStore asksForCredentials
    (∀ e : StreamsExchange, e ∈ Machine.history streamsStep start ops →
      (e.after.service.gate.gateOpen = true → e.after.service.gate.Complete) ∧
      (∀ frame, e.output = some frame → e.before.service.gate.LetsThrough frame) ∧
      ((∃ captureSessionId, e.TakesOver captureSessionId) ∨
        e.before.service.gate.GoesOn e.after.service.gate)) ∧
    ∀ first second, ops = first ++ second →
      (∀ e : StreamsExchange,
        e ∈ Machine.history streamsStep (Machine.after streamsStep start first) second →
          ∀ captureSessionId, ¬ e.TakesOver captureSessionId) →
      let before := (Machine.after streamsStep start first).service.gate
      let after := (Machine.after streamsStep start ops).service.gate
      (∀ startMs, before.gateStartTimestampMs = some startMs →
        after.gateStartTimestampMs = some startMs) ∧
      (before.collectionStopped = true → after.collectionStopped = true ∧
        ∀ e ∈ Machine.history streamsStep (Machine.after streamsStep start first) second,
          e.output = none) := by
  intro start
  have hsafe := safe_after credentialStore cameraCredentialStore asksForCredentials henabled
  refine ⟨fun e he => ?_, ?_⟩
  · obtain ⟨first, op, second, -, rfl⟩ := Machine.exists_split_of_mem_history streamsStep he
    obtain ⟨hownedBefore, hsafeBefore⟩ := hsafe first
    have hstep := hsafeBefore.of_effect hownedBefore
      (streamsStep_effect (Machine.after streamsStep start first) op)
    refine ⟨hstep.safe.guarded.complete, hstep.accepted, hstep.course.imp_left ?_⟩
    rintro ⟨owner, captureSessionId, htakes⟩
    exact ⟨captureSessionId, owner, htakes⟩
  · rintro first second rfl hnone before after
    obtain ⟨hownedBefore, hsafeBefore⟩ := hsafe first
    have hgoes := goesOn_after hownedBefore hsafeBefore hnone
    rw [← Machine.after_append] at hgoes
    exact hgoes

end Runs

/-- A packet of a device. -/
def deviceArrival (deviceId : String) (deviceTimestampMs : ℤ) : Arrival where
  packet :=
    { metadata := ⟨deviceId, deviceId, 1, deviceTimestampMs, "jpeg", none⟩
      jpeg := [255, 216]
      sessionScope := none }
  activity := .active
  now := 1000
  receivedAtMs := 1000000
  stores := true

/-- Two phones whose packets come in at the same time: the second opens the gate, and its next
packet is let through. -/
def twoPhones : List StreamsOp :=
  [.call .raised 0, .call .raised 0, .step 0 (.proceed 0), .step 1 (.proceed 0),
    .step 0 (.packet (deviceArrival "left" 10)), .step 1 (.packet (deviceArrival "right" 12)),
    .step 0 (.proceed 0), .step 1 (.proceed 0), .step 1 (.proceed 0), .step 0 (.proceed 0),
    .step 0 (.proceed 0), .step 1 (.proceed 0), .step 1 (.proceed 0),
    .step 1 (.packet (deviceArrival "right" 13)), .step 1 (.proceed 0), .step 1 (.proceed 0),
    .step 1 (.proceed 0), .step 1 (.proceed 0)]

theorem gate_is_safe_twoPhones :
    let start := ServedStreams.configured (IngestGate.configure (some 2) []) .empty .empty false
    ∀ e : StreamsExchange, e ∈ Machine.history streamsStep start twoPhones →
      (e.after.service.gate.gateOpen = true → 2 ≤ e.after.service.gate.activeDeviceIds.card) ∧
      ∀ frame, e.output = some frame → ∃ startMs,
        e.before.service.gate.gateStartTimestampMs = some startMs ∧ startMs ≤ frame.2 := by
  intro start e he
  obtain ⟨hcomplete, haccepted, _⟩ :=
    (gate_is_safe .empty .empty false (by decide) twoPhones).1 e he
  obtain ⟨first, op, second, -, rfl⟩ := Machine.exists_split_of_mem_history streamsStep he
  have howned := (owned_after (some 2) [] .empty .empty false (first ++ [op])).1
  rw [Machine.after_snoc] at howned
  refine ⟨fun hopen => ?_, fun frame hframe => (haccepted frame hframe).2.2.2⟩
  have hthere := hcomplete hopen
  unfold IngestGate.Complete at hthere
  rw [if_neg, Machine.exchange] at hthere
  · rwa [howned.expectedDeviceCount] at hthere
  · rw [Machine.exchange, howned.expectedDeviceIds]
    decide

end ImageStream
