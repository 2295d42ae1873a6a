/-
# Packets outside the scope

A packet outside the scope of its credential is refused before its device and its time count.
Taking it changes the number of the last packet and nothing else that closing the stream works
on, and closing does not look at that number. So a stream that ends with such a packet leaves
the gate as the same stream without it does.
-/

import ImageStream.Grpc.Stream

namespace ImageStream

open Base

namespace StreamState

/-- Whether two states of a stream have the same devices and the same stored packets, and gates
that agree in all but the number of the last packet. -/
structure SameWork (s t : StreamState) : Prop where
  gate : s.gate.AgreesExceptSequence t.gate
  streamDeviceIds : t.streamDeviceIds = s.streamDeviceIds
  ingested : t.ingested = s.ingested

theorem SameWork.refl (s : StreamState) : s.SameWork s :=
  ⟨.refl s.gate, rfl, rfl⟩

/-- Asking for the credential can only drop it from its store. -/
theorem assertAuthorized_fst (s : StreamState) (authorization : Option AuthorizationScope)
    (arrival : Arrival) :
    ∃ credentials, (s.assertAuthorized authorization arrival).1 =
      { s with cameraCredentials := credentials } := by
  unfold assertAuthorized
  cases authorization with
  | none => exact ⟨s.cameraCredentials, rfl⟩
  | some scope =>
      cases arrival.activity with
      | refused reason => exact ⟨s.cameraCredentials, rfl⟩
      | raised => exact ⟨s.cameraCredentials, rfl⟩
      | active =>
          cases scope with
          | session scope => exact ⟨s.cameraCredentials, rfl⟩
          | camera scope =>
              exact ⟨(ActiveCameraIngestCredentialStore.assertCurrent s.cameraCredentials
                arrival.now scope).1, rfl⟩

theorem sameWork_assertAuthorized (s : StreamState) (authorization : Option AuthorizationScope)
    (arrival : Arrival) : s.SameWork (s.assertAuthorized authorization arrival).1 := by
  obtain ⟨credentials, hchecked⟩ := s.assertAuthorized_fst authorization arrival
  rw [hchecked]
  exact ⟨.refl s.gate, rfl, rfl⟩

theorem SameWork.numberPacket {s t : StreamState} (h : s.SameWork t) :
    s.SameWork t.numberPacket where
  gate := by
    have hnumbered : t.gate.nextServerReceiveSequence =
        t.gate.atSequence (t.gate.serverReceiveSequence + 1) := rfl
    rw [StreamState.numberPacket, hnumbered, h.gate]
    rfl
  streamDeviceIds := h.streamDeviceIds
  ingested := h.ingested

/-- A packet outside the scope is refused, for its scope if for nothing else. -/
theorem refusal_of_excludes (s : StreamState) {scope : AuthorizationScope} {packet : FramePacket}
    (h : scope.Excludes packet) : ∃ reason, s.refusal (some scope) packet = some reason := by
  rw [scope.excludes_iff] at h
  unfold refusal
  split
  case isTrue => exact ⟨_, rfl⟩
  case isFalse =>
    split
    case isTrue => exact ⟨_, rfl⟩
    case isFalse =>
      rw [Option.any_some, h]
      exact ⟨_, rfl⟩

/-- A packet outside the scope ends the stream, whose work it leaves alone. -/
theorem takePacket_of_excludes {scope : AuthorizationScope} {arrival : Arrival}
    (h : scope.Excludes arrival.packet) (s : StreamState) :
    ∃ t reason, takePacket (some scope) s arrival = .leave t reason ∧ s.SameWork t := by
  have hchecked := s.sameWork_assertAuthorized (some scope) arrival
  unfold takePacket
  cases hassert : s.assertAuthorized (some scope) arrival with
  | mk checked inactive =>
      rw [hassert] at hchecked
      cases inactive with
      | some reason => exact ⟨checked, reason, rfl, hchecked⟩
      | none =>
          obtain ⟨reason, hrefused⟩ := checked.numberPacket.refusal_of_excludes h
          refine ⟨checked.numberPacket, reason, ?_, hchecked.numberPacket⟩
          simp only [hrefused]

end StreamState

namespace GrpcIngestService

/-- Closing two streams that have the same work leaves gates that agree. -/
theorem closeStream_agrees {s t : StreamState} (h : s.SameWork t)
    (authorization : Option AuthorizationScope) (closedAtMs : ℤ) :
    (closeStream s.gate authorization s.streamDeviceIds closedAtMs).AgreesExceptSequence
      (closeStream t.gate authorization t.streamDeviceIds closedAtMs) := by
  rw [h.streamDeviceIds]
  have hclosed := h.gate.map (f := fun gate => gate.markStreamClosed s.streamDeviceIds closedAtMs)
    (IngestGate.markStreamClosed_atSequence s.streamDeviceIds closedAtMs)
  cases authorization with
  | none => exact hclosed
  | some scope =>
      exact hclosed.map (f := fun gate => gate.releaseAuthorizedCollection scope.captureSessionId)
        (IngestGate.releaseAuthorizedCollection_atSequence scope.captureSessionId)

/-- A stream with a packet outside its scope does what the stream up to that packet does, but it
does not complete. -/
theorem serve_of_excludes (service : GrpcIngestService) {scope : AuthorizationScope}
    {rejected : Arrival} (h : scope.Excludes rejected.packet) (earlier later : List Arrival)
    (closedAtMs : ℤ) :
    let run := service.serve (some scope) (earlier ++ rejected :: later) closedAtMs
    let closed := service.serve (some scope) earlier closedAtMs
    (∀ receivedFrames, run.ending ≠ .completed receivedFrames) ∧
      run.ingested = closed.ingested ∧
        closed.service.gate.AgreesExceptSequence run.service.gate := by
  have hrun := rounds_append_of_leaves StreamState.SameWork.refl
    (StreamState.takePacket_of_excludes h) service.openStream earlier later
  have hwork := hrun.2
  simp only [serve]
  refine ⟨?_, hwork.ingested, closeStream_agrees hwork (some scope) closedAtMs⟩
  intro receivedFrames
  cases hleft : (rounds (StreamState.takePacket (some scope)) service.openStream
      (earlier ++ rejected :: later)).2 with
  | none => exact absurd hleft hrun.1
  | some reason => exact nofun

/-- A stream is admitted with the scope that the verifier has accepted. -/
theorem authorization_of_admitStream (service : GrpcIngestService) {opening : Opening}
    {token : String} {scope : AuthorizationScope}
    (hopening : opening.verification = some (.accepted token scope))
    {admitted : GrpcIngestService} {authorization : Option AuthorizationScope}
    (h : service.admitStream opening = (admitted, .ok authorization)) :
    authorization = some scope := by
  simp only [admitStream, hopening] at h
  cases hregistered : service.registerCredential opening.now token scope with
  | mk registered conflict =>
      simp only [hregistered] at h
      cases conflict with
      | some reason => cases h
      | none =>
          simp only at h
          cases hacquired : registered.gate.acquireAuthorizedCollection scope.captureSessionId with
          | none =>
              rw [hacquired] at h
              cases h
          | some gate =>
              rw [hacquired] at h
              cases h
              rfl

/-- A packet outside the scope of the stream's credential ends the stream. Nothing of it or
after it is stored, and it leaves the gate as closing the stream before it does, but for the
number of the last packet. -/
theorem excluded_packet_leaves_gate (service : GrpcIngestService) {opening : Opening}
    {token : String} {scope : AuthorizationScope}
    (hopening : opening.verification = some (.accepted token scope)) {rejected : Arrival}
    (h : scope.Excludes rejected.packet) (earlier later : List Arrival) (closedAtMs : ℤ) :
    let run := service.streamFrames opening (earlier ++ rejected :: later) closedAtMs
    let closed := service.streamFrames opening earlier closedAtMs
    (∀ receivedFrames, run.ending ≠ .completed receivedFrames) ∧
      run.ingested = closed.ingested ∧
        closed.service.gate.AgreesExceptSequence run.service.gate := by
  unfold streamFrames
  cases hadmitted : service.admitStream opening with
  | mk admitted answer =>
      cases answer with
      | error reason => exact ⟨nofun, rfl, .refl admitted.gate⟩
      | ok authorization =>
          have hauthorization := service.authorization_of_admitStream hopening hadmitted
          rw [hauthorization]
          exact admitted.serve_of_excludes h earlier later closedAtMs

/-- The credential of one phone. -/
def androidScope : AuthorizedCameraIngestScope where
  tenantId := "tenant"
  siteId := "site"
  captureSessionId := "session"
  processingJobId := "job"
  profileDigest := "digest"
  cameraClaimId := "claim"
  cameraId := "camera-1"
  deviceId := "android-1"
  authorizedSubject := "subject"
  tokenJti := "jti"
  issuedAt := 900
  expiresAt := 2000

/-- A packet of that phone, with the scope that it declares. -/
def androidArrival (deviceTimestampMs : ℤ) (sessionScope : Option SessionScope) : Arrival where
  packet :=
    { metadata := ⟨"camera-1", "android-1", 1, deviceTimestampMs, "jpeg", none⟩
      jpeg := [255, 216]
      sessionScope := sessionScope }
  activity := .active
  now := 1000
  receivedAtMs := 1000000
  stores := true

theorem excluded_packet_leaves_gate_undeclared :
    let service : GrpcIngestService :=
      ⟨IngestGate.configure none ["android-1"], .empty, .empty⟩
    let opening : Opening := ⟨some (.accepted "token" (.camera androidScope)), 1000⟩
    let earlier := [androidArrival 1000 (some androidScope.declared)]
    let rejected := androidArrival 999999999 none
    let run := service.streamFrames opening (earlier ++ rejected :: []) 1000001
    let closed := service.streamFrames opening earlier 1000001
    closed.ingested.length = 1 ∧
      run.ending = .broken (.aborted .permissionDenied
        "frame scope does not match Main session credentials") ∧
        (∀ receivedFrames, run.ending ≠ .completed receivedFrames) ∧
          run.ingested = closed.ingested ∧
            closed.service.gate.AgreesExceptSequence run.service.gate :=
  ⟨by decide +kernel, by decide +kernel,
    excluded_packet_leaves_gate _ rfl
      (.inl (by decide)) _ [] _⟩

end GrpcIngestService

end ImageStream
