/-
# Streams at the same time

Each stream runs `_stream_frames` in a thread of its own. What it does to the gate it does under
the gate lock, one operation at a time, and between two of them other streams may do theirs. A
stream is here in some phase of `_stream_frames`, and a step takes one stream to its next phase
with at most one operation on the gate.

`StreamEffect` says once what a step can do. A stream counts for the collection while it is
inside, from its acquisition to its release, and its devices count while it is open.
-/

import ImageStream.Base.Machine
import ImageStream.Grpc.Stream

namespace ImageStream

open Base

/-- Where a stream is in `_stream_frames`. -/
inductive StreamPhase where
  /-- Its credential, if the service asks for one, is verified and registered next. -/
  | presenting (opening : Opening)
  | acquiring (scope : AuthorizationScope)
  /-- It waits for the next packet. -/
  | reading
  | numbering (arrival : Arrival)
  | marking (arrival : Arrival) (serverReceiveSequence : ℕ)
  | recording (arrival : Arrival) (serverReceiveSequence : ℕ)
  | deciding (arrival : Arrival) (serverReceiveSequence : ℕ)
  | storing (arrival : Arrival) (serverReceiveSequence : ℕ)
  /-- It is in the `finally` block. -/
  | closing (ending : StreamEnding)
  | releasing (ending : StreamEnding)
  | ended (ending : StreamEnding)

namespace StreamPhase

/-- Whether the stream has been admitted and not been released. -/
def isInside : StreamPhase → Bool
  | presenting _ | acquiring _ | ended _ => false
  | _ => true

/-- Whether the stream has been admitted and its devices have not been closed. -/
def isOpen : StreamPhase → Bool
  | presenting _ | acquiring _ | releasing _ | ended _ => false
  | _ => true

/-- Whether the stream is in the loop over its packets. -/
def isLooping : StreamPhase → Bool
  | presenting _ | acquiring _ | closing _ | releasing _ | ended _ => false
  | _ => true

theorem isOpen_of_isLooping {phase : StreamPhase} (h : phase.isLooping = true) :
    phase.isOpen = true := by
  cases phase <;> first | rfl | cases h

theorem isInside_of_isOpen {phase : StreamPhase} (h : phase.isOpen = true) :
    phase.isInside = true := by
  cases phase <;> first | rfl | cases h

end StreamPhase

/-- A call of `_stream_frames`, with its variables. -/
structure IngestStream where
  phase : StreamPhase
  authorization : Option AuthorizationScope := none
  streamDeviceIds : List String := []
  receivedFrames : ℕ := 0
  ingested : List IngestCall := []

/-- What a stream goes on with. -/
inductive StreamInput where
  /-- The next packet has come. -/
  | packet (arrival : Arrival)
  | packetsEnd
  /-- Waiting for a packet raises, or what is done between two operations. -/
  | raised
  /-- The next operation, with the clock at that moment. -/
  | proceed (nowMs : ℤ)

/-- The device and the time of a packet that the gate has let through. -/
abbrev AcceptedFrame := String × ℤ

namespace IngestStream

variable (service : GrpcIngestService) (stream : IngestStream)

/-- What the functions for a stream work on. -/
def state : StreamState where
  gate := service.gate
  cameraCredentials := service.cameraCredentialStore
  streamDeviceIds := stream.streamDeviceIds
  receivedFrames := stream.receivedFrames
  ingested := stream.ingested

def moveTo (phase : StreamPhase) : IngestStream := { stream with phase := phase }

def closeWith (reason : StreamBreak) : IngestStream := stream.moveTo (.closing (.broken reason))

/-- Verify the credential and register it, if the service asks for one. -/
def present (opening : Opening) : GrpcIngestService × IngestStream :=
  let unauthenticated := StreamBreak.aborted .unauthenticated
    "valid Main session credentials are required"
  match opening.verification with
  | none => (service, stream.moveTo .reading)
  | some (.refused _) => (service, stream.moveTo (.ended (.broken unauthenticated)))
  | some .raised => (service, stream.moveTo (.ended (.broken .raised)))
  | some (.accepted token scope) =>
      match service.registerCredential opening.now token scope with
      | (registered, some _) =>
          (registered, stream.moveTo (.ended (.broken unauthenticated)))
      | (registered, none) => (registered, stream.moveTo (.acquiring scope))

def acquire (scope : AuthorizationScope) : GrpcIngestService × IngestStream :=
  match service.gate.acquireAuthorizedCollection scope.captureSessionId with
  | none =>
      (service, stream.moveTo (.ended (.broken (.aborted .failedPrecondition
        "another capture session owns the ingest collection"))))
  | some gate =>
      ({ service with gate := gate },
        { stream.moveTo .reading with authorization := some scope })

/-- The credential of the stream has to be current for each packet. -/
def check (arrival : Arrival) : GrpcIngestService × IngestStream :=
  match (stream.state service).assertAuthorized stream.authorization arrival with
  | (checked, some reason) =>
      ({ service with cameraCredentialStore := checked.cameraCredentials },
        stream.closeWith reason)
  | (checked, none) =>
      ({ service with cameraCredentialStore := checked.cameraCredentials },
        stream.moveTo (.numbering arrival))

def number (arrival : Arrival) : GrpcIngestService × IngestStream :=
  let gate := service.gate.nextServerReceiveSequence
  match (stream.state service).refusal stream.authorization arrival.packet with
  | some reason => ({ service with gate := gate }, stream.closeWith reason)
  | none =>
      ({ service with gate := gate },
        stream.moveTo (.marking arrival gate.serverReceiveSequence))

def mark (arrival : Arrival) (serverReceiveSequence : ℕ) : GrpcIngestService × IngestStream :=
  let deviceId := arrival.packet.metadata.internalDeviceId
  if deviceId ∈ stream.streamDeviceIds then
    (service, stream.moveTo (.recording arrival serverReceiveSequence))
  else
    ({ service with gate := service.gate.markDeviceActive deviceId },
      { stream.moveTo (.recording arrival serverReceiveSequence) with
        streamDeviceIds := stream.streamDeviceIds ++ [deviceId] })

def record (arrival : Arrival) (serverReceiveSequence : ℕ) : GrpcIngestService × IngestStream :=
  ({ service with
      gate := service.gate.recordDeviceTimestamp arrival.packet.metadata.internalDeviceId
        arrival.packet.metadata.deviceTimestampMs },
    stream.moveTo (.deciding arrival serverReceiveSequence))

/-- The gate lets the packet through or drops it. -/
def allow (arrival : Arrival) (serverReceiveSequence : ℕ) :
    GrpcIngestService × IngestStream × Option AcceptedFrame :=
  let metadata := arrival.packet.metadata
  match service.gate.allowIngest metadata.internalDeviceId metadata.deviceTimestampMs with
  | (gate, false) => ({ service with gate := gate }, stream.moveTo .reading, none)
  | (gate, true) =>
      ({ service with gate := gate }, stream.moveTo (.storing arrival serverReceiveSequence),
        some (metadata.internalDeviceId, metadata.deviceTimestampMs))

/-- Store the packet, with the number that it has got. -/
def store (arrival : Arrival) (serverReceiveSequence : ℕ) : IngestStream :=
  let call := { (stream.state service).ingestCall stream.authorization arrival with
    serverReceiveSequence := serverReceiveSequence }
  let tried := { stream with ingested := stream.ingested ++ [call] }
  if arrival.stores then
    { tried.moveTo .reading with receivedFrames := tried.receivedFrames + 1 }
  else tried.closeWith .raised

def close (ending : StreamEnding) (closedAtMs : ℤ) : GrpcIngestService × IngestStream :=
  ({ service with gate := service.gate.markStreamClosed stream.streamDeviceIds closedAtMs },
    stream.moveTo (.releasing ending))

def release (ending : StreamEnding) : GrpcIngestService × IngestStream :=
  match stream.authorization with
  | none => (service, stream.moveTo (.ended ending))
  | some scope =>
      ({ service with
          gate := service.gate.releaseAuthorizedCollection scope.captureSessionId },
        stream.moveTo (.ended ending))

/-- The next operation of a stream that does not wait for a packet. -/
def proceed (nowMs : ℤ) : GrpcIngestService × IngestStream × Option AcceptedFrame :=
  let quietly := fun (left : GrpcIngestService × IngestStream) => (left.1, left.2, none)
  match stream.phase with
  | .presenting opening => quietly (stream.present service opening)
  | .acquiring scope => quietly (stream.acquire service scope)
  | .numbering arrival => quietly (stream.number service arrival)
  | .marking arrival n => quietly (stream.mark service arrival n)
  | .recording arrival n => quietly (stream.record service arrival n)
  | .deciding arrival n => stream.allow service arrival n
  | .storing arrival n => quietly (service, stream.store service arrival n)
  | .closing ending => quietly (stream.close service ending nowMs)
  | .releasing ending => quietly (stream.release service ending)
  | .reading | .ended _ => quietly (service, stream)

/-- One step of a stream, with the frame that it lets through, if it does. -/
def step (input : StreamInput) : GrpcIngestService × IngestStream × Option AcceptedFrame :=
  match input, stream.phase with
  | .proceed nowMs, _ => stream.proceed service nowMs
  | .packet arrival, .reading =>
      ((stream.check service arrival).1, (stream.check service arrival).2, none)
  | .packetsEnd, .reading =>
      (service, stream.moveTo (.closing (.completed stream.receivedFrames)), none)
  | .raised, phase =>
      (service, if phase.isLooping then stream.closeWith .raised else stream, none)
  | _, _ => (service, stream, none)

/-! ## What a step can do -/

/-- What a stream has so far, in a service that asks for credentials or not. -/
def Admitted (asksForCredentials : Bool) (stream : IngestStream) : Prop :=
  match stream.phase with
  | .presenting opening => opening.verification.isSome = asksForCredentials ∧
      stream.authorization = none ∧ stream.streamDeviceIds = []
  | .acquiring _ => asksForCredentials = true ∧
      stream.authorization = none ∧ stream.streamDeviceIds = []
  | .ended _ => True
  | _ => stream.authorization.isSome = asksForCredentials ∧ stream.streamDeviceIds.Nodup

theorem admitted_iff_of_isInside {asksForCredentials : Bool} {stream : IngestStream}
    (h : stream.phase.isInside = true) : stream.Admitted asksForCredentials ↔
      stream.authorization.isSome = asksForCredentials ∧ stream.streamDeviceIds.Nodup := by
  unfold Admitted
  cases hphase : stream.phase <;> rw [hphase] at h <;> first | rfl | cases h

/-- A stream is not between counting a packet's device and the gate's decision. -/
def Rests (stream : IngestStream) : Prop :=
  match stream.phase with
  | .recording _ _ | .deciding _ _ => False
  | _ => True

end IngestStream

open IngestStream in
/-- What a step of a stream does to the service, and where it leaves the stream. -/
inductive StreamEffect (service : GrpcIngestService) (stream : IngestStream) :
    GrpcIngestService → IngestStream → Option AcceptedFrame → Prop
  | idle : StreamEffect service stream service stream none
  /-- Nothing is done under the gate lock, and the stream stays inside or outside. -/
  | apart {service' : GrpcIngestService} {stream' : IngestStream}
      (gate : service'.gate = service.gate)
      (inside : stream'.phase.isInside = stream.phase.isInside)
      (isOpen : stream'.phase.isOpen = stream.phase.isOpen)
      (authorization : stream'.authorization = stream.authorization)
      (devices : stream'.streamDeviceIds = stream.streamDeviceIds) (rests : stream'.Rests)
      (admitted : ∀ asksForCredentials, stream'.phase.isInside = false →
        stream.Admitted asksForCredentials → stream'.Admitted asksForCredentials) :
      StreamEffect service stream service' stream' none
  | entered (opening : Opening) (was : stream.phase = .presenting opening)
      (unasked : opening.verification = none) :
      StreamEffect service stream service (stream.moveTo .reading) none
  | acquired (scope : AuthorizationScope) (gate : IngestGate)
      (was : stream.phase = .acquiring scope)
      (acquires : service.gate.acquireAuthorizedCollection scope.captureSessionId = some gate) :
      StreamEffect service stream { service with gate := gate }
        { stream.moveTo .reading with authorization := some scope } none
  | numbered {phase : StreamPhase} (was : stream.phase.isOpen = true) (isOpen : phase.isOpen = true)
      (rests : (stream.moveTo phase).Rests) :
      StreamEffect service stream
        { service with gate := service.gate.nextServerReceiveSequence } (stream.moveTo phase) none
  | marked (arrival : Arrival) (n : ℕ) (was : stream.phase = .marking arrival n)
      (fresh : arrival.packet.metadata.internalDeviceId ∉ stream.streamDeviceIds) :
      StreamEffect service stream
        { service with
          gate := service.gate.markDeviceActive arrival.packet.metadata.internalDeviceId }
        { stream.moveTo (.recording arrival n) with
          streamDeviceIds := stream.streamDeviceIds ++ [arrival.packet.metadata.internalDeviceId] }
        none
  | known (arrival : Arrival) (n : ℕ) (was : stream.phase = .marking arrival n)
      (mem : arrival.packet.metadata.internalDeviceId ∈ stream.streamDeviceIds) :
      StreamEffect service stream service (stream.moveTo (.recording arrival n)) none
  | recorded (arrival : Arrival) (n : ℕ) (was : stream.phase = .recording arrival n) :
      StreamEffect service stream
        { service with
          gate := service.gate.recordDeviceTimestamp arrival.packet.metadata.internalDeviceId
            arrival.packet.metadata.deviceTimestampMs }
        (stream.moveTo (.deciding arrival n)) none
  | decided (arrival : Arrival) (n : ℕ) (gate : IngestGate) (allowed : Bool)
      (was : stream.phase = .deciding arrival n)
      (decides : service.gate.allowIngest arrival.packet.metadata.internalDeviceId
        arrival.packet.metadata.deviceTimestampMs = (gate, allowed)) :
      StreamEffect service stream { service with gate := gate }
        (stream.moveTo (if allowed then .storing arrival n else .reading))
        (if allowed then some (arrival.packet.metadata.internalDeviceId,
          arrival.packet.metadata.deviceTimestampMs) else none)
  | closed (ending : StreamEnding) (closedAtMs : ℤ) (was : stream.phase = .closing ending) :
      StreamEffect service stream
        { service with gate := service.gate.markStreamClosed stream.streamDeviceIds closedAtMs }
        (stream.moveTo (.releasing ending)) none
  | released (ending : StreamEnding) (scope : AuthorizationScope)
      (was : stream.phase = .releasing ending) (authorized : stream.authorization = some scope) :
      StreamEffect service stream
        { service with gate := service.gate.releaseAuthorizedCollection scope.captureSessionId }
        (stream.moveTo (.ended ending)) none
  /-- A stream without a credential has nothing to release. -/
  | left (ending : StreamEnding) (was : stream.phase = .releasing ending)
      (unauthorized : stream.authorization = none) :
      StreamEffect service stream service (stream.moveTo (.ended ending)) none

namespace IngestStream

variable (service : GrpcIngestService) (stream : IngestStream)

/-- Registering a credential does not touch the gate. -/
theorem gate_registerCredential (now : ℚ) (token : String) (scope : AuthorizationScope) :
    (service.registerCredential now token scope).1.gate = service.gate := by
  cases scope <;> rfl

theorem present_effect {opening : Opening} (hphase : stream.phase = .presenting opening) :
    StreamEffect service stream (stream.present service opening).1
      (stream.present service opening).2 none := by
  have hgate := gate_registerCredential service opening.now
  unfold present
  cases hverification : opening.verification with
  | none => exact .entered opening hphase hverification
  | some verification =>
      cases verification with
      | refused reason =>
          exact .apart rfl (by rw [hphase]; rfl) (by rw [hphase]; rfl) rfl rfl trivial
            fun _ _ _ => trivial
      | raised =>
          exact .apart rfl (by rw [hphase]; rfl) (by rw [hphase]; rfl) rfl rfl trivial
            fun _ _ _ => trivial
      | accepted token scope =>
          have hsame := hgate token scope
          dsimp only
          generalize service.registerCredential opening.now token scope = registered at hsame ⊢
          obtain ⟨registered, reason⟩ := registered
          cases reason with
          | some reason =>
              exact .apart hsame (by rw [hphase]; rfl) (by rw [hphase]; rfl) rfl rfl trivial
                fun _ _ _ => trivial
          | none =>
              refine .apart hsame (by rw [hphase]; rfl) (by rw [hphase]; rfl) rfl rfl trivial ?_
              intro asksForCredentials _ hadmitted
              unfold Admitted at hadmitted
              rw [hphase] at hadmitted
              dsimp only at hadmitted
              rw [hverification] at hadmitted
              exact ⟨hadmitted.1.symm, hadmitted.2⟩

theorem acquire_effect {scope : AuthorizationScope} (hphase : stream.phase = .acquiring scope) :
    StreamEffect service stream (stream.acquire service scope).1
      (stream.acquire service scope).2 none := by
  unfold acquire
  cases hacquires : service.gate.acquireAuthorizedCollection scope.captureSessionId with
  | none =>
      exact .apart rfl (by rw [hphase]; rfl) (by rw [hphase]; rfl) rfl rfl trivial
        fun _ _ _ => trivial
  | some gate => exact .acquired scope gate hphase hacquires

theorem check_effect (hphase : stream.phase = .reading) (arrival : Arrival) :
    StreamEffect service stream (stream.check service arrival).1
      (stream.check service arrival).2 none := by
  unfold check
  generalize (stream.state service).assertAuthorized stream.authorization arrival = checked
  obtain ⟨checked, reason⟩ := checked
  cases reason <;> exact .apart rfl (by rw [hphase]; rfl) (by rw [hphase]; rfl) rfl rfl trivial
    fun _ houtside _ => by cases houtside

theorem number_effect {arrival : Arrival} (hphase : stream.phase = .numbering arrival) :
    StreamEffect service stream (stream.number service arrival).1
      (stream.number service arrival).2 none := by
  have hopen : stream.phase.isOpen = true := by
    rw [hphase]
    rfl
  unfold number
  cases (stream.state service).refusal stream.authorization arrival.packet with
  | none => exact .numbered hopen rfl trivial
  | some reason => exact .numbered hopen rfl trivial

theorem mark_effect {arrival : Arrival} {n : ℕ} (hphase : stream.phase = .marking arrival n) :
    StreamEffect service stream (stream.mark service arrival n).1
      (stream.mark service arrival n).2 none := by
  unfold mark
  dsimp only
  split
  · rename_i hmem
    exact .known arrival n hphase hmem
  · rename_i hfresh
    exact .marked arrival n hphase hfresh

theorem allow_effect {arrival : Arrival} {n : ℕ} (hphase : stream.phase = .deciding arrival n) :
    StreamEffect service stream (stream.allow service arrival n).1
      (stream.allow service arrival n).2.1 (stream.allow service arrival n).2.2 := by
  unfold allow
  dsimp only
  cases hdecides : service.gate.allowIngest arrival.packet.metadata.internalDeviceId
      arrival.packet.metadata.deviceTimestampMs with
  | mk gate allowed =>
      cases allowed with
      | false => exact .decided arrival n gate false hphase hdecides
      | true => exact .decided arrival n gate true hphase hdecides

theorem store_effect {arrival : Arrival} {n : ℕ} (hphase : stream.phase = .storing arrival n) :
    StreamEffect service stream service (stream.store service arrival n) none := by
  unfold store
  dsimp only
  split <;> exact .apart rfl (by rw [hphase]; rfl) (by rw [hphase]; rfl) rfl rfl trivial
    fun _ houtside _ => by cases houtside

theorem release_effect {ending : StreamEnding} (hphase : stream.phase = .releasing ending) :
    StreamEffect service stream (stream.release service ending).1
      (stream.release service ending).2 none := by
  unfold release
  cases hauthorization : stream.authorization with
  | none => exact .left ending hphase hauthorization
  | some scope => exact .released ending scope hphase hauthorization

theorem proceed_effect (nowMs : ℤ) :
    StreamEffect service stream (stream.proceed service nowMs).1 (stream.proceed service nowMs).2.1
      (stream.proceed service nowMs).2.2 := by
  unfold proceed
  dsimp only
  cases hphase : stream.phase with
  | presenting opening => exact present_effect service stream hphase
  | acquiring scope => exact acquire_effect service stream hphase
  | reading => exact .idle
  | numbering arrival => exact number_effect service stream hphase
  | marking arrival n => exact mark_effect service stream hphase
  | recording arrival n => exact .recorded arrival n hphase
  | deciding arrival n => exact allow_effect service stream hphase
  | storing arrival n => exact store_effect service stream hphase
  | closing ending => exact .closed ending nowMs hphase
  | releasing ending => exact release_effect service stream hphase
  | ended ending => exact .idle

/-- Leaving the loop does nothing to the gate. -/
theorem leave_effect (hopen : stream.phase.isOpen = true) (ending : StreamEnding) :
    StreamEffect service stream service (stream.moveTo (.closing ending)) none :=
  .apart rfl (StreamPhase.isInside_of_isOpen hopen).symm hopen.symm rfl rfl trivial
    fun _ houtside _ => by cases houtside

/-- **What one step of a stream does.** -/
theorem step_effect (input : StreamInput) :
    StreamEffect service stream (stream.step service input).1 (stream.step service input).2.1
      (stream.step service input).2.2 := by
  cases input with
  | proceed nowMs => exact proceed_effect service stream nowMs
  | packet arrival =>
      cases hphase : stream.phase with
      | reading =>
          unfold step
          rw [hphase]
          exact check_effect service stream hphase arrival
      | _ =>
          unfold step
          rw [hphase]
          exact .idle
  | packetsEnd =>
      cases hphase : stream.phase with
      | reading =>
          unfold step
          rw [hphase]
          exact leave_effect service stream (by rw [hphase]; rfl) _
      | _ =>
          unfold step
          rw [hphase]
          exact .idle
  | raised =>
      unfold step
      dsimp only
      split
      · rename_i hlooping
        exact leave_effect service stream (StreamPhase.isOpen_of_isLooping hlooping) _
      · exact .idle

end IngestStream

/-! ## All streams -/

/-- A service with its streams, in the order of their calls. It asks for credentials or not. -/
structure ServedStreams where
  service : GrpcIngestService
  asksForCredentials : Bool
  streams : List IngestStream := []

inductive StreamsOp where
  /-- `_stream_frames` is called; what the verifier makes of the credential counts if it is
  asked. -/
  | call (verification : Verification) (now : ℚ)
  | step (stream : ℕ) (input : StreamInput)

abbrev StreamsExchange : Type := Exchange ServedStreams StreamsOp (Option AcceptedFrame)

namespace ServedStreams

def calledStream (s : ServedStreams) (verification : Verification) (now : ℚ) : IngestStream where
  phase := .presenting
    { verification := if s.asksForCredentials then some verification else none, now := now }

end ServedStreams

/-- A new call, or one step of a stream. -/
def streamsStep (s : ServedStreams) : StreamsOp → ServedStreams × Option AcceptedFrame
  | .call verification now =>
      ({ s with streams := s.streams ++ [s.calledStream verification now] }, none)
  | .step i input =>
      match s.streams[i]? with
      | none => (s, none)
      | some stream =>
          match stream.step s.service input with
          | (service, stepped, accepted) =>
              ({ s with service := service, streams := s.streams.set i stepped }, accepted)

/-- What an operation does to a service with its streams. -/
inductive StreamsEffect (s : ServedStreams) :
    StreamsOp → ServedStreams → Option AcceptedFrame → Prop
  | called (verification : Verification) (now : ℚ) :
      StreamsEffect s (.call verification now)
        { s with streams := s.streams ++ [s.calledStream verification now] } none
  | absent (i : ℕ) (input : StreamInput) : StreamsEffect s (.step i input) s none
  | stepped (i : ℕ) (input : StreamInput) {stream stream' : IngestStream}
      {service : GrpcIngestService} {accepted : Option AcceptedFrame}
      (found : s.streams[i]? = some stream)
      (effect : StreamEffect s.service stream service stream' accepted) :
      StreamsEffect s (.step i input)
        { s with service := service, streams := s.streams.set i stream' } accepted

theorem streamsStep_effect (s : ServedStreams) (op : StreamsOp) :
    StreamsEffect s op (streamsStep s op).1 (streamsStep s op).2 := by
  cases op with
  | call verification now => exact .called verification now
  | step i input =>
      cases hfound : s.streams[i]? with
      | none =>
          unfold streamsStep
          dsimp only
          rw [hfound]
          exact .absent i input
      | some stream =>
          unfold streamsStep
          dsimp only
          rw [hfound]
          exact .stepped i input hfound (stream.step_effect s.service input)

end ImageStream
