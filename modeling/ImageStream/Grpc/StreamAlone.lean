/-
# A stream that is alone

`streamFrames` takes a stream from its credential to its end without a pause. The streams of a
service take their steps in any order, so one of them may take all of its steps before another
takes one. What it leaves then is what `streamFrames` says.
-/

import ImageStream.Grpc.Streams

namespace ImageStream

open Base

namespace IngestStream

/-- The steps of one stream, with no others in between. -/
def run : GrpcIngestService × IngestStream → List StreamInput → GrpcIngestService × IngestStream
  | left, [] => left
  | (service, stream), input :: inputs =>
      run ((stream.step service input).1, (stream.step service input).2.1) inputs

/-- A stream can go from one place to another by itself. -/
def Runs (source target : GrpcIngestService × IngestStream) : Prop :=
  ∃ inputs, run source inputs = target

theorem run_append (source : GrpcIngestService × IngestStream) (first second : List StreamInput) :
    run source (first ++ second) = run (run source first) second := by
  induction first generalizing source with
  | nil => rfl
  | cons input inputs ih => exact ih _

theorem Runs.refl (source : GrpcIngestService × IngestStream) : Runs source source := ⟨[], rfl⟩

theorem Runs.trans {first second third : GrpcIngestService × IngestStream}
    (h : Runs first second) (h' : Runs second third) : Runs first third := by
  obtain ⟨inputs, rfl⟩ := h
  obtain ⟨inputs', rfl⟩ := h'
  exact ⟨inputs ++ inputs', run_append first inputs inputs'⟩

theorem Runs.step (service : GrpcIngestService) (stream : IngestStream) (input : StreamInput) :
    Runs (service, stream)
      ((stream.step service input).1, (stream.step service input).2.1) :=
  ⟨[input], rfl⟩

/-! ## The loop -/

section Loop

variable (credentialStore : Dict String (ActiveSessionCredential AuthorizedSessionScope))
  (authorization : Option AuthorizationScope)

/-- A stream in some phase, and the service, as the functions for a stream see them. -/
def standing (phase : StreamPhase) (s : StreamState) : GrpcIngestService × IngestStream :=
  ({ gate := s.gate
     credentialStore := credentialStore
     cameraCredentialStore := s.cameraCredentials },
   { phase := phase
     authorization := authorization
     streamDeviceIds := s.streamDeviceIds
     receivedFrames := s.receivedFrames
     ingested := s.ingested })

variable {credentialStore authorization} {s : StreamState} {arrival : Arrival} {n : ℕ}

/-- A step that is known takes the stream on. -/
theorem runs_of_step {phase phase' : StreamPhase} {s' : StreamState} {input : StreamInput}
    {accepted : Option AcceptedFrame}
    (h : (standing credentialStore authorization phase s).2.step
      (standing credentialStore authorization phase s).1 input =
        ((standing credentialStore authorization phase' s').1,
          (standing credentialStore authorization phase' s').2, accepted)) :
    Runs (standing credentialStore authorization phase s)
      (standing credentialStore authorization phase' s') := by
  have hstep := Runs.step (standing credentialStore authorization phase s).1
    (standing credentialStore authorization phase s).2 input
  rwa [h] at hstep

/-- Checking the credential changes the credentials at most. -/
theorem assertAuthorized_fst (s : StreamState) (authorization : Option AuthorizationScope)
    (arrival : Arrival) :
    ∃ credentials, (s.assertAuthorized authorization arrival).1 =
      { s with cameraCredentials := credentials } := by
  unfold StreamState.assertAuthorized
  cases authorization with
  | none => exact ⟨s.cameraCredentials, rfl⟩
  | some scope =>
      cases arrival.activity with
      | refused reason => exact ⟨s.cameraCredentials, rfl⟩
      | raised => exact ⟨s.cameraCredentials, rfl⟩
      | active =>
          cases scope with
          | session scope => exact ⟨s.cameraCredentials, rfl⟩
          | camera scope => exact ⟨_, rfl⟩

/-- The packet is refused before it is numbered, or numbered next. -/
theorem runs_check (s : StreamState) (arrival : Arrival) :
    Runs (standing credentialStore authorization .reading s)
      (standing credentialStore authorization
        (match (s.assertAuthorized authorization arrival).2 with
          | none => .numbering arrival
          | some reason => .closing (.broken reason))
        (s.assertAuthorized authorization arrival).1) := by
  obtain ⟨credentials, hchecked⟩ := assertAuthorized_fst s authorization arrival
  refine @runs_of_step _ _ _ _ _ _ (.packet arrival) none ?_
  have hstate : (standing credentialStore authorization .reading s).2.state
      (standing credentialStore authorization .reading s).1 = s := rfl
  change (((standing credentialStore authorization .reading s).2.check _ arrival).1,
    ((standing credentialStore authorization .reading s).2.check _ arrival).2, none) = _
  unfold check
  rw [hstate]
  change (s.assertAuthorized authorization arrival).1 = _ at hchecked
  dsimp only [standing]
  generalize s.assertAuthorized authorization arrival = result at hchecked ⊢
  obtain ⟨checked, reason⟩ := result
  dsimp only at hchecked
  rw [hchecked]
  cases reason with
  | none => rfl
  | some reason => rfl

/-- The packet gets its number. -/
theorem runs_number (s : StreamState) (arrival : Arrival) :
    Runs (standing credentialStore authorization (.numbering arrival) s)
      (standing credentialStore authorization
        (match s.numberPacket.refusal authorization arrival.packet with
          | none => .marking arrival s.numberPacket.gate.serverReceiveSequence
          | some reason => .closing (.broken reason)) s.numberPacket) := by
  refine @runs_of_step _ _ _ _ _ _ (.proceed 0) none ?_
  have hrefusal : s.numberPacket.refusal authorization arrival.packet =
      s.refusal authorization arrival.packet := rfl
  rw [hrefusal]
  change (((standing credentialStore authorization (.numbering arrival) s).2.number _ arrival).1,
    ((standing credentialStore authorization (.numbering arrival) s).2.number _ arrival).2,
    none) = _
  unfold number
  have hstate : (standing credentialStore authorization (.numbering arrival) s).2.state
      (standing credentialStore authorization (.numbering arrival) s).1 = s := rfl
  rw [hstate]
  dsimp only [standing]
  cases s.refusal authorization arrival.packet with
  | none => rfl
  | some reason => rfl

/-- The device and the time of the packet count, and its number stays as it is. -/
theorem runs_count (s : StreamState) (arrival : Arrival) (n : ℕ) :
    Runs (standing credentialStore authorization (.marking arrival n) s)
      (standing credentialStore authorization (.deciding arrival n)
        (s.countPacket arrival.packet.metadata)) := by
  have hmarked : Runs (standing credentialStore authorization (.marking arrival n) s)
      (standing credentialStore authorization (.recording arrival n)
        (if arrival.packet.metadata.internalDeviceId ∈ s.streamDeviceIds then s
        else
          { s with
            gate := s.gate.markDeviceActive arrival.packet.metadata.internalDeviceId
            streamDeviceIds :=
              s.streamDeviceIds ++ [arrival.packet.metadata.internalDeviceId] })) := by
    refine @runs_of_step _ _ _ _ _ _ (.proceed 0) none ?_
    change (((standing credentialStore authorization (.marking arrival n) s).2.mark _ arrival n).1,
      ((standing credentialStore authorization (.marking arrival n) s).2.mark _ arrival n).2,
      none) = _
    by_cases hmem : arrival.packet.metadata.internalDeviceId ∈ s.streamDeviceIds
    · rw [if_pos hmem, mark, if_pos]
      · rfl
      · exact hmem
    · rw [if_neg hmem, mark, if_neg]
      · rfl
      · exact hmem
  refine hmarked.trans ?_
  unfold StreamState.countPacket
  dsimp only
  generalize (if arrival.packet.metadata.internalDeviceId ∈ s.streamDeviceIds then s else _) =
    marked
  exact @runs_of_step _ _ _ _ _ _ (.proceed 0) none rfl

theorem serverReceiveSequence_recordDeviceTimestamp (gate : IngestGate) (deviceId : String)
    (timestampMs : ℤ) :
    (gate.recordDeviceTimestamp deviceId timestampMs).serverReceiveSequence =
      gate.serverReceiveSequence := by
  unfold IngestGate.recordDeviceTimestamp
  dsimp only
  split
  · rfl
  · split <;> rfl

theorem serverReceiveSequence_countPacket (s : StreamState) (metadata : FrameMetadata) :
    (s.countPacket metadata).gate.serverReceiveSequence = s.gate.serverReceiveSequence := by
  unfold StreamState.countPacket
  rw [serverReceiveSequence_recordDeviceTimestamp]
  split <;> rfl

theorem serverReceiveSequence_openGate (gate : IngestGate) :
    gate.openGate.serverReceiveSequence = gate.serverReceiveSequence := by
  unfold IngestGate.openGate
  cases gate.gateStartTimestampMs <;> rfl

theorem serverReceiveSequence_allowIngest (gate : IngestGate) (deviceId : String)
    (timestampMs : ℤ) :
    (gate.allowIngest deviceId timestampMs).1.serverReceiveSequence =
      gate.serverReceiveSequence := by
  unfold IngestGate.allowIngest
  dsimp only
  have hopened := serverReceiveSequence_openGate gate
  repeat' split
  all_goals first | rfl | exact hopened

/-- Where a round of the loop leaves the stream. -/
def placeAfter : Round StreamState StreamBreak → StreamPhase × StreamState
  | .next s => (.reading, s)
  | .leave s reason => (.closing (.broken reason), s)

/-- The gate decides, and what it lets through is stored. -/
theorem runs_store (s : StreamState) (arrival : Arrival) :
    Runs (standing credentialStore authorization
        (.deciding arrival s.gate.serverReceiveSequence) s)
      (standing credentialStore authorization
        (placeAfter (s.storePacket authorization arrival)).1
        (placeAfter (s.storePacket authorization arrival)).2) := by
  have hsequence := serverReceiveSequence_allowIngest s.gate
    arrival.packet.metadata.internalDeviceId arrival.packet.metadata.deviceTimestampMs
  unfold StreamState.storePacket
  dsimp only
  generalize hdecides : s.gate.allowIngest arrival.packet.metadata.internalDeviceId
    arrival.packet.metadata.deviceTimestampMs = decided at hsequence ⊢
  obtain ⟨gate, allowed⟩ := decided
  dsimp only at hsequence
  have hallow : ∀ n, (standing credentialStore authorization (.deciding arrival n) s).2.step
      (standing credentialStore authorization (.deciding arrival n) s).1 (.proceed 0) =
        (standing credentialStore authorization (.deciding arrival n) s).2.allow
          (standing credentialStore authorization (.deciding arrival n) s).1 arrival n :=
    fun _ => rfl
  cases allowed with
  | false =>
      refine @runs_of_step _ _ _ _ _ _ (.proceed 0) none ?_
      rw [hallow]
      unfold allow
      dsimp only [standing]
      rw [hdecides]
      rfl
  | true =>
      have hlet : Runs (standing credentialStore authorization
            (.deciding arrival s.gate.serverReceiveSequence) s)
          (standing credentialStore authorization
            (.storing arrival s.gate.serverReceiveSequence) { s with gate := gate }) := by
        refine @runs_of_step _ _ _ _ _ _ (.proceed 0)
          (some (arrival.packet.metadata.internalDeviceId,
            arrival.packet.metadata.deviceTimestampMs)) ?_
        rw [hallow]
        unfold allow
        dsimp only [standing]
        rw [hdecides]
        rfl
      refine hlet.trans ?_
      rw [← hsequence]
      refine @runs_of_step _ _ _ _ _ _ (.proceed 0) none ?_
      have hstore : ∀ n (s : StreamState),
          (standing credentialStore authorization (.storing arrival n) s).2.step
            (standing credentialStore authorization (.storing arrival n) s).1 (.proceed 0) =
          ((standing credentialStore authorization (.storing arrival n) s).1,
            (standing credentialStore authorization (.storing arrival n) s).2.store
              (standing credentialStore authorization (.storing arrival n) s).1 arrival n,
            none) := fun _ _ => rfl
      rw [hstore]
      unfold store
      cases hstores : arrival.stores with
      | false => rfl
      | true => rfl

/-- One round of the loop. -/
theorem runs_takePacket (s : StreamState) (arrival : Arrival) :
    Runs (standing credentialStore authorization .reading s)
      (standing credentialStore authorization
        (placeAfter (StreamState.takePacket authorization s arrival)).1
        (placeAfter (StreamState.takePacket authorization s arrival)).2) := by
  have hcheck := @runs_check credentialStore authorization s arrival
  unfold StreamState.takePacket
  generalize s.assertAuthorized authorization arrival = result at hcheck ⊢
  obtain ⟨checked, reason⟩ := result
  cases reason with
  | some reason => exact hcheck
  | none =>
      refine hcheck.trans ?_
      have hnumber := @runs_number credentialStore authorization checked arrival
      dsimp only
      cases hrefusal : checked.numberPacket.refusal authorization arrival.packet with
      | some reason =>
          rw [hrefusal] at hnumber
          exact hnumber
      | none =>
          rw [hrefusal] at hnumber
          refine hnumber.trans ((runs_count _ arrival _).trans ?_)
          rw [← serverReceiveSequence_countPacket checked.numberPacket arrival.packet.metadata]
          exact runs_store _ arrival

/-- The whole loop, up to its end or to what breaks it. -/
theorem runs_rounds (s : StreamState) (arrivals : List Arrival) :
    Runs (standing credentialStore authorization .reading s)
      (standing credentialStore authorization
        (.closing
          (match (rounds (StreamState.takePacket authorization) s arrivals).2 with
            | none => .completed
                (rounds (StreamState.takePacket authorization) s arrivals).1.receivedFrames
            | some reason => .broken reason))
        (rounds (StreamState.takePacket authorization) s arrivals).1) := by
  induction arrivals generalizing s with
  | nil => exact @runs_of_step _ _ _ _ _ _ .packetsEnd none rfl
  | cons arrival arrivals ih =>
      have htake := @runs_takePacket credentialStore authorization s arrival
      cases hround : StreamState.takePacket authorization s arrival with
      | next s' =>
          rw [hround] at htake
          rw [rounds_cons_of_next _ hround]
          exact htake.trans (ih s')
      | leave s' reason =>
          rw [hround] at htake
          rw [rounds_cons_of_leave _ hround]
          exact htake

/-- The end of a stream. -/
theorem runs_close (s : StreamState) (ending : StreamEnding) (closedAtMs : ℤ) :
    Runs (standing credentialStore authorization (.closing ending) s)
      (standing credentialStore authorization (.ended ending)
        { s with
          gate := GrpcIngestService.closeStream s.gate authorization s.streamDeviceIds
            closedAtMs }) := by
  have hclose : Runs (standing credentialStore authorization (.closing ending) s)
      (standing credentialStore authorization (.releasing ending)
        { s with gate := s.gate.markStreamClosed s.streamDeviceIds closedAtMs }) :=
    @runs_of_step _ _ _ _ _ _ (.proceed closedAtMs) none rfl
  refine hclose.trans ?_
  unfold GrpcIngestService.closeStream
  cases authorization with
  | none => exact @runs_of_step _ _ _ _ _ _ (.proceed closedAtMs) none rfl
  | some scope => exact @runs_of_step _ _ _ _ _ _ (.proceed closedAtMs) none rfl

end Loop

/-! ## The whole stream -/

/-- An admitted stream, to its end. -/
theorem runs_serve (service : GrpcIngestService) (authorization : Option AuthorizationScope)
    (arrivals : List Arrival) (closedAtMs : ℤ) :
    ∃ stream, Runs (service, { phase := .reading, authorization := authorization })
        ((service.serve authorization arrivals closedAtMs).service, stream) ∧
      stream.phase = .ended (service.serve authorization arrivals closedAtMs).ending ∧
      stream.ingested = (service.serve authorization arrivals closedAtMs).ingested := by
  have hloop := @runs_rounds service.credentialStore authorization service.openStream arrivals
  unfold GrpcIngestService.serve
  generalize rounds (StreamState.takePacket authorization) service.openStream arrivals = result
    at hloop ⊢
  obtain ⟨s, left⟩ := result
  have hend := hloop.trans (runs_close s _ closedAtMs)
  exact ⟨_, hend, rfl, rfl⟩

/-- **A stream that is alone leaves what `streamFrames` says.** -/
theorem runs_streamFrames (service : GrpcIngestService) (opening : Opening)
    (arrivals : List Arrival) (closedAtMs : ℤ) :
    ∃ stream, Runs (service, { phase := .presenting opening })
        ((service.streamFrames opening arrivals closedAtMs).service, stream) ∧
      stream.phase = .ended (service.streamFrames opening arrivals closedAtMs).ending ∧
      stream.ingested = (service.streamFrames opening arrivals closedAtMs).ingested := by
  have hpresent := Runs.step service { phase := .presenting opening } (.proceed 0)
  have hstep : (step service { phase := .presenting opening } (.proceed 0)) =
      ((present service { phase := .presenting opening } opening).1,
        (present service { phase := .presenting opening } opening).2, none) := rfl
  rw [hstep] at hpresent
  unfold present at hpresent
  unfold GrpcIngestService.streamFrames GrpcIngestService.admitStream
  dsimp only at hpresent ⊢
  cases hverification : opening.verification with
  | none =>
      rw [hverification] at hpresent
      obtain ⟨stream, hruns, hended, hingested⟩ := runs_serve service none arrivals closedAtMs
      exact ⟨stream, hpresent.trans hruns, hended, hingested⟩
  | some verification =>
      rw [hverification] at hpresent
      cases verification with
      | refused reason => exact ⟨_, hpresent, rfl, rfl⟩
      | raised => exact ⟨_, hpresent, rfl, rfl⟩
      | accepted token scope =>
          dsimp only at hpresent ⊢
          generalize service.registerCredential opening.now token scope = registered at hpresent ⊢
          obtain ⟨registered, reason⟩ := registered
          cases reason with
          | some reason => exact ⟨_, hpresent, rfl, rfl⟩
          | none =>
              dsimp only at hpresent ⊢
              have hacquire := Runs.step registered
                (moveTo { phase := .presenting opening } (.acquiring scope)) (.proceed 0)
              have hacquires : step registered
                  (moveTo { phase := .presenting opening } (.acquiring scope)) (.proceed 0) =
                    ((acquire registered
                        (moveTo { phase := .presenting opening } (.acquiring scope)) scope).1,
                      (acquire registered
                        (moveTo { phase := .presenting opening } (.acquiring scope)) scope).2,
                      none) := rfl
              rw [hacquires] at hacquire
              unfold acquire at hacquire
              cases hgate : registered.gate.acquireAuthorizedCollection scope.captureSessionId with
              | none =>
                  rw [hgate] at hacquire
                  exact ⟨_, hpresent.trans hacquire, rfl, rfl⟩
              | some gate =>
                  rw [hgate] at hacquire
                  obtain ⟨stream, hruns, hended, hingested⟩ := runs_serve
                    { registered with gate := gate } (some scope) arrivals closedAtMs
                  exact ⟨stream, (hpresent.trans hacquire).trans hruns, hended, hingested⟩

end IngestStream

/-! ## Among other streams -/

/-- The steps of the `i`-th stream, with no others in between. -/
theorem after_steps {s : ServedStreams} {i : ℕ} {stream : IngestStream}
    (hfound : s.streams[i]? = some stream) (inputs : List StreamInput) :
    Machine.after streamsStep s (inputs.map (.step i)) =
      { s with
        service := (IngestStream.run (s.service, stream) inputs).1
        streams := s.streams.set i (IngestStream.run (s.service, stream) inputs).2 } := by
  have hlt := (List.getElem?_eq_some_iff.mp hfound).1
  induction inputs generalizing s stream with
  | nil =>
      have hsame : s.streams.set i stream = s.streams := by
        refine List.ext_getElem? fun j => ?_
        by_cases hj : i = j
        · rw [← hj, List.getElem?_set_self hlt, hfound]
        · exact List.getElem?_set_ne hj
      dsimp only [IngestStream.run]
      rw [hsame]
      rfl
  | cons input inputs ih =>
      have hstep : (streamsStep s (.step i input)).1 =
          { s with
            service := (stream.step s.service input).1
            streams := s.streams.set i (stream.step s.service input).2.1 } := by
        unfold streamsStep
        dsimp only
        rw [hfound]
      rw [List.map_cons, Machine.after_cons, hstep]
      set stepped : ServedStreams := { s with
        service := (stream.step s.service input).1
        streams := s.streams.set i (stream.step s.service input).2.1 } with hstepped
      have hstands : stepped.streams[i]? = some (stream.step s.service input).2.1 :=
        List.getElem?_set_self hlt
      have hstays : i < stepped.streams.length := by
        rw [hstepped, List.length_set]
        exact hlt
      rw [ih hstands hstays, hstepped, List.set_set]
      rfl

end ImageStream
