/-
# One story in four representations

A frame set is written down four times: in the text of its manifest, in the rows of the
database, in the claim that reads them, and in the payload that goes to the processor. Each
is built field by field and sorted on its own. They list the same members in the same
order, and the payload's digest, uid, times and configurations are those of the manifest.
-/

import ImageStream.Relay.Protocol
import ImageStream.Relay.StoredSets
import ImageStream.Sync.Eligibility

namespace ImageStream

open Base

/-! ## From the claim to the payload -/

/-- A frame payload carries a member of a claim, with bytes of its size and digest. -/
structure FramePayload.Conveys (frame : FramePayload) (member : LiveFrameMember) : Prop where
  sourceFrameUid : frame.sourceFrameUid = member.sourceFrameUid
  sourceSessionId : frame.sourceSessionId = member.sourceSessionId
  cameraStreamId : frame.cameraStreamId = member.cameraStreamId
  frameSequence : frame.frameSequence = member.frameSequence
  captureTimestampMs : frame.captureTimestampDeviceMs = member.captureTimestampMs
  contentSizeBytes : (frame.contentSizeBytes : ℤ) = member.imageSize
  contentDigest : frame.contentDigest = member.contentDigest
  imageSize : frame.imageBytes.length = frame.contentSizeBytes
  imageDigest : sha256Bytes frame.imageBytes = frame.contentDigest

theorem exists_of_forall₂ {α β : Type} {R : α → β → Prop} {as : List α} {bs : List β}
    (h : List.Forall₂ R as bs) {b : β} (hb : b ∈ bs) : ∃ a ∈ as, R a b := by
  induction h with
  | nil => cases hb
  | @cons a b' as bs hab hrest ih =>
      rcases List.mem_cons.mp hb with rfl | hmem
      · exact ⟨a, List.mem_cons_self, hab⟩
      · obtain ⟨a', ha', hrel⟩ := ih hmem
        exact ⟨a', List.mem_cons_of_mem a ha', hrel⟩

theorem mem_keys_foldl_set {α υ : Type} (name : α → String) (value : α → υ) (items : List α)
    (d : Dict String υ) (c : String) :
    c ∈ (items.foldl (fun d item => d.set (name item) (value item)) d).keys ↔
      c ∈ d.keys ∨ c ∈ items.map name := by
  induction items generalizing d with
  | nil => simp
  | cons item items ih =>
      rw [List.foldl_cons, ih, Dict.mem_keys_set_iff, List.map_cons, List.mem_cons, or_assoc,
        or_left_comm]

section Payloads

variable {codec : Codec} {config : ProtocolConfig} {claim : ClaimedFrameSet} {nowUtcMs : ℤ}
  {metadataByCamera : Dict String JsonFields}

theorem conveys_framePayload {member : LiveFrameMember} {read : FileRead} {frame : FramePayload}
    (h : framePayload codec config claim nowUtcMs metadataByCamera member read = .ok frame) :
    frame.Conveys member := by
  unfold framePayload at h
  obtain ⟨payload, -, h⟩ := bind_eq_ok.mp h
  by_cases hsize : payload.length = member.imageSize
  case neg =>
    rw [if_pos hsize] at h
    cases h
  case pos =>
    rw [if_neg (not_not.mpr hsize)] at h
    by_cases hdigest : sha256Bytes payload = member.contentDigest
    case neg =>
      rw [if_pos hdigest] at h
      cases h
    case pos =>
      rw [if_neg (not_not.mpr hdigest)] at h
      cases hmetadata : metadataByCamera.get? member.cameraStreamId with
      | none =>
          rw [hmetadata] at h
          cases h
      | some metadata =>
          rw [hmetadata] at h
          obtain ⟨width, -, h⟩ := bind_eq_ok.mp h
          obtain ⟨height, -, h⟩ := bind_eq_ok.mp h
          obtain ⟨orientation, -, h⟩ := bind_eq_ok.mp h
          rw [construct_eq_ok h]
          exact ⟨rfl, rfl, rfl, rfl, rfl, congrArg _ hsize, rfl, rfl, hdigest⟩

/-- The frames convey the members, in their order. -/
theorem conveys_framePayloads {read : ℕ → String → FileRead} {members : List LiveFrameMember}
    {index : ℕ} {frames : List FramePayload}
    (h : framePayloads codec config claim nowUtcMs metadataByCamera read index members =
      .ok frames) :
    List.Forall₂ FramePayload.Conveys frames members := by
  induction members generalizing index frames with
  | nil =>
      cases h
      exact .nil
  | cons member members ih =>
      obtain ⟨frame, hframe, h⟩ := bind_eq_ok.mp h
      obtain ⟨rest, hrest, h⟩ := bind_eq_ok.mp h
      cases h
      exact .cons (conveys_framePayload hframe) (ih hrest)

/-- The configurations of a manifest are for the camera streams of the claim's members. -/
theorem cameraStreams_manifestMembers {configs : List CaptureConfigSnapshot}
    (h : manifestMembers codec claim = .ok (configs, metadataByCamera)) (c : String) :
    c ∈ configs.map (·.cameraStreamId) ↔ c ∈ claim.members.map (·.cameraStreamId) := by
  unfold manifestMembers at h
  obtain ⟨value, -, h⟩ := bind_eq_ok.mp h
  cases value with
  | obj payload =>
      dsimp only at h
      split at h
      · obtain ⟨members, -, h⟩ := bind_eq_ok.mp h
        split at h
        · cases h
        · rename_i hcover
          rw [not_not] at hcover
          cases h
          have hmem := Finset.ext_iff.mp hcover c
          rw [List.mem_toFinset, List.mem_toFinset] at hmem
          have hkeys := mem_keys_foldl_set
            (fun member : CaptureConfigSnapshot × JsonFields => member.1.cameraStreamId)
            (fun member => member.2) members Table.empty c
          rw [← hmem, hkeys]
          simp [Dict.keys]
      · cases h
  | _ => cases h

end Payloads

/-! ## From the manifest to the payload -/

/-- A member that a manifest lists is the one of a frame payload. -/
structure ListedAs (listed : Json) (frame : FramePayload) : Prop where
  sourceFrameUid : listed.field? "source_frame_uid" = some (.str frame.sourceFrameUid)
  sourceSessionId : listed.field? "source_session_id" = some (.str frame.sourceSessionId)
  cameraStreamId : listed.field? "camera_stream_id" = some (.str frame.cameraStreamId)
  frameSequence : listed.field? "frame_sequence" = some (.int frame.frameSequence)
  captureTimestampMs :
    listed.field? "capture_timestamp_ms" = some (.int frame.captureTimestampDeviceMs)
  contentDigest : listed.field? "content_digest" = some (.str frame.contentDigest)
  imageSize : listed.field? "image_size" = some (.int frame.contentSizeBytes)

/-- What a listed member has under a name. -/
theorem field?_manifestMember (frame : StoredSyncFrame) (name : String) :
    (manifestMember frame).sorted.field? name =
      ((manifestMember frame).field? name).map Json.sorted := by
  unfold manifestMember
  exact Json.field?_sorted (by simp) name

/-- What a stored member has. -/
structure StoredSyncFrame.Identified (frame : StoredSyncFrame) : Prop where
  sourceFrameUid : frame.sourceFrameUid = some (frame.sourceFrameUid.getD "")
  sourceSessionId : frame.sourceSessionId = some (frame.sourceSessionId.getD "")
  cameraStreamId : frame.cameraStreamId = some (frame.cameraStreamId.getD "")
  named : frame.memberName = frame.cameraStreamId.getD ""
  sequence : frame.sequence = some (frame.sequence.getD 0)
  contentDigest : frame.contentDigest = some (frame.contentDigest.getD "")

theorem identified_of_manifestReady {frame : StoredSyncFrame} (h : frame.manifestReady) :
    frame.Identified := by
  unfold StoredSyncFrame.manifestReady at h
  simp only [Bool.and_eq_true] at h
  obtain ⟨⟨⟨⟨⟨⟨huid, hsession⟩, hcamera⟩, hsequence⟩, hdigest⟩, -⟩, -⟩ := h
  have hsome : ∀ value : Option String, truthy value → value = some (value.getD "") := by
    intro value hvalue
    obtain ⟨text, rfl, -⟩ := truthy_eq_true_iff.mp hvalue
    rfl
  obtain ⟨sequence, hsequence⟩ := Option.isSome_iff_exists.mp hsequence
  exact ⟨hsome _ huid, hsome _ hsession, hsome _ hcamera, if_pos hcamera,
    by rw [hsequence]; rfl, hsome _ hdigest⟩

/-- A stored member is listed as the frame that conveys it. -/
theorem listedAs_manifestMember {member : StoredSyncFrame} (h : member.Identified)
    {uid : String} {frame : FramePayload} (hframe : frame.Conveys (newMember uid member).live) :
    ListedAs (manifestMember member).sorted frame := by
  constructor
  case sourceFrameUid =>
    rw [field?_manifestMember, hframe.sourceFrameUid]
    show some (Json.ofOption member.sourceFrameUid).sorted = _
    rw [h.sourceFrameUid]
    rfl
  case sourceSessionId =>
    rw [field?_manifestMember, hframe.sourceSessionId]
    show some (Json.ofOption member.sourceSessionId).sorted = _
    rw [h.sourceSessionId]
    rfl
  case cameraStreamId =>
    rw [field?_manifestMember, hframe.cameraStreamId]
    show some (Json.ofOption member.cameraStreamId).sorted = _
    rw [h.cameraStreamId]
    rfl
  case frameSequence =>
    rw [field?_manifestMember, hframe.frameSequence]
    show some (Json.ofOptionInt member.sequence).sorted = _
    rw [h.sequence]
    rfl
  case captureTimestampMs =>
    rw [field?_manifestMember, hframe.captureTimestampMs]
    rfl
  case contentDigest =>
    rw [field?_manifestMember, hframe.contentDigest]
    show some (Json.ofOption member.contentDigest).sorted = _
    rw [h.contentDigest]
    rfl
  case imageSize =>
    rw [field?_manifestMember, hframe.contentSizeBytes]
    rfl

/-- The manifest and the database sort the members alike. -/
theorem listedMembers_eq {frameSet : SynchronizedFrameSet}
    (h : ∀ member ∈ frameSet.members, member.Identified) :
    listedMembers frameSet.members = sortedMembers frameSet := by
  have hsort := List.map_insertionSort
    (fun first second : StoredSyncFrame => first.memberName ≤ second.memberName)
    (fun first second : StoredSyncFrame =>
      first.cameraStreamId.getD "" ≤ second.cameraStreamId.getD "") id frameSet.members
    fun first hfirst second hsecond => by
      rw [(h first hfirst).named, (h second hsecond).named]
      rfl
  rwa [List.map_id, List.map_id] at hsort

/-! ## What is emitted -/

/-- A set that some matcher has emitted, and whose members may have been archived since. -/
def IsEmitted (frameSet : SynchronizedFrameSet) : Prop :=
  ∃ (matcher : SyncMatcher) (manager : SyncFrameBufferManager)
    (emission : matcher.Emission manager) (nowMs : ℤ) (freshRunId : String),
    (emission.frameSet nowMs freshRunId).SameContent frameSet

/-- The completions of the sets of a run are among these. -/
theorem isEmitted_of_isCompleted {matcher : SyncMatcher} {ops : List MatcherOp}
    {frameSet : SynchronizedFrameSet} (h : IsCompleted (emittedSets matcher ops) frameSet) :
    IsEmitted frameSet := by
  obtain ⟨original, horiginal, hsame⟩ := h
  obtain ⟨first, op, rest, -, manager, emission, nowMs, freshRunId, -, rfl⟩ :=
    exists_emission_of_mem horiginal
  exact ⟨_, manager, emission, nowMs, freshRunId, hsame⟩

/-- What a V2 set says of itself: its text, and the times of its members. -/
structure SynchronizedFrameSet.Coherent (frameSet : SynchronizedFrameSet) : Prop where
  manifestJson : frameSet.manifestJson = some (canonicalJson frameSet.payload)
  manifestDigest : frameSet.manifestDigest = some (buildManifestDigest frameSet.payload)
  frameSetUid : frameSet.frameSetUid = some (uidOfPayload frameSet.payload)
  freshnessOrigin : IsLeast (timesOfFrames frameSet.members)
    (earliestTimestampMs frameSet.members)
  anchor : IsGreatest (timesOfFrames frameSet.members) frameSet.anchorTimestampMs
  span : frameSet.spanMs = some (frameSet.anchorTimestampMs - earliestTimestampMs frameSet.members)
  maxDelta : frameSet.spanMs = some frameSet.maxDeltaMs
  window : frameSet.maxDeltaMs ≤ frameSet.syncWindowMs

theorem SyncMatcher.Emission.coherent {matcher : SyncMatcher} {manager : SyncFrameBufferManager}
    (emission : matcher.Emission manager) {nowMs : ℤ} {freshRunId : String}
    (hmode : (emission.frameSet nowMs freshRunId).identityMode = .v2) :
    (emission.frameSet nowMs freshRunId).Coherent := by
  obtain ⟨hjson, hdigest, huid⟩ := emission.manifest_frameSet hmode
  obtain ⟨hspan, hwindow⟩ := emission.spanMs_eq
  constructor
  case manifestJson => exact hjson
  case manifestDigest => exact hdigest
  case frameSetUid => exact huid
  case freshnessOrigin => exact isLeast_earliestTimestampMs emission.selected_ne_nil
  case anchor => exact isGreatest_latestTimestampMs emission.selected_ne_nil
  case span => exact congrArg some hspan
  case maxDelta => rfl
  case window =>
    have hsame : (emission.entered freshRunId).windowMs = matcher.windowMs :=
      (SyncMatcher.enterCapture_settings _ _ _).2
    exact hwindow.trans_eq hsame.symm

/-- A completion changes nothing of this. -/
theorem SynchronizedFrameSet.Coherent.of_sameContent {first second : SynchronizedFrameSet}
    (h : first.Coherent) (hsame : first.SameContent second) : second.Coherent := by
  have htimes : second.members.map (·.timestampMs) = first.members.map (·.timestampMs) := by
    have hcontents := congrArg (List.map (·.timestampMs)) hsame.members
    rwa [List.map_map, List.map_map] at hcontents
  have hset : timesOfFrames second.members = timesOfFrames first.members := by
    ext timestampMs
    show (∃ frame ∈ _, _) ↔ ∃ frame ∈ _, _
    rw [← List.mem_map, ← List.mem_map, htimes]
  have hearliest : earliestTimestampMs second.members = earliestTimestampMs first.members := by
    unfold earliestTimestampMs
    rw [htimes]
  constructor
  case manifestJson =>
    rw [hsame.field (·.manifestJson) fun _ => rfl, hsame.payload]
    exact h.manifestJson
  case manifestDigest =>
    rw [hsame.field (·.manifestDigest) fun _ => rfl, hsame.payload]
    exact h.manifestDigest
  case frameSetUid =>
    rw [hsame.field (·.frameSetUid) fun _ => rfl, hsame.payload]
    exact h.frameSetUid
  case freshnessOrigin =>
    rw [hset, hearliest]
    exact h.freshnessOrigin
  case anchor =>
    rw [hset, hsame.field (·.anchorTimestampMs) fun _ => rfl]
    exact h.anchor
  case span =>
    rw [hearliest, hsame.field (·.anchorTimestampMs) fun _ => rfl,
      hsame.field (·.spanMs) fun _ => rfl]
    exact h.span
  case maxDelta =>
    rw [hsame.field (·.spanMs) fun _ => rfl, hsame.field (·.maxDeltaMs) fun _ => rfl]
    exact h.maxDelta
  case window =>
    rw [hsame.field (·.maxDeltaMs) fun _ => rfl, hsame.field (·.syncWindowMs) fun _ => rfl]
    exact h.window

theorem coherent_of_isEmitted {frameSet : SynchronizedFrameSet} (h : IsEmitted frameSet)
    (hmode : frameSet.identityMode = .v2) : frameSet.Coherent := by
  obtain ⟨matcher, manager, emission, nowMs, freshRunId, hsame⟩ := h
  have hmode' : (emission.frameSet nowMs freshRunId).identityMode = .v2 := by
    rw [← hmode]
    exact (hsame.field (·.identityMode) fun _ => rfl).symm
  exact (emission.coherent hmode').of_sameContent hsame

/-! ## The story -/

/-- When the frames of a payload were captured. -/
def CreditedFrameSet.captureTimes (envelope : CreditedFrameSet) : Set ℤ :=
  {timestampMs | ∃ frame ∈ envelope.frames, frame.captureTimestampDeviceMs = timestampMs}

/-- A payload tells the same as the manifest that is in its claim. -/
structure CreditedFrameSet.TellsStoryOf (envelope : CreditedFrameSet) (claim : ClaimedFrameSet)
    (payload : Json) (syncWindowMs : ℤ) : Prop where
  text : claim.manifestJson = canonicalJson payload
  listed : ∃ members, payload.sorted.field? "members" = some (.arr members) ∧
    List.Forall₂ ListedAs members envelope.frames
  bytes : ∀ frame ∈ envelope.frames, frame.imageBytes.length = frame.contentSizeBytes ∧
    sha256Bytes frame.imageBytes = frame.contentDigest
  digest : envelope.manifestDigest = Digest.sha256Hex (encodeUtf8 claim.manifestJson)
  uid : buildFrameSetUid envelope.manifestDigest = .ok envelope.key.frameSetUid
  freshnessOrigin : IsLeast envelope.captureTimes envelope.freshnessOriginUtcMs
  anchor : IsGreatest envelope.captureTimes envelope.orderingAnchorUtcMs
  span : envelope.synchronizationSpanMs =
    envelope.orderingAnchorUtcMs - envelope.freshnessOriginUtcMs
  window : envelope.synchronizationSpanMs ≤ syncWindowMs
  configs : ∀ c, c ∈ envelope.captureConfigs.map (·.cameraStreamId) ↔
    c ∈ envelope.frames.map (·.cameraStreamId)

section Story

variable {codec : Codec} {claim : ClaimedFrameSet} {credit : ProcessorCredit}
  {session : NegotiatedSession} {config : ProtocolConfig} {received nowMonotonic : ℚ}
  {nowUtcMs : ℤ} {read : ℕ → String → FileRead} {envelope : CreditedFrameSet}

/-- The frames of a payload convey the members of the stored set. -/
theorem conveys_members {frameSet : SynchronizedFrameSet}
    (hmembers : claim.members = liveMembers frameSet)
    (h : buildCreditedFrameSet codec claim credit session config received nowMonotonic nowUtcMs
      read = .ok envelope) :
    List.Forall₂ (fun member frame => frame.Conveys (newMember frameSet.uid member).live)
      (sortedMembers frameSet) envelope.frames := by
  obtain ⟨-, metadataByCamera, -, hframes⟩ := ofClaim_buildCreditedFrameSet h
  have hconveys := conveys_framePayloads hframes
  rw [hmembers] at hconveys
  unfold liveMembers at hconveys
  exact (List.forall₂_map_right_iff.mp hconveys).flip

theorem captureTimes_eq {frameSet : SynchronizedFrameSet}
    (h : List.Forall₂ (fun member frame => frame.Conveys (newMember frameSet.uid member).live)
      (sortedMembers frameSet) envelope.frames) :
    envelope.captureTimes = timesOfFrames frameSet.members := by
  have htimes : (sortedMembers frameSet).map (·.timestampMs) =
      envelope.frames.map (·.captureTimestampDeviceMs) := by
    rw [← List.forall₂_eq_eq_eq, List.forall₂_map_left_iff, List.forall₂_map_right_iff]
    exact h.imp fun member frame hconveys => hconveys.captureTimestampMs.symm
  ext timestampMs
  show (∃ frame ∈ _, _) ↔ ∃ frame ∈ _, _
  rw [← List.mem_map, ← List.mem_map, ← htimes]
  exact ((List.perm_insertionSort _ frameSet.members).map _).mem_iff

/-- **One story.** In every run of the store in which emitted sets are persisted, a payload
that is built from a claim tells the same as the manifest of a set that was emitted. -/
theorem payload_tells_manifest (ops : List RaceOp)
    (hops : ∀ op ∈ ops, ∀ frameSet, op.persisted? = some frameSet → IsEmitted frameSet)
    (e : RaceExchange) (he : e ∈ Machine.history raceStep {} ops)
    (hclaim : e.claim? = some claim)
    (h : buildCreditedFrameSet codec claim credit session config received nowMonotonic nowUtcMs
      read = .ok envelope) :
    ∃ frameSet, IsEmitted frameSet ∧
      envelope.TellsStoryOf claim frameSet.payload frameSet.syncWindowMs := by
  obtain ⟨frameSet, timestampMs, db, claimCredit, offeredAtMs, hstorable, hsnapshot, hmembers⟩ :=
    exists_stored_of_claim hops he hclaim
  have hcoherent := coherent_of_isEmitted hstorable.origin hstorable.mode
  have hof := (ofClaim_buildCreditedFrameSet h).1
  have hconveys := conveys_members hmembers h
  have hidentified : ∀ member ∈ frameSet.members, member.Identified := fun member hmember =>
    identified_of_manifestReady (manifestReady_of_valid hstorable.valid member hmember)
  have htext : claim.manifestJson = canonicalJson frameSet.payload := by
    rw [hsnapshot]
    show frameSet.manifestJson.getD "" = _
    rw [hcoherent.manifestJson]
    rfl
  have hdigest : envelope.manifestDigest = buildManifestDigest frameSet.payload := by
    rw [hof.manifestDigest, hsnapshot]
    show frameSet.manifestDigest.getD "" = _
    rw [hcoherent.manifestDigest]
    rfl
  have hspan : envelope.synchronizationSpanMs = frameSet.maxDeltaMs := by
    rw [hof.synchronizationSpanMs, hsnapshot]
    exact synchronizationSpanMs_newManifest hcoherent.maxDelta timestampMs
  have hanchor : envelope.orderingAnchorUtcMs = frameSet.anchorTimestampMs := by
    rw [hof.orderingAnchorUtcMs, hsnapshot]
    rfl
  have horigin : envelope.freshnessOriginUtcMs = earliestTimestampMs frameSet.members := by
    rw [hof.freshnessOriginUtcMs, hsnapshot]
    rfl
  refine ⟨frameSet, hstorable.origin, ?_⟩
  constructor
  case text => exact htext
  case listed =>
    refine ⟨_, field?_members _ _ _ _ _, ?_⟩
    rw [listedMembers_eq hidentified, List.forall₂_map_left_iff]
    have hall : ∀ member ∈ sortedMembers frameSet, member.Identified := fun member hmember =>
      hidentified member ((List.mem_insertionSort _).mp hmember)
    exact ((List.forall₂_and_left _ _).mpr ⟨hall, hconveys⟩).imp
      fun member frame hboth => listedAs_manifestMember hboth.1 hboth.2
  case bytes =>
    intro frame hframe
    obtain ⟨member, -, hmember⟩ := exists_of_forall₂ hconveys hframe
    exact ⟨hmember.imageSize, hmember.imageDigest⟩
  case digest =>
    rw [hdigest, htext]
    rfl
  case uid =>
    rw [hdigest, buildFrameSetUid_buildManifestDigest, hof.key, hsnapshot]
    show _ = Except.ok (frameSet.frameSetUid.getD "")
    rw [hcoherent.frameSetUid]
    rfl
  case freshnessOrigin =>
    rw [captureTimes_eq hconveys, horigin]
    exact hcoherent.freshnessOrigin
  case anchor =>
    rw [captureTimes_eq hconveys, hanchor]
    exact hcoherent.anchor
  case span =>
    rw [hspan, hanchor, horigin]
    exact Option.some.inj (hcoherent.maxDelta.symm.trans hcoherent.span)
  case window =>
    rw [hspan]
    exact hcoherent.window
  case configs =>
    intro c
    obtain ⟨-, metadataByCamera, hmanifest, -⟩ := ofClaim_buildCreditedFrameSet h
    have hstreams : (liveMembers frameSet).map (·.cameraStreamId) =
        envelope.frames.map (·.cameraStreamId) := by
      unfold liveMembers
      rw [List.map_map, ← List.forall₂_eq_eq_eq, List.forall₂_map_left_iff,
        List.forall₂_map_right_iff]
      exact hconveys.imp fun member frame hmember => hmember.cameraStreamId.symm
    rw [cameraStreams_manifestMembers hmanifest, hmembers, hstreams]

end Story

/-! ### The story of one set -/

/-- A frame with a capture configuration. -/
def storyFrame : SyncInputFrame :=
  { rotatedFrame "a" 1000 with captureConfigDigest := some "config" }

def storySets : List SynchronizedFrameSet :=
  emittedSets (newMatcher ["left"] 50 20 "run-1") [matchOp storyFrame 1001 "run-2"]

theorem length_storySets : 0 < storySets.length := by decide +kernel

/-- The emitted set of the frame, once it is archived. -/
def storySet : SynchronizedFrameSet :=
  (storySets.get ⟨0, length_storySets⟩).archived (buildBufferKey storyFrame) 1
    "/archive/left.jpg"

theorem isCompleted_storySet : IsCompleted storySets storySet :=
  ⟨_, List.get_mem _ _, SynchronizedFrameSet.sameContent_archived _ _ _ _⟩

/-- What the set has. -/
theorem header_storySet : storySet.members =
      [storyFrame.stored.withArchive (some 1) (some "/archive/left.jpg") .durable none] ∧
    storySet.identityMode = .v2 ∧ storySet.Durable ∧ storySet.captureRunId = some "run-1" ∧
    storySet.anchorTimestampMs = 1000 ∧ storySet.spanMs = some 0 ∧ storySet.maxDeltaMs = 0 ∧
    storySet.synchronizedAtMs = 1001 ∧ storySet.frameSetId = 1 ∧
    storySet.processingJobId = none ∧ storySet.profileDigest = none := by
  decide +kernel

theorem members_storySet : storySet.members =
    [storyFrame.stored.withArchive (some 1) (some "/archive/left.jpg") .durable none] :=
  header_storySet.1

theorem mode_storySet : storySet.identityMode = .v2 := header_storySet.2.1

/-- An empty database takes a set with one member that has been emitted and archived. -/
theorem inserts_of_emitted {expectedCameras : List String} {windowMs : ℤ} {recentLimit : ℕ}
    {runId : String} {ops : List MatcherOp} (hdrawn : ∀ drawn ∈ drawnRuns runId ops, drawn ≠ "")
    {original frameSet : SynchronizedFrameSet}
    (hmem : original ∈ emittedSets (newMatcher expectedCameras windowMs recentLimit runId) ops)
    (hsame : original.SameContent frameSet) (hmode : frameSet.identityMode = .v2)
    (hdurable : frameSet.Durable) {member : StoredSyncFrame}
    (hmembers : frameSet.members = [member]) : ({} : Database).Inserts frameSet := by
  have hvalid : validateV2FrameSet frameSet = .ok () := by
    obtain ⟨matcher, manager, emission, nowMs, freshRunId, rfl, hrun, hfresh⟩ :=
      exists_emission_of_drawn hdrawn hmem
    rw [hsame.field (·.identityMode) fun _ => rfl] at hmode
    exact (emission.manifestComplete hmode hrun hfresh hsame hdurable).validates
  have hsorted : sortedMembers frameSet = [member] := by
    unfold sortedMembers
    rw [hmembers]
    rfl
  refine ⟨hmode, takes_empty_of_valid hvalid ?_ ?_ ?_, rfl⟩
  · rw [hmembers]
    exact List.cons_ne_nil _ _
  · rw [hsorted]
    exact List.nodup_singleton _
  · rw [hsorted]
    exact List.nodup_singleton _

/-- A set with one member has members of its own. -/
theorem ownMembers_of_singleton {frameSet : SynchronizedFrameSet} {member : StoredSyncFrame}
    (hmembers : frameSet.members = [member]) : frameSet.OwnMembers := by
  constructor <;> rw [hmembers]
  · exact List.cons_ne_nil _ _
  · exact List.nodup_singleton _
  · exact List.nodup_singleton _

/-- The empty database takes the set. -/
theorem inserts_storySet : ({} : Database).Inserts storySet :=
  inserts_of_emitted (by decide) (List.get_mem storySets ⟨0, length_storySets⟩)
    (SynchronizedFrameSet.sameContent_archived _ _ _ _) mode_storySet header_storySet.2.2.1
    members_storySet

/-- The store once the set is stored, and claimed. -/
def firstOps (frameSet : SynchronizedFrameSet) (nowMs : ℤ) (credit : CreditIdentity)
    (offeredAtMs : ℤ) : List RaceOp :=
  [.store (.persistFrameSetManifest frameSet none nowMs),
    .store (.claimLatest credit offeredAtMs)]

/-- The store with one set. -/
def firstStored (frameSet : SynchronizedFrameSet) (nowMs : ℤ) : Database :=
  (planInsert {} frameSet nowMs).apply {}

/-- A set that is inserted is the one that is picked, if nothing newer waits and nothing has
been offered. -/
theorem newestEligible_insert {before : Database} {frameSet : SynchronizedFrameSet}
    (habsent : before.manifests.find frameSet.uid = none)
    (hnewer : ¬newerEligibleExists before frameSet) {timestampMs : ℤ} {db : Database}
    (hmanifests : db.manifests = ((planInsert before frameSet timestampMs).apply before).manifests)
    (hprojections :
      db.projections = ((planInsert before frameSet timestampMs).apply before).projections)
    {state : RelayV2ClientState} (hwatermark : state.watermarkFrameSetUid = none) :
    isEligible db (newManifest frameSet timestampMs) = true ∧
      LatestLive.newestEligible db state = .ok (some (newManifest frameSet timestampMs)) := by
  have heligible : isEligible db (newManifest frameSet timestampMs) = true := by
    have hprojection : (planInsert before frameSet timestampMs).projection =
        newDeliveryProjection frameSet.uid timestampMs .eligible none := if_neg hnewer
    have hfind : db.projections.find frameSet.uid =
        some (newDeliveryProjection frameSet.uid timestampMs .eligible none) := by
      rw [hprojections, ← hprojection]
      unfold InsertPlan.apply
      dsimp only
      rw [Table.find_put, uid_projection_planInsert, if_pos rfl]
    unfold isEligible
    show (db.projections.find frameSet.uid).any _ = true
    rw [hfind]
    rfl
  -- All that waited before is superseded.
  have hothers : ∀ manifest ∈ before.manifests.rows, ¬isEligible db manifest = true := by
    intro manifest hmem heligible'
    have hlive := liveState?_of_isEligible db heligible'
    have hinsert := @liveState?_insert before frameSet timestampMs habsent manifest hmem
    unfold Database.liveState? at hlive hinsert
    rw [hprojections] at hlive
    rw [hlive] at hinsert
    split at hinsert
    · cases hinsert
    · rename_i hkept
      exact hkept ⟨hinsert.symm, hnewer⟩
  refine ⟨heligible, ?_⟩
  unfold LatestLive.newestEligible getNewestEligibleManifest
  rw [hmanifests, rows_manifests_insert timestampMs habsent, List.filter_append,
    List.filter_eq_nil_iff.mpr hothers, List.nil_append, List.filter_cons_of_pos heligible,
    hwatermark]
  rfl

/-- The set that is stored first is the one that is picked, as long as nothing is offered. -/
theorem newestEligible_firstStored {frameSet : SynchronizedFrameSet}
    (h : ({} : Database).Inserts frameSet) {nowMs : ℤ} {db : Database}
    (hmanifests : db.manifests = (firstStored frameSet nowMs).manifests)
    (hprojections : db.projections = (firstStored frameSet nowMs).projections)
    {state : RelayV2ClientState} (hwatermark : state.watermarkFrameSetUid = none) :
    isEligible db (newManifest frameSet nowMs) = true ∧
      LatestLive.newestEligible db state = .ok (some (newManifest frameSet nowMs)) :=
  newestEligible_insert h.absent Bool.false_ne_true hmanifests hprojections hwatermark

/-- What is picked where nothing is in flight is claimed. -/
theorem claimLatest_of_picked {db : Database} {manifest : FrameSetManifest}
    (credit : CreditIdentity) {offeredAtMs : ℤ}
    (hnone : (LatestLive.ensureStateRow db offeredAtMs).client.inFlightFrameSetUid = none)
    (hpicked : LatestLive.newestEligible (LatestLive.ensureStateRow db offeredAtMs)
      (LatestLive.ensureStateRow db offeredAtMs).client = .ok (some manifest))
    (heligible : isEligible (LatestLive.ensureStateRow db offeredAtMs) manifest = true) :
    ∃ claimed, LatestLive.claimLatest db credit offeredAtMs =
      (claimed, .ok (some (LatestLive.snapshot claimed manifest credit offeredAtMs))) := by
  unfold LatestLive.claimLatest LatestLive.claimCandidate
  dsimp only
  rw [hpicked, if_neg (not_not.mpr hnone)]
  dsimp only
  rw [if_pos ⟨hnone, heligible⟩]
  exact ⟨_, rfl⟩

/-- The set that is stored first is announced. -/
theorem snapshotForHello_firstStored {frameSet : SynchronizedFrameSet}
    (h : ({} : Database).Inserts frameSet) (nowMs : ℤ) :
    LatestLive.snapshotForHello (firstStored frameSet nowMs) =
      .ok (some (LatestLive.snapshot (firstStored frameSet nowMs) (newManifest frameSet nowMs)
        ⟨"", "", ""⟩ 0)) := by
  have hpicked := (@newestEligible_firstStored _ h nowMs (firstStored frameSet nowMs) rfl rfl
    (firstStored frameSet nowMs).client rfl).2
  have hnone : (firstStored frameSet nowMs).client.inFlightFrameSetUid = none := rfl
  unfold LatestLive.snapshotForHello
  dsimp only
  rw [hnone, hpicked]

/-- The set that is stored first is claimed. -/
theorem exists_claim_of_inserts {frameSet : SynchronizedFrameSet}
    (h : ({} : Database).Inserts frameSet) (nowMs : ℤ) (credit : CreditIdentity)
    (offeredAtMs : ℤ) :
    ∃ db, LatestLive.claimLatest (firstStored frameSet nowMs) credit offeredAtMs =
        (db, .ok (some (LatestLive.snapshot db (newManifest frameSet nowMs) credit
          offeredAtMs))) ∧
      ∃ e ∈ Machine.history raceStep {} (firstOps frameSet nowMs credit offeredAtMs),
        RaceExchange.claim? e =
          some (LatestLive.snapshot db (newManifest frameSet nowMs) credit offeredAtMs) := by
  obtain ⟨heligible, hpicked⟩ := @newestEligible_firstStored _ h nowMs _
    (LatestLive.manifests_ensureStateRow _ offeredAtMs)
    (LatestLive.projections_ensureStateRow _ offeredAtMs)
    (LatestLive.ensureStateRow (firstStored frameSet nowMs) offeredAtMs).client rfl
  obtain ⟨db, hclaim⟩ := claimLatest_of_picked credit rfl hpicked heligible
  refine ⟨db, hclaim, _, List.mem_cons_of_mem _ List.mem_cons_self, ?_⟩
  show (storeStep (persistFrameSetManifest {} frameSet none nowMs).1 (.claimLatest credit
    offeredAtMs)).2.claim? = _
  rw [persist_of_inserts h none nowMs]
  show StoreAnswer.claim? (.claimed (LatestLive.claimLatest (firstStored frameSet nowMs) credit
    offeredAtMs).2) = _
  rw [hclaim]
  rfl

/-- What `json.loads` reads for the member of the set. -/
def storyMember : JsonValue :=
  .obj
    [("authorized_camera_id", .null),
      ("authorized_subject", .null),
      ("camera_claim_id", .null),
      ("camera_stream_id", .str "left"),
      ("capture_config_digest", .str "config"),
      ("capture_metadata_json", .str "\x7b\x7d"),
      ("capture_timestamp_ms", .int 1000),
      ("content_digest", .str (sha256Bytes [1])),
      ("content_type", .str "image/jpeg"),
      ("device_id", .str "left"),
      ("frame_sequence", .int 1),
      ("image_size", .int 1),
      ("session_token_jti", .null),
      ("source_frame_uid", .str (storyFrame.sourceFrameUid.getD "")),
      ("source_session_id", .str "a")]

/-- What `json.loads` reads from the manifest of the set. -/
def storyManifest : JsonValue :=
  .obj
    [("authorization", .null),
      ("capture_session_id", .str (storySet.captureSessionId.getD "")),
      ("identity_mode", .str "V2"),
      ("members", .arr [storyMember]),
      ("schema_version", .int 2),
      ("synchronization", .obj
        [("algorithm", .str "minimum-span-v1"),
          ("anchor_timestamp_ms", .int 1000),
          ("freshness_origin_ms", .int 1000),
          ("span_ms", .int 0),
          ("window_ms", .int 50)])]

/-- A reader of the two texts that are read. -/
def storyCodec : Codec where
  loads text :=
    if text = canonicalJson storySet.payload then some storyManifest
    else if text = "\x7b\x7d" then some (.obj [])
    else none
  intOfText _ := none
  textOf _ := ""
  serializedSize _ := 600

def storyCredit : ProcessorCredit where
  scope := ⟨"processor", "epoch", "credit"⟩
  creditLeaseDurationMs := 1000
  earliestAcceptableFreshnessOriginUtcMs := 0
  ingressReserveMs := 10
  maximumPayloadBytes := 4096
  schemaVersion := 1
  maximumFrameAgeMs := 5000

def storySession : NegotiatedSession where
  processingJobId := "job"
  processorInstanceId := "processor"
  streamEpoch := "epoch"
  maximumPayloadBytes := 4096
  processingProfileDigest := "profile"

def storyConfig : ProtocolConfig where
  producerSessionId := "producer"
  processingProfileDigest := some "profile"
  producerFreshnessBudgetMs := 5000

theorem creditIdentity_story :
    creditIdentity storyCredit storySession = .ok storyCredit.scope := by
  simp [creditIdentity, storyCredit, storySession]

/-- The configuration is that of a claim without a scope. -/
theorem bindAuthorizedClaim_story {claim : ClaimedFrameSet} (h : claim.profileDigest = none) :
    bindAuthorizedClaim storyConfig claim = .ok storyConfig := by
  unfold bindAuthorizedClaim
  rw [h]
  rfl

/-- A codec reads the manifest of the set. -/
structure Codec.ReadsStory (codec : Codec) : Prop where
  empty : codec.load "\x7b\x7d" = .ok (.obj [])
  story : codec.load (canonicalJson storySet.payload) = .ok storyManifest
  size : ∀ frameSet, codec.serializedSize frameSet = 600

/-- The text of a set's manifest is not the empty object's. -/
theorem canonicalJson_payload_ne_empty (frameSet : SynchronizedFrameSet) :
    canonicalJson frameSet.payload ≠ "\x7b\x7d" := by
  intro heq
  have hobj : canonicalJson (.obj []) = "\x7b\x7d" := rfl
  rw [← hobj] at heq
  have hfields := congrArg (Json.field? "members") (Json.canonicalJson_inj heq)
  unfold SynchronizedFrameSet.payload at hfields
  rw [field?_members] at hfields
  cases hfields

theorem Codec.load_of_loads {codec : Codec} {text : String} {value : JsonValue}
    (h : codec.loads text = some value) : codec.load text = .ok value := by
  unfold Codec.load
  rw [h]

theorem readsStory_storyCodec : storyCodec.ReadsStory := by
  have hloads : storyCodec.loads = fun text =>
      if text = canonicalJson storySet.payload then some storyManifest
      else if text = "\x7b\x7d" then some (.obj [])
      else none := rfl
  constructor
  case empty =>
    apply Codec.load_of_loads
    rw [hloads]
    beta_reduce
    rw [if_neg (canonicalJson_payload_ne_empty storySet).symm, if_pos rfl]
  case story =>
    apply Codec.load_of_loads
    rw [hloads]
    beta_reduce
    rw [if_pos rfl]
  case size => exact fun _ => rfl

/-- What a member that has only its configuration's digest is read as. -/
theorem readManifestMember_of_fields {codec : Codec}
    (hempty : codec.load "\x7b\x7d" = .ok (.obj [])) {fields : JsonFields}
    (hcamera : fields.get? "camera_stream_id" = some (.str "left"))
    (hdigest : fields.get? "capture_config_digest" = some (.str "config"))
    (hmetadata : fields.get? "capture_metadata_json" = some (.str "\x7b\x7d"))
    (hauthorized : fields.get? "authorized_camera_id" = some .null) :
    ∃ config, config.cameraStreamId = "left" ∧
      readManifestMember codec (.obj fields) =
        .ok (config, [("capture_config_digest", .str "config")]) := by
  refine ⟨{ cameraStreamId := "left", captureConfigDigest := "config", width := 0, height := 0,
            orientationDeg := 0, mirrored := false, encoding := "image/jpeg",
            colorSpace := "UNKNOWN", authorizedCameraId := "" }, rfl, ?_⟩
  have hset : JsonFields.set [] "capture_config_digest" (.str "config") =
      [("capture_config_digest", .str "config")] := rfl
  have hnone : ∀ name, "capture_config_digest" ≠ name →
      JsonFields.get? [("capture_config_digest", .str "config")] name = none := by
    intro name hne
    simp [JsonFields.get?, hne]
  simp [readManifestMember, hcamera, hdigest, hmetadata, hauthorized, captureMetadata, hempty,
    hset, hnone, Codec.textField, JsonValue.truthy, bind, Except.bind, nonnegativeInt,
    orientationDeg, mirrored, construct, Codec.text, CaptureConfigSnapshot.fits, isUint32,
    isInt32, pure, Except.pure]

/-- What a manifest with one such member is read as. -/
theorem manifestMembers_of_member {codec : Codec} {claim : ClaimedFrameSet} {payload : JsonFields}
    {member : JsonValue} {config : CaptureConfigSnapshot}
    (hload : codec.load claim.manifestJson = .ok (.obj payload))
    (hmembers : payload.get? "members" = some (.arr [member]))
    (hcamera : config.cameraStreamId = "left")
    (hread : readManifestMember codec member =
      .ok (config, [("capture_config_digest", .str "config")]))
    (hstreams : claim.members.map (·.cameraStreamId) = ["left"]) :
    manifestMembers codec claim = .ok ([config],
      Dict.set Table.empty "left" [("capture_config_digest", .str "config")]) := by
  have hcover : (Dict.keys (Dict.set Table.empty "left"
      [("capture_config_digest", JsonValue.str "config")])).toFinset = {"left"} := rfl
  unfold manifestMembers
  refine bind_eq_ok.mpr ⟨.obj payload, hload, ?_⟩
  simp [hmembers, hread, hstreams, hcamera, hcover, bind, Except.bind, pure, Except.pure]

theorem manifestMembers_story {codec : Codec} (hreads : codec.ReadsStory) {claim : ClaimedFrameSet}
    (htext : claim.manifestJson = canonicalJson storySet.payload)
    (hmembers : claim.members = liveMembers storySet) :
    ∃ configs, manifestMembers codec claim =
      .ok (configs, Dict.set Table.empty "left" [("capture_config_digest", .str "config")]) := by
  have hmember : ∃ config, config.cameraStreamId = "left" ∧
      readManifestMember codec storyMember =
        .ok (config, [("capture_config_digest", .str "config")]) :=
    readManifestMember_of_fields hreads.empty rfl rfl rfl rfl
  obtain ⟨config, hcamera, hread⟩ := hmember
  have hload : codec.load claim.manifestJson = .ok storyManifest := by
    rw [htext]
    exact hreads.story
  have hstreams : claim.members.map (·.cameraStreamId) = ["left"] := by
    rw [hmembers]
    unfold liveMembers sortedMembers
    rw [members_storySet]
    rfl
  exact ⟨[config], manifestMembers_of_member hload rfl hcamera hread hstreams⟩

/-- The claim of the set. -/
structure ClaimsStory (claim : ClaimedFrameSet) : Prop where
  manifestJson : claim.manifestJson = canonicalJson storySet.payload
  members : claim.members = liveMembers storySet
  freshnessOriginMs : claim.freshnessOriginMs = 1000
  anchorTimestampMs : claim.anchorTimestampMs = 1000
  synchronizationSpanMs : claim.synchronizationSpanMs = 0
  synchronizedAtMs : claim.synchronizedAtMs = 1001
  frameSetId : claim.key.frameSetId = 1

/-- The payload of the claim is built. -/
theorem build_story {codec : Codec} (hreads : codec.ReadsStory) {claim : ClaimedFrameSet}
    (h : ClaimsStory claim) :
    ∃ envelope, buildCreditedFrameSet codec claim storyCredit storySession storyConfig 0 0
      2000 (fun _ _ => .bytes [1]) = .ok envelope := by
  obtain ⟨configs, hmanifest⟩ := manifestMembers_story hreads h.manifestJson h.members
  have hlive : claim.members = [(newMember storySet.uid (storyFrame.stored.withArchive (some 1)
      (some "/archive/left.jpg") .durable none)).live] := by
    rw [h.members]
    unfold liveMembers sortedMembers
    rw [members_storySet]
    rfl
  have hframes : ∃ frame, framePayloads codec storyConfig claim 2000
      (Dict.set Table.empty "left" [("capture_config_digest", .str "config")])
      (fun _ _ => .bytes [1]) 0 claim.members = .ok [frame] := by
    rw [hlive]
    simp [framePayloads, framePayload, FileRead.payload, newMember, FrameSetMember.live,
      storyFrame, rotatedFrame, SyncInputFrame.stored, StoredSyncFrame.withArchive,
      storyConfig, JsonFields.get?, nonnegativeInt, orientationDeg, mirrored, Codec.textField,
      Codec.text, JsonValue.truthy, construct, FramePayload.fits, h.synchronizedAtMs, isUint64,
      isInt64, isUint32, isInt32, bind, Except.bind, pure, Except.pure]
  obtain ⟨frame, hframes⟩ := hframes
  have hsize := hreads.size
  have hbudget : storyConfig.producerFreshnessBudgetMs = 5000 := rfl
  have huncertainty : storyConfig.maximumClockUncertaintyMs = 0 := rfl
  have hlease : ¬(1 : ℚ) ≤ 0 := by decide
  unfold buildCreditedFrameSet
  simp [hlease, hmanifest, hframes, hsize, hbudget, huncertainty, storyCredit, storySession,
    effectiveDeadlineUtcMs, h.freshnessOriginMs, h.anchorTimestampMs, h.synchronizationSpanMs,
    h.synchronizedAtMs, h.frameSetId, construct, CreditedFrameSet.fits, FrameSetKey.fits, isUint64,
    isInt64, serializeWithLimit, bind, Except.bind, pure, Except.pure]

theorem manifestJson_snapshot {frameSet : SynchronizedFrameSet} (h : frameSet.Coherent)
    (db : Database) (nowMs : ℤ) (credit : CreditIdentity) (offeredAtMs : ℤ) :
    (LatestLive.snapshot db (newManifest frameSet nowMs) credit offeredAtMs).manifestJson =
      canonicalJson frameSet.payload := by
  show frameSet.manifestJson.getD "" = _
  rw [h.manifestJson]
  rfl

theorem coherent_storySet : storySet.Coherent :=
  coherent_of_isEmitted (isEmitted_of_isCompleted isCompleted_storySet) mode_storySet

theorem claimsStory {db : Database} {nowMs : ℤ} {credit : CreditIdentity} {offeredAtMs : ℤ}
    (hmembers : (LatestLive.snapshot db (newManifest storySet nowMs) credit offeredAtMs).members =
      liveMembers storySet) :
    ClaimsStory (LatestLive.snapshot db (newManifest storySet nowMs) credit offeredAtMs) := by
  obtain ⟨-, -, -, -, hanchor, hspan, hdelta, htime, hnumber, -⟩ := header_storySet
  have hearliest : earliestTimestampMs storySet.members = 1000 := by
    rw [members_storySet]
    rfl
  constructor
  case manifestJson => exact manifestJson_snapshot coherent_storySet db nowMs credit offeredAtMs
  case members => exact hmembers
  case freshnessOriginMs => exact hearliest
  case anchorTimestampMs => exact hanchor
  case synchronizationSpanMs =>
    exact (synchronizationSpanMs_newManifest (hspan.trans (congrArg some hdelta.symm)) nowMs).trans
      hdelta
  case synchronizedAtMs => exact htime
  case frameSetId => exact hnumber

theorem stores_firstStored {origin : SynchronizedFrameSet → Prop}
    {frameSet : SynchronizedFrameSet} (horigin : origin frameSet)
    (h : ({} : Database).Inserts frameSet) (nowMs : ℤ) :
    (firstStored frameSet nowMs).Stores origin := by
  have hempty : ({} : Database).Stores origin := (Racing.Stores.empty _).db
  have hstored : (storeStep {} (.persistFrameSetManifest frameSet none nowMs)).1 =
      firstStored frameSet nowMs :=
    congrArg Prod.fst (persist_of_inserts h none nowMs)
  rw [← hstored]
  exact hempty.storeStep fun stored hpersisted => Option.some.inj hpersisted ▸ horigin

/-- A snapshot of a stored set lists its members, where no other set has its uid. -/
theorem members_snapshot_of_stores {origin : SynchronizedFrameSet → Prop} {db : Database}
    (h : db.Stores origin) {frameSet : SynchronizedFrameSet} {timestampMs : ℤ}
    (hmem : newManifest frameSet timestampMs ∈ db.manifests.rows)
    (hown : ∀ other, origin other → other.uid = frameSet.uid → other = frameSet)
    (credit : CreditIdentity) (offeredAtMs : ℤ) :
    (LatestLive.snapshot db (newManifest frameSet timestampMs) credit offeredAtMs).members =
      liveMembers frameSet := by
  obtain ⟨stored, _, hstorable, heq, hmembers⟩ := h.snapshot hmem credit offeredAtMs
  have huid : stored.uid = frameSet.uid :=
    (congrArg FrameSetManifest.frameSetUid heq).symm
  obtain rfl := hown stored hstorable.origin huid
  exact hmembers

/-- A snapshot of the set that is stored first lists its members. -/
theorem members_snapshot_firstStored {frameSet : SynchronizedFrameSet}
    (h : ({} : Database).Inserts frameSet) (nowMs : ℤ) (credit : CreditIdentity)
    (offeredAtMs : ℤ) :
    (LatestLive.snapshot (firstStored frameSet nowMs) (newManifest frameSet nowMs) credit
      offeredAtMs).members = liveMembers frameSet := by
  have hrows : (firstStored frameSet nowMs).manifests.rows = [newManifest frameSet nowMs] :=
    rows_manifests_insert nowMs h.absent
  have hstores := @stores_firstStored (· = frameSet) frameSet rfl h nowMs
  exact members_snapshot_of_stores hstores
    (hrows ▸ List.mem_singleton_self _) (fun other hother _ => hother) credit offeredAtMs

/-- A snapshot of the stored set tells of it. -/
theorem claimsStory_snapshot (credit : CreditIdentity) (offeredAtMs : ℤ) :
    ClaimsStory (LatestLive.snapshot (firstStored storySet 3000) (newManifest storySet 3000) credit
      offeredAtMs) :=
  claimsStory (members_snapshot_firstStored inserts_storySet 3000 credit offeredAtMs)

/-- The claim of the set, once it is stored. -/
theorem exists_claim_story (credit : CreditIdentity) (offeredAtMs : ℤ) :
    ∃ db claim, LatestLive.claimLatest (firstStored storySet 3000) credit offeredAtMs =
        (db, .ok (some claim)) ∧
      ClaimsStory claim ∧
      (∀ op ∈ firstOps storySet 3000 credit offeredAtMs,
        ∀ frameSet, op.persisted? = some frameSet → frameSet = storySet) ∧
      ∃ e ∈ Machine.history raceStep {} (firstOps storySet 3000 credit offeredAtMs),
        RaceExchange.claim? e = some claim := by
  obtain ⟨db, hclaim, e, he, hexchange⟩ := exists_claim_of_inserts inserts_storySet 3000 credit
    offeredAtMs
  have hops : ∀ op ∈ firstOps storySet 3000 credit offeredAtMs,
      ∀ frameSet, op.persisted? = some frameSet → frameSet = storySet := by
    intro op hop frameSet hpersisted
    simp only [firstOps, List.mem_cons, List.not_mem_nil, or_false] at hop
    rcases hop with rfl | rfl
    · exact (Option.some.inj hpersisted).symm
    · cases hpersisted
  obtain ⟨frameSet, _, _, _, _, hstorable, -, hmembers⟩ := exists_stored_of_claim hops he hexchange
  obtain rfl := hstorable.origin
  exact ⟨db, _, hclaim, claimsStory hmembers, hops, e, he, hexchange⟩

theorem payload_tells_manifest_story :
    ∃ (envelope : CreditedFrameSet) (claim : ClaimedFrameSet) (frameSet : SynchronizedFrameSet),
      IsEmitted frameSet ∧
        envelope.TellsStoryOf claim frameSet.payload frameSet.syncWindowMs := by
  obtain ⟨-, claim, -, hstory, hops, e, he, hclaim⟩ := exists_claim_story storyCredit.scope 3001
  obtain ⟨envelope, hbuilt⟩ := build_story readsStory_storyCodec hstory
  obtain ⟨told, hemitted, htells⟩ := payload_tells_manifest _
    (fun op hop frameSet hpersisted => by
      rw [hops op hop frameSet hpersisted]
      exact isEmitted_of_isCompleted isCompleted_storySet) e he hclaim hbuilt
  exact ⟨envelope, _, told, hemitted, htells⟩

end ImageStream
