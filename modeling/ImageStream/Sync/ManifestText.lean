/-
# What the text of a manifest says

The manifest of a V2 set is the canonical JSON of a payload that the set's own columns and
members determine, and its digest and uid are made from that text. What the payload has
under a name can be read off the text again: two manifests with one text list the same
source frames.
-/

import ImageStream.Base.Canonical
import ImageStream.Sync.ManifestValidity

namespace ImageStream

open Base

/-- The value of an optional text is read back. -/
theorem ofOption_inj {first second : Option String}
    (h : Json.ofOption first = Json.ofOption second) : first = second := by
  cases first <;> cases second <;> cases h <;> rfl

@[simp]
theorem sorted_ofOption (value : Option String) :
    (Json.ofOption value).sorted = Json.ofOption value := by
  cases value <;> rfl

/-- The members as a manifest lists them. -/
def listedMembers (frames : List StoredSyncFrame) : List StoredSyncFrame :=
  frames.insertionSort fun first second => first.memberName ≤ second.memberName

theorem field?_members (identity : CaptureIdentity) (frames : List StoredSyncFrame)
    (syncWindowMs spanMs anchorTimestampMs : ℤ) :
    (buildManifestPayload identity frames syncWindowMs spanMs anchorTimestampMs).sorted.field?
        "members" = some (.arr ((listedMembers frames).map fun frame =>
      (manifestMember frame).sorted)) := by
  unfold buildManifestPayload
  rw [Json.field?_sorted (by simp)]
  simp [Json.field?, Json.sorted, Json.sortedItems_eq, listedMembers]

theorem field?_sourceFrameUid (frame : StoredSyncFrame) :
    (manifestMember frame).sorted.field? "source_frame_uid" =
      some (.ofOption frame.sourceFrameUid) := by
  unfold manifestMember
  rw [Json.field?_sorted (by simp)]
  simp [Json.field?]

/-- **One text, the same source frames.** -/
theorem sourceFrameUids_eq_of_text {identity identity' : CaptureIdentity}
    {frames frames' : List StoredSyncFrame} {windowMs windowMs' spanMs spanMs' anchorMs anchorMs' : ℤ}
    (h : canonicalJson (buildManifestPayload identity frames windowMs spanMs anchorMs) =
      canonicalJson (buildManifestPayload identity' frames' windowMs' spanMs' anchorMs')) :
    (listedMembers frames).map (·.sourceFrameUid) =
      (listedMembers frames').map (·.sourceFrameUid) := by
  have hpayload := Json.canonicalJson_inj h
  have hmembers := congrArg (Json.field? "members") hpayload
  rw [field?_members, field?_members, Option.some.injEq, Json.arr.injEq] at hmembers
  have huids := congrArg (List.map (Json.field? "source_frame_uid")) hmembers
  simp only [List.map_map, Function.comp_def, field?_sourceFrameUid] at huids
  have hinj : Function.Injective fun value : Option String => some (Json.ofOption value) :=
    fun first second heq => ofOption_inj (Option.some.inj heq)
  refine List.map_injective_iff.mpr hinj ?_
  rw [List.map_map, List.map_map]
  exact huids

/-! ## The payload of a set -/

namespace SynchronizedFrameSet

/-- The authorization key that the columns of a set make. -/
def authorizationKey? (frameSet : SynchronizedFrameSet) : Option AuthorizationKey :=
  if truthy frameSet.tenantId then
    some
      { tenantId := frameSet.tenantId
        siteId := frameSet.siteId
        captureSessionId := frameSet.captureSessionId
        processingJobId := frameSet.processingJobId
        profileDigest := frameSet.profileDigest
        authorizedSubject := frameSet.authorizedSubject
        sessionTokenJti := frameSet.sessionTokenJti }
  else
    none

/-- The payload that the columns and the members of a set make. -/
def payload (frameSet : SynchronizedFrameSet) : Json :=
  buildManifestPayload
    { identityMode := frameSet.identityMode
      captureSessionId := frameSet.captureSessionId
      authorizationKey := frameSet.authorizationKey? }
    frameSet.members frameSet.syncWindowMs (frameSet.spanMs.getD 0) frameSet.anchorTimestampMs

end SynchronizedFrameSet

/-- The uid of the sets with this payload. -/
def uidOfPayload (payload : Json) : String :=
  Digest.Uuid.text (Digest.uuid5 frameSetNamespace (encodeUtf8 (buildManifestDigest payload)))

/-- The uid, computed from characters instead of texts. -/
theorem uidOfPayload_eq (payload : Json) :
    uidOfPayload payload = Digest.Uuid.text (Digest.uuid5 frameSetNamespace
      ((Digest.hexDigits (Digest.sha256 ((Json.render payload.sorted).flatMap
        String.utf8EncodeChar))).flatMap String.utf8EncodeChar)) := by
  unfold uidOfPayload buildManifestDigest Digest.sha256Hex
  rw [encodeUtf8_eq, encodeUtf8_eq, Json.toList_canonicalJson, String.toList_ofList]

namespace SyncMatcher.Emission

variable {matcher : SyncMatcher} {manager : SyncFrameBufferManager}

/-- The key of a V2 set can be read off its columns. -/
theorem authorizationKey?_frameSet (emission : matcher.Emission manager) {nowMs : ℤ}
    {freshRunId : String} (hmode : (emission.frameSet nowMs freshRunId).identityMode = .v2) :
    (emission.frameSet nowMs freshRunId).authorizationKey? =
      emission.identity.authorizationKey := by
  have hmode' : emission.identity.identityMode = .v2 := hmode
  unfold SynchronizedFrameSet.authorizationKey?
  rcases emission with ⟨selected, spanMs, identity, select, identified⟩
  cases identified with
  | legacy => cases hmode'
  | authorized complete key agreed => exact if_pos (agreed.values.1)
  | unauthorized => rfl

/-- **The text of a V2 set.** It is that of the set's payload; the digest and the uid are
made from it. -/
theorem manifest_frameSet (emission : matcher.Emission manager) {nowMs : ℤ}
    {freshRunId : String} (hmode : (emission.frameSet nowMs freshRunId).identityMode = .v2) :
    let frameSet := emission.frameSet nowMs freshRunId
    frameSet.manifestJson = some (canonicalJson frameSet.payload) ∧
      frameSet.manifestDigest = some (buildManifestDigest frameSet.payload) ∧
      frameSet.frameSetUid = some (uidOfPayload frameSet.payload) := by
  intro frameSet
  have hpayload : frameSet.payload = buildManifestPayload emission.identity
      emission.selected.values (emission.entered freshRunId).windowMs emission.spanMs
      (latestTimestampMs emission.selected.values) := by
    unfold SynchronizedFrameSet.payload
    rw [emission.authorizationKey?_frameSet hmode]
    rfl
  rw [hpayload]
  refine ⟨rfl, rfl, (if_pos hmode).trans ?_⟩
  rw [buildFrameSetUid_buildManifestDigest]
  rfl

end SyncMatcher.Emission

/-! ## Completed sets -/

/-- The payload looks at the contents of the members only. -/
theorem buildManifestPayload_content (identity : CaptureIdentity) (frames : List StoredSyncFrame)
    (syncWindowMs spanMs anchorTimestampMs : ℤ) :
    buildManifestPayload identity (frames.map StoredSyncFrame.content) syncWindowMs spanMs
        anchorTimestampMs =
      buildManifestPayload identity frames syncWindowMs spanMs anchorTimestampMs := by
  have hsort := List.map_insertionSort
    (fun first second : StoredSyncFrame => first.memberName ≤ second.memberName)
    (fun first second : StoredSyncFrame => first.memberName ≤ second.memberName)
    StoredSyncFrame.content frames fun _ _ _ _ => Iff.rfl
  have hearliest : earliestTimestampMs (frames.map StoredSyncFrame.content) =
      earliestTimestampMs frames := by
    unfold earliestTimestampMs
    rw [List.map_map]
    rfl
  unfold buildManifestPayload
  rw [← hsort, hearliest, List.map_map]
  rfl

/-- A completed set keeps its payload. -/
theorem SynchronizedFrameSet.SameContent.payload {first second : SynchronizedFrameSet}
    (h : first.SameContent second) : second.payload = first.payload := by
  unfold SynchronizedFrameSet.payload
  rw [← buildManifestPayload_content, h.members, buildManifestPayload_content,
    h.field (·.identityMode) fun _ => rfl, h.field (·.captureSessionId) fun _ => rfl,
    h.field SynchronizedFrameSet.authorizationKey? fun _ => rfl,
    h.field (·.syncWindowMs) fun _ => rfl, h.field (·.spanMs) fun _ => rfl,
    h.field (·.anchorTimestampMs) fun _ => rfl]

end ImageStream
