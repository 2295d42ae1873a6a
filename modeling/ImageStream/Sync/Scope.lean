/-
# Authorization scopes in emitted sets

A set keeps to one scope when, as soon as some member carries a scope field, all
members carry complete scopes that agree. The matcher's scope check decides exactly
this law, but it stands behind the test for complete identities: a selection with
one frame of incomplete identity is emitted as a legacy set without being checked.
-/

import ImageStream.Sync.Service
import Mathlib.Data.List.Dedup

namespace ImageStream

open Base

/-- Complete scopes that agree, with distinct cameras and uniform credentials. -/
structure SameScope (members : List StoredSyncFrame) : Prop where
  complete : ∀ member ∈ members, member.scopeComplete
  group : ∀ member ∈ members, ∀ other ∈ members,
    member.authorizationGroup = other.authorizationGroup
  cameras : (members.map (·.authorizedCameraId)).Nodup
  claims : (∀ member ∈ members, truthy member.cameraClaimId) ∨
    ∀ member ∈ members, ¬truthy member.cameraClaimId

/-- If any member carries a scope field, then all members share one scope. -/
def ScopeLaw (members : List StoredSyncFrame) : Prop :=
  (∃ member ∈ members, member.carriesScope) → SameScope members

theorem StoredSyncFrame.carriesScope_of_complete {frame : StoredSyncFrame}
    (h : frame.scopeComplete) : frame.carriesScope := by
  simp only [scopeComplete, scopeFields, List.all_cons, Bool.and_eq_true] at h
  simp [carriesScope, scopeFields, h.1]

/-- A list whose members are all equal has one member up to repetition. -/
theorem dedup_eq_singleton {α : Type} [DecidableEq α] {a : α} {items : List α} :
    items.dedup = [a] ↔ items ≠ [] ∧ ∀ b ∈ items, b = a := by
  constructor
  · intro h
    refine ⟨fun hnil => by simp [hnil] at h, fun b hb => ?_⟩
    rw [← List.mem_dedup, h, List.mem_singleton] at hb
    exact hb
  · rintro ⟨hne, hall⟩
    have hmem : a ∈ items.dedup := by
      obtain ⟨b, hb⟩ := List.exists_mem_of_ne_nil _ hne
      rw [List.mem_dedup, ← hall b hb]
      exact hb
    refine List.perm_singleton.mp ((List.perm_ext_iff_of_nodup (List.nodup_dedup items)
      (List.nodup_singleton a)).mpr fun b => ?_)
    rw [List.mem_singleton]
    exact ⟨fun hb => hall b (List.mem_dedup.mp hb), fun hb => hb ▸ hmem⟩

/-- The groups that the check compares, when every scope is complete. -/
theorem carriesScope_groups {members : List StoredSyncFrame}
    (h : ∀ member ∈ members, member.scopeComplete) :
    members.filter StoredSyncFrame.carriesScope = members :=
  List.filter_eq_self.mpr fun member hmember =>
    StoredSyncFrame.carriesScope_of_complete (h member hmember)

/-- The credential part of the check. -/
theorem claims_iff (members : List StoredSyncFrame) :
    ((members.any fun member => truthy member.cameraClaimId) = true ∧
        (members.any fun member => !truthy member.cameraClaimId) = true) ↔
      ¬((∀ member ∈ members, truthy member.cameraClaimId) ∨
        ∀ member ∈ members, ¬truthy member.cameraClaimId) := by
  simp only [List.any_eq_true, Bool.not_eq_true', not_or, not_forall, not_not]
  constructor
  · rintro ⟨⟨claimed, hclaimed, hyes⟩, unclaimed, hunclaimed, hno⟩
    exact ⟨⟨unclaimed, hunclaimed, by simp [hno]⟩, claimed, hclaimed, hyes⟩
  · rintro ⟨⟨unclaimed, hunclaimed, hno⟩, claimed, hclaimed, hyes⟩
    exact ⟨⟨claimed, hclaimed, hyes⟩, unclaimed, hunclaimed, by simpa using hno⟩

/-- The scope check passes exactly the selections that keep to one scope. -/
theorem resolveAuthorization_ok_iff (members : List StoredSyncFrame) :
    (∃ key, resolveAuthorization members = .ok key) ↔ ScopeLaw members := by
  unfold resolveAuthorization
  split
  case h_1 hgroups =>
    -- Nobody carries a scope field.
    rw [List.dedup_eq_nil, List.map_eq_nil_iff, List.filter_eq_nil_iff] at hgroups
    refine ⟨fun _ => ?_, fun _ => ⟨none, rfl⟩⟩
    rintro ⟨member, hmember, hcarries⟩
    exact absurd hcarries (hgroups member hmember)
  case h_2 group others hgroups =>
    have hcarrier : ∃ member ∈ members, member.carriesScope := by
      have hmem : group ∈ ((members.filter StoredSyncFrame.carriesScope).map
          StoredSyncFrame.authorizationGroup).dedup := by
        rw [hgroups]
        exact List.mem_cons_self
      rw [List.mem_dedup] at hmem
      obtain ⟨member, hmember, -⟩ := List.mem_map.mp hmem
      exact ⟨member, List.mem_filter.mp hmember⟩
    have hlaw : ScopeLaw members ↔ SameScope members :=
      ⟨fun h => h hcarrier, fun h _ => h⟩
    rw [hlaw]
    split
    case isTrue hconflict =>
      refine ⟨fun ⟨_, h⟩ => (by cases h), fun h => absurd hconflict ?_⟩
      rw [carriesScope_groups h.complete] at hgroups
      have hsingle : (members.map StoredSyncFrame.authorizationGroup).dedup = [group] := by
        rw [dedup_eq_singleton]
        have hgroup : group ∈ members.map StoredSyncFrame.authorizationGroup := by
          rw [← List.mem_dedup, hgroups]
          exact List.mem_cons_self
        refine ⟨List.ne_nil_of_mem hgroup, ?_⟩
        obtain ⟨member, hmember, rfl⟩ := List.mem_map.mp hgroup
        intro other hother
        obtain ⟨member', hmember', rfl⟩ := List.mem_map.mp hother
        exact h.group member' hmember' member hmember
      rw [hsingle] at hgroups
      cases hgroups
      simpa [List.all_eq_true] using h.complete
    case isFalse hagree =>
      rw [not_or, not_not, not_not] at hagree
      obtain ⟨rfl, hcomplete⟩ := hagree
      rw [List.all_eq_true] at hcomplete
      rw [carriesScope_groups hcomplete, dedup_eq_singleton] at hgroups
      have hgroup : ∀ member ∈ members, ∀ other ∈ members,
          member.authorizationGroup = other.authorizationGroup := by
        intro member hmember other hother
        rw [hgroups.2 _ (List.mem_map_of_mem hmember), hgroups.2 _ (List.mem_map_of_mem hother)]
      split
      case isTrue hreused =>
        exact ⟨fun ⟨_, h⟩ => (by cases h), fun h => absurd h.cameras hreused⟩
      case isFalse hdistinct =>
        rw [not_not] at hdistinct
        dsimp only
        split
        case isTrue hmixed =>
          exact ⟨fun ⟨_, h⟩ => (by cases h), fun h => absurd h.claims ((claims_iff _).mp hmixed)⟩
        case isFalse huniform =>
          refine ⟨fun _ => ⟨hcomplete, hgroup, hdistinct, ?_⟩, fun _ => ⟨_, rfl⟩⟩
          exact not_not.mp fun hclaims => huniform ((claims_iff _).mpr hclaims)

/-! ## Emitted sets -/

/-- What a selection must be for its set to keep to one scope: all identities are
complete, so that the scope check is made, or the check that is skipped would pass. -/
def ScopeChecked (selection : Option (Dict String StoredSyncFrame)) : Prop :=
  ∀ selected, selection = some selected →
    (∀ member ∈ selected.values, member.identityComplete) ∨
      ∃ key, resolveAuthorization selected.values = .ok key

/-- A selection of complete identities is emitted only when the scope check passes. -/
theorem resolveAuthorization_of_identity {members : List StoredSyncFrame}
    {identity : CaptureIdentity} (h : resolveCaptureIdentity members = .ok identity)
    (hcomplete : ∀ member ∈ members, member.identityComplete) :
    ∃ key, resolveAuthorization members = .ok key := by
  unfold resolveCaptureIdentity at h
  rw [if_neg (not_not.mpr (List.all_eq_true.mpr hcomplete))] at h
  cases hkey : resolveAuthorization members with
  | error conflict => simp [hkey] at h
  | ok key => exact ⟨key, rfl⟩

/-- **Emitted sets keep to one scope exactly when the scope check covers them.** In
every run of the service, from any state, a set keeps to one scope if and only if its
members' identities are all complete or the check that is then skipped would pass. -/
theorem emitted_scopeLaw_iff (service : StreamSyncService) (ops : List ServiceOp)
    (e : ServiceExchange) (he : e ∈ Machine.history serviceStep service ops)
    (frameSet : SynchronizedFrameSet) (hemitted : emitted? e = some frameSet) :
    ScopeLaw frameSet.members ↔ ScopeChecked (e.before.selection e.input) := by
  obtain ⟨first, op, second, -, rfl⟩ := Machine.exists_split_of_mem_history serviceStep he
  obtain ⟨hselection, identity, hidentity, -⟩ := selection_of_emitted hemitted
  show ScopeLaw frameSet.members ↔
    ScopeChecked ((Machine.after serviceStep service first).selection op)
  rw [hselection, ← resolveAuthorization_ok_iff]
  constructor
  · rintro hpasses selected hselected
    cases hselected
    exact Or.inr hpasses
  · intro hchecked
    rcases hchecked frameSet.frames rfl with hcomplete | hpasses
    · exact resolveAuthorization_of_identity hidentity hcomplete
    · exact hpasses

/-! ### A legacy set with two scopes -/

/-- A service that waits for two cameras. -/
def twoCameraService : StreamSyncService :=
  configuredService ["left", "right"] 50 120 20 "run-1"

/-- A frame of the left camera with complete identity and complete scope. -/
def authorizedFrame : SyncInputFrame where
  frameId := none
  deviceId := "left"
  timestampMs := 1000
  sequence := some 1
  contentType := "image/jpeg"
  imageBytes := [1]
  filePath := none
  sourceSessionId := some "session-1"
  cameraStreamId := some "left"
  sourceFrameUid := (buildSourceFrameUid "session-1" "left" 1).toOption
  contentDigest := some (sha256Bytes [1])
  identityMode := .v2
  tenantId := some "tenant"
  siteId := some "site"
  captureSessionId := some "capture"
  processingJobId := some "job"
  profileDigest := some "profile"
  authorizedSubject := some "subject"
  sessionTokenJti := some "jti"
  authorizedCameraId := some "left"

/-- A frame of the right camera without session, sequence number or scope. -/
def anonymousFrame : SyncInputFrame where
  frameId := none
  deviceId := "right"
  timestampMs := 1010
  sequence := none
  contentType := "image/jpeg"
  imageBytes := [2]
  filePath := none
  contentDigest := some (sha256Bytes [2])

def mixedRun : List ServiceOp :=
  [.handleFrame authorizedFrame 1020 "run-2", .handleFrame anonymousFrame 1030 "run-3"]

/-- The run emits one set, with the authorized and the anonymous frame as members. -/
theorem members_mixedRun :
    ((Machine.history serviceStep twoCameraService mixedRun).filterMap emitted?).map
      SynchronizedFrameSet.members = [[authorizedFrame.stored, anonymousFrame.stored]] := by
  decide +kernel

theorem legacy_set_mixes_scopes :
    ∃ e ∈ Machine.history serviceStep twoCameraService mixedRun,
      ∃ frameSet, emitted? e = some frameSet ∧ ¬ScopeLaw frameSet.members := by
  have hmem : [authorizedFrame.stored, anonymousFrame.stored] ∈
      ((Machine.history serviceStep twoCameraService mixedRun).filterMap emitted?).map
        SynchronizedFrameSet.members := by
    rw [members_mixedRun]
    exact List.mem_cons_self
  obtain ⟨frameSet, hframeSet, hmembers⟩ := List.mem_map.mp hmem
  obtain ⟨e, he, hemitted⟩ := List.mem_filterMap.mp hframeSet
  refine ⟨e, he, frameSet, hemitted, fun hlaw => ?_⟩
  rw [hmembers] at hlaw
  have hcomplete := (hlaw ⟨authorizedFrame.stored, by simp, by decide⟩).complete
    anonymousFrame.stored (by simp)
  revert hcomplete
  decide

/-- The same run with an authorized frame from the right camera. -/
def agreeingRun : List ServiceOp :=
  [.handleFrame authorizedFrame 1020 "run-2",
    .handleFrame
      { authorizedFrame with
        deviceId := "right"
        cameraStreamId := some "right"
        sourceFrameUid := (buildSourceFrameUid "session-1" "right" 1).toOption
        authorizedCameraId := some "right" } 1030 "run-3"]

theorem emitted_scopeLaw_agreeing :
    ∃ e ∈ Machine.history serviceStep twoCameraService agreeingRun,
      ∃ frameSet, emitted? e = some frameSet ∧
        (∃ member ∈ frameSet.members, member.carriesScope) ∧ ScopeLaw frameSet.members := by
  have hone : ∃ frameSet ∈
      (Machine.history serviceStep twoCameraService agreeingRun).filterMap emitted?,
      (∃ member ∈ frameSet.members, member.carriesScope) ∧
        ∀ member ∈ frameSet.members, member.identityComplete := by
    decide +kernel
  obtain ⟨frameSet, hframeSet, hcarries, hcomplete⟩ := hone
  obtain ⟨e, he, hemitted⟩ := List.mem_filterMap.mp hframeSet
  refine ⟨e, he, frameSet, hemitted, hcarries,
    (emitted_scopeLaw_iff twoCameraService agreeingRun e he frameSet hemitted).mpr ?_⟩
  obtain ⟨first, op, second, -, rfl⟩ := Machine.exists_split_of_mem_history serviceStep he
  intro selected hselected
  have hframes : some frameSet.frames = some selected :=
    (selection_of_emitted hemitted).1.symm.trans hselected
  cases hframes
  exact Or.inl hcomplete

end ImageStream
