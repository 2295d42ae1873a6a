/-
# The capture identity of a selection

A selection is identified in one of three ways. With an incomplete member it is a legacy
set and nothing else is looked at. Otherwise it belongs to the capture session of the
scope that its members agree on, or, if no member carries a scope, to the session that is
derived from the members' sources.
-/

import ImageStream.Sync.Scope

namespace ImageStream

open Base

/-! ## The scope of a selection -/

/-- A scope that all members agree on. The subject and the token are there only if the
members share one credential. -/
structure AgreedScope (members : List StoredSyncFrame) (key : AuthorizationKey) : Prop where
  nonempty : members ≠ []
  complete : ∀ member ∈ members, member.scopeComplete
  group : ∀ member ∈ members, member.authorizationGroup = key.toAuthorizationGroup
  participant : (key.authorizedSubject = none ∧ key.sessionTokenJti = none) ∨
    ∀ member ∈ members, member.participant = (key.authorizedSubject, key.sessionTokenJti)

/-- Nobody carries a scope when the check passes without one. -/
theorem unscoped_of_resolveAuthorization {members : List StoredSyncFrame}
    (h : resolveAuthorization members = .ok none) :
    ∀ member ∈ members, ¬member.carriesScope := by
  unfold resolveAuthorization at h
  split at h
  case h_1 hgroups =>
    rw [List.dedup_eq_nil, List.map_eq_nil_iff, List.filter_eq_nil_iff] at hgroups
    exact hgroups
  case h_2 group others hgroups =>
    dsimp only at h
    split at h
    · cases h
    split at h
    · cases h
    split at h <;> cases h

theorem agreedScope_of_resolveAuthorization {members : List StoredSyncFrame}
    {key : AuthorizationKey} (h : resolveAuthorization members = .ok (some key)) :
    AgreedScope members key := by
  unfold resolveAuthorization at h
  split at h
  case h_1 => cases h
  case h_2 group others hgroups =>
    dsimp only at h
    split at h
    case isTrue => cases h
    case isFalse hagree =>
    rw [not_or, not_not, not_not] at hagree
    obtain ⟨rfl, hcomplete⟩ := hagree
    rw [List.all_eq_true] at hcomplete
    rw [carriesScope_groups hcomplete, dedup_eq_singleton] at hgroups
    have hmembers : members ≠ [] := fun hnil => hgroups.1 (by rw [hnil]; rfl)
    split at h
    · cases h
    split at h
    · cases h
    rename_i hclaims
    have hgroup : ∀ member ∈ members, member.authorizationGroup = group :=
      fun member hmember => hgroups.2 _ (List.mem_map_of_mem hmember)
    cases h
    refine ⟨hmembers, hcomplete, hgroup, ?_⟩
    dsimp only
    split
    case h_1 participant hshared =>
      split
      · exact Or.inl ⟨rfl, rfl⟩
      · right
        intro member hmember
        exact (dedup_eq_singleton.mp hshared).2 _ (List.mem_map_of_mem hmember)
    case h_2 => exact Or.inl ⟨rfl, rfl⟩

/-! ## The identity of a selection -/

/-- The ways that a selection is identified. -/
inductive IdentifiedAs (members : List StoredSyncFrame) : CaptureIdentity → Prop
  | legacy (incomplete : ¬∀ member ∈ members, member.identityComplete) :
      IdentifiedAs members { identityMode := .legacy }
  | authorized (complete : ∀ member ∈ members, member.identityComplete)
      (key : AuthorizationKey) (agreed : AgreedScope members key) :
      IdentifiedAs members
        { identityMode := .v2
          captureSessionId := key.captureSessionId
          captureConfigKey := some (captureConfigKey members)
          authorizationKey := some key }
  | unauthorized (complete : ∀ member ∈ members, member.identityComplete)
      (unscoped : ∀ member ∈ members, ¬member.carriesScope) (captureSessionId : String)
      (built : buildCaptureSessionId (members.map fun frame =>
        (frame.cameraStreamId.getD "", frame.sourceSessionId.getD "")) = .ok captureSessionId) :
      IdentifiedAs members
        { identityMode := .v2
          captureSessionId := some captureSessionId
          captureConfigKey := some (captureConfigKey members) }

theorem identifiedAs_of_resolve {members : List StoredSyncFrame} {identity : CaptureIdentity}
    (h : resolveCaptureIdentity members = .ok identity) : IdentifiedAs members identity := by
  unfold resolveCaptureIdentity at h
  by_cases hcomplete : members.all StoredSyncFrame.identityComplete
  · rw [if_neg (not_not.mpr hcomplete)] at h
    rw [List.all_eq_true] at hcomplete
    cases hkey : resolveAuthorization members with
    | error conflict =>
        rw [hkey] at h
        cases h
    | ok key =>
        rw [hkey] at h
        cases key with
        | some key =>
            cases h
            exact .authorized hcomplete key (agreedScope_of_resolveAuthorization hkey)
        | none =>
            dsimp only at h
            split at h
            · cases h
            · rename_i captureSessionId hbuilt
              cases h
              exact .unauthorized hcomplete (unscoped_of_resolveAuthorization hkey)
                captureSessionId hbuilt
  · rw [if_pos hcomplete] at h
    cases h
    exact .legacy (by rwa [List.all_eq_true] at hcomplete)

namespace AgreedScope

variable {members : List StoredSyncFrame} {key : AuthorizationKey}

/-- Every part of an agreed scope has a value. -/
theorem values (h : AgreedScope members key) :
    truthy key.tenantId ∧ truthy key.siteId ∧ truthy key.captureSessionId ∧
      truthy key.processingJobId ∧ truthy key.profileDigest := by
  obtain ⟨member, hmember⟩ := List.exists_mem_of_ne_nil _ h.nonempty
  have hgroup := h.group member hmember
  have hcomplete := h.complete member hmember
  simp only [StoredSyncFrame.scopeComplete, StoredSyncFrame.scopeFields, List.all_cons,
    List.all_nil, Bool.and_true, Bool.and_eq_true] at hcomplete
  obtain ⟨htenant, hsite, hsession, hjob, hprofile, -⟩ := hcomplete
  rw [← hgroup]
  exact ⟨htenant, hsite, hsession, hjob, hprofile⟩

end AgreedScope

namespace IdentifiedAs

variable {members : List StoredSyncFrame} {identity : CaptureIdentity}

/-- A V2 identity has a capture session and the configurations of the members. -/
theorem of_v2 (h : IdentifiedAs members identity) (hmode : identity.identityMode = .v2) :
    truthy identity.captureSessionId ∧
      identity.captureConfigKey = some (captureConfigKey members) := by
  cases h with
  | legacy => cases hmode
  | authorized complete key agreed => exact ⟨agreed.values.2.2.1, rfl⟩
  | unauthorized complete unscoped captureSessionId built =>
      refine ⟨?_, rfl⟩
      simpa using buildCaptureSessionId_ne_empty built

/-- Any other identity has nothing. -/
theorem of_not_v2 (h : IdentifiedAs members identity) (hmode : identity.identityMode ≠ .v2) :
    identity = { identityMode := .legacy } := by
  cases h with
  | legacy => rfl
  | authorized => exact absurd rfl hmode
  | unauthorized => exact absurd rfl hmode

/-- All members of a V2 selection have their whole identity. -/
theorem complete (h : IdentifiedAs members identity) (hmode : identity.identityMode = .v2) :
    ∀ member ∈ members, member.identityComplete := by
  cases h with
  | legacy => cases hmode
  | authorized complete => exact complete
  | unauthorized complete => exact complete

end IdentifiedAs

end ImageStream
