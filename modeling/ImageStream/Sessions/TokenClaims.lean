/-
# The claims of a token

A signed token carries claims, which are JSON values. What is made of them is a scope, or an
error for the first claim that is not as it has to be. The three kinds of tokens share most of
their claims. A scope holds its identifiers in one form only, lower-case and hyphenated, so
that scopes of different tokens can be compared.
-/

import ImageStream.Base.Action
import ImageStream.Base.UuidText
import ImageStream.Json
import ImageStream.Sessions.Credentials
import Mathlib.Data.Finset.Card

namespace ImageStream

open Base Digest

/-! ## Claims -/

/-- Raise unless a condition holds. -/
def demand (condition : Prop) [Decidable condition] (reason : SessionTokenError) :
    Except SessionTokenError Unit :=
  if condition then .ok () else .error reason

/-- What a value has to have. -/
def demandSome {α : Type} (value : Option α) (reason : SessionTokenError) :
    Except SessionTokenError α :=
  match value with
  | some value => .ok value
  | none => .error reason

/-- `_canonical_uuid`. Only ASCII letters have a lower case among the digits of a UUID. -/
def canonicalUuid (value : JsonValue) (claimName : String) : Except SessionTokenError String := do
  let text ← demandSome value.text? (claimName ++ " must be a UUID string")
  let uuid ← demandSome (Uuid.ofText text) (claimName ++ " must be a UUID string")
  demand (uuid.text = text.toLower) (claimName ++ " must use canonical UUID form")
  return uuid.text

def canonicalUuids : List JsonValue → String → Except SessionTokenError (List String)
  | [], _ => .ok []
  | value :: values, claimName => do
      let uuid ← canonicalUuid value claimName
      let uuids ← canonicalUuids values claimName
      return uuid :: uuids

/-- `PROFILE_DIGEST_PATTERN`. -/
def isProfileDigest (text : String) : Bool :=
  text.toList.length == 64 &&
    text.toList.all fun c => (48 ≤ c.toNat && c.toNat ≤ 57) || (97 ≤ c.toNat && c.toNat ≤ 102)

def profileDigestClaim (claims : JsonFields) : Except SessionTokenError String := do
  let reason := "profile_digest must be a lowercase SHA-256 digest"
  let digest ← demandSome (claims.field "profile_digest").text? reason
  demand (isProfileDigest digest) reason
  return digest

def cameraIdsClaim (claims : JsonFields) : Except SessionTokenError (Finset String) := do
  let reason := "camera_ids must be a non-empty list"
  let cameraIds ← demandSome (claims.field "camera_ids").list? reason
  demand (cameraIds ≠ []) reason
  let normalized ← canonicalUuids cameraIds "camera_ids"
  demand (normalized.toFinset.card = cameraIds.length) "camera_ids must not contain duplicates"
  return normalized.toFinset

def timestampClaim (claims : JsonFields) (claimName : String) : Except SessionTokenError ℤ :=
  demandSome (claims.field claimName).int? (claimName ++ " must be an integer timestamp")

/-- A claim that is stripped. -/
def strippedTextClaim (claims : JsonFields) (claimName : String) :
    Except SessionTokenError String := do
  let reason := claimName ++ " must be non-empty"
  let text ← demandSome (claims.field claimName).text? reason
  demand (strip text ≠ "") reason
  return strip text

/-- A claim that has nothing to strip. -/
def requiredTextClaim (claims : JsonFields) (claimName : String) :
    Except SessionTokenError String := do
  let text ← strippedTextClaim claims claimName
  demand ((claims.field claimName).text? = some text)
    (claimName ++ " must not contain outer whitespace")
  return text

def uuidClaim (claims : JsonFields) (claimName : String) : Except SessionTokenError String :=
  canonicalUuid (claims.field claimName) claimName

/-! ## Scopes -/

def scopeFromClaims (claims : JsonFields) :
    Except SessionTokenError AuthorizedSessionScope := do
  let cameraIds ← cameraIdsClaim claims
  let profileDigest ← profileDigestClaim claims
  let authorizedSubject ← strippedTextClaim claims "sub"
  let processingJobId ← uuidClaim claims "processing_job_id"
  let tokenJti ← uuidClaim claims "jti"
  demand (tokenJti = processingJobId) "jti must equal processing_job_id"
  demand ((claims.field "mode").text? = some "LIVE") "session token mode must be LIVE"
  let expiresAt ← timestampClaim claims "exp"
  let tenantId ← uuidClaim claims "tenant_id"
  let siteId ← uuidClaim claims "site_id"
  let captureSessionId ← uuidClaim claims "capture_session_id"
  return { tenantId, siteId, captureSessionId, processingJobId, cameraIds, profileDigest,
           authorizedSubject, tokenJti, expiresAt }

def cameraIngestScopeFromClaims (claims : JsonFields) :
    Except SessionTokenError AuthorizedCameraIngestScope := do
  demand ((claims.field "credential_kind").text? = some "CAMERA_INGEST")
    "credential_kind must be CAMERA_INGEST"
  let profileDigest ← profileDigestClaim claims
  let authorizedSubject ← requiredTextClaim claims "sub"
  let deviceId ← requiredTextClaim claims "device_id"
  let issuedAt ← timestampClaim claims "iat"
  let expiresAt ← timestampClaim claims "exp"
  let tenantId ← uuidClaim claims "tenant_id"
  let siteId ← uuidClaim claims "site_id"
  let captureSessionId ← uuidClaim claims "capture_session_id"
  let processingJobId ← uuidClaim claims "processing_job_id"
  let cameraClaimId ← uuidClaim claims "camera_claim_id"
  let cameraId ← uuidClaim claims "camera_id"
  let tokenJti ← uuidClaim claims "jti"
  return { tenantId, siteId, captureSessionId, processingJobId, profileDigest, cameraClaimId,
           cameraId, deviceId, authorizedSubject, tokenJti, issuedAt, expiresAt }

/-- What a credential for the relay to the processor is for, as its token says. -/
structure VerifiedRelayScope where
  tenantId : String
  siteId : String
  captureSessionId : String
  processingJobId : String
  profileDigest : String
  coordinatorSubject : String
  cameraIds : Finset String
  workloadSubject : String
  tokenJti : String
  expiresAt : ℤ
  deriving DecidableEq

def relayScopeFromClaims (claims : JsonFields) :
    Except SessionTokenError VerifiedRelayScope := do
  demand ((claims.field "credential_kind").text? = some "PROCESSING_RELAY")
    "credential_kind must be PROCESSING_RELAY"
  let profileDigest ← profileDigestClaim claims
  let cameraIds ← cameraIdsClaim claims
  let expiresAt ← timestampClaim claims "exp"
  let tenantId ← uuidClaim claims "tenant_id"
  let siteId ← uuidClaim claims "site_id"
  let captureSessionId ← uuidClaim claims "capture_session_id"
  let processingJobId ← uuidClaim claims "processing_job_id"
  let coordinatorSubject ← strippedTextClaim claims "coordinator_subject"
  let workloadSubject ← strippedTextClaim claims "sub"
  let tokenJti ← uuidClaim claims "jti"
  return { tenantId, siteId, captureSessionId, processingJobId, profileDigest,
           coordinatorSubject, cameraIds, workloadSubject, tokenJti, expiresAt }

/-! ## What is accepted -/

theorem demand_eq_ok_iff {condition : Prop} [Decidable condition] {reason : SessionTokenError}
    {u : Unit} : demand condition reason = .ok u ↔ condition := by
  unfold demand
  split
  case isTrue h => exact ⟨fun _ => h, fun _ => rfl⟩
  case isFalse h => exact ⟨fun hok => (by cases hok), fun hc => absurd hc h⟩

theorem demandSome_eq_ok_iff {α : Type} {value : Option α} {reason : SessionTokenError} {a : α} :
    demandSome value reason = .ok a ↔ value = some a := by
  cases value <;> simp [demandSome]

/-- Whether a value is a UUID, in either case, with this text as its canonical one. -/
def IsUuid (value : JsonValue) (canonical : String) : Prop :=
  ∃ text, value = .str text ∧ text.toLower = canonical ∧
    ∃ uuid : Uuid, uuid.length = 16 ∧ uuid.text = canonical

theorem canonicalUuid_eq_ok_iff {value : JsonValue} {claimName canonical : String} :
    canonicalUuid value claimName = .ok canonical ↔ IsUuid value canonical := by
  unfold canonicalUuid IsUuid
  simp only [bind_eq_ok, demandSome_eq_ok_iff, demand_eq_ok_iff, JsonValue.text?_eq_some_iff,
    exists_const, ← Uuid.canonical_iff]
  constructor
  · rintro ⟨text, htext, uuid, hread, hlower, hcanonical⟩
    exact ⟨text, htext, uuid, hread, hlower, Except.ok.inj hcanonical⟩
  · rintro ⟨text, htext, uuid, hread, hlower, hcanonical⟩
    exact ⟨text, htext, uuid, hread, hlower, congrArg Except.ok hcanonical⟩

theorem canonicalUuids_eq_ok_iff {values : List JsonValue} {claimName : String}
    {canonical : List String} :
    canonicalUuids values claimName = .ok canonical ↔ List.Forall₂ IsUuid values canonical := by
  induction values generalizing canonical with
  | nil =>
      rw [List.forall₂_nil_left_iff]
      exact ⟨fun h => (Except.ok.inj h).symm, fun h => congrArg Except.ok h.symm⟩
  | cons value values ih =>
      rw [List.forall₂_cons_left_iff, canonicalUuids]
      simp only [bind_eq_ok, canonicalUuid_eq_ok_iff, ih]
      constructor
      · rintro ⟨uuid, huuid, uuids, huuids, hcanonical⟩
        exact ⟨uuid, uuids, huuid, huuids, (Except.ok.inj hcanonical).symm⟩
      · rintro ⟨uuid, uuids, huuid, huuids, rfl⟩
        exact ⟨uuid, huuid, uuids, huuids, rfl⟩

/-- Whether a claim is the digest of a profile. -/
def IsDigest (value : JsonValue) (digest : String) : Prop :=
  value = .str digest ∧ isProfileDigest digest = true

theorem profileDigestClaim_eq_ok_iff {claims : JsonFields} {digest : String} :
    profileDigestClaim claims = .ok digest ↔ IsDigest (claims.field "profile_digest") digest := by
  unfold profileDigestClaim IsDigest
  simp only [bind_eq_ok, demandSome_eq_ok_iff, demand_eq_ok_iff, JsonValue.text?_eq_some_iff,
    exists_const]
  constructor
  · rintro ⟨text, htext, hdigest, hsame⟩
    cases hsame
    exact ⟨htext, hdigest⟩
  · rintro ⟨htext, hdigest⟩
    exact ⟨digest, htext, hdigest, rfl⟩

/-- Whether a claim lists some cameras, each of them once. -/
def ListsCameras (value : JsonValue) (cameraIds : Finset String) : Prop :=
  ∃ items canonical, value = .arr items ∧ items ≠ [] ∧ List.Forall₂ IsUuid items canonical ∧
    canonical.Nodup ∧ cameraIds = canonical.toFinset

theorem cameraIdsClaim_eq_ok_iff {claims : JsonFields} {cameraIds : Finset String} :
    cameraIdsClaim claims = .ok cameraIds ↔
      ListsCameras (claims.field "camera_ids") cameraIds := by
  have hcount : ∀ {items : List JsonValue} {canonical : List String},
      List.Forall₂ IsUuid items canonical →
      (canonical.toFinset.card = items.length ↔ canonical.Nodup) := by
    intro items canonical huuids
    rw [huuids.length_eq]
    exact Multiset.toFinset_card_eq_card_iff_nodup (m := (canonical : Multiset String))
  unfold cameraIdsClaim ListsCameras
  simp only [bind_eq_ok, demandSome_eq_ok_iff, demand_eq_ok_iff, JsonValue.list?_eq_some_iff,
    canonicalUuids_eq_ok_iff, exists_const]
  constructor
  · rintro ⟨items, hitems, hne, canonical, huuids, hcard, hsame⟩
    exact ⟨items, canonical, hitems, hne, huuids, (hcount huuids).mp hcard,
      (Except.ok.inj hsame).symm⟩
  · rintro ⟨items, canonical, hitems, hne, huuids, hnodup, rfl⟩
    exact ⟨items, hitems, hne, canonical, huuids, (hcount huuids).mpr hnodup, rfl⟩

/-- Whether a claim is a text which is this one without blanks at its ends. -/
def StripsTo (value : JsonValue) (stripped : String) : Prop :=
  ∃ text, value = .str text ∧ strip text = stripped ∧ stripped ≠ ""

theorem strippedTextClaim_eq_ok_iff {claims : JsonFields} {claimName stripped : String} :
    strippedTextClaim claims claimName = .ok stripped ↔
      StripsTo (claims.field claimName) stripped := by
  unfold strippedTextClaim StripsTo
  simp only [bind_eq_ok, demandSome_eq_ok_iff, demand_eq_ok_iff, JsonValue.text?_eq_some_iff,
    exists_const]
  constructor
  · rintro ⟨text, htext, hne, hsame⟩
    cases hsame
    exact ⟨text, htext, rfl, hne⟩
  · rintro ⟨text, htext, rfl, hne⟩
    exact ⟨text, htext, hne, rfl⟩

/-- Whether a claim is this text, which has nothing to strip. -/
def IsText (value : JsonValue) (text : String) : Prop :=
  value = .str text ∧ strip text = text ∧ text ≠ ""

theorem requiredTextClaim_eq_ok_iff {claims : JsonFields} {claimName text : String} :
    requiredTextClaim claims claimName = .ok text ↔ IsText (claims.field claimName) text := by
  unfold requiredTextClaim IsText
  simp only [bind_eq_ok, strippedTextClaim_eq_ok_iff, demand_eq_ok_iff,
    JsonValue.text?_eq_some_iff, exists_const]
  constructor
  · rintro ⟨stripped, ⟨original, horiginal, hstrip, hne⟩, hclaim, hsame⟩
    cases hsame
    rw [hclaim] at horiginal
    cases horiginal
    exact ⟨hclaim, hstrip, hne⟩
  · rintro ⟨hclaim, hstrip, hne⟩
    exact ⟨text, ⟨text, hclaim, hstrip, hne⟩, hclaim, rfl⟩

theorem uuidClaim_eq_ok_iff {claims : JsonFields} {claimName canonical : String} :
    uuidClaim claims claimName = .ok canonical ↔ IsUuid (claims.field claimName) canonical :=
  canonicalUuid_eq_ok_iff

theorem timestampClaim_eq_ok_iff {claims : JsonFields} {claimName : String} {seconds : ℤ} :
    timestampClaim claims claimName = .ok seconds ↔
      (claims.field claimName).int? = some seconds :=
  demandSome_eq_ok_iff

/-- Whether claims are those of a session token with a scope. -/
structure AuthorizedSessionScope.Claimed (scope : AuthorizedSessionScope) (claims : JsonFields) :
    Prop where
  tenantId : IsUuid (claims.field "tenant_id") scope.tenantId
  siteId : IsUuid (claims.field "site_id") scope.siteId
  captureSessionId : IsUuid (claims.field "capture_session_id") scope.captureSessionId
  processingJobId : IsUuid (claims.field "processing_job_id") scope.processingJobId
  cameraIds : ListsCameras (claims.field "camera_ids") scope.cameraIds
  profileDigest : IsDigest (claims.field "profile_digest") scope.profileDigest
  authorizedSubject : StripsTo (claims.field "sub") scope.authorizedSubject
  tokenJti : IsUuid (claims.field "jti") scope.tokenJti
  expiresAt : (claims.field "exp").int? = some scope.expiresAt
  isLive : claims.field "mode" = .str "LIVE"
  namesJob : scope.tokenJti = scope.processingJobId

theorem scopeFromClaims_eq_ok_iff {claims : JsonFields} {scope : AuthorizedSessionScope} :
    scopeFromClaims claims = .ok scope ↔ scope.Claimed claims := by
  unfold scopeFromClaims
  simp only [bind_eq_ok, cameraIdsClaim_eq_ok_iff, profileDigestClaim_eq_ok_iff,
    strippedTextClaim_eq_ok_iff, uuidClaim_eq_ok_iff, demand_eq_ok_iff,
    JsonValue.text?_eq_some_iff, timestampClaim_eq_ok_iff, exists_const]
  constructor
  · rintro ⟨cameraIds, hcameras, profileDigest, hdigest, subject, hsubject, job, hjob, jti, hjti,
      hsame, hmode, expiresAt, hexpires, tenantId, htenant, siteId, hsite, captureSessionId,
      hcapture, hscope⟩
    cases hscope
    exact ⟨htenant, hsite, hcapture, hjob, hcameras, hdigest, hsubject, hjti, hexpires, hmode,
      hsame⟩
  · intro h
    exact ⟨_, h.cameraIds, _, h.profileDigest, _, h.authorizedSubject, _, h.processingJobId, _,
      h.tokenJti, h.namesJob, h.isLive, _, h.expiresAt, _, h.tenantId, _, h.siteId, _,
      h.captureSessionId, rfl⟩

/-- Whether claims are those of a camera's token with a scope. -/
structure AuthorizedCameraIngestScope.Claimed (scope : AuthorizedCameraIngestScope)
    (claims : JsonFields) : Prop where
  tenantId : IsUuid (claims.field "tenant_id") scope.tenantId
  siteId : IsUuid (claims.field "site_id") scope.siteId
  captureSessionId : IsUuid (claims.field "capture_session_id") scope.captureSessionId
  processingJobId : IsUuid (claims.field "processing_job_id") scope.processingJobId
  profileDigest : IsDigest (claims.field "profile_digest") scope.profileDigest
  cameraClaimId : IsUuid (claims.field "camera_claim_id") scope.cameraClaimId
  cameraId : IsUuid (claims.field "camera_id") scope.cameraId
  deviceId : IsText (claims.field "device_id") scope.deviceId
  authorizedSubject : IsText (claims.field "sub") scope.authorizedSubject
  tokenJti : IsUuid (claims.field "jti") scope.tokenJti
  issuedAt : (claims.field "iat").int? = some scope.issuedAt
  expiresAt : (claims.field "exp").int? = some scope.expiresAt
  isCameraIngest : claims.field "credential_kind" = .str "CAMERA_INGEST"

theorem cameraIngestScopeFromClaims_eq_ok_iff {claims : JsonFields}
    {scope : AuthorizedCameraIngestScope} :
    cameraIngestScopeFromClaims claims = .ok scope ↔ scope.Claimed claims := by
  unfold cameraIngestScopeFromClaims
  simp only [bind_eq_ok, profileDigestClaim_eq_ok_iff, requiredTextClaim_eq_ok_iff,
    uuidClaim_eq_ok_iff, demand_eq_ok_iff, JsonValue.text?_eq_some_iff, timestampClaim_eq_ok_iff,
    exists_const]
  constructor
  · rintro ⟨hkind, profileDigest, hdigest, subject, hsubject, deviceId, hdevice, issuedAt, hissued,
      expiresAt, hexpires, tenantId, htenant, siteId, hsite, captureSessionId, hcapture, job, hjob,
      cameraClaimId, hclaim, cameraId, hcamera, jti, hjti, hscope⟩
    cases hscope
    exact ⟨htenant, hsite, hcapture, hjob, hdigest, hclaim, hcamera, hdevice, hsubject, hjti,
      hissued, hexpires, hkind⟩
  · intro h
    exact ⟨h.isCameraIngest, _, h.profileDigest, _, h.authorizedSubject, _, h.deviceId, _,
      h.issuedAt, _, h.expiresAt, _, h.tenantId, _, h.siteId, _, h.captureSessionId, _,
      h.processingJobId, _, h.cameraClaimId, _, h.cameraId, _, h.tokenJti, rfl⟩

/-- Whether claims are those of a relay token with a scope. -/
structure VerifiedRelayScope.Claimed (scope : VerifiedRelayScope) (claims : JsonFields) :
    Prop where
  tenantId : IsUuid (claims.field "tenant_id") scope.tenantId
  siteId : IsUuid (claims.field "site_id") scope.siteId
  captureSessionId : IsUuid (claims.field "capture_session_id") scope.captureSessionId
  processingJobId : IsUuid (claims.field "processing_job_id") scope.processingJobId
  profileDigest : IsDigest (claims.field "profile_digest") scope.profileDigest
  coordinatorSubject : StripsTo (claims.field "coordinator_subject") scope.coordinatorSubject
  cameraIds : ListsCameras (claims.field "camera_ids") scope.cameraIds
  workloadSubject : StripsTo (claims.field "sub") scope.workloadSubject
  tokenJti : IsUuid (claims.field "jti") scope.tokenJti
  expiresAt : (claims.field "exp").int? = some scope.expiresAt
  isProcessingRelay : claims.field "credential_kind" = .str "PROCESSING_RELAY"

theorem relayScopeFromClaims_eq_ok_iff {claims : JsonFields} {scope : VerifiedRelayScope} :
    relayScopeFromClaims claims = .ok scope ↔ scope.Claimed claims := by
  unfold relayScopeFromClaims
  simp only [bind_eq_ok, cameraIdsClaim_eq_ok_iff, profileDigestClaim_eq_ok_iff,
    strippedTextClaim_eq_ok_iff, uuidClaim_eq_ok_iff, demand_eq_ok_iff,
    JsonValue.text?_eq_some_iff, timestampClaim_eq_ok_iff, exists_const]
  constructor
  · rintro ⟨hkind, profileDigest, hdigest, cameraIds, hcameras, expiresAt, hexpires, tenantId,
      htenant, siteId, hsite, captureSessionId, hcapture, job, hjob, coordinator, hcoordinator,
      workload, hworkload, jti, hjti, hscope⟩
    cases hscope
    exact ⟨htenant, hsite, hcapture, hjob, hdigest, hcoordinator, hcameras, hworkload, hjti,
      hexpires, hkind⟩
  · intro h
    exact ⟨h.isProcessingRelay, _, h.profileDigest, _, h.cameraIds, _, h.expiresAt, _, h.tenantId,
      _, h.siteId, _, h.captureSessionId, _, h.processingJobId, _, h.coordinatorSubject, _,
      h.workloadSubject, _, h.tokenJti, rfl⟩

/-- **Well-formed claims.** The claims that a kind of token is accepted with are exactly those
that its scope says. What is accepted for a camera is refused for the relay. -/
theorem claims_accepted_iff (claims : JsonFields) :
    (∀ scope, scopeFromClaims claims = .ok scope ↔ scope.Claimed claims) ∧
    (∀ scope, cameraIngestScopeFromClaims claims = .ok scope ↔ scope.Claimed claims) ∧
    (∀ scope, relayScopeFromClaims claims = .ok scope ↔ scope.Claimed claims) ∧
    ∀ scope scope', cameraIngestScopeFromClaims claims = .ok scope →
      relayScopeFromClaims claims ≠ .ok scope' := by
  refine ⟨fun _ => scopeFromClaims_eq_ok_iff, fun _ => cameraIngestScopeFromClaims_eq_ok_iff,
    fun _ => relayScopeFromClaims_eq_ok_iff, fun scope scope' hcamera hrelay => ?_⟩
  have hkind := (cameraIngestScopeFromClaims_eq_ok_iff.mp hcamera).isCameraIngest
  rw [(relayScopeFromClaims_eq_ok_iff.mp hrelay).isProcessingRelay] at hkind
  exact absurd hkind (by simp)

end ImageStream
