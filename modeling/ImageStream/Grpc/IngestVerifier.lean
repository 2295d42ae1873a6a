/-
# The verifier of ingest credentials

A stream presents a bearer token. Its signature is checked with a key of the session authority,
its claims become a scope, and the authority is asked whether the session, and the credential
of a camera, are active; the last two questions are asked again for every packet. Tokens of the
two kinds have verifiers of their own, which share the keys and the answers about sessions.
-/

import ImageStream.Grpc.Stream
import ImageStream.Sessions.SignedTokens
import ImageStream.Sessions.StatusCaches

namespace ImageStream

open Base

variable {Key : Type}

/-! ## The two kinds of tokens -/

def legacyKind : TokenKind where
  required := ["iss", "aud", "sub", "tenant_id", "site_id", "capture_session_id",
    "processing_job_id", "camera_ids", "profile_digest", "mode", "iat", "nbf", "exp", "jti"]
  tokenMissing := "session token is required"
  wrongAlgorithm := "session token algorithm must be RS256"
  invalid := "session token validation failed"

def cameraIngestKind : TokenKind where
  required := ["iss", "aud", "sub", "credential_kind", "tenant_id", "site_id",
    "capture_session_id", "processing_job_id", "profile_digest", "camera_claim_id", "camera_id",
    "device_id", "iat", "nbf", "exp", "jti"]
  tokenMissing := "camera ingest credential is required"
  wrongAlgorithm := "camera ingest credential algorithm must be RS256"
  invalid := "camera ingest credential validation failed"

/-- What the verifiers know of the session authority. -/
structure IngestAuthority (Key : Type) where
  keyCache : JwksKeyCache Key
  statusCache : SessionStatusCache
  credentialStatusCache : CameraCredentialStatusCache

/-- What the question whether a scope is active meets: the clock, and for the session and the
credential each another clock and what the authority would answer. -/
structure ActivityEvents where
  now : ℚ
  statusNow : ℚ
  statusAnswer : StatusAnswer
  credentialNow : ℚ
  credentialAnswer : StatusAnswer

namespace IngestAuthority

variable (authority : IngestAuthority Key)

def assertSessionActive (processingJobId : String) (activity : ActivityEvents) :
    IngestAuthority Key × Except SessionTokenError Unit :=
  let (statusCache, answer) := authority.statusCache.assertActive
    ⟨activity.statusNow, processingJobId, activity.statusAnswer⟩
  ({ authority with statusCache := statusCache }, answer)

def assertCredentialActive (credentialId processingJobId : String) (activity : ActivityEvents) :
    IngestAuthority Key × Except SessionTokenError Unit :=
  let (credentialStatusCache, answer) := authority.credentialStatusCache.assertActive
    ⟨activity.credentialNow, credentialId, processingJobId, activity.credentialAnswer⟩
  ({ authority with credentialStatusCache := credentialStatusCache }, answer)

end IngestAuthority

/-- Verify a token of a kind, with what is made of its claims and how its scope is found to be
active. -/
def verifyToken {Scope : Type} (jwt : JwtLibrary Key) (kind : TokenKind)
    (fromClaims : JsonFields → Except SessionTokenError Scope)
    (assertActive : IngestAuthority Key → Scope → ActivityEvents →
      IngestAuthority Key × Except SessionTokenError Unit)
    (settings : VerifierSettings) (authority : IngestAuthority Key) (token : String)
    (events : TokenEvents) (activity : ActivityEvents) :
    IngestAuthority Key × Except SessionTokenError Scope :=
  let (keyCache, answer) := jwt.verifiedClaims kind settings authority.keyCache token events
  let authority := { authority with keyCache := keyCache }
  match answer >>= fromClaims with
  | .error reason => (authority, .error reason)
  | .ok scope =>
      match assertActive authority scope activity with
      | (authority, .error reason) => (authority, .error reason)
      | (authority, .ok ()) => (authority, .ok scope)

namespace SessionTokenVerifier

def assertActive (authority : IngestAuthority Key) (scope : AuthorizedSessionScope)
    (activity : ActivityEvents) : IngestAuthority Key × Except SessionTokenError Unit :=
  if scope.expiresAt ≤ truncateSeconds activity.now then
    (authority, .error "session token is expired")
  else authority.assertSessionActive scope.processingJobId activity

def verify (jwt : JwtLibrary Key) : VerifierSettings → IngestAuthority Key → String →
    TokenEvents → ActivityEvents →
    IngestAuthority Key × Except SessionTokenError AuthorizedSessionScope :=
  verifyToken jwt legacyKind scopeFromClaims assertActive

end SessionTokenVerifier

namespace CameraIngestCredentialVerifier

def assertActive (authority : IngestAuthority Key) (scope : AuthorizedCameraIngestScope)
    (activity : ActivityEvents) : IngestAuthority Key × Except SessionTokenError Unit :=
  if scope.expiresAt ≤ truncateSeconds activity.now then
    (authority, .error "camera ingest credential is expired")
  else
    match authority.assertSessionActive scope.processingJobId activity with
    | (authority, .error reason) => (authority, .error reason)
    | (authority, .ok ()) =>
        authority.assertCredentialActive scope.tokenJti scope.processingJobId activity

def verify (jwt : JwtLibrary Key) : VerifierSettings → IngestAuthority Key → String →
    TokenEvents → ActivityEvents →
    IngestAuthority Key × Except SessionTokenError AuthorizedCameraIngestScope :=
  verifyToken jwt cameraIngestKind cameraIngestScopeFromClaims assertActive

end CameraIngestCredentialVerifier

/-- The verifiers of the two kinds, as far as they are enabled. -/
structure VersionedIngestCredentialVerifier where
  legacy : Option VerifierSettings
  cameraIngest : Option VerifierSettings

namespace VersionedIngestCredentialVerifier

variable (verifier : VersionedIngestCredentialVerifier)

def verify (jwt : JwtLibrary Key) (authority : IngestAuthority Key) (token : String)
    (events : TokenEvents) (activity : ActivityEvents) :
    IngestAuthority Key × Except SessionTokenError AuthorizationScope :=
  match jwt.unverifiedClaims token with
  | none => (authority, .error "ingest credential is malformed")
  | some unverified =>
      let credentialKind := unverified.field "credential_kind"
      if credentialKind.isNull then
        match verifier.legacy with
        | none => (authority, .error "legacy session credential is disabled")
        | some settings =>
            let (authority, answer) :=
              SessionTokenVerifier.verify jwt settings authority token events activity
            (authority, answer.map .session)
      else
        match verifier.cameraIngest with
        | none => (authority, .error "unsupported ingest credential kind")
        | some settings =>
            if credentialKind.text? ≠ some "CAMERA_INGEST" then
              (authority, .error "unsupported ingest credential kind")
            else
              let (authority, answer) :=
                CameraIngestCredentialVerifier.verify jwt settings authority token events activity
              (authority, answer.map .camera)

def assertActive (authority : IngestAuthority Key) (scope : AuthorizationScope)
    (activity : ActivityEvents) : IngestAuthority Key × Except SessionTokenError Unit :=
  match scope with
  | .camera scope =>
      if verifier.cameraIngest.isNone then
        (authority, .error "camera ingest credential is disabled")
      else CameraIngestCredentialVerifier.assertActive authority scope activity
  | .session scope =>
      if verifier.legacy.isNone then
        (authority, .error "legacy session credential is disabled")
      else SessionTokenVerifier.assertActive authority scope activity

end VersionedIngestCredentialVerifier

/-! ## Bearer tokens -/

/-- `value.partition(" ")`: what is in front of the first blank, and what is behind it if there
is one. -/
def partitionBlank (value : String) : String × Option String :=
  let front := value.toList.takeWhile (· ≠ ' ')
  (String.ofList front,
    match value.toList.dropWhile (· ≠ ' ') with
    | [] => none
    | _ :: behind => some (String.ofList behind))

/-- `extract_bearer_token` of the metadata of a call. -/
def extractBearerToken (metadata : List (String × String)) : Except SessionTokenError String :=
  match metadata.filter fun item => item.1.toLower = "authorization" with
  | [item] =>
      let (scheme, token) := partitionBlank item.2
      match token with
      | some token =>
          if scheme.toLower ≠ "bearer" ∨ strip token = "" then
            .error "authorization must use Bearer credentials"
          else .ok (strip token)
      | none => .error "authorization must use Bearer credentials"
  | _ => .error "exactly one authorization value is required"

/-! ## Calls -/

/-- What the server asks the verifier: to verify what a stream presents, or whether a scope is
still active. -/
inductive VerifierCall
  | present (metadata : List (String × String)) (events : TokenEvents) (activity : ActivityEvents)
  | assertActive (scope : AuthorizationScope) (activity : ActivityEvents)

def VerifierCall.activity : VerifierCall → ActivityEvents
  | present _ _ activity => activity
  | assertActive _ activity => activity

/-- What a call leaves, with the scope that is good. -/
def verifierStep (jwt : JwtLibrary Key) (verifier : VersionedIngestCredentialVerifier)
    (authority : IngestAuthority Key) :
    VerifierCall → IngestAuthority Key × Except SessionTokenError AuthorizationScope
  | .present metadata events activity =>
      match extractBearerToken metadata with
      | .error reason => (authority, .error reason)
      | .ok token => verifier.verify jwt authority token events activity
  | .assertActive scope activity =>
      let (authority, answer) := verifier.assertActive authority scope activity
      (authority, answer.map fun _ => scope)

/-- The opening of a stream that presents a credential, for a verifier's answer. -/
def openingOf (metadata : List (String × String)) (now : ℚ)
    (answer : Except SessionTokenError AuthorizationScope) : Opening where
  verification := some (
    match extractBearerToken metadata, answer with
    | .ok token, .ok scope => .accepted token scope
    | .ok _, .error reason => .refused reason
    | .error reason, _ => .refused reason)
  now := now

end ImageStream
