/-
# Credentials for the relay

Before it announces a frame set, the relay client needs a credential for the processing job of
the set. It presents an access token of its own to Main, and Main answers with a token which it
shows once. The token counts when it is signed, when it is for the scope of the set, and when
the answer's body says the same. A credential that is held is used again while it is for the
scope of the set and not about to expire.

The HTTP client is outside: what it comes back with is an input of each call. The URL and the
idempotency key of a request are left out.
-/

import ImageStream.Relay.Connection
import ImageStream.Sessions.SignedTokens

namespace ImageStream

open Base

variable {Key : Type}

/-! ## Answers -/

structure HttpResponse where
  statusCode : ℕ
  /-- The header `X-GC-Processing-Relay-Token`. -/
  relayToken : Option String := none
  /-- The body, if it is JSON. -/
  json : Option JsonValue

/-- What the HTTP client comes back with. -/
inductive HttpAnswer
  | raised
  | answered (response : HttpResponse)

inductive RelayCredentialError
  | sessionToken (reason : SessionTokenError)
  | relayCredentialSessionInactive (reason : SessionTokenError)
  | httpError
  /-- A body that is not JSON. -/
  | valueError
  /-- Items that are not hashable, or something that has no items. -/
  | typeError

def HttpAnswer.received : HttpAnswer → Except RelayCredentialError HttpResponse
  | .raised => .error .httpError
  | .answered response => .ok response

namespace HttpResponse

variable (response : HttpResponse)

/-- `raise_for_status`, which lets nothing but success pass. -/
def raiseForStatus : Except RelayCredentialError Unit :=
  if 200 ≤ response.statusCode ∧ response.statusCode ≤ 299 then .ok () else .error .httpError

def readJson : Except RelayCredentialError JsonValue :=
  match response.json with
  | some payload => .ok payload
  | none => .error .valueError

end HttpResponse

namespace JsonValue

def object? : JsonValue → Option JsonFields
  | obj fields => some fields
  | _ => none

def isHashable : JsonValue → Bool
  | arr _ => false
  | obj _ => false
  | _ => true

/-- The items of `frozenset(value)`. -/
def items : JsonValue → Except RelayCredentialError (List JsonValue)
  | str value => .ok (value.toList.map fun c => str (String.singleton c))
  | arr items => if items.all isHashable then .ok items else .error .typeError
  | obj fields => .ok (fields.map fun field => str field.1)
  | _ => .error .typeError

/-- The items of `frozenset(value or [])`. -/
def itemsIfAny (value : JsonValue) : Except RelayCredentialError (List JsonValue) :=
  if value.truthy then value.items else .ok []

end JsonValue

/-! ## Access tokens -/

/-- A positive number of seconds, or one of the numbers that are no such number and are not
below zero either. -/
inductive Lifetime
  | seconds (seconds : ℚ)
  | infinite
  | nan

/-- The lifetime of a value for which `isinstance(value, (int, float))` and not `value <= 0`. -/
def JsonValue.lifetime? : JsonValue → Option Lifetime
  | float value => if 0 < value then some (.seconds value) else none
  | infinity negative => if negative then none else some .infinite
  | nan => some .nan
  | value => (value.int?.filter fun n => 0 < n).map fun n => .seconds n

/-- An access token, with its expiry: its lifetime after the time of its request. -/
structure WorkloadAccessToken where
  value : String
  requestedAt : ℚ
  expiresIn : Lifetime

/-- Whether a token lasts beyond a time. -/
def WorkloadAccessToken.lastsBeyond (token : WorkloadAccessToken) (time : ℚ) : Bool :=
  match token.expiresIn with
  | .seconds seconds => decide (time < token.requestedAt + seconds)
  | .infinite => true
  | .nan => false

structure ClientCredentialsTokenProvider where
  refreshSkewSec : ℚ
  cached : Option WorkloadAccessToken := none

namespace ClientCredentialsTokenProvider

/-- The token that a response grants at a time. -/
def granted (response : HttpResponse) (current : ℚ) :
    Except RelayCredentialError WorkloadAccessToken := do
  response.raiseForStatus
  let payload ← response.readJson
  let fields := payload.object?.getD []
  match (fields.field "access_token").text?.filter fun token => token ≠ "" with
  | none => throw (.sessionToken "workload token response is missing access_token")
  | some token =>
      match (fields.field "expires_in").lifetime? with
      | none => throw (.sessionToken "workload token response has invalid expires_in")
      | some expiresIn => return ⟨token, current, expiresIn⟩

variable (provider : ClientCredentialsTokenProvider)

/-- The cached token, unless it is about to expire. -/
def usable? (current : ℚ) : Option WorkloadAccessToken :=
  provider.cached.filter fun token => token.lastsBeyond (current + provider.refreshSkewSec)

def resolve (current : ℚ) (answer : HttpAnswer) :
    ClientCredentialsTokenProvider × Except RelayCredentialError String :=
  match provider.usable? current with
  | some token => (provider, .ok token.value)
  | none =>
      match answer.received >>= fun response => granted response current with
      | .error e => (provider, .error e)
      | .ok token => ({ provider with cached := some token }, .ok token.value)

end ClientCredentialsTokenProvider

/-! ## Verification -/

/-- `RELAY_CREDENTIAL_REQUIRED_CLAIMS`, with the texts of the verifier. -/
def relayKind : TokenKind where
  required := ["iss", "aud", "sub", "credential_kind", "tenant_id", "site_id",
    "capture_session_id", "processing_job_id", "profile_digest", "coordinator_subject",
    "camera_ids", "iat", "nbf", "exp", "jti"]
  tokenMissing := "processing relay credential is required"
  wrongAlgorithm := "processing relay credential algorithm must be RS256"
  invalid := "processing relay credential validation failed"

/-- What a verification meets: its events, and the time at which the expiry is checked. -/
structure RelayTokenEvents where
  token : TokenEvents
  now : ℚ

/-- The scope of verified claims, unless it has expired. -/
def unexpiredRelayScope (claims : JsonFields) (now : ℚ) :
    Except SessionTokenError VerifiedRelayScope := do
  let scope ← relayScopeFromClaims claims
  demand (truncateSeconds now < scope.expiresAt) "processing relay credential is expired"
  return scope

/-- `ProcessingRelayCredentialVerifier.verify`. -/
def verifyRelayToken (jwt : JwtLibrary Key) (settings : VerifierSettings)
    (keyCache : JwksKeyCache Key) (token : String) (events : RelayTokenEvents) :
    JwksKeyCache Key × Except SessionTokenError VerifiedRelayScope :=
  let verified := jwt.verifiedClaims relayKind settings keyCache token events.token
  (verified.1, verified.2 >>= fun claims => unexpiredRelayScope claims events.now)

/-! ## The provider -/

/-- The scope as the relay client reads it. -/
def VerifiedRelayScope.processingRelayScope (scope : VerifiedRelayScope) :
    ProcessingRelayScope where
  tenantId := scope.tenantId
  siteId := scope.siteId
  captureSessionId := scope.captureSessionId
  processingJobId := scope.processingJobId
  profileDigest := scope.profileDigest
  coordinatorSubject := scope.coordinatorSubject
  cameraIds := scope.cameraIds
  tokenJti := scope.tokenJti

def VerifiedRelayScope.matchesClaim (scope : VerifiedRelayScope) (claim : ClaimedFrameSet) :
    Bool :=
  scope.processingRelayScope.matchesClaim claim

abbrev ActiveProcessingRelayCredential := ActiveSessionCredential VerifiedRelayScope

/-- `_assert_response_matches_scope`. -/
def assertResponseMatchesScope (payload : JsonValue) (scope : VerifiedRelayScope) :
    Except RelayCredentialError Unit := do
  match payload.object? with
  | none => throw (.sessionToken "Main relay credential response must be an object")
  | some fields =>
      let cameraIds ← (fields.field "cameraIds").itemsIfAny
      if (fields.field "credentialId").text? = some scope.tokenJti ∧
          (fields.field "captureSessionId").text? = some scope.captureSessionId ∧
          (fields.field "processingJobId").text? = some scope.processingJobId ∧
          (fields.field "credentialKind").text? = some "PROCESSING_RELAY" ∧
          cameraIds.all (fun item => item.text?.isSome) ∧
          (cameraIds.filterMap JsonValue.text?).toFinset = scope.cameraIds then
        return ()
      else
        throw (.sessionToken "Main relay credential response does not match its signed token")

/-- A request for a credential. -/
structure RelayCredentialRequest where
  tenantId : Option String
  processingJobId : Option String
  accessToken : String

/-- What a call meets: the clock when it looks for a credential that is held, the clock of the
access tokens and what the token authority answers, what Main answers, and what the
verification meets. -/
structure RelayCredentialEvents where
  now : ℚ
  accessNow : ℚ
  accessAnswer : HttpAnswer
  answer : HttpAnswer
  verification : RelayTokenEvents

/-- `MainProcessingRelayCredentialProvider`, with the requests that it has sent. -/
structure RelayCredentialProvider (Key : Type) where
  refreshSkewSec : ℤ
  accessTokens : ClientCredentialsTokenProvider
  keyCache : JwksKeyCache Key
  credentials : Dict String ActiveProcessingRelayCredential := .empty
  requests : List RelayCredentialRequest := []

/-- What Main's answer gives: the token and the body. -/
def issuedToken (answer : HttpAnswer) : Except RelayCredentialError (String × JsonValue) := do
  let response ← answer.received
  if response.statusCode = 409 then
    throw (.relayCredentialSessionInactive "processing job is inactive")
  else
    response.raiseForStatus
    match response.relayToken.filter fun token => token ≠ "" with
    | none =>
        throw (.sessionToken
          "Main relay credential response did not include the one-time token")
    | some relayToken =>
        let payload ← response.readJson
        return (relayToken, payload)

namespace RelayCredentialProvider

variable (jwt : JwtLibrary Key) (settings : VerifierSettings)
  (provider : RelayCredentialProvider Key)

/-- The credential that is held under a job, if it is good for a claim. -/
def usable? (processingJobId : String) (claim : ClaimedFrameSet) (now : ℚ) :
    Option ActiveProcessingRelayCredential :=
  (provider.credentials.get? processingJobId).filter fun existing =>
    decide (truncateSeconds now + provider.refreshSkewSec < existing.scope.expiresAt) &&
      existing.scope.matchesClaim claim

/-- The provider after a request has been sent. -/
def sending (claim : ClaimedFrameSet) (accessTokens : ClientCredentialsTokenProvider)
    (accessToken : String) : RelayCredentialProvider Key :=
  { provider with
    accessTokens := accessTokens
    requests := provider.requests ++ [⟨claim.tenantId, claim.processingJobId, accessToken⟩] }

/-- The credential of a verified scope. -/
def credentialFor (claim : ClaimedFrameSet) (relayToken : String) (payload : JsonValue)
    (scope : VerifiedRelayScope) :
    Except RelayCredentialError ActiveProcessingRelayCredential :=
  if scope.matchesClaim claim then do
    assertResponseMatchesScope payload scope
    return ⟨relayToken, scope⟩
  else
    .error (.sessionToken "processing relay credential does not match the manifest scope")

/-- `_issue`. -/
def issue (claim : ClaimedFrameSet) (events : RelayCredentialEvents) :
    RelayCredentialProvider Key × Except RelayCredentialError ActiveProcessingRelayCredential :=
  match provider.accessTokens.resolve events.accessNow events.accessAnswer with
  | (accessTokens, .error e) => ({ provider with accessTokens := accessTokens }, .error e)
  | (accessTokens, .ok accessToken) =>
      let sent := provider.sending claim accessTokens accessToken
      match issuedToken events.answer with
      | .error e => (sent, .error e)
      | .ok (relayToken, payload) =>
          match verifyRelayToken jwt settings sent.keyCache relayToken events.verification with
          | (keyCache, .error reason) =>
              ({ sent with keyCache := keyCache }, .error (.sessionToken reason))
          | (keyCache, .ok scope) =>
              ({ sent with keyCache := keyCache },
                credentialFor claim relayToken payload scope)

/-- `resolve_for_claim`. -/
def resolveForClaim (claim : ClaimedFrameSet) (events : RelayCredentialEvents) :
    RelayCredentialProvider Key × Except RelayCredentialError ActiveProcessingRelayCredential :=
  let processingJobId := claim.processingJobId.getD ""
  if processingJobId = "" then
    (provider, .error (.sessionToken "manifest is missing processing_job_id"))
  else
    match provider.usable? processingJobId claim events.now with
    | some existing => (provider, .ok existing)
    | none =>
        match provider.issue jwt settings claim events with
        | (issued, .error e) => (issued, .error e)
        | (issued, .ok credential) =>
            ({ issued with credentials := issued.credentials.set processingJobId credential },
              .ok credential)

/-- Forget the credentials. The access token and the keys stay. -/
def clear : RelayCredentialProvider Key :=
  { provider with credentials := .empty }

/-- A provider as it is constructed, with a key cache of its own. -/
def new (cacheTtlSec : {seconds : ℚ // 0 < seconds}) (refreshSkewSec : ℤ) (accessSkewSec : ℚ) :
    RelayCredentialProvider Key where
  refreshSkewSec := refreshSkewSec
  accessTokens := { refreshSkewSec := accessSkewSec }
  keyCache := .new cacheTtlSec

end RelayCredentialProvider

/-! ## Calls -/

inductive RelayCredentialCall
  | resolveForClaim (claim : ClaimedFrameSet) (events : RelayCredentialEvents)
  | clear

/-- A call, and what it returns; `clear` returns nothing. -/
def relayCredentialStep (jwt : JwtLibrary Key) (settings : VerifierSettings)
    (provider : RelayCredentialProvider Key) :
    RelayCredentialCall → RelayCredentialProvider Key ×
      Option (Except RelayCredentialError ActiveProcessingRelayCredential)
  | .resolveForClaim claim events =>
      let resolved := provider.resolveForClaim jwt settings claim events
      (resolved.1, some resolved.2)
  | .clear => (provider.clear, none)

end ImageStream
