/-
# Who vouches for a credential

A scope is good for a stream only as long as the session authority stands behind it: it has
published the key that the token is signed with, and it has confirmed the session, and a
camera's credential, and all of this not long ago. The caches may answer for the authority, but
never for longer than their lifetimes, however the calls of the streams are mixed.
-/

import ImageStream.Grpc.IngestVerifier

namespace ImageStream

open Base

variable {Key : Type}

/-! ## What a status cache holds after a call -/

/-- What a call does to the entries of a status cache. -/
structure StatusCache.Renewed {κ : Type} [DecidableEq κ] (cache cache' : StatusCache κ)
    (now : ℚ) (confirms : κ → Bool) : Prop where
  cacheTtlSec : cache'.cacheTtlSec = cache.cacheTtlSec
  entries : ∀ key activeUntil, cache'.activeUntil.get? key = some activeUntil →
    cache.activeUntil.get? key = some activeUntil ∨
      (confirms key = true ∧ activeUntil = now + cache.cacheTtlSec)

namespace StatusCache.Renewed

variable {κ : Type} [DecidableEq κ] {cache cache' : StatusCache κ} {now : ℚ} {confirms : κ → Bool}

theorem refl (cache : StatusCache κ) (now : ℚ) (confirms : κ → Bool) :
    cache.Renewed cache now confirms :=
  ⟨rfl, fun _ _ h => Or.inl h⟩

theorem of_within (h : cache'.Within cache) : cache.Renewed cache' now confirms :=
  ⟨h.cacheTtlSec, fun key activeUntil hget => Or.inl (h.activeUntil key activeUntil hget)⟩

theorem of_outcome {key : κ} {result : StatusCache κ × Except SessionTokenError Unit}
    (h : StatusOutcome cache key now (confirms key) result) :
    cache.Renewed result.1 now confirms := by
  cases h with
  | held => exact refl cache now confirms
  | refused _ _ kept hkept => exact of_within hkept
  | confirmed _ hconfirmed kept hkept =>
      refine ⟨hkept.cacheTtlSec, fun k activeUntil hget => ?_⟩
      rw [StatusCache.remember, Dict.get?_set] at hget
      by_cases hk : k = key
      · rw [if_pos hk, Option.some.injEq, hkept.cacheTtlSec] at hget
        exact Or.inr ⟨hk ▸ hconfirmed, hget.symm⟩
      · rw [if_neg hk] at hget
        exact Or.inl (hkept.activeUntil k activeUntil hget)

end StatusCache.Renewed

/-- A call that succeeds leaves an entry of its key that still counts. -/
theorem StatusOutcome.holds_of_ok {κ : Type} [DecidableEq κ] {cache : StatusCache κ} {key : κ}
    {now : ℚ} {confirmed : Bool} {result : StatusCache κ × Except SessionTokenError Unit}
    (h : StatusOutcome cache key now confirmed result) (hok : result.2 = .ok ()) :
    result.1.holds key now = true := by
  cases h with
  | held hholds => exact hholds
  | refused => cases hok
  | confirmed _ _ kept =>
      rw [StatusCache.holds_eq_true_iff]
      exact ⟨_, Dict.get?_set_self _ _ _, lt_add_of_pos_right now kept.cacheTtlSec_pos⟩

/-! ## What a question about activity does -/

/-- What a call leaves of what the verifiers know, where only the status caches change. -/
structure IngestAuthority.Asked (authority authority' : IngestAuthority Key)
    (activity : ActivityEvents) : Prop where
  keyCache : authority'.keyCache = authority.keyCache
  sessions : authority.statusCache.Renewed authority'.statusCache activity.statusNow
    activity.statusAnswer.confirmsSession
  credentials : authority.credentialStatusCache.Renewed authority'.credentialStatusCache
    activity.credentialNow activity.credentialAnswer.confirmsCredential

namespace IngestAuthority

variable (authority : IngestAuthority Key) (activity : ActivityEvents)

theorem Asked.refl : authority.Asked authority activity :=
  ⟨rfl, .refl _ _ _, .refl _ _ _⟩

theorem assertSessionActive_asked (processingJobId : String) :
    authority.Asked (authority.assertSessionActive processingJobId activity).1 activity where
  keyCache := rfl
  sessions := StatusCache.Renewed.of_outcome (authority.statusCache.assertActive_outcome
    ⟨activity.statusNow, processingJobId, activity.statusAnswer⟩)
  credentials := .refl _ _ _

theorem assertCredentialActive_asked (credentialId processingJobId : String) :
    authority.Asked (authority.assertCredentialActive credentialId processingJobId activity).1
      activity where
  keyCache := rfl
  sessions := .refl _ _ _
  credentials := StatusCache.Renewed.of_outcome
    (authority.credentialStatusCache.assertActive_outcome
      ⟨activity.credentialNow, credentialId, processingJobId, activity.credentialAnswer⟩)

/-- Whether the authority's answers that are still held cover a scope. -/
def Covers (activity : ActivityEvents) : AuthorizationScope → Prop
  | .session scope =>
      truncateSeconds activity.now < scope.expiresAt ∧
        authority.statusCache.holds scope.processingJobId activity.statusNow = true
  | .camera scope =>
      truncateSeconds activity.now < scope.expiresAt ∧
        authority.statusCache.holds scope.processingJobId activity.statusNow = true ∧
        authority.credentialStatusCache.holds (scope.tokenJti, scope.processingJobId)
          activity.credentialNow = true

end IngestAuthority

/-- What the question about a scope leaves, and what its success means. -/
structure ActivityResult (authority : IngestAuthority Key) (activity : ActivityEvents)
    (scope : AuthorizationScope)
    (result : IngestAuthority Key × Except SessionTokenError Unit) : Prop where
  asked : authority.Asked result.1 activity
  covers : result.2 = .ok () → result.1.Covers activity scope

theorem ActivityResult.of_error {authority authority' : IngestAuthority Key}
    {activity : ActivityEvents} {scope : AuthorizationScope} {reason : SessionTokenError}
    (h : authority.Asked authority' activity) :
    ActivityResult authority activity scope (authority', .error reason) :=
  ⟨h, fun hok => by cases hok⟩

theorem SessionTokenVerifier.assertActive_result (authority : IngestAuthority Key)
    (scope : AuthorizedSessionScope) (activity : ActivityEvents) :
    ActivityResult authority activity (.session scope)
      (SessionTokenVerifier.assertActive authority scope activity) := by
  unfold SessionTokenVerifier.assertActive
  by_cases hexpired : scope.expiresAt ≤ truncateSeconds activity.now
  · rw [if_pos hexpired]
    exact .of_error (.refl _ _)
  · rw [if_neg hexpired]
    refine ⟨authority.assertSessionActive_asked activity _, fun hok => ⟨not_le.mp hexpired, ?_⟩⟩
    exact (authority.statusCache.assertActive_outcome _).holds_of_ok hok

theorem CameraIngestCredentialVerifier.assertActive_result (authority : IngestAuthority Key)
    (scope : AuthorizedCameraIngestScope) (activity : ActivityEvents) :
    ActivityResult authority activity (.camera scope)
      (CameraIngestCredentialVerifier.assertActive authority scope activity) := by
  unfold CameraIngestCredentialVerifier.assertActive
  by_cases hexpired : scope.expiresAt ≤ truncateSeconds activity.now
  · rw [if_pos hexpired]
    exact .of_error (.refl _ _)
  rw [if_neg hexpired]
  have hsession := authority.assertSessionActive_asked activity scope.processingJobId
  cases hanswer : authority.assertSessionActive scope.processingJobId activity with
  | mk middle answer =>
      rw [hanswer] at hsession
      cases answer with
      | error reason => exact .of_error hsession
      | ok u =>
          have hholds : middle.statusCache.holds scope.processingJobId activity.statusNow =
              true := by
            have hok := (authority.statusCache.assertActive_outcome
              ⟨activity.statusNow, scope.processingJobId, activity.statusAnswer⟩).holds_of_ok
              (congrArg Prod.snd hanswer)
            rwa [← congrArg (fun r => r.1.statusCache) hanswer]
          refine ⟨⟨hsession.keyCache, hsession.sessions, ?_⟩, fun hok =>
            ⟨not_le.mp hexpired, hholds, ?_⟩⟩
          · have hsame : middle.credentialStatusCache = authority.credentialStatusCache :=
              (congrArg (fun r => r.1.credentialStatusCache) hanswer).symm
            rw [← hsame]
            exact (middle.assertCredentialActive_asked activity _ _).credentials
          · exact (middle.credentialStatusCache.assertActive_outcome _).holds_of_ok hok

theorem VersionedIngestCredentialVerifier.assertActive_result
    (verifier : VersionedIngestCredentialVerifier) (authority : IngestAuthority Key)
    (scope : AuthorizationScope) (activity : ActivityEvents) :
    ActivityResult authority activity scope (verifier.assertActive authority scope activity) := by
  unfold VersionedIngestCredentialVerifier.assertActive
  cases scope with
  | camera scope =>
      dsimp only
      split
      · exact .of_error (.refl _ _)
      · exact CameraIngestCredentialVerifier.assertActive_result authority scope activity
  | session scope =>
      dsimp only
      split
      · exact .of_error (.refl _ _)
      · exact SessionTokenVerifier.assertActive_result authority scope activity

/-! ## What a verification does -/

/-- What a verification leaves, and what its success means: the answers that are held cover the
scope, and the token is signed for it with a key that the key cache has handed out. -/
structure TokenResult (jwt : JwtLibrary Key) (authority : IngestAuthority Key)
    (activity : ActivityEvents) (call? : Option KeyCall)
    (Signed : Key → AuthorizationScope → Prop)
    (result : IngestAuthority Key × Except SessionTokenError AuthorizationScope) : Prop where
  keyCache : result.1.keyCache =
    (keyFetches jwt authority.keyCache call?).foldl (JwksKeyCache.learn jwt.fromDict)
      authority.keyCache
  sessions : authority.statusCache.Renewed result.1.statusCache activity.statusNow
    activity.statusAnswer.confirmsSession
  credentials : authority.credentialStatusCache.Renewed result.1.credentialStatusCache
    activity.credentialNow activity.credentialAnswer.confirmsCredential
  covers : ∀ scope, result.2 = .ok scope → result.1.Covers activity scope
  signed : ∀ scope, result.2 = .ok scope → ∃ call key, call? = some call ∧
    (authority.keyCache.resolve jwt.fromDict call.kid call.events).2 = .ok key ∧ Signed key scope

/-- A verification that fails before a key is asked for. -/
theorem TokenResult.of_error {jwt : JwtLibrary Key} {authority : IngestAuthority Key}
    {activity : ActivityEvents} {Signed : Key → AuthorizationScope → Prop}
    {reason : SessionTokenError} :
    TokenResult jwt authority activity none Signed (authority, .error reason) :=
  ⟨rfl, .refl _ _ _, .refl _ _ _, fun _ hok => (by cases hok), fun _ hok => by cases hok⟩

/-- The verification of a token of one kind, where `wrap` is its kind of scopes. -/
theorem verifyToken_result {Scope : Type} (jwt : JwtLibrary Key) (kind : TokenKind)
    (fromClaims : JsonFields → Except SessionTokenError Scope)
    (assertActive : IngestAuthority Key → Scope → ActivityEvents →
      IngestAuthority Key × Except SessionTokenError Unit)
    (wrap : Scope → AuthorizationScope)
    (hactive : ∀ authority scope activity,
      ActivityResult authority activity (wrap scope) (assertActive authority scope activity))
    (settings : VerifierSettings) (authority : IngestAuthority Key) (token : String)
    (events : TokenEvents) (activity : ActivityEvents) :
    TokenResult jwt authority activity (jwt.keyCall? token events)
      (fun key scope => ∃ claims s, scope = wrap s ∧
        jwt.decode token key (settings.options kind) events.decodedAt = some claims ∧
        fromClaims claims = .ok s)
      ((verifyToken jwt kind fromClaims assertActive settings authority token events activity).1,
        (verifyToken jwt kind fromClaims assertActive settings authority token events
          activity).2.map wrap) := by
  obtain ⟨hleaves, hclaims⟩ := verifiedClaims_spec jwt kind settings authority.keyCache token events
  unfold verifyToken
  cases hverified : jwt.verifiedClaims kind settings authority.keyCache token events with
  | mk keyCache answer =>
      rw [hverified] at hleaves hclaims
      dsimp only
      cases hread : answer >>= fromClaims with
      | error reason =>
          exact ⟨hleaves, .refl _ _ _, .refl _ _ _, fun _ hok => (by cases hok),
            fun _ hok => by cases hok⟩
      | ok s =>
          obtain ⟨claims, hanswer, hs⟩ := bind_eq_ok.mp hread
          obtain ⟨call, key, hcall, hkey, hdecoded⟩ := hclaims claims hanswer
          have hresult := hactive { authority with keyCache := keyCache } s activity
          dsimp only
          cases hasked : assertActive { authority with keyCache := keyCache } s activity with
          | mk asked answer =>
              rw [hasked] at hresult
              cases answer with
              | error reason =>
                  exact ⟨hresult.asked.keyCache.trans hleaves, hresult.asked.sessions,
                    hresult.asked.credentials, fun _ hok => (by cases hok),
                    fun _ hok => by cases hok⟩
              | ok u =>
                  refine ⟨hresult.asked.keyCache.trans hleaves, hresult.asked.sessions,
                    hresult.asked.credentials, fun scope hok => ?_, fun scope hok => ?_⟩
                  · cases hok
                    exact hresult.covers rfl
                  · cases hok
                    exact ⟨call, key, hcall, hkey, claims, s, rfl, hdecoded, hs⟩

/-- How a token is signed for a scope: its unchecked claims say of which kind it is, and its
claims under the key, as the verifier of this kind checks them, are those of the scope. -/
inductive SignedFor (jwt : JwtLibrary Key) (verifier : VersionedIngestCredentialVerifier)
    (token : String) (events : TokenEvents) (key : Key) : AuthorizationScope → Prop
  | session (settings : VerifierSettings) (unverified claims : JsonFields)
      (scope : AuthorizedSessionScope) (henabled : verifier.legacy = some settings)
      (hread : jwt.unverifiedClaims token = some unverified)
      (hkind : (unverified.field "credential_kind").isNull = true)
      (hsigned : jwt.decode token key (settings.options legacyKind) events.decodedAt =
        some claims)
      (hclaimed : scope.Claimed claims) : SignedFor jwt verifier token events key (.session scope)
  | camera (settings : VerifierSettings) (unverified claims : JsonFields)
      (scope : AuthorizedCameraIngestScope) (henabled : verifier.cameraIngest = some settings)
      (hread : jwt.unverifiedClaims token = some unverified)
      (hkind : (unverified.field "credential_kind").text? = some "CAMERA_INGEST")
      (hsigned : jwt.decode token key (settings.options cameraIngestKind) events.decodedAt =
        some claims)
      (hclaimed : scope.Claimed claims) : SignedFor jwt verifier token events key (.camera scope)

/-- The key that the verification of a token asks for. -/
def VersionedIngestCredentialVerifier.keyCall? (verifier : VersionedIngestCredentialVerifier)
    (jwt : JwtLibrary Key) (token : String) (events : TokenEvents) : Option KeyCall :=
  match jwt.unverifiedClaims token with
  | none => none
  | some unverified =>
      let credentialKind := unverified.field "credential_kind"
      if credentialKind.isNull then
        if verifier.legacy.isSome then jwt.keyCall? token events else none
      else if verifier.cameraIngest.isSome ∧ credentialKind.text? = some "CAMERA_INGEST" then
        jwt.keyCall? token events
      else none

theorem VersionedIngestCredentialVerifier.verify_result
    (verifier : VersionedIngestCredentialVerifier) (jwt : JwtLibrary Key)
    (authority : IngestAuthority Key) (token : String) (events : TokenEvents)
    (activity : ActivityEvents) :
    TokenResult jwt authority activity (verifier.keyCall? jwt token events)
      (SignedFor jwt verifier token events)
      (verifier.verify jwt authority token events activity) := by
  unfold verify keyCall?
  cases hread : jwt.unverifiedClaims token with
  | none => exact .of_error
  | some unverified =>
      dsimp only
      by_cases hnull : (unverified.field "credential_kind").isNull = true
      · rw [if_pos hnull, if_pos hnull]
        cases hlegacy : verifier.legacy with
        | none => exact .of_error
        | some settings =>
            have hresult := verifyToken_result jwt legacyKind scopeFromClaims
              SessionTokenVerifier.assertActive .session
              SessionTokenVerifier.assertActive_result settings authority token events activity
            refine ⟨hresult.keyCache, hresult.sessions, hresult.credentials, hresult.covers, ?_⟩
            intro scope hok
            obtain ⟨call, key, hcall, hkey, claims, s, rfl, hdecoded, hs⟩ :=
              hresult.signed scope hok
            exact ⟨call, key, hcall, hkey, .session settings unverified claims s hlegacy hread hnull
              hdecoded (scopeFromClaims_eq_ok_iff.mp hs)⟩
      · rw [if_neg hnull, if_neg hnull]
        cases hcamera : verifier.cameraIngest with
        | none => exact .of_error
        | some settings =>
            dsimp only
            by_cases hkind : (unverified.field "credential_kind").text? = some "CAMERA_INGEST"
            · rw [if_neg (not_not.mpr hkind), if_pos ⟨rfl, hkind⟩]
              have hresult := verifyToken_result jwt cameraIngestKind cameraIngestScopeFromClaims
                CameraIngestCredentialVerifier.assertActive .camera
                CameraIngestCredentialVerifier.assertActive_result settings authority token events
                activity
              refine ⟨hresult.keyCache, hresult.sessions, hresult.credentials, hresult.covers, ?_⟩
              intro scope hok
              obtain ⟨call, key, hcall, hkey, claims, s, rfl, hdecoded, hs⟩ :=
                hresult.signed scope hok
              exact ⟨call, key, hcall, hkey, .camera settings unverified claims s hcamera hread
                hkind hdecoded (cameraIngestScopeFromClaims_eq_ok_iff.mp hs)⟩
            · rw [if_pos hkind, if_neg fun h => hkind h.2]
              exact .of_error

/-! ## Runs -/

abbrev VerifierExchange (Key : Type) :=
  Exchange (IngestAuthority Key) VerifierCall (Except SessionTokenError AuthorizationScope)

/-- The key that a call asks for. -/
def VerifierCall.keyCall? (jwt : JwtLibrary Key) (verifier : VersionedIngestCredentialVerifier) :
    VerifierCall → Option KeyCall
  | .present metadata events _ =>
      match extractBearerToken metadata with
      | .error _ => none
      | .ok token => verifier.keyCall? jwt token events
  | .assertActive _ _ => none

/-- The fetches of keys that an exchange makes. -/
def VerifierExchange.fetches (jwt : JwtLibrary Key) (verifier : VersionedIngestCredentialVerifier)
    (e : VerifierExchange Key) : List JwksFetch :=
  keyFetches jwt e.before.keyCache (e.input.keyCall? jwt verifier)

/-- What a call leaves, and what its success means for the answers that are held. -/
structure CallResult (jwt : JwtLibrary Key) (verifier : VersionedIngestCredentialVerifier)
    (authority : IngestAuthority Key) (call : VerifierCall)
    (result : IngestAuthority Key × Except SessionTokenError AuthorizationScope) : Prop where
  keyCache : result.1.keyCache =
    (keyFetches jwt authority.keyCache (call.keyCall? jwt verifier)).foldl
      (JwksKeyCache.learn jwt.fromDict) authority.keyCache
  sessions : authority.statusCache.Renewed result.1.statusCache call.activity.statusNow
    call.activity.statusAnswer.confirmsSession
  credentials : authority.credentialStatusCache.Renewed result.1.credentialStatusCache
    call.activity.credentialNow call.activity.credentialAnswer.confirmsCredential
  covers : ∀ scope, result.2 = .ok scope → result.1.Covers call.activity scope

variable (jwt : JwtLibrary Key) (verifier : VersionedIngestCredentialVerifier)

theorem verifierStep_result (authority : IngestAuthority Key) (call : VerifierCall) :
    CallResult jwt verifier authority call (verifierStep jwt verifier authority call) := by
  cases call with
  | present metadata events activity =>
      unfold verifierStep
      dsimp only
      cases hextract : extractBearerToken metadata with
      | error reason =>
          refine ⟨?_, .refl _ _ _, .refl _ _ _, fun _ hok => by cases hok⟩
          simp [VerifierCall.keyCall?, hextract, keyFetches]
      | ok token =>
          have hresult := verifier.verify_result jwt authority token events activity
          refine ⟨?_, hresult.sessions, hresult.credentials, hresult.covers⟩
          have hcall : VerifierCall.keyCall? jwt verifier (.present metadata events activity) =
              verifier.keyCall? jwt token events := by
            simp [VerifierCall.keyCall?, hextract]
          rw [hcall]
          exact hresult.keyCache
  | assertActive scope activity =>
      have hresult := verifier.assertActive_result authority scope activity
      refine ⟨hresult.asked.keyCache, hresult.asked.sessions, hresult.asked.credentials, ?_⟩
      intro scope' hok
      change (verifier.assertActive authority scope activity).2.map (fun _ => scope) =
        .ok scope' at hok
      cases hanswer : (verifier.assertActive authority scope activity).2 with
      | error reason =>
          rw [hanswer] at hok
          cases hok
      | ok u =>
          rw [hanswer] at hok
          cases hok
          exact hresult.covers hanswer

/-- What the verifiers hold of the answers about sessions. -/
def sessionAnswers : Acquiring String ℚ (verifierStep jwt verifier) where
  held authority := authority.statusCache.activeUntil.get?
  Acquires authority call processingJobId activeUntil :=
    call.activity.statusAnswer.confirmsSession processingJobId = true ∧
      activeUntil = call.activity.statusNow + authority.statusCache.cacheTtlSec
  held_step authority call processingJobId activeUntil h :=
    ⟨rfl, (verifierStep_result jwt verifier authority call).sessions.entries processingJobId
      activeUntil h⟩

/-- What the verifiers hold of the answers about the credentials of cameras. -/
def credentialAnswers : Acquiring (String × String) ℚ (verifierStep jwt verifier) where
  held authority := authority.credentialStatusCache.activeUntil.get?
  Acquires authority call key activeUntil :=
    call.activity.credentialAnswer.confirmsCredential key = true ∧
      activeUntil = call.activity.credentialNow + authority.credentialStatusCache.cacheTtlSec
  held_step authority call key activeUntil h := ⟨rfl,
    (verifierStep_result jwt verifier authority call).credentials.entries key activeUntil h⟩

/-- For how long keys and answers are kept. -/
structure IngestLifetimes where
  keys : {seconds : ℚ // 0 < seconds}
  sessions : {seconds : ℚ // 0 < seconds}
  credentials : {seconds : ℚ // 0 < seconds}

/-- What the verifiers know when the service starts. -/
def IngestAuthority.new (lifetimes : IngestLifetimes) : IngestAuthority Key where
  keyCache := .new lifetimes.keys
  statusCache := .new lifetimes.sessions
  credentialStatusCache := .new lifetimes.credentials

theorem lifetimes_after (lifetimes : IngestLifetimes) (calls : List VerifierCall) :
    (Machine.after (verifierStep jwt verifier) (.new lifetimes) calls).statusCache.cacheTtlSec =
        lifetimes.sessions ∧
      (Machine.after (verifierStep jwt verifier) (.new lifetimes)
        calls).credentialStatusCache.cacheTtlSec = lifetimes.credentials := by
  apply Machine.invariant_after (verifierStep jwt verifier)
    (I := fun authority : IngestAuthority Key =>
      authority.statusCache.cacheTtlSec = lifetimes.sessions ∧
        authority.credentialStatusCache.cacheTtlSec = lifetimes.credentials) ⟨rfl, rfl⟩
  intro authority call h
  have hresult := verifierStep_result jwt verifier authority call
  exact ⟨hresult.sessions.cacheTtlSec.trans h.1, hresult.credentials.cacheTtlSec.trans h.2⟩

/-! ## Vouching -/

def AuthorizationScope.expiresAt : AuthorizationScope → ℤ
  | session scope => scope.expiresAt
  | camera scope => scope.expiresAt

def AuthorizationScope.processingJobId : AuthorizationScope → String
  | session scope => scope.processingJobId
  | camera scope => scope.processingJobId

/-- Whether the authority has confirmed a session in an exchange. -/
def VerifierExchange.ConfirmsSession (e : VerifierExchange Key) (processingJobId : String) :
    Prop :=
  e.input.activity.statusAnswer.confirmsSession processingJobId = true

/-- Whether the authority has confirmed a camera's credential in an exchange. -/
def VerifierExchange.ConfirmsCredential (e : VerifierExchange Key) (key : String × String) :
    Prop :=
  e.input.activity.credentialAnswer.confirmsCredential key = true

/-- Whether the authority vouches for a scope in the last exchange of a history. -/
structure Vouched (lifetimes : IngestLifetimes) (past : List (VerifierExchange Key))
    (e : VerifierExchange Key) (scope : AuthorizationScope) : Prop where
  unexpired : truncateSeconds e.input.activity.now < scope.expiresAt
  session : ∃ source ∈ past ++ [e], source.ConfirmsSession scope.processingJobId ∧
    e.input.activity.statusNow - source.input.activity.statusNow < lifetimes.sessions
  credential : ∀ camera, scope = .camera camera → ∃ source ∈ past ++ [e],
    source.ConfirmsCredential (camera.tokenJti, camera.processingJobId) ∧
      e.input.activity.credentialNow - source.input.activity.credentialNow < lifetimes.credentials
  signed : ∀ metadata events activity, e.input = .present metadata events activity →
    ∃ token key call, extractBearerToken metadata = .ok token ∧
      SignedFor jwt verifier token events key scope ∧
      jwt.keyCall? token events = some call ∧
      FreshlyPublished jwt.fromDict (VerifierExchange.fetches jwt verifier) lifetimes.keys past e
        call key
  asked : ∀ asked activity, e.input = .assertActive asked activity → scope = asked

theorem keyCall?_of_verifier {token : String} {events : TokenEvents} {call : KeyCall}
    (h : verifier.keyCall? jwt token events = some call) :
    jwt.keyCall? token events = some call := by
  unfold VersionedIngestCredentialVerifier.keyCall? at h
  cases hread : jwt.unverifiedClaims token with
  | none => simp [hread] at h
  | some unverified =>
      rw [hread] at h
      dsimp only at h
      split at h
      · split at h
        · exact h
        · cases h
      · split at h
        · exact h
        · cases h

/-- A token that is presented with success is signed for the scope. -/
theorem signed_of_present {authority : IngestAuthority Key} {metadata : List (String × String)}
    {events : TokenEvents} {activity : ActivityEvents} {scope : AuthorizationScope}
    (h : (verifierStep jwt verifier authority (.present metadata events activity)).2 = .ok scope) :
    ∃ token call key, extractBearerToken metadata = .ok token ∧
      VerifierCall.keyCall? jwt verifier (.present metadata events activity) = some call ∧
      jwt.keyCall? token events = some call ∧
      (authority.keyCache.resolve jwt.fromDict call.kid call.events).2 = .ok key ∧
      SignedFor jwt verifier token events key scope := by
  unfold verifierStep at h
  dsimp only at h
  cases hextract : extractBearerToken metadata with
  | error reason =>
      rw [hextract] at h
      cases h
  | ok token =>
      rw [hextract] at h
      obtain ⟨call, key, hcall, hkey, hsigned⟩ :=
        (verifier.verify_result jwt authority token events activity).signed scope h
      refine ⟨token, call, key, rfl, ?_, keyCall?_of_verifier jwt verifier hcall, hkey, hsigned⟩
      simp [VerifierCall.keyCall?, hextract, hcall]

variable {jwt verifier} {lifetimes : IngestLifetimes}

/-- An answer about a session that is held after a run was given in the run. -/
theorem exists_confirmation_of_session {calls : List VerifierCall} {processingJobId : String}
    {now : ℚ}
    (h : (Machine.after (verifierStep jwt verifier) (.new lifetimes) calls).statusCache.holds
      processingJobId now = true) :
    ∃ source ∈ Machine.history (verifierStep jwt verifier) (.new lifetimes) calls,
      VerifierExchange.ConfirmsSession source processingJobId ∧
        now - source.input.activity.statusNow < lifetimes.sessions := by
  obtain ⟨activeUntil, hget, hlate⟩ := StatusCache.holds_eq_true_iff.mp h
  obtain ⟨source, hsource, hconfirms, rfl⟩ :=
    (sessionAnswers jwt verifier).sourced_history (s := .new lifetimes) (fun _ => rfl) calls
      processingJobId activeUntil hget
  have hpast := Acquiring.mem_of_mem_sinceForgot _ hsource
  obtain ⟨first, call, second, rfl, rfl⟩ := Machine.exists_split_of_mem_history _ hpast
  refine ⟨_, hpast, hconfirms, ?_⟩
  rw [← (lifetimes_after jwt verifier lifetimes first).1]
  exact sub_left_lt_of_lt_add hlate

/-- An answer about a credential that is held after a run was given in the run. -/
theorem exists_confirmation_of_credential {calls : List VerifierCall} {key : String × String}
    {now : ℚ}
    (h : (Machine.after (verifierStep jwt verifier) (.new lifetimes)
      calls).credentialStatusCache.holds key now = true) :
    ∃ source ∈ Machine.history (verifierStep jwt verifier) (.new lifetimes) calls,
      VerifierExchange.ConfirmsCredential source key ∧
        now - source.input.activity.credentialNow < lifetimes.credentials := by
  obtain ⟨activeUntil, hget, hlate⟩ := StatusCache.holds_eq_true_iff.mp h
  obtain ⟨source, hsource, hconfirms, rfl⟩ :=
    (credentialAnswers jwt verifier).sourced_history (s := .new lifetimes) (fun _ => rfl) calls
      key activeUntil hget
  have hpast := Acquiring.mem_of_mem_sinceForgot _ hsource
  obtain ⟨first, call, second, rfl, rfl⟩ := Machine.exists_split_of_mem_history _ hpast
  refine ⟨_, hpast, hconfirms, ?_⟩
  rw [← (lifetimes_after jwt verifier lifetimes first).2]
  exact sub_left_lt_of_lt_add hlate

/-- A stream that presents a credential is admitted only with the scope that it is verified for. -/
theorem verified_of_admitted {service : GrpcIngestService} {metadata : List (String × String)}
    {now : ℚ} {answer : Except SessionTokenError AuthorizationScope}
    {authorization : Option AuthorizationScope}
    (h : (service.admitStream (openingOf metadata now answer)).2 = .ok authorization) :
    ∃ scope, authorization = some scope ∧ answer = .ok scope := by
  unfold openingOf GrpcIngestService.admitStream at h
  dsimp only at h
  cases hextract : extractBearerToken metadata with
  | error reason =>
      rw [hextract] at h
      cases h
  | ok token =>
      rw [hextract] at h
      cases answer with
      | error reason => cases h
      | ok scope =>
          dsimp only at h
          split at h
          · cases h
          · split at h
            · cases h
            · cases h
              exact ⟨scope, rfl, rfl⟩

/-- **The authority vouches for every scope** that a call finds good, whatever calls came before
it, and however often the authority did not answer: the scope has not expired; the session, and
the credential of a camera, were confirmed less than a lifetime before; and a token that is
presented is signed for the scope with a key which the last list of keys that could be fetched
publishes under the token's key id, fetched by the call itself or less than a lifetime before.
A stream that presents a credential is admitted with such a scope only. -/
theorem authority_vouches (jwt : JwtLibrary Key) (verifier : VersionedIngestCredentialVerifier)
    (lifetimes : IngestLifetimes) (calls : List VerifierCall) :
    Machine.EachStep (verifierStep jwt verifier) (fun past authority call => ∀ scope,
      (verifierStep jwt verifier authority call).2 = .ok scope →
        Vouched jwt verifier lifetimes past
          (Machine.exchange (verifierStep jwt verifier) authority call) scope)
      (.new lifetimes) calls ∧
    ∀ (service : GrpcIngestService) metadata now answer authorization,
      (service.admitStream (openingOf metadata now answer)).2 = .ok authorization →
        ∃ scope, authorization = some scope ∧ answer = .ok scope := by
  refine ⟨?_, fun _ _ _ _ _ h => verified_of_admitted h⟩
  rintro first call second rfl scope hok
  have hcovers := (verifierStep_result jwt verifier
    (Machine.after (verifierStep jwt verifier) (.new lifetimes) first) call).covers scope hok
  rw [← Machine.after_snoc] at hcovers
  constructor
  · cases scope with
    | session scope => exact hcovers.1
    | camera scope => exact hcovers.1
  · rw [← Machine.history_snoc]
    cases scope with
    | session scope => exact exists_confirmation_of_session hcovers.2
    | camera scope => exact exists_confirmation_of_session hcovers.2.1
  · rintro camera rfl
    rw [← Machine.history_snoc]
    exact exists_confirmation_of_credential hcovers.2.2
  · rintro metadata events activity ⟨⟩
    obtain ⟨token, keyCall, key, hextract, hcall, hasked, hkey, hsigned⟩ :=
      signed_of_present jwt verifier hok
    refine ⟨token, key, keyCall, hextract, hsigned, hasked, ?_⟩
    exact freshlyPublished_of_resolve IngestAuthority.keyCache
      (fun authority call => keyFetches jwt authority.keyCache (call.keyCall? jwt verifier))
      (fun authority call => (verifierStep_result jwt verifier authority call).keyCache) rfl first
      (.present metadata events activity) (by rw [hcall]; rfl) hkey
  · rintro asked activity ⟨⟩
    change (verifier.assertActive _ asked activity).2.map (fun _ => asked) = .ok scope at hok
    cases hanswer : (verifier.assertActive
      (Machine.after (verifierStep jwt verifier) (.new lifetimes) first) asked activity).2 with
    | error reason =>
        rw [hanswer] at hok
        cases hok
    | ok u =>
        rw [hanswer] at hok
        cases hok
        rfl

end ImageStream
