/-
# Where relay credentials come from

A credential that the relay client is given was issued by Main for exactly the scope of its frame
set, since the credentials were last forgotten, and it is signed by the session authority. The
access token that a request presents was granted by the token authority and has not come near
its expiry. This holds in every run of the provider, whatever the two authorities answer.
-/

import ImageStream.Relay.CredentialIssuing

namespace ImageStream

open Base

variable {Key : Type}

/-! ## Runs -/

abbrev RelayCredentialExchange (Key : Type) :=
  Exchange (RelayCredentialProvider Key) RelayCredentialCall
    (Option (Except RelayCredentialError ActiveProcessingRelayCredential))

/-- Whether a call forgets the credentials. -/
def RelayCredentialCall.isClear : RelayCredentialCall → Bool
  | clear => true
  | resolveForClaim _ _ => false

variable (jwt : JwtLibrary Key) (settings : VerifierSettings)

/-- The credentials that are held, which were issued in the exchanges since they were last
forgotten. -/
def heldCredentials :
    Acquiring String ActiveProcessingRelayCredential (relayCredentialStep jwt settings) where
  held provider := provider.credentials.get?
  Acquires provider call processingJobId credential := ∃ claim events,
    call = .resolveForClaim claim events ∧ claim.processingJobId.getD "" = processingJobId ∧
      provider.asking? call = some (claim, events) ∧
      provider.Issues jwt settings claim events credential
  forgets := RelayCredentialCall.isClear
  held_step provider call processingJobId credential h := by
    have hout := provider.step_outcome jwt settings call
    generalize relayCredentialStep jwt settings provider call = result at hout h
    cases hout with
    | cleared => cases h
    | unnamed claim events hunnamed => exact ⟨rfl, Or.inl h⟩
    | reused claim events existing hnamed husable => exact ⟨rfl, Or.inl h⟩
    | refused claim events e hasks hissue =>
        rw [(provider.issue_result jwt settings claim events).credentials] at h
        exact ⟨rfl, Or.inl h⟩
    | issued claim events issued hasks hissue =>
        refine ⟨rfl, ?_⟩
        rw [Dict.get?_set] at h
        by_cases hjob : processingJobId = claim.processingJobId.getD ""
        · rw [if_pos hjob, Option.some.injEq] at h
          subst h
          exact Or.inr ⟨claim, events, rfl, hjob.symm, provider.asking?_of_asks hasks,
            (provider.issue_result jwt settings claim events).issues _ hissue⟩
        · rw [if_neg hjob] at h
          exact Or.inl h

/-- The access token that is cached, which was granted in an exchange. -/
def cachedAccessToken :
    Acquiring Unit WorkloadAccessToken (relayCredentialStep jwt settings) where
  held provider _ := provider.accessTokens.cached
  Acquires _ call _ token := ∃ claim events, call = .resolveForClaim claim events ∧
    events.accessAnswer.Grants events.accessNow token
  held_step provider call _ token h := by
    refine ⟨rfl, ?_⟩
    rcases (provider.step_result jwt settings call).accessTokens with
      hsame | ⟨claim, events, rfl, hresolved⟩
    · rw [hsame] at h
      exact Or.inl h
    · rw [hresolved] at h
      exact ((provider.accessTokens.resolve_result events.accessNow
        events.accessAnswer).cached token h).imp_right fun hgrants => ⟨claim, events, rfl, hgrants⟩

/-- The fetches of keys that an exchange makes. -/
def RelayCredentialExchange.fetches (e : RelayCredentialExchange Key) : List JwksFetch :=
  e.before.fetches jwt e.input

/-- How Main has issued a credential in an exchange, after a history: it answered with the token,
and with a body that confirms its scope, and the token is signed for the scope with a key that is
freshly published. -/
structure IssuedFor (lifetime : ℚ) (past : List (RelayCredentialExchange Key))
    (e : RelayCredentialExchange Key) (claim : ClaimedFrameSet) (events : RelayCredentialEvents)
    (credential : ActiveProcessingRelayCredential) : Prop where
  input : e.input = .resolveForClaim claim events
  forClaim : credential.scope.matchesClaim claim = true
  unexpired : truncateSeconds events.verification.now < credential.scope.expiresAt
  answered : ∃ response payload, events.answer = .answered response ∧
    200 ≤ response.statusCode ∧ response.statusCode ≤ 299 ∧
    response.relayToken = some credential.token ∧ response.json = some payload ∧
    credential.scope.Confirmed payload
  signed : ∃ call key claims,
    jwt.keyCall? credential.token events.verification.token = some call ∧
    jwt.decode credential.token key (settings.options relayKind)
      events.verification.token.decodedAt = some claims ∧
    credential.scope.Claimed claims ∧
    FreshlyPublished jwt.fromDict (RelayCredentialExchange.fetches jwt) lifetime past e call key

/-- Whether the token authority has granted an access token in an exchange. -/
def RelayCredentialExchange.Grants (e : RelayCredentialExchange Key)
    (token : WorkloadAccessToken) : Prop :=
  ∃ claim events, e.input = .resolveForClaim claim events ∧
    events.accessAnswer.Grants events.accessNow token

/-- What holds of an exchange after a history. -/
structure RelayCredentialVouched (lifetime : ℚ) (refreshSkewSec : ℤ) (accessSkewSec : ℚ)
    (past : List (RelayCredentialExchange Key)) (e : RelayCredentialExchange Key) : Prop where
  /-- A credential that is returned is for the claim, so that the client can bind it, and was
  issued since the credentials were forgotten: by this exchange, or earlier, and then it does not
  come near its expiry. -/
  returned : ∀ claim events credential, e.input = .resolveForClaim claim events →
    e.output = some (.ok credential) →
      credential.scope.matchesClaim claim = true ∧
      bindRelayScope claim (some credential.scope.processingRelayScope) =
        .ok { claim with
          authorizedSubject := some credential.scope.coordinatorSubject
          sessionTokenJti := some credential.scope.tokenJti } ∧
      ∃ earlier source later issuedClaim issuedEvents, past ++ [e] = earlier ++ source :: later ∧
        IssuedFor jwt settings lifetime earlier source issuedClaim issuedEvents credential ∧
        (∀ e' ∈ later, e'.input ≠ .clear) ∧
        (later ≠ [] → truncateSeconds events.now + refreshSkewSec < credential.scope.expiresAt)
  /-- A request is for the claim, with an access token that this exchange is granted or an earlier
  one was, and then it does not come near its expiry. -/
  requested : ∀ request ∈ e.after.requests, request ∈ e.before.requests ∨
    ∃ claim events token, e.input = .resolveForClaim claim events ∧
      request = ⟨claim.tenantId, claim.processingJobId, token.value⟩ ∧
      (e.Grants token ∨ (∃ source ∈ past, source.Grants token) ∧
        token.lastsBeyond (events.accessNow + accessSkewSec) = true)
  /-- A job is inactive when Main has said so. -/
  inactive : ∀ claim events reason, e.input = .resolveForClaim claim events →
    e.output = some (.error (.relayCredentialSessionInactive reason)) →
      (∃ request, e.after.requests = e.before.requests ++ [request]) ∧
      ∃ response, events.answer = .answered response ∧ response.statusCode = 409
  /-- A call that fails leaves the credentials as they were. -/
  failed : ∀ reason, e.output = some (.error reason) → e.after.credentials = e.before.credentials

theorem skews_after (lifetime : {seconds : ℚ // 0 < seconds}) (refreshSkewSec : ℤ)
    (accessSkewSec : ℚ) (calls : List RelayCredentialCall) :
    (Machine.after (relayCredentialStep jwt settings)
        (.new lifetime refreshSkewSec accessSkewSec) calls).refreshSkewSec = refreshSkewSec ∧
      (Machine.after (relayCredentialStep jwt settings)
        (.new lifetime refreshSkewSec accessSkewSec) calls).accessTokens.refreshSkewSec =
        accessSkewSec := by
  apply Machine.invariant_after (relayCredentialStep jwt settings)
    (I := fun provider : RelayCredentialProvider Key =>
      provider.refreshSkewSec = refreshSkewSec ∧
        provider.accessTokens.refreshSkewSec = accessSkewSec) ⟨rfl, rfl⟩
  intro provider call h
  have hresult := provider.step_result jwt settings call
  refine ⟨hresult.refreshSkewSec.trans h.1, ?_⟩
  rcases hresult.accessTokens with hsame | ⟨claim, events, rfl, hresolved⟩
  · rw [hsame]
    exact h.2
  · rw [hresolved]
    exact (provider.accessTokens.resolve_result events.accessNow
      events.accessAnswer).refreshSkewSec.trans h.2

variable {jwt settings} {lifetime : {seconds : ℚ // 0 < seconds}} {refreshSkewSec : ℤ}
  {accessSkewSec : ℚ}

theorem issuedFor_of_issues (first : List RelayCredentialCall) {call : RelayCredentialCall}
    {claim : ClaimedFrameSet} {events : RelayCredentialEvents}
    {credential : ActiveProcessingRelayCredential} (hcall : call = .resolveForClaim claim events)
    (hasking : (Machine.after (relayCredentialStep jwt settings)
      (.new lifetime refreshSkewSec accessSkewSec) first).asking? call = some (claim, events))
    (hissues : (Machine.after (relayCredentialStep jwt settings)
      (.new lifetime refreshSkewSec accessSkewSec) first).Issues jwt settings claim events
      credential) :
    IssuedFor jwt settings lifetime
      (Machine.history (relayCredentialStep jwt settings)
        (.new lifetime refreshSkewSec accessSkewSec) first)
      (Machine.exchange (relayCredentialStep jwt settings)
        (Machine.after (relayCredentialStep jwt settings)
          (.new lifetime refreshSkewSec accessSkewSec) first) call) claim events credential := by
  obtain ⟨keyCall, key, claims, hcalled, hasked, hkey, hdecoded, hclaimed⟩ := hissues.signed
  refine ⟨hcall, hissues.forClaim, hissues.unexpired, hissues.answered,
    ⟨keyCall, key, claims, hasked, hdecoded, hclaimed, ?_⟩⟩
  refine freshlyPublished_of_resolve RelayCredentialProvider.keyCache
    (fun provider call => provider.fetches jwt call)
    (fun provider call => (provider.step_result jwt settings call).keyCache) rfl first call ?_ hkey
  simp [RelayCredentialProvider.fetches, hasking, hcalled, keyFetches]

/-- A credential that is held after a run was issued in the run, since the credentials were last
forgotten. -/
theorem exists_issue_of_held {calls : List RelayCredentialCall} {processingJobId : String}
    {credential : ActiveProcessingRelayCredential}
    (h : (Machine.after (relayCredentialStep jwt settings)
      (.new lifetime refreshSkewSec accessSkewSec) calls).credentials.get? processingJobId =
        some credential) :
    ∃ earlier source later claim events,
      Machine.history (relayCredentialStep jwt settings)
        (.new lifetime refreshSkewSec accessSkewSec) calls = earlier ++ source :: later ∧
      IssuedFor jwt settings lifetime earlier source claim events credential ∧
      ∀ e' ∈ later, e'.input ≠ .clear := by
  obtain ⟨source, hsource, claim, events, hinput, -, hasking, hissues⟩ :=
    (heldCredentials jwt settings).sourced_history
      (s := .new lifetime refreshSkewSec accessSkewSec) (fun _ => rfl) calls processingJobId
      credential h
  obtain ⟨earlier, later, hsplit, hlater⟩ := Acquiring.exists_split_of_mem_sinceForgot _ hsource
  obtain ⟨first, call, second, rfl, rfl, rfl⟩ := Machine.exists_split_of_history_eq _ hsplit
  refine ⟨_, _, later, claim, events, hsplit, issuedFor_of_issues first hinput hasking hissues,
    fun e' he' hclear => ?_⟩
  have hforgets := hlater e' he'
  rw [hclear] at hforgets
  cases hforgets

/-- An access token that is cached after a run was granted in the run. -/
theorem exists_grant_of_cached {calls : List RelayCredentialCall} {token : WorkloadAccessToken}
    (h : (Machine.after (relayCredentialStep jwt settings)
      (.new lifetime refreshSkewSec accessSkewSec) calls).accessTokens.cached = some token) :
    ∃ source ∈ Machine.history (relayCredentialStep jwt settings)
      (.new lifetime refreshSkewSec accessSkewSec) calls,
      RelayCredentialExchange.Grants source token := by
  obtain ⟨source, hsource, hgrants⟩ := (cachedAccessToken jwt settings).sourced_history
    (s := .new lifetime refreshSkewSec accessSkewSec) (fun _ => rfl) calls () token h
  exact ⟨source, Acquiring.mem_of_mem_sinceForgot _ hsource, hgrants⟩

theorem bindRelayScope_of_matchesClaim {claim : ClaimedFrameSet} {scope : ProcessingRelayScope}
    (h : scope.matchesClaim claim = true) :
    bindRelayScope claim (some scope) =
      .ok { claim with
        authorizedSubject := some scope.coordinatorSubject
        sessionTokenJti := some scope.tokenJti } :=
  if_neg (not_not.mpr h)

theorem vouched_returned {first : List RelayCredentialCall} {claim : ClaimedFrameSet}
    {events : RelayCredentialEvents} {credential : ActiveProcessingRelayCredential}
    {provider : RelayCredentialProvider Key}
    (hprovider : provider = Machine.after (relayCredentialStep jwt settings)
      (.new lifetime refreshSkewSec accessSkewSec) first)
    (h : (relayCredentialStep jwt settings provider (.resolveForClaim claim events)).2 =
      some (.ok credential)) :
    credential.scope.matchesClaim claim = true ∧
    ∃ earlier source later issuedClaim issuedEvents,
      Machine.history (relayCredentialStep jwt settings)
          (.new lifetime refreshSkewSec accessSkewSec) first ++
        [Machine.exchange (relayCredentialStep jwt settings) provider
          (.resolveForClaim claim events)] = earlier ++ source :: later ∧
      IssuedFor jwt settings lifetime earlier source issuedClaim issuedEvents credential ∧
      (∀ e' ∈ later, e'.input ≠ .clear) ∧
      (later ≠ [] → truncateSeconds events.now + refreshSkewSec < credential.scope.expiresAt) := by
  have hout := provider.step_outcome jwt settings (.resolveForClaim claim events)
  generalize relayCredentialStep jwt settings provider (.resolveForClaim claim events) =
    result at hout h
  cases hout with
  | unnamed => cases h
  | refused => cases h
  | reused _ _ _ _ husable =>
      cases h
      obtain ⟨hheld, hlate, hmatches⟩ := RelayCredentialProvider.of_usable? husable
      rw [hprovider] at hheld
      obtain ⟨earlier, source, later, issuedClaim, issuedEvents, hsplit, hissued, hlater⟩ :=
        exists_issue_of_held hheld
      refine ⟨hmatches, earlier, source,
        later ++ [Machine.exchange (relayCredentialStep jwt settings) provider
          (.resolveForClaim claim events)], issuedClaim, issuedEvents, ?_, hissued,
        fun e' he' => ?_, fun _ => ?_⟩
      · rw [hsplit, List.append_assoc, List.cons_append]
      · rcases List.mem_append.mp he' with hold | hnew
        · exact hlater e' hold
        · rw [List.mem_singleton.mp hnew]
          exact fun hclear => by cases hclear
      · rw [hprovider,
          (skews_after jwt settings lifetime refreshSkewSec accessSkewSec first).1] at hlate
        exact hlate
  | issued _ _ _ hasks hissue =>
      cases h
      have hissues := (provider.issue_result jwt settings claim events).issues credential hissue
      have hasking := provider.asking?_of_asks hasks
      subst hprovider
      exact ⟨hissues.forClaim, _, _, [], claim, events, rfl,
        issuedFor_of_issues first rfl hasking hissues, fun _ hmem => (by cases hmem),
        fun hne => absurd rfl hne⟩

theorem vouched_requested {first : List RelayCredentialCall} {call : RelayCredentialCall}
    {request : RelayCredentialRequest} {provider : RelayCredentialProvider Key}
    (hprovider : provider = Machine.after (relayCredentialStep jwt settings)
      (.new lifetime refreshSkewSec accessSkewSec) first)
    (h : request ∈ (relayCredentialStep jwt settings provider call).1.requests) :
    request ∈ provider.requests ∨ ∃ claim events token, call = .resolveForClaim claim events ∧
      request = ⟨claim.tenantId, claim.processingJobId, token.value⟩ ∧
      (events.accessAnswer.Grants events.accessNow token ∨
        (∃ source ∈ Machine.history (relayCredentialStep jwt settings)
            (.new lifetime refreshSkewSec accessSkewSec) first,
          RelayCredentialExchange.Grants source token) ∧
        token.lastsBeyond (events.accessNow + accessSkewSec) = true) := by
  rcases (provider.step_result jwt settings call).requests with
    hsame | ⟨claim, events, rfl, hsent⟩
  · rw [hsame] at h
    exact Or.inl h
  rw [hsent, List.mem_append] at h
  refine h.imp_right fun hnew => ?_
  obtain ⟨accessToken, haccess, rfl⟩ := Option.map_eq_some_iff.mp (Option.mem_toList.mp hnew)
  have hok : (provider.accessTokens.resolve events.accessNow events.accessAnswer).2 =
      .ok accessToken := by
    unfold RelayCredentialProvider.accessToken? at haccess
    cases hresolve : (provider.accessTokens.resolve events.accessNow events.accessAnswer).2 with
    | error e =>
        rw [hresolve] at haccess
        cases haccess
    | ok value =>
        rw [hresolve] at haccess
        cases haccess
        rfl
  obtain ⟨token, rfl, hgranted⟩ := (provider.accessTokens.resolve_result events.accessNow
    events.accessAnswer).handsOut accessToken hok
  refine ⟨claim, events, token, rfl, rfl, hgranted.imp_right ?_⟩
  rintro ⟨hcached, hlasts⟩
  rw [hprovider] at hcached hlasts
  rw [(skews_after jwt settings lifetime refreshSkewSec accessSkewSec first).2] at hlasts
  exact ⟨exists_grant_of_cached hcached, hlasts⟩

theorem vouched_inactive {provider : RelayCredentialProvider Key} {claim : ClaimedFrameSet}
    {events : RelayCredentialEvents} {reason : SessionTokenError}
    (h : (relayCredentialStep jwt settings provider (.resolveForClaim claim events)).2 =
      some (.error (.relayCredentialSessionInactive reason))) :
    (∃ request, (relayCredentialStep jwt settings provider
        (.resolveForClaim claim events)).1.requests = provider.requests ++ [request]) ∧
      ∃ response, events.answer = .answered response ∧ response.statusCode = 409 := by
  have hout := provider.step_outcome jwt settings (.resolveForClaim claim events)
  generalize relayCredentialStep jwt settings provider (.resolveForClaim claim events) =
    result at hout h
  cases hout with
  | unnamed => cases h
  | reused => cases h
  | issued => cases h
  | refused _ _ _ _ hissue =>
      cases h
      obtain ⟨⟨request, hrequest⟩, hanswer⟩ :=
        RelayCredentialProvider.inactive_of_issue hissue rfl
      refine ⟨⟨request, ?_⟩, hanswer⟩
      rw [(provider.issue_result jwt settings claim events).requests, hrequest]
      rfl

theorem credentials_of_failed {provider : RelayCredentialProvider Key}
    {call : RelayCredentialCall} {reason : RelayCredentialError}
    (h : (relayCredentialStep jwt settings provider call).2 = some (.error reason)) :
    (relayCredentialStep jwt settings provider call).1.credentials = provider.credentials := by
  have hout := provider.step_outcome jwt settings call
  generalize relayCredentialStep jwt settings provider call = result at hout h
  cases hout with
  | cleared => cases h
  | unnamed => rfl
  | reused => cases h
  | refused claim events => exact (provider.issue_result jwt settings claim events).credentials
  | issued => cases h

/-- **Relay credentials are vouched for.** In every run of a new provider, whatever the two
authorities answer: a credential is returned only for a claim whose scope it has; Main has issued
it since the credentials were last forgotten, with a body that confirms the scope of its token,
which is signed for it with a freshly published key; and one that was issued earlier does not come
near its expiry. A request presents an access token that is granted to it or was granted earlier
and does not come near its expiry. A job counts as inactive only when Main has answered so, and a
call that fails leaves the credentials as they were. -/
theorem relay_credentials_vouched (jwt : JwtLibrary Key) (settings : VerifierSettings)
    (lifetime : {seconds : ℚ // 0 < seconds}) (refreshSkewSec : ℤ) (accessSkewSec : ℚ)
    (calls : List RelayCredentialCall) :
    Machine.EachStep (relayCredentialStep jwt settings) (fun past provider call =>
      RelayCredentialVouched jwt settings lifetime refreshSkewSec accessSkewSec past
        (Machine.exchange (relayCredentialStep jwt settings) provider call))
      (.new lifetime refreshSkewSec accessSkewSec) calls := by
  rintro first call second rfl
  constructor
  · rintro claim events credential ⟨⟩ hreturned
    obtain ⟨hmatches, hsource⟩ := vouched_returned rfl hreturned
    exact ⟨hmatches, bindRelayScope_of_matchesClaim hmatches, hsource⟩
  · intro request hrequest
    refine (vouched_requested rfl hrequest).imp_right ?_
    rintro ⟨claim, events, token, rfl, hsame, hgranted⟩
    exact ⟨claim, events, token, rfl, hsame, hgranted.imp_left fun h => ⟨claim, events, rfl, h⟩⟩
  · rintro claim events reason ⟨⟩ hfailed
    exact vouched_inactive hfailed
  · exact fun reason hfailed => credentials_of_failed hfailed

end ImageStream
