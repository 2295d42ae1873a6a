/-
# Issuing a credential for the relay

What one call of the provider does. An access token is used again or granted; Main's answer gives
a token and a body; the token is verified, and the body has to say what the token says. Each of
these can fail, and what has been learned until then stays learned.
-/

import ImageStream.Relay.RelayCredentials

namespace ImageStream

open Base Digest

variable {Key : Type}

/-! ## Access tokens -/

/-- Whether an answer grants an access token at a time. -/
def HttpAnswer.Grants (answer : HttpAnswer) (current : ℚ) (token : WorkloadAccessToken) : Prop :=
  ∃ (response : HttpResponse) (fields : JsonFields), answer = .answered response ∧
    200 ≤ response.statusCode ∧ response.statusCode ≤ 299 ∧ response.json = some (.obj fields) ∧
    fields.field "access_token" = .str token.value ∧ token.value ≠ "" ∧
    (fields.field "expires_in").lifetime? = some token.expiresIn ∧ token.requestedAt = current

theorem HttpResponse.raiseForStatus_eq_ok_iff {response : HttpResponse} {u : Unit} :
    response.raiseForStatus = .ok u ↔ 200 ≤ response.statusCode ∧ response.statusCode ≤ 299 := by
  unfold raiseForStatus
  split
  case isTrue h => exact ⟨fun _ => h, fun _ => rfl⟩
  case isFalse h => exact ⟨fun hok => (by cases hok), fun hc => absurd hc h⟩

theorem HttpResponse.readJson_eq_ok_iff {response : HttpResponse} {payload : JsonValue} :
    response.readJson = .ok payload ↔ response.json = some payload := by
  unfold readJson
  cases response.json <;> simp

theorem HttpAnswer.received_eq_ok_iff {answer : HttpAnswer} {response : HttpResponse} :
    answer.received = .ok response ↔ answer = .answered response := by
  cases answer <;> simp [received]

theorem JsonValue.object?_eq_some_iff {value : JsonValue} {fields : JsonFields} :
    value.object? = some fields ↔ value = .obj fields := by
  cases value <;> simp [object?]

namespace ClientCredentialsTokenProvider

theorem grants_of_granted {response : HttpResponse} {current : ℚ} {token : WorkloadAccessToken}
    (h : granted response current = .ok token) :
    (HttpAnswer.answered response).Grants current token := by
  unfold granted at h
  simp only [bind_eq_ok, HttpResponse.raiseForStatus_eq_ok_iff, HttpResponse.readJson_eq_ok_iff,
    exists_const] at h
  obtain ⟨hstatus, payload, hpayload, h⟩ := h
  split at h
  case h_1 => cases h
  case h_2 value hvalue =>
    split at h
    case h_1 => cases h
    case h_2 expiresIn hexpires =>
      cases h
      obtain ⟨htext, hne⟩ := Option.filter_eq_some_iff.mp hvalue
      have hobject : payload.object? = some (payload.object?.getD []) := by
        cases hread : payload.object? with
        | none =>
            rw [hread] at htext
            cases htext
        | some fields => rfl
      rw [JsonValue.object?_eq_some_iff] at hobject
      exact ⟨response, payload.object?.getD [], rfl, hstatus.1, hstatus.2,
        hobject ▸ hpayload, JsonValue.text?_eq_some_iff.mp htext, of_decide_eq_true hne, hexpires,
        rfl⟩

/-- What a call leaves, and what it hands out: the cached token, which is not about to expire, or
the one that it is granted. -/
structure AccessResult (provider : ClientCredentialsTokenProvider) (current : ℚ)
    (answer : HttpAnswer)
    (result : ClientCredentialsTokenProvider × Except RelayCredentialError String) : Prop where
  refreshSkewSec : result.1.refreshSkewSec = provider.refreshSkewSec
  cached : ∀ token, result.1.cached = some token →
    provider.cached = some token ∨ answer.Grants current token
  handsOut : ∀ value, result.2 = .ok value → ∃ token, token.value = value ∧
    (answer.Grants current token ∨
      provider.cached = some token ∧
        token.lastsBeyond (current + provider.refreshSkewSec) = true)

theorem resolve_result (provider : ClientCredentialsTokenProvider) (current : ℚ)
    (answer : HttpAnswer) :
    provider.AccessResult current answer (provider.resolve current answer) := by
  unfold resolve
  cases husable : provider.usable? current with
  | some token =>
      obtain ⟨hcached, hlasts⟩ := Option.filter_eq_some_iff.mp husable
      refine ⟨rfl, fun _ h => Or.inl h, fun value hok => ?_⟩
      cases hok
      exact ⟨token, rfl, Or.inr ⟨hcached, hlasts⟩⟩
  | none =>
      dsimp only
      cases hread : answer.received >>= fun response => granted response current with
      | error e => exact ⟨rfl, fun _ h => Or.inl h, fun _ hok => by cases hok⟩
      | ok token =>
          obtain ⟨response, hreceived, hgranted⟩ := bind_eq_ok.mp hread
          have hgrants : answer.Grants current token := by
            rw [HttpAnswer.received_eq_ok_iff.mp hreceived]
            exact grants_of_granted hgranted
          refine ⟨rfl, fun later h => ?_, fun value hok => ?_⟩
          · cases h
            exact Or.inr hgrants
          · cases hok
            exact ⟨token, rfl, Or.inl hgrants⟩

end ClientCredentialsTokenProvider

/-! ## What Main confirms -/

/-- Whether a value names some cameras, as a list of their ids or as a mapping under them. -/
def NamesCameras (value : JsonValue) (cameraIds : Finset String) : Prop :=
  ∃ ids : List String, ids.toFinset = cameraIds ∧
    (value = .arr (ids.map .str) ∨ ∃ fields, value = .obj fields ∧ fields.map Prod.fst = ids)

/-- Whether a body says what a scope says. -/
def VerifiedRelayScope.Confirmed (scope : VerifiedRelayScope) (payload : JsonValue) : Prop :=
  ∃ fields : JsonFields, payload = .obj fields ∧
    fields.field "credentialId" = .str scope.tokenJti ∧
    fields.field "captureSessionId" = .str scope.captureSessionId ∧
    fields.field "processingJobId" = .str scope.processingJobId ∧
    fields.field "credentialKind" = .str "PROCESSING_RELAY" ∧
    NamesCameras (fields.field "cameraIds") scope.cameraIds

theorem uuid_text_ne_singleton (uuid : Uuid) (c : Char) : uuid.text ≠ String.singleton c := by
  intro h
  have hlength := congrArg (fun text : String => text.toList.length) h
  simp [Uuid.text] at hlength
  omega

theorem uuid_of_mem_canonical {items : List JsonValue} {canonical : List String} {id : String}
    (h : List.Forall₂ IsUuid items canonical) (hid : id ∈ canonical) :
    ∃ uuid : Uuid, uuid.text = id := by
  induction h with
  | nil => cases hid
  | cons hitem _ ih =>
      rcases List.mem_cons.mp hid with rfl | hrest
      · obtain ⟨_, _, _, uuid, _, htext⟩ := hitem
        exact ⟨uuid, htext⟩
      · exact ih hrest

/-- Cameras that are listed are some, and their ids are those of UUIDs. -/
theorem ListsCameras.uuids {value : JsonValue} {cameraIds : Finset String}
    (h : ListsCameras value cameraIds) :
    cameraIds.Nonempty ∧ ∀ id ∈ cameraIds, ∃ uuid : Uuid, uuid.text = id := by
  obtain ⟨items, canonical, -, hne, huuids, -, rfl⟩ := h
  constructor
  · cases huuids with
    | nil => exact absurd rfl hne
    | cons => exact ⟨_, List.mem_toFinset.mpr List.mem_cons_self⟩
  · exact fun id hid => uuid_of_mem_canonical huuids (List.mem_toFinset.mp hid)

theorem map_str_filterMap_text? {items : List JsonValue}
    (h : items.all (fun item => item.text?.isSome) = true) :
    (items.filterMap JsonValue.text?).map .str = items := by
  induction items with
  | nil => rfl
  | cons item items ih =>
      rw [List.all_cons, Bool.and_eq_true] at h
      obtain ⟨text, htext⟩ := Option.isSome_iff_exists.mp h.1
      rw [List.filterMap_cons_some htext, List.map_cons, ih h.2,
        JsonValue.text?_eq_some_iff.mp htext]

theorem filterMap_text?_map_str (texts : List String) :
    (texts.map JsonValue.str).filterMap JsonValue.text? = texts := by
  rw [List.filterMap_map]
  exact List.filterMap_some

/-- The items that are compared with the cameras of a claimed scope are those of a list or the
names of a mapping: no text has such an item, and no other value has any. -/
theorem namesCameras_of_items {value : JsonValue} {items : List JsonValue}
    {cameraIds : Finset String} (hitems : value.itemsIfAny = .ok items)
    (htexts : items.all (fun item => item.text?.isSome) = true)
    (hsame : (items.filterMap JsonValue.text?).toFinset = cameraIds)
    (hne : cameraIds.Nonempty) (huuids : ∀ id ∈ cameraIds, ∃ uuid : Uuid, uuid.text = id) :
    NamesCameras value cameraIds := by
  unfold JsonValue.itemsIfAny at hitems
  split at hitems
  case isFalse =>
    cases hitems
    exact absurd hsame.symm hne.ne_empty
  case isTrue =>
    cases value with
    | str text =>
        cases hitems
        obtain ⟨id, hid⟩ := hne
        obtain ⟨uuid, huuid⟩ := huuids id hid
        rw [← hsame, List.mem_toFinset, List.filterMap_map, List.mem_filterMap] at hid
        obtain ⟨c, -, hc⟩ := hid
        exact absurd (huuid.trans (Option.some.inj hc).symm) (uuid_text_ne_singleton uuid c)
    | arr listed =>
        change (if listed.all JsonValue.isHashable then _ else _) = _ at hitems
        split at hitems
        · cases hitems
          exact ⟨_, hsame, Or.inl (congrArg JsonValue.arr (map_str_filterMap_text? htexts).symm)⟩
        · cases hitems
    | obj fields =>
        cases hitems
        refine ⟨fields.map Prod.fst, ?_, Or.inr ⟨fields, rfl, rfl⟩⟩
        rw [← hsame, ← filterMap_text?_map_str (fields.map Prod.fst), List.map_map]
        rfl
    | null => cases hitems
    | bool value => cases hitems
    | int value => cases hitems
    | float value => cases hitems
    | nan => cases hitems
    | infinity negative => cases hitems

theorem confirmed_of_assert {payload : JsonValue} {scope : VerifiedRelayScope} {u : Unit}
    (h : assertResponseMatchesScope payload scope = .ok u) {claims : JsonFields}
    (hclaimed : scope.Claimed claims) : scope.Confirmed payload := by
  unfold assertResponseMatchesScope at h
  split at h
  case h_1 => cases h
  case h_2 fields hobject =>
    obtain ⟨items, hitems, h⟩ := bind_eq_ok.mp h
    split at h
    case isTrue hsays =>
      obtain ⟨hid, hcapture, hjob, hkind, htexts, hcameras⟩ := hsays
      obtain ⟨hne, huuids⟩ := hclaimed.cameraIds.uuids
      exact ⟨fields, JsonValue.object?_eq_some_iff.mp hobject, JsonValue.text?_eq_some_iff.mp hid,
        JsonValue.text?_eq_some_iff.mp hcapture, JsonValue.text?_eq_some_iff.mp hjob,
        JsonValue.text?_eq_some_iff.mp hkind,
        namesCameras_of_items hitems htexts hcameras hne huuids⟩
    case isFalse => cases h

/-! ## What one issue does -/

theorem verifyRelayToken_spec (jwt : JwtLibrary Key) (settings : VerifierSettings)
    (keyCache : JwksKeyCache Key) (token : String) (events : RelayTokenEvents) :
    (verifyRelayToken jwt settings keyCache token events).1 =
        (keyFetches jwt keyCache (jwt.keyCall? token events.token)).foldl
          (JwksKeyCache.learn jwt.fromDict) keyCache ∧
      ∀ scope, (verifyRelayToken jwt settings keyCache token events).2 = .ok scope →
        truncateSeconds events.now < scope.expiresAt ∧
        ∃ call key claims, jwt.keyCall? token events.token = some call ∧
          (keyCache.resolve jwt.fromDict call.kid call.events).2 = .ok key ∧
          jwt.decode token key (settings.options relayKind) events.token.decodedAt = some claims ∧
          scope.Claimed claims := by
  obtain ⟨hleaves, hclaims⟩ :=
    verifiedClaims_spec jwt relayKind settings keyCache token events.token
  refine ⟨hleaves, fun scope hok => ?_⟩
  unfold verifyRelayToken unexpiredRelayScope at hok
  obtain ⟨claims, hverified, hscope⟩ := bind_eq_ok.mp hok
  obtain ⟨claimed, hread, hchecked⟩ := bind_eq_ok.mp hscope
  obtain ⟨_, hunexpired, hsame⟩ := bind_eq_ok.mp hchecked
  cases hsame
  obtain ⟨call, key, hcall, hkey, hdecoded⟩ := hclaims claims hverified
  exact ⟨demand_eq_ok_iff.mp hunexpired, call, key, claims, hcall, hkey, hdecoded,
    relayScopeFromClaims_eq_ok_iff.mp hread⟩

theorem issuedToken_eq_ok {answer : HttpAnswer} {relayToken : String} {payload : JsonValue}
    (h : issuedToken answer = .ok (relayToken, payload)) :
    ∃ response, answer = .answered response ∧
      200 ≤ response.statusCode ∧ response.statusCode ≤ 299 ∧
      response.relayToken = some relayToken ∧ response.json = some payload := by
  unfold issuedToken at h
  obtain ⟨response, hreceived, h⟩ := bind_eq_ok.mp h
  split at h
  case isTrue => cases h
  case isFalse =>
    obtain ⟨_, hstatus, h⟩ := bind_eq_ok.mp h
    split at h
    case h_1 => cases h
    case h_2 token htoken =>
      obtain ⟨read, hread, hsame⟩ := bind_eq_ok.mp h
      cases hsame
      obtain ⟨hlow, hhigh⟩ := HttpResponse.raiseForStatus_eq_ok_iff.mp hstatus
      exact ⟨response, HttpAnswer.received_eq_ok_iff.mp hreceived, hlow, hhigh,
        (Option.filter_eq_some_iff.mp htoken).1, HttpResponse.readJson_eq_ok_iff.mp hread⟩

namespace RelayCredentialProvider

variable (jwt : JwtLibrary Key) (settings : VerifierSettings)
  (provider : RelayCredentialProvider Key)

/-- The access token of a call that asks for a credential. -/
def accessToken? (events : RelayCredentialEvents) : Option String :=
  (provider.accessTokens.resolve events.accessNow events.accessAnswer).2.toOption

/-- The request of a call that asks for a credential. -/
def request? (claim : ClaimedFrameSet) (events : RelayCredentialEvents) :
    Option RelayCredentialRequest :=
  (provider.accessToken? events).map fun accessToken =>
    ⟨claim.tenantId, claim.processingJobId, accessToken⟩

/-- The key that a call that asks for a credential asks for. -/
def keyCall? (events : RelayCredentialEvents) : Option KeyCall :=
  (provider.accessToken? events).bind fun _ =>
    (issuedToken events.answer).toOption.bind fun issued =>
      jwt.keyCall? issued.1 events.verification.token

/-- How a credential is issued. -/
structure Issues (claim : ClaimedFrameSet) (events : RelayCredentialEvents)
    (credential : ActiveProcessingRelayCredential) : Prop where
  forClaim : credential.scope.matchesClaim claim = true
  unexpired : truncateSeconds events.verification.now < credential.scope.expiresAt
  answered : ∃ response payload, events.answer = .answered response ∧
    200 ≤ response.statusCode ∧ response.statusCode ≤ 299 ∧
    response.relayToken = some credential.token ∧ response.json = some payload ∧
    credential.scope.Confirmed payload
  signed : ∃ call key claims, provider.keyCall? jwt events = some call ∧
    jwt.keyCall? credential.token events.verification.token = some call ∧
    (provider.keyCache.resolve jwt.fromDict call.kid call.events).2 = .ok key ∧
    jwt.decode credential.token key (settings.options relayKind)
      events.verification.token.decodedAt = some claims ∧
    credential.scope.Claimed claims

/-- What a call that asks for a credential leaves, and what its success means. -/
structure IssueResult (claim : ClaimedFrameSet) (events : RelayCredentialEvents)
    (result : RelayCredentialProvider Key ×
      Except RelayCredentialError ActiveProcessingRelayCredential) : Prop where
  credentials : result.1.credentials = provider.credentials
  refreshSkewSec : result.1.refreshSkewSec = provider.refreshSkewSec
  accessTokens : result.1.accessTokens =
    (provider.accessTokens.resolve events.accessNow events.accessAnswer).1
  keyCache : result.1.keyCache =
    (keyFetches jwt provider.keyCache (provider.keyCall? jwt events)).foldl
      (JwksKeyCache.learn jwt.fromDict) provider.keyCache
  requests : result.1.requests =
    provider.requests ++ (provider.request? claim events).toList
  issues : ∀ credential, result.2 = .ok credential →
    provider.Issues jwt settings claim events credential

theorem issues_of_credentialFor {claim : ClaimedFrameSet} {events : RelayCredentialEvents}
    {relayToken : String} {payload : JsonValue} {scope : VerifiedRelayScope}
    {credential : ActiveProcessingRelayCredential}
    (hcall : provider.keyCall? jwt events =
      jwt.keyCall? relayToken events.verification.token)
    (hanswer : issuedToken events.answer = .ok (relayToken, payload))
    (hverified : truncateSeconds events.verification.now < scope.expiresAt ∧
      ∃ call key claims, jwt.keyCall? relayToken events.verification.token = some call ∧
        (provider.keyCache.resolve jwt.fromDict call.kid call.events).2 = .ok key ∧
        jwt.decode relayToken key (settings.options relayKind)
          events.verification.token.decodedAt = some claims ∧
        scope.Claimed claims)
    (hok : credentialFor claim relayToken payload scope = .ok credential) :
    provider.Issues jwt settings claim events credential := by
  unfold credentialFor at hok
  split at hok
  case isFalse => cases hok
  case isTrue hmatches =>
    obtain ⟨_, hassert, hsame⟩ := bind_eq_ok.mp hok
    cases hsame
    obtain ⟨hunexpired, call, key, claims, hasked, hkey, hdecoded, hclaimed⟩ := hverified
    obtain ⟨response, hresponse, hlow, hhigh, htoken, hjson⟩ := issuedToken_eq_ok hanswer
    exact ⟨hmatches, hunexpired,
      ⟨response, payload, hresponse, hlow, hhigh, htoken, hjson,
        confirmed_of_assert hassert hclaimed⟩,
      ⟨call, key, claims, hcall.trans hasked, hasked, hkey, hdecoded, hclaimed⟩⟩

theorem issue_result (claim : ClaimedFrameSet) (events : RelayCredentialEvents) :
    provider.IssueResult jwt settings claim events (provider.issue jwt settings claim events) := by
  unfold issue
  cases haccess : provider.accessTokens.resolve events.accessNow events.accessAnswer with
  | mk accessTokens access =>
      cases access with
      | error e =>
          have hnone : provider.accessToken? events = none := by
            unfold accessToken?
            rw [haccess]
            rfl
          refine ⟨rfl, rfl, by rw [haccess], ?_, ?_, fun _ hok => by cases hok⟩
          · simp [keyCall?, hnone, keyFetches]
          · simp [request?, hnone]
      | ok accessToken =>
          have hsome : provider.accessToken? events = some accessToken := by
            unfold accessToken?
            rw [haccess]
            rfl
          have hrequests : (provider.sending claim accessTokens accessToken).requests =
              provider.requests ++ (provider.request? claim events).toList := by
            rw [request?, hsome]
            rfl
          dsimp only
          cases hanswer : issuedToken events.answer with
          | error e =>
              refine ⟨rfl, rfl, by rw [haccess]; rfl, ?_, hrequests, fun _ hok => by cases hok⟩
              simp [keyCall?, hsome, hanswer, keyFetches, sending, Except.toOption]
          | ok issued =>
              obtain ⟨relayToken, payload⟩ := issued
              have hcall : provider.keyCall? jwt events =
                  jwt.keyCall? relayToken events.verification.token := by
                simp [keyCall?, hsome, hanswer, Except.toOption]
              obtain ⟨hleaves, hverified⟩ := verifyRelayToken_spec jwt settings provider.keyCache
                relayToken events.verification
              rw [← hcall] at hleaves
              have hsent : (provider.sending claim accessTokens accessToken).keyCache =
                  provider.keyCache := rfl
              dsimp only
              rw [hsent]
              cases hverify : verifyRelayToken jwt settings provider.keyCache relayToken
                  events.verification with
              | mk keyCache verified =>
                  rw [hverify] at hleaves hverified
                  cases verified with
                  | error reason =>
                      exact ⟨rfl, rfl, by rw [haccess]; rfl, hleaves, hrequests,
                        fun _ hok => by cases hok⟩
                  | ok scope =>
                      refine ⟨rfl, rfl, by rw [haccess]; rfl, hleaves, hrequests,
                        fun credential hok => ?_⟩
                      exact provider.issues_of_credentialFor jwt settings hcall hanswer
                        (hverified scope rfl) hok

/-! ## What one call does -/

/-- Whether a call has to ask for a credential. -/
def Asks (claim : ClaimedFrameSet) (now : ℚ) : Prop :=
  claim.processingJobId.getD "" ≠ "" ∧
    provider.usable? (claim.processingJobId.getD "") claim now = none

/-- The ways in which a call can go. -/
inductive CallOutcome : RelayCredentialCall → RelayCredentialProvider Key ×
    Option (Except RelayCredentialError ActiveProcessingRelayCredential) → Prop
  | cleared : CallOutcome .clear (provider.clear, none)
  | unnamed (claim : ClaimedFrameSet) (events : RelayCredentialEvents)
      (hunnamed : claim.processingJobId.getD "" = "") :
      CallOutcome (.resolveForClaim claim events)
        (provider, some (.error (.sessionToken "manifest is missing processing_job_id")))
  | reused (claim : ClaimedFrameSet) (events : RelayCredentialEvents)
      (existing : ActiveProcessingRelayCredential)
      (hnamed : claim.processingJobId.getD "" ≠ "")
      (husable : provider.usable? (claim.processingJobId.getD "") claim events.now =
        some existing) :
      CallOutcome (.resolveForClaim claim events) (provider, some (.ok existing))
  | refused (claim : ClaimedFrameSet) (events : RelayCredentialEvents)
      (e : RelayCredentialError) (hasks : provider.Asks claim events.now)
      (hissue : (provider.issue jwt settings claim events).2 = .error e) :
      CallOutcome (.resolveForClaim claim events)
        ((provider.issue jwt settings claim events).1, some (.error e))
  | issued (claim : ClaimedFrameSet) (events : RelayCredentialEvents)
      (credential : ActiveProcessingRelayCredential) (hasks : provider.Asks claim events.now)
      (hissue : (provider.issue jwt settings claim events).2 = .ok credential) :
      CallOutcome (.resolveForClaim claim events)
        ({ (provider.issue jwt settings claim events).1 with
            credentials := provider.credentials.set (claim.processingJobId.getD "") credential },
          some (.ok credential))

theorem step_outcome (call : RelayCredentialCall) :
    provider.CallOutcome jwt settings call (relayCredentialStep jwt settings provider call) := by
  cases call with
  | clear => exact .cleared
  | resolveForClaim claim events =>
      unfold relayCredentialStep resolveForClaim
      dsimp only
      by_cases hnamed : claim.processingJobId.getD "" = ""
      · rw [if_pos hnamed]
        exact .unnamed claim events hnamed
      rw [if_neg hnamed]
      cases husable : provider.usable? (claim.processingJobId.getD "") claim events.now with
      | some existing => exact .reused claim events existing hnamed husable
      | none =>
          have hcredentials := (provider.issue_result jwt settings claim events).credentials
          dsimp only
          cases hissue : provider.issue jwt settings claim events with
          | mk issued answer =>
              rw [hissue] at hcredentials
              cases answer with
              | error e =>
                  have hout : provider.CallOutcome jwt settings _ _ :=
                    .refused claim events e ⟨hnamed, husable⟩ (by rw [hissue])
                  rwa [hissue] at hout
              | ok credential =>
                  have hout : provider.CallOutcome jwt settings _ _ :=
                    .issued claim events credential ⟨hnamed, husable⟩ (by rw [hissue])
                  rw [hissue] at hout
                  dsimp only at hcredentials ⊢
                  rw [hcredentials]
                  exact hout

theorem of_usable? {provider : RelayCredentialProvider Key} {processingJobId : String}
    {claim : ClaimedFrameSet} {now : ℚ} {existing : ActiveProcessingRelayCredential}
    (h : provider.usable? processingJobId claim now = some existing) :
    provider.credentials.get? processingJobId = some existing ∧
      truncateSeconds now + provider.refreshSkewSec < existing.scope.expiresAt ∧
      existing.scope.matchesClaim claim = true := by
  obtain ⟨hget, hgood⟩ := Option.filter_eq_some_iff.mp h
  rw [Bool.and_eq_true, decide_eq_true_eq] at hgood
  exact ⟨hget, hgood⟩

/-! ## What a call changes -/

/-- The claim and the events of a call that asks for a credential. -/
def asking? (call : RelayCredentialCall) :
    Option (ClaimedFrameSet × RelayCredentialEvents) :=
  match call with
  | .resolveForClaim claim events =>
      if claim.processingJobId.getD "" ≠ "" ∧
          (provider.usable? (claim.processingJobId.getD "") claim events.now).isNone then
        some (claim, events)
      else none
  | .clear => none

theorem asking?_of_asks {claim : ClaimedFrameSet} {events : RelayCredentialEvents}
    (h : provider.Asks claim events.now) :
    provider.asking? (.resolveForClaim claim events) = some (claim, events) := by
  unfold asking?
  dsimp only
  rw [if_pos ⟨h.1, Option.isNone_iff_eq_none.mpr h.2⟩]

/-- The fetches of keys that a call makes. -/
def fetches (call : RelayCredentialCall) : List JwksFetch :=
  keyFetches jwt provider.keyCache
    ((provider.asking? call).bind fun asking => provider.keyCall? jwt asking.2)

/-- What a call leaves of what the provider has. -/
structure CallResult (call : RelayCredentialCall)
    (result : RelayCredentialProvider Key ×
      Option (Except RelayCredentialError ActiveProcessingRelayCredential)) : Prop where
  refreshSkewSec : result.1.refreshSkewSec = provider.refreshSkewSec
  keyCache : result.1.keyCache =
    (provider.fetches jwt call).foldl (JwksKeyCache.learn jwt.fromDict) provider.keyCache
  accessTokens : result.1.accessTokens = provider.accessTokens ∨
    ∃ claim events, call = .resolveForClaim claim events ∧ result.1.accessTokens =
      (provider.accessTokens.resolve events.accessNow events.accessAnswer).1
  requests : result.1.requests = provider.requests ∨
    ∃ claim events, call = .resolveForClaim claim events ∧ result.1.requests =
      provider.requests ++ (provider.request? claim events).toList

theorem step_result (call : RelayCredentialCall) :
    provider.CallResult jwt call (relayCredentialStep jwt settings provider call) := by
  have hquiet : provider.asking? call = none → provider.fetches jwt call = [] := by
    intro hnone
    unfold fetches
    rw [hnone]
    rfl
  have hout := provider.step_outcome jwt settings call
  generalize relayCredentialStep jwt settings provider call = result at hout ⊢
  cases hout with
  | cleared => exact ⟨rfl, by rw [hquiet rfl]; rfl, Or.inl rfl, Or.inl rfl⟩
  | unnamed claim events hunnamed =>
      have hnone : provider.asking? (.resolveForClaim claim events) = none := by
        simp [asking?, hunnamed]
      exact ⟨rfl, by rw [hquiet hnone]; rfl, Or.inl rfl, Or.inl rfl⟩
  | reused claim events existing hnamed husable =>
      have hnone : provider.asking? (.resolveForClaim claim events) = none := by
        simp [asking?, husable]
      exact ⟨rfl, by rw [hquiet hnone]; rfl, Or.inl rfl, Or.inl rfl⟩
  | refused claim events e hasks hissue =>
      have hresult := provider.issue_result jwt settings claim events
      refine ⟨hresult.refreshSkewSec, ?_, Or.inr ⟨claim, events, rfl, hresult.accessTokens⟩,
        Or.inr ⟨claim, events, rfl, hresult.requests⟩⟩
      rw [fetches, provider.asking?_of_asks hasks]
      exact hresult.keyCache
  | issued claim events credential hasks hissue =>
      have hresult := provider.issue_result jwt settings claim events
      refine ⟨hresult.refreshSkewSec, ?_, Or.inr ⟨claim, events, rfl, hresult.accessTokens⟩,
        Or.inr ⟨claim, events, rfl, hresult.requests⟩⟩
      rw [fetches, provider.asking?_of_asks hasks]
      exact hresult.keyCache

end RelayCredentialProvider

/-! ## When a job is inactive -/

def RelayCredentialError.isInactive : RelayCredentialError → Bool
  | relayCredentialSessionInactive _ => true
  | _ => false

theorem isInactive_of_raiseForStatus {response : HttpResponse} {e : RelayCredentialError}
    (h : response.raiseForStatus = .error e) : e.isInactive = false := by
  unfold HttpResponse.raiseForStatus at h
  split at h <;> cases h
  rfl

theorem isInactive_of_readJson {response : HttpResponse} {e : RelayCredentialError}
    (h : response.readJson = .error e) : e.isInactive = false := by
  unfold HttpResponse.readJson at h
  split at h <;> cases h
  rfl

theorem isInactive_of_granted {response : HttpResponse} {current : ℚ} {e : RelayCredentialError}
    (h : ClientCredentialsTokenProvider.granted response current = .error e) :
    e.isInactive = false := by
  unfold ClientCredentialsTokenProvider.granted at h
  rcases bind_eq_error.mp h with hstatus | ⟨_, _, h⟩
  · exact isInactive_of_raiseForStatus hstatus
  rcases bind_eq_error.mp h with hjson | ⟨payload, _, h⟩
  · exact isInactive_of_readJson hjson
  dsimp only at h
  split at h
  · cases h
    rfl
  · split at h <;> cases h
    rfl

theorem isInactive_of_resolve {provider : ClientCredentialsTokenProvider} {current : ℚ}
    {answer : HttpAnswer} {e : RelayCredentialError}
    (h : (provider.resolve current answer).2 = .error e) : e.isInactive = false := by
  unfold ClientCredentialsTokenProvider.resolve at h
  split at h
  · cases h
  · split at h
    case h_1 e' hread =>
      cases h
      rcases bind_eq_error.mp hread with hreceived | ⟨response, _, hgranted⟩
      · cases answer <;> cases hreceived
        rfl
      · exact isInactive_of_granted hgranted
    case h_2 => cases h

theorem isInactive_of_itemsIfAny {value : JsonValue} {e : RelayCredentialError}
    (h : value.itemsIfAny = .error e) : e.isInactive = false := by
  unfold JsonValue.itemsIfAny at h
  split at h
  · unfold JsonValue.items at h
    split at h
    · cases h
    · split at h <;> cases h
      rfl
    · cases h
    · cases h
      rfl
  · cases h

theorem isInactive_of_credentialFor {claim : ClaimedFrameSet} {relayToken : String}
    {payload : JsonValue} {scope : VerifiedRelayScope} {e : RelayCredentialError}
    (h : RelayCredentialProvider.credentialFor claim relayToken payload scope = .error e) :
    e.isInactive = false := by
  unfold RelayCredentialProvider.credentialFor at h
  split at h
  case isFalse =>
    cases h
    rfl
  case isTrue =>
    rcases bind_eq_error.mp h with hassert | ⟨_, _, h⟩
    · unfold assertResponseMatchesScope at hassert
      split at hassert
      · cases hassert
        rfl
      · rcases bind_eq_error.mp hassert with hitems | ⟨_, _, hsays⟩
        · exact isInactive_of_itemsIfAny hitems
        · split at hsays <;> cases hsays
          rfl
    · cases h

/-- Main's answer says that a job is inactive by its status alone. -/
theorem statusCode_of_issuedToken {answer : HttpAnswer} {e : RelayCredentialError}
    (h : issuedToken answer = .error e) (hinactive : e.isInactive = true) :
    ∃ response, answer = .answered response ∧ response.statusCode = 409 := by
  unfold issuedToken at h
  rcases bind_eq_error.mp h with hreceived | ⟨response, hreceived, h⟩
  · cases answer <;> cases hreceived
    cases hinactive
  split at h
  case isTrue hstatus => exact ⟨response, HttpAnswer.received_eq_ok_iff.mp hreceived, hstatus⟩
  case isFalse =>
    rcases bind_eq_error.mp h with hraise | ⟨_, _, h⟩
    · rw [isInactive_of_raiseForStatus hraise] at hinactive
      cases hinactive
    split at h
    · cases h
      cases hinactive
    · rcases bind_eq_error.mp h with hjson | ⟨_, _, h⟩
      · rw [isInactive_of_readJson hjson] at hinactive
        cases hinactive
      · cases h

theorem RelayCredentialProvider.inactive_of_issue {jwt : JwtLibrary Key}
    {settings : VerifierSettings} {provider : RelayCredentialProvider Key}
    {claim : ClaimedFrameSet} {events : RelayCredentialEvents} {e : RelayCredentialError}
    (h : (provider.issue jwt settings claim events).2 = .error e)
    (hinactive : e.isInactive = true) :
    (∃ request, provider.request? claim events = some request) ∧
      ∃ response, events.answer = .answered response ∧ response.statusCode = 409 := by
  unfold issue at h
  split at h
  case h_1 accessTokens e' haccess =>
    cases h
    rw [isInactive_of_resolve (congrArg Prod.snd haccess)] at hinactive
    cases hinactive
  case h_2 accessTokens accessToken haccess =>
    have hrequest : ∃ request, provider.request? claim events = some request := by
      unfold request? accessToken?
      rw [haccess]
      exact ⟨_, rfl⟩
    refine ⟨hrequest, ?_⟩
    dsimp only at h
    split at h
    case h_1 e' hanswer =>
      cases h
      exact statusCode_of_issuedToken hanswer hinactive
    case h_2 =>
      split at h
      · cases h
        cases hinactive
      · rw [isInactive_of_credentialFor h] at hinactive
        cases hinactive

end ImageStream
