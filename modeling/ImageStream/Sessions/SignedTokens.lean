/-
# Signed tokens

A token is signed by the session authority. Its header names the key and the algorithm, and what
it claims counts once the signature, the issuer, the audience and the times have been checked.

The JWT library is a parameter: what it reads of a token, what it makes of a published key, and
which claims a token has that is signed with a key.
-/

import ImageStream.Sessions.SigningKeys

namespace ImageStream

open Base

variable {Key : Type}

/-! ## Tokens -/

/-- What the verifiers read of the header of a token. -/
structure TokenHeader where
  alg : Option String
  kid : Option String

/-- What the claims of a token are checked for. -/
structure DecodeOptions where
  issuer : String
  audience : String
  leewaySec : ℤ
  required : List String

/-- The JWT library. Where it has nothing to return it raises. -/
structure JwtLibrary (Key : Type) where
  getUnverifiedHeader : String → Option TokenHeader
  /-- The claims of a token, unchecked. -/
  unverifiedClaims : String → Option JsonFields
  fromDict : JsonFields → Option Key
  /-- The claims of a token that is signed with a key by RS256, if they pass the checks at a
  time. -/
  decode : String → Key → DecodeOptions → ℚ → Option JsonFields

/-- What a verifier is configured with. -/
structure VerifierSettings where
  issuer : String
  audience : String
  leewaySec : ℤ := 5

/-- The texts of a verifier, and the claims that it requires. -/
structure TokenKind where
  required : List String
  tokenMissing : SessionTokenError
  wrongAlgorithm : SessionTokenError
  invalid : SessionTokenError

def VerifierSettings.options (settings : VerifierSettings) (kind : TokenKind) : DecodeOptions where
  issuer := settings.issuer
  audience := settings.audience
  leewaySec := settings.leewaySec
  required := kind.required

/-- What a verification meets: the key cache's clock and answers, and the time at which the
claims are checked. -/
structure TokenEvents where
  keys : KeyEvents
  decodedAt : ℚ

/-- The key that a token asks for, if its header is as it has to be. -/
def JwtLibrary.keyCall? (jwt : JwtLibrary Key) (token : String) (events : TokenEvents) :
    Option KeyCall :=
  if token = "" then none
  else
    match jwt.getUnverifiedHeader token with
    | none => none
    | some header =>
        if header.alg = some "RS256" then some ⟨header.kid.getD "", events.keys⟩ else none

/-- The claims of a token of a kind. -/
def JwtLibrary.verifiedClaims (jwt : JwtLibrary Key) (kind : TokenKind)
    (settings : VerifierSettings) (keyCache : JwksKeyCache Key) (token : String)
    (events : TokenEvents) : JwksKeyCache Key × Except SessionTokenError JsonFields :=
  if token = "" then (keyCache, .error kind.tokenMissing)
  else
    match jwt.getUnverifiedHeader token with
    | none => (keyCache, .error kind.invalid)
    | some header =>
        if header.alg ≠ some "RS256" then (keyCache, .error kind.wrongAlgorithm)
        else
          match keyCache.resolve jwt.fromDict (header.kid.getD "") events.keys with
          | (keyCache, .error reason) => (keyCache, .error reason)
          | (keyCache, .ok key) =>
              (keyCache,
                match jwt.decode token key (settings.options kind) events.decodedAt with
                | some claims => .ok claims
                | none => .error kind.invalid)

/-! ## Where the key comes from -/

/-- The fetches that are made for a key, if one is asked for. -/
def keyFetches (jwt : JwtLibrary Key) (keyCache : JwksKeyCache Key) (call? : Option KeyCall) :
    List JwksFetch :=
  call?.elim [] fun call => keyCache.fetches jwt.fromDict call.kid call.events

/-- Claims that are verified are those under a key which the key cache has handed out. -/
theorem verifiedClaims_spec (jwt : JwtLibrary Key) (kind : TokenKind)
    (settings : VerifierSettings) (keyCache : JwksKeyCache Key) (token : String)
    (events : TokenEvents) :
    (jwt.verifiedClaims kind settings keyCache token events).1 =
        (keyFetches jwt keyCache (jwt.keyCall? token events)).foldl
          (JwksKeyCache.learn jwt.fromDict) keyCache ∧
      ∀ claims, (jwt.verifiedClaims kind settings keyCache token events).2 = .ok claims →
        ∃ call key, jwt.keyCall? token events = some call ∧
          (keyCache.resolve jwt.fromDict call.kid call.events).2 = .ok key ∧
          jwt.decode token key (settings.options kind) events.decodedAt = some claims := by
  unfold JwtLibrary.verifiedClaims JwtLibrary.keyCall?
  by_cases hmissing : token = ""
  · rw [if_pos hmissing, if_pos hmissing]
    exact ⟨rfl, fun claims hok => by cases hok⟩
  rw [if_neg hmissing, if_neg hmissing]
  cases hheader : jwt.getUnverifiedHeader token with
  | none => exact ⟨rfl, fun claims hok => by cases hok⟩
  | some header =>
      dsimp only
      by_cases halg : header.alg = some "RS256"
      · rw [if_neg (not_not.mpr halg), if_pos halg]
        obtain ⟨hleaves, -⟩ :=
          JwksKeyCache.resolve_spec jwt.fromDict keyCache (header.kid.getD "") events.keys
        cases hresolve : keyCache.resolve jwt.fromDict (header.kid.getD "") events.keys with
        | mk resolved answer =>
            rw [hresolve] at hleaves
            cases answer with
            | error reason => exact ⟨hleaves, fun claims hok => by cases hok⟩
            | ok key =>
                refine ⟨hleaves, fun claims hok => ⟨_, key, rfl, by rw [hresolve], ?_⟩⟩
                dsimp only at hok
                split at hok
                case h_1 hdecoded =>
                  cases hok
                  exact hdecoded
                case h_2 => cases hok
      · rw [if_pos halg, if_neg halg]
        exact ⟨rfl, fun claims hok => by cases hok⟩

end ImageStream
