/-
# Signing keys

Tokens are signed with keys that the session authority publishes as a JWKS. The cache asks for
them when it has none, when they are too old, and once more when a token names a key that it
does not know. A fetch that fails leaves the cache as it was, and the call fails.

So the cache holds the keys of the last fetch that succeeded. No key is handed out on a fetch
that is older than the lifetime of the cache, and a key that is no longer published is out of
use when that time has passed.
-/

import ImageStream.Base.Acquiring
import ImageStream.Sessions.TokenClaims
import Mathlib.Tactic.Linarith

namespace ImageStream

open Base

variable {Key : Type}

/-- What the fetcher comes back with. -/
inductive JwksAnswer
  | raised
  /-- Something that is not a mapping with a list under `keys`. -/
  | malformed
  /-- A list of keys, some of which may not be mappings. -/
  | keys (rawKeys : List (Option JsonFields))

/-- Read raw keys, where `fromDict` is what the library makes of one, if it does not raise. -/
def parseKeys (fromDict : JsonFields → Option Key) :
    List (Option JsonFields) → Dict String Key → Option (Dict String Key)
  | [], parsed => some parsed
  | none :: _, _ => none
  | some rawKey :: rawKeys, parsed =>
      match (rawKey.field "kid").text? with
      | none => none
      | some kid =>
          if kid = "" ∨ (parsed.get? kid).isSome then none
          else if (rawKey.field "kty").text? ≠ some "RSA" ∨
              (rawKey.field "alg").text? ≠ some "RS256" then
            parseKeys fromDict rawKeys parsed
          else
            match fromDict rawKey with
            | none => none
            | some key => parseKeys fromDict rawKeys (parsed.set kid key)

/-- The keys of an answer, unless it is to be rejected. -/
def JwksAnswer.parsed? (fromDict : JsonFields → Option Key) :
    JwksAnswer → Option (Dict String Key)
  | .raised => none
  | .malformed => none
  | .keys rawKeys =>
      if rawKeys = [] then none
      else (parseKeys fromDict rawKeys .empty).filter fun parsed => !parsed.rows.isEmpty

/-- A fetch, with the time that the cache books it at. -/
structure JwksFetch where
  loadedAt : ℚ
  answer : JwksAnswer

structure JwksKeyCache (Key : Type) where
  cacheTtlSec : ℚ
  keys : Dict String Key := .empty
  /-- When the keys were loaded: never yet, or at a time. -/
  loadedAt : Option ℚ := none

/-- What a call meets: the clock, and what the authority answers, at its first fetch and at its
second one. -/
structure KeyEvents where
  now : ℚ
  answer : JwksAnswer
  laterNow : ℚ
  laterAnswer : JwksAnswer

namespace JwksKeyCache

variable (fromDict : JsonFields → Option Key) (cache : JwksKeyCache Key)

/-- A cache as it is constructed. -/
def new (cacheTtlSec : {seconds : ℚ // 0 < seconds}) : JwksKeyCache Key where
  cacheTtlSec := cacheTtlSec

/-- What a fetch leaves. -/
def learn (fetch : JwksFetch) : JwksKeyCache Key :=
  match fetch.answer.parsed? fromDict with
  | some parsed => { cache with keys := parsed, loadedAt := some fetch.loadedAt }
  | none => cache

def refresh (fetch : JwksFetch) : JwksKeyCache Key × Except SessionTokenError Unit :=
  (cache.learn fromDict fetch,
    match fetch.answer.parsed? fromDict with
    | some _ => .ok ()
    | none => .error "could not refresh Main JWKS")

/-- Whether the keys have to be loaded first. -/
def isStale (now : ℚ) : Bool :=
  cache.keys.rows.isEmpty ||
    cache.loadedAt.all fun loadedAt => decide (cache.cacheTtlSec ≤ now - loadedAt)

/-- Look a key up, with one more fetch if it is not known. -/
def lookUp (kid : String) (events : KeyEvents) :
    JwksKeyCache Key × Except SessionTokenError Key :=
  match cache.keys.get? kid with
  | some key => (cache, .ok key)
  | none =>
      match cache.refresh fromDict ⟨events.laterNow, events.laterAnswer⟩ with
      | (refreshed, .error reason) => (refreshed, .error reason)
      | (refreshed, .ok ()) =>
          (refreshed,
            match refreshed.keys.get? kid with
            | some key => .ok key
            | none => .error "token kid is not present in Main JWKS")

def resolve (kid : String) (events : KeyEvents) :
    JwksKeyCache Key × Except SessionTokenError Key :=
  if kid = "" then (cache, .error "token header is missing kid")
  else if cache.isStale events.now then
    match cache.refresh fromDict ⟨events.now, events.answer⟩ with
    | (refreshed, .error reason) => (refreshed, .error reason)
    | (refreshed, .ok ()) => refreshed.lookUp fromDict kid events
  else cache.lookUp fromDict kid events

/-- The second fetch, if there is one. -/
def laterFetches (kid : String) (events : KeyEvents) : List JwksFetch :=
  if (cache.keys.get? kid).isSome then [] else [⟨events.laterNow, events.laterAnswer⟩]

/-- The fetches that a call makes. -/
def fetches (kid : String) (events : KeyEvents) : List JwksFetch :=
  if kid = "" then []
  else if cache.isStale events.now then
    ⟨events.now, events.answer⟩ ::
      (if (events.answer.parsed? fromDict).isSome then
        (cache.learn fromDict ⟨events.now, events.answer⟩).laterFetches kid events
      else [])
  else cache.laterFetches kid events

end JwksKeyCache

/-! ## What an answer publishes -/

/-- Whether a raw key is a signing key under an id. -/
structure IsSigningKey (fromDict : JsonFields → Option Key) (kid : String) (key : Key)
    (rawKey : JsonFields) : Prop where
  kid : rawKey.field "kid" = .str kid
  kty : rawKey.field "kty" = .str "RSA"
  alg : rawKey.field "alg" = .str "RS256"
  key : fromDict rawKey = some key

/-- Whether an answer publishes a signing key under an id. -/
def JwksAnswer.Publishes (fromDict : JsonFields → Option Key) (answer : JwksAnswer)
    (kid : String) (key : Key) : Prop :=
  ∃ rawKeys rawKey, answer = .keys rawKeys ∧ some rawKey ∈ rawKeys ∧
    IsSigningKey fromDict kid key rawKey

variable {fromDict : JsonFields → Option Key}

/-- A raw key that is read is a signing key under its own id. -/
theorem isSigningKey_iff {rawKey : JsonFields} {itsKid : String} {itsKey : Key}
    (hsigns : IsSigningKey fromDict itsKid itsKey rawKey) (kid : String) (key : Key) :
    IsSigningKey fromDict kid key rawKey ↔ kid = itsKid ∧ key = itsKey := by
  constructor
  · intro h
    have hkid := h.kid.symm.trans hsigns.kid
    have hkey := h.key.symm.trans hsigns.key
    cases hkid
    cases hkey
    exact ⟨rfl, rfl⟩
  · rintro ⟨rfl, rfl⟩
    exact hsigns

/-- What is read are the keys that were there and the signing keys, which have ids of their
own. -/
theorem get?_of_parseKeys {rawKeys : List (Option JsonFields)} {parsed result : Dict String Key}
    (h : parseKeys fromDict rawKeys parsed = some result) (kid : String) (key : Key) :
    result.get? kid = some key ↔ parsed.get? kid = some key ∨
      ∃ rawKey, some rawKey ∈ rawKeys ∧ IsSigningKey fromDict kid key rawKey := by
  induction rawKeys generalizing parsed with
  | nil =>
      cases h
      simp
  | cons rawKey? rawKeys ih =>
      cases rawKey? with
      | none => cases h
      | some rawKey =>
          rw [parseKeys] at h
          cases hkid : (rawKey.field "kid").text? with
          | none => simp [hkid] at h
          | some itsKid =>
              rw [hkid] at h
              dsimp only at h
              have hnamed := JsonValue.text?_eq_some_iff.mp hkid
              by_cases htaken : itsKid = "" ∨ (parsed.get? itsKid).isSome
              · rw [if_pos htaken] at h
                cases h
              rw [if_neg htaken] at h
              rw [not_or, Option.not_isSome_iff_eq_none] at htaken
              by_cases hother : (rawKey.field "kty").text? ≠ some "RSA" ∨
                  (rawKey.field "alg").text? ≠ some "RS256"
              · rw [if_pos hother] at h
                have hnot : ¬IsSigningKey fromDict kid key rawKey := by
                  intro hsigns
                  rw [hsigns.kty, hsigns.alg] at hother
                  simp [JsonValue.text?] at hother
                rw [ih h]
                simp [hnot]
              · rw [if_neg hother] at h
                rw [not_or, not_not, not_not, JsonValue.text?_eq_some_iff,
                  JsonValue.text?_eq_some_iff] at hother
                cases hread : fromDict rawKey with
                | none => simp [hread] at h
                | some itsKey =>
                    rw [hread] at h
                    have hsigns := isSigningKey_iff
                      ⟨hnamed, hother.1, hother.2, hread⟩ kid key
                    rw [ih h, Dict.get?_set]
                    by_cases hsame : kid = itsKid
                    · subst hsame
                      rw [if_pos rfl, htaken.2]
                      simp only [List.mem_cons, Option.some.injEq, or_and_right, exists_or,
                        exists_eq_left, hsigns, true_and, reduceCtorEq, false_or]
                      rw [eq_comm]
                    · rw [if_neg hsame]
                      simp only [List.mem_cons, Option.some.injEq, or_and_right, exists_or,
                        exists_eq_left, hsigns, hsame, false_and, false_or]

theorem get?_of_parsed? {answer : JwksAnswer} {parsed : Dict String Key}
    (h : answer.parsed? fromDict = some parsed) (kid : String) (key : Key) :
    parsed.get? kid = some key ↔ answer.Publishes fromDict kid key := by
  cases answer with
  | raised => cases h
  | malformed => cases h
  | keys rawKeys =>
      unfold JwksAnswer.parsed? at h
      dsimp only at h
      split at h
      · cases h
      · rw [get?_of_parseKeys (Option.filter_eq_some_iff.mp h).1, Dict.get?_empty]
        constructor
        · rintro (hnone | ⟨rawKey, hmem, hsigns⟩)
          · cases hnone
          · exact ⟨rawKeys, rawKey, rfl, hmem, hsigns⟩
        · rintro ⟨_, rawKey, hsame, hmem, hsigns⟩
          cases hsame
          exact Or.inr ⟨rawKey, hmem, hsigns⟩

/-! ## What one call does -/

namespace JwksKeyCache

variable {cache : JwksKeyCache Key} {kid : String} {events : KeyEvents} {key : Key}

theorem learn_of_failed {fetch : JwksFetch} (h : fetch.answer.parsed? fromDict = none) :
    cache.learn fromDict fetch = cache := by
  unfold learn
  rw [h]

theorem learn_of_parsed {fetch : JwksFetch} {parsed : Dict String Key}
    (h : fetch.answer.parsed? fromDict = some parsed) :
    cache.learn fromDict fetch =
      { cache with keys := parsed, loadedAt := some fetch.loadedAt } := by
  unfold learn
  rw [h]

theorem foldl_learn_of_failed {fetches : List JwksFetch}
    (h : ∀ fetch ∈ fetches, fetch.answer.parsed? fromDict = none) :
    fetches.foldl (learn fromDict) cache = cache := by
  induction fetches with
  | nil => rfl
  | cons fetch fetches ih =>
      rw [List.foldl_cons, learn_of_failed (h fetch List.mem_cons_self)]
      exact ih fun later hlater => h later (List.mem_cons_of_mem _ hlater)

theorem cacheTtlSec_foldl_learn (fetches : List JwksFetch) (cache : JwksKeyCache Key) :
    (fetches.foldl (learn fromDict) cache).cacheTtlSec = cache.cacheTtlSec := by
  induction fetches generalizing cache with
  | nil => rfl
  | cons fetch fetches ih =>
      rw [List.foldl_cons, ih]
      unfold learn
      split <;> rfl

theorem lookUp_spec (fromDict : JsonFields → Option Key) (cache : JwksKeyCache Key) (kid : String)
    (events : KeyEvents) :
    (cache.lookUp fromDict kid events).1 =
        (cache.laterFetches kid events).foldl (learn fromDict) cache ∧
      ∀ key, (cache.lookUp fromDict kid events).2 = .ok key →
        (cache.lookUp fromDict kid events).1.keys.get? kid = some key ∧
          ((cache.laterFetches kid events = []) ∨
            ∃ fetch ∈ cache.laterFetches kid events,
              fetch.answer.parsed? fromDict ≠ none) := by
  unfold lookUp laterFetches
  cases hknown : cache.keys.get? kid with
  | some known => exact ⟨rfl, fun key hkey => ⟨hknown.trans (by cases hkey; rfl), Or.inl rfl⟩⟩
  | none =>
      unfold refresh
      cases hparsed : events.laterAnswer.parsed? fromDict with
      | none => exact ⟨rfl, fun key hkey => by cases hkey⟩
      | some parsed =>
          refine ⟨rfl, fun key hkey => ⟨?_, Or.inr ⟨_, List.mem_singleton_self _, ?_⟩⟩⟩
          · dsimp only at hkey ⊢
            split at hkey
            case h_1 hfound =>
              cases hkey
              exact hfound
            case h_2 => cases hkey
          · exact fun hnone => by rw [hparsed] at hnone; cases hnone

/-- A call leaves what its fetches leave. A key that it hands out is in the cache then, and the
keys were loaded by the call itself or not long ago. -/
theorem resolve_spec (fromDict : JsonFields → Option Key) (cache : JwksKeyCache Key)
    (kid : String) (events : KeyEvents) :
    (cache.resolve fromDict kid events).1 =
        (cache.fetches fromDict kid events).foldl (learn fromDict) cache ∧
      ∀ key, (cache.resolve fromDict kid events).2 = .ok key →
        (cache.resolve fromDict kid events).1.keys.get? kid = some key ∧
          ((∃ fetch ∈ cache.fetches fromDict kid events, fetch.answer.parsed? fromDict ≠ none) ∨
            ∃ loadedAt, cache.loadedAt = some loadedAt ∧
              events.now - loadedAt < cache.cacheTtlSec) := by
  unfold resolve fetches
  by_cases hkid : kid = ""
  · rw [if_pos hkid, if_pos hkid]
    exact ⟨rfl, fun key hkey => by cases hkey⟩
  rw [if_neg hkid, if_neg hkid]
  cases hstale : cache.isStale events.now with
  | true =>
      rw [if_pos rfl, if_pos rfl]
      unfold refresh
      cases hparsed : events.answer.parsed? fromDict with
      | none => exact ⟨rfl, fun key hkey => by cases hkey⟩
      | some parsed =>
          obtain ⟨hleaves, hhands⟩ := lookUp_spec fromDict
            (cache.learn fromDict ⟨events.now, events.answer⟩) kid events
          refine ⟨hleaves, fun key hkey => ⟨(hhands key hkey).1, Or.inl ?_⟩⟩
          refine ⟨_, List.mem_cons_self, fun hnone => ?_⟩
          rw [hparsed] at hnone
          cases hnone
  | false =>
      rw [if_neg Bool.false_ne_true, if_neg Bool.false_ne_true]
      obtain ⟨hleaves, hhands⟩ := lookUp_spec fromDict cache kid events
      refine ⟨hleaves, fun key hkey => ⟨(hhands key hkey).1, Or.inr ?_⟩⟩
      cases hloaded : cache.loadedAt with
      | none => simp [isStale, hloaded] at hstale
      | some loadedAt =>
          refine ⟨loadedAt, rfl, ?_⟩
          simp only [isStale, hloaded, Option.all_some, Bool.or_eq_false_iff,
            decide_eq_false_iff_not, not_le] at hstale
          exact hstale.2

/-! ## Where keys come from -/

/-- The keys of a cache are those of the last of its fetches that succeeded. -/
theorem exists_fetch_of_get? (cacheTtlSec : {seconds : ℚ // 0 < seconds})
    (fetches : List JwksFetch)
    (h : (fetches.foldl (learn fromDict) (new cacheTtlSec)).keys.get? kid = some key) :
    ∃ earlier fetch later, fetches = earlier ++ fetch :: later ∧
      fetch.answer.Publishes fromDict kid key ∧
      (∀ failed ∈ later, failed.answer.parsed? fromDict = none) ∧
      (fetches.foldl (learn fromDict) (new cacheTtlSec)).loadedAt = some fetch.loadedAt := by
  induction fetches using List.reverseRecOn with
  | nil => cases h
  | append_singleton fetches fetch ih =>
      rw [List.foldl_append, List.foldl_cons, List.foldl_nil] at h ⊢
      cases hparsed : fetch.answer.parsed? fromDict with
      | some parsed =>
          rw [learn_of_parsed hparsed] at h ⊢
          exact ⟨fetches, fetch, [], rfl, (get?_of_parsed? hparsed kid key).mp h,
            fun _ hmem => (by cases hmem), rfl⟩
      | none =>
          rw [learn_of_failed hparsed] at h ⊢
          obtain ⟨earlier, source, later, rfl, hpublishes, hfailed, hloaded⟩ := ih h
          refine ⟨earlier, source, later ++ [fetch], by simp, hpublishes, fun failed hmem => ?_,
            hloaded⟩
          rcases List.mem_append.mp hmem with hold | hnew
          · exact hfailed failed hold
          · rwa [List.mem_singleton.mp hnew]

theorem loadedAt_of_mem_fetches {fetch : JwksFetch}
    (h : fetch ∈ cache.fetches fromDict kid events) :
    fetch.loadedAt = events.now ∨ fetch.loadedAt = events.laterNow := by
  have hlater : ∀ t : JwksKeyCache Key, fetch ∈ t.laterFetches kid events →
      fetch.loadedAt = events.laterNow := by
    intro t hmem
    unfold laterFetches at hmem
    split at hmem
    · cases hmem
    · rw [List.mem_singleton.mp hmem]
  unfold fetches at h
  split at h
  · cases h
  · split at h
    · rcases List.mem_cons.mp h with rfl | hmem
      · exact Or.inl rfl
      · split at hmem
        · exact Or.inr (hlater _ hmem)
        · cases hmem
    · exact Or.inr (hlater _ h)

/-- **A key that is handed out** is that of the last fetch that succeeded, and this was made by
the call itself or is younger than the lifetime of the cache. -/
theorem exists_fetch_of_resolve {cacheTtlSec : {seconds : ℚ // 0 < seconds}}
    {past : List JwksFetch} (hcache : cache = past.foldl (learn fromDict) (new cacheTtlSec))
    (h : (cache.resolve fromDict kid events).2 = .ok key) :
    ∃ earlier fetch later,
      past ++ cache.fetches fromDict kid events = earlier ++ fetch :: later ∧
      fetch.answer.Publishes fromDict kid key ∧
      (∀ failed ∈ later, failed.answer.parsed? fromDict = none) ∧
      ((∃ before, cache.fetches fromDict kid events = before ++ fetch :: later) ∨
        events.now - fetch.loadedAt < cacheTtlSec) := by
  obtain ⟨hleaves, hhands⟩ := resolve_spec fromDict cache kid events
  obtain ⟨hget, hrecent⟩ := hhands key h
  have hall : (cache.resolve fromDict kid events).1 =
      (past ++ cache.fetches fromDict kid events).foldl (learn fromDict) (new cacheTtlSec) := by
    rw [List.foldl_append, ← hcache]
    exact hleaves
  rw [hall] at hget
  obtain ⟨earlier, fetch, later, hsplit, hpublishes, hfailed, hloaded⟩ :=
    exists_fetch_of_get? cacheTtlSec _ hget
  refine ⟨earlier, fetch, later, hsplit, hpublishes, hfailed, ?_⟩
  rcases List.append_eq_append_iff.mp hsplit with ⟨before, -, hmine⟩ | ⟨rest, -, hmine⟩
  · exact Or.inl ⟨before, hmine⟩
  · cases rest with
    | nil => exact Or.inl ⟨[], hmine.symm⟩
    | cons first rest =>
        -- The last fetch that succeeded is an old one, so the cache was loaded then.
        rw [List.cons_append, List.cons.injEq] at hmine
        obtain ⟨rfl, rfl⟩ := hmine
        have hmyfailed : ∀ failed ∈ cache.fetches fromDict kid events,
            failed.answer.parsed? fromDict = none := fun failed hmem =>
          hfailed failed (List.mem_append_right _ hmem)
        rcases hrecent with ⟨mine, hmem, hsucceeds⟩ | ⟨loadedAt, hold, hyoung⟩
        · exact absurd (hmyfailed mine hmem) hsucceeds
        · rw [List.foldl_append, ← hcache, foldl_learn_of_failed hmyfailed, hold,
            Option.some.injEq] at hloaded
          have hlifetime : cache.cacheTtlSec = cacheTtlSec := by
            rw [hcache, cacheTtlSec_foldl_learn]
            rfl
          rw [hloaded, hlifetime] at hyoung
          exact Or.inr hyoung

end JwksKeyCache

/-! ## Runs -/

/-- A call of the cache. -/
structure KeyCall where
  kid : String
  events : KeyEvents

/-- Whether a key is published to a call, after a history whose exchanges make fetches: by the
last fetch that succeeded, and this was made by the call's own exchange or less than a lifetime
before it. -/
def FreshlyPublished {ε : Type} (fromDict : JsonFields → Option Key) (fetches : ε → List JwksFetch)
    (lifetime : ℚ) (past : List ε) (e : ε) (call : KeyCall) (key : Key) : Prop :=
  ∃ earlier fetch later, (past ++ [e]).flatMap fetches = earlier ++ fetch :: later ∧
    fetch.answer.Publishes fromDict call.kid key ∧
    (∀ failed ∈ later, failed.answer.parsed? fromDict = none) ∧
    (fetch ∈ fetches e ∨ call.events.now - fetch.loadedAt < lifetime)

/-- A machine that has a key cache, and changes it by fetches only, is handed out only what is
freshly published. -/
theorem freshlyPublished_of_resolve {σ ι ο : Type} {step : σ → ι → σ × ο}
    (keyCache : σ → JwksKeyCache Key) (fetches : σ → ι → List JwksFetch)
    (hdriven : ∀ s i, keyCache (step s i).1 =
      (fetches s i).foldl (JwksKeyCache.learn fromDict) (keyCache s))
    {cacheTtlSec : {seconds : ℚ // 0 < seconds}} {s : σ} (hnew : keyCache s = .new cacheTtlSec)
    (first : List ι) (i : ι) {call : KeyCall} {key : Key}
    (hmine : fetches (Machine.after step s first) i =
      (keyCache (Machine.after step s first)).fetches fromDict call.kid call.events)
    (hkey : ((keyCache (Machine.after step s first)).resolve fromDict call.kid call.events).2 =
      .ok key) :
    FreshlyPublished fromDict (fun e => fetches e.before e.input) cacheTtlSec
      (Machine.history step s first)
      (Machine.exchange step (Machine.after step s first) i) call key := by
  have hcache := Machine.part_after keyCache fetches (JwksKeyCache.learn fromDict) hdriven s first
  rw [hnew] at hcache
  obtain ⟨earlier, fetch, later, hsplit, hpublishes, hfailed, hrecent⟩ :=
    JwksKeyCache.exists_fetch_of_resolve hcache hkey
  refine ⟨earlier, fetch, later, ?_, hpublishes, hfailed, hrecent.imp_left ?_⟩
  · rw [← hsplit, ← hmine, List.flatMap_append, List.flatMap_singleton]
    rfl
  · rintro ⟨before, hfetches⟩
    change fetch ∈ fetches (Machine.after step s first) i
    rw [hmine, hfetches]
    exact List.mem_append_right _ List.mem_cons_self

def keyStep (fromDict : JsonFields → Option Key) (cache : JwksKeyCache Key) (call : KeyCall) :
    JwksKeyCache Key × Except SessionTokenError Key :=
  cache.resolve fromDict call.kid call.events

abbrev KeyExchange (Key : Type) :=
  Exchange (JwksKeyCache Key) KeyCall (Except SessionTokenError Key)

/-- The fetches of an exchange. -/
def KeyExchange.fetches (fromDict : JsonFields → Option Key) (e : KeyExchange Key) :
    List JwksFetch :=
  e.before.fetches fromDict e.input.kid e.input.events

/-- Whether a call hands out only what is freshly published. -/
def HandsOutFresh (fromDict : JsonFields → Option Key) (lifetime : ℚ)
    (past : List (KeyExchange Key)) (cache : JwksKeyCache Key) (call : KeyCall) : Prop :=
  ∀ key, (keyStep fromDict cache call).2 = .ok key →
    FreshlyPublished fromDict (KeyExchange.fetches fromDict) lifetime past
      (Machine.exchange (keyStep fromDict) cache call) call key

/-- **Signing keys are fresh.** In every run of a new cache a key is handed out under an id only
if the last fetch of the run that succeeded publishes it under that id as an RS256 key, and this
fetch was made by the call itself or less than a lifetime before it. So an id under which
nothing is published from some time on is refused once a lifetime has passed. -/
theorem signing_keys_fresh (fromDict : JsonFields → Option Key)
    (cacheTtlSec : {seconds : ℚ // 0 < seconds}) (calls : List KeyCall) :
    let start : JwksKeyCache Key := .new cacheTtlSec
    Machine.EachStep (keyStep fromDict) (HandsOutFresh fromDict cacheTtlSec) start calls ∧
    ∀ kid withdrawn,
      (∀ e ∈ Machine.history (keyStep fromDict) start calls,
        ∀ fetch ∈ KeyExchange.fetches fromDict e,
        withdrawn ≤ fetch.loadedAt → ∀ key, ¬fetch.answer.Publishes fromDict kid key) →
      ∀ e ∈ Machine.history (keyStep fromDict) start calls, e.input.kid = kid →
        withdrawn + cacheTtlSec ≤ e.input.events.now →
        e.input.events.now ≤ e.input.events.laterNow → ∀ key, e.output ≠ .ok key := by
  intro start
  have hsource : Machine.EachStep (keyStep fromDict) (HandsOutFresh fromDict cacheTtlSec) start
      calls := by
    rintro first call second rfl key hkey
    exact freshlyPublished_of_resolve (fun cache => cache)
      (fun cache call => cache.fetches fromDict call.kid call.events)
      (fun cache call => (JwksKeyCache.resolve_spec fromDict cache call.kid call.events).1) rfl
      first call rfl hkey
  refine ⟨hsource, fun kid withdrawn hwithdrawn e he hkid hlate hclock key hkey => ?_⟩
  obtain ⟨first, call, second, rfl, rfl⟩ := Machine.exists_split_of_mem_history _ he
  obtain ⟨earlier, fetch, later, hsplit, hpublishes, -, hrecent⟩ :=
    hsource first call second rfl key hkey
  have hmem : fetch ∈ (Machine.history (keyStep fromDict) start first ++
      [Machine.exchange (keyStep fromDict) (Machine.after (keyStep fromDict) start first)
        call]).flatMap (KeyExchange.fetches fromDict) := by
    rw [hsplit]
    exact List.mem_append_right _ List.mem_cons_self
  obtain ⟨source, hsource, hfetch⟩ := List.mem_flatMap.mp hmem
  have hrun : source ∈ Machine.history (keyStep fromDict) start (first ++ call :: second) := by
    rw [List.append_cons, Machine.history_append, Machine.history_snoc]
    exact List.mem_append_left _ hsource
  have hpositive : 0 < (cacheTtlSec : ℚ) := cacheTtlSec.property
  have hyoung : withdrawn ≤ fetch.loadedAt := by
    change withdrawn + cacheTtlSec ≤ call.events.now at hlate
    change call.events.now ≤ call.events.laterNow at hclock
    rcases hrecent with hmine | hyoung
    · have hloaded : fetch.loadedAt = call.events.now ∨ fetch.loadedAt = call.events.laterNow :=
        JwksKeyCache.loadedAt_of_mem_fetches hmine
      rcases hloaded with hnow | hlater <;> linarith
    · linarith
  have hcalled : call.kid = kid := hkid
  rw [hcalled] at hpublishes
  exact hwithdrawn source hrun fetch hfetch hyoung key hpublishes

end ImageStream
