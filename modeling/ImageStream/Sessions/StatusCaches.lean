/-
# Status caches

The relay asks the session authority whether a session, or a camera's credential, is still
active, and keeps a positive answer for a short while. Times are exact; what the authority
answers, and when, is an input of each call, also where the call does not ask.

A cache never lets a call through on an answer that is older than its lifetime. Giving up
entries early keeps this bound, but it makes later calls ask again, and an answer that is
asked for later lasts longer.
-/

import ImageStream.Base.Granting
import ImageStream.Sessions.Credentials

namespace ImageStream

open Base

/-- A value of the authority's payload. -/
inductive StatusValue
  | null
  | bool (value : Bool)
  | text (value : String)
  | other
  deriving DecidableEq

/-- What the fetcher comes back with. -/
inductive StatusAnswer
  | raised
  /-- Something that is not a mapping. -/
  | malformed
  | payload (fields : Dict String StatusValue)

/-- A cache of positive answers. Its lifetime is positive, as the constructors demand. -/
structure StatusCache (κ : Type) where
  cacheTtlSec : ℚ
  cacheTtlSec_pos : 0 < cacheTtlSec
  activeUntil : Dict κ ℚ := .empty

namespace StatusCache

variable {κ : Type} [DecidableEq κ]

/-- Whether a positive answer still counts at a time. -/
def holds (cache : StatusCache κ) (key : κ) (now : ℚ) : Bool :=
  match cache.activeUntil.get? key with
  | some activeUntil => decide (now < activeUntil)
  | none => false

theorem holds_eq_true_iff {cache : StatusCache κ} {key : κ} {now : ℚ} :
    cache.holds key now = true ↔
      ∃ activeUntil, cache.activeUntil.get? key = some activeUntil ∧ now < activeUntil := by
  unfold holds
  cases cache.activeUntil.get? key <;> simp

/-- A cache as it is constructed. -/
def new (cacheTtlSec : {seconds : ℚ // 0 < seconds}) : StatusCache κ where
  cacheTtlSec := cacheTtlSec
  cacheTtlSec_pos := cacheTtlSec.property

/-- Remember a positive answer. -/
def remember (cache : StatusCache κ) (key : κ) (now : ℚ) : StatusCache κ :=
  { cache with activeUntil := cache.activeUntil.set key (now + cache.cacheTtlSec) }

end StatusCache

/-! ## Sessions -/

abbrev SessionStatusCache := StatusCache String

/-- One call, with the time and with what the authority would answer. -/
structure SessionStatusCall where
  now : ℚ
  processingJobId : String
  answer : StatusAnswer

/-- Whether an answer says that a job's session is active. -/
def StatusAnswer.confirmsSession (answer : StatusAnswer) (processingJobId : String) : Bool :=
  match answer with
  | .payload fields =>
      fields.get? "processingJobId" = some (.text processingJobId) &&
        fields.get? "known" = some (.bool true) && fields.get? "active" = some (.bool true)
  | _ => false

def SessionStatusCache.assertActive (cache : SessionStatusCache) (call : SessionStatusCall) :
    SessionStatusCache × Except SessionTokenError Unit :=
  if cache.holds call.processingJobId call.now then
    (cache, .ok ())
  else
    match call.answer with
    | .raised => (cache, .error "could not verify Main session status")
    | answer =>
        if answer.confirmsSession call.processingJobId then
          (cache.remember call.processingJobId call.now, .ok ())
        else
          ({ cache with activeUntil := cache.activeUntil.pop call.processingJobId },
            .error "Main session is inactive or unknown")

/-! ## Camera credentials -/

abbrev CameraCredentialStatusCache := StatusCache (String × String)

structure CameraStatusCall where
  now : ℚ
  credentialId : String
  processingJobId : String
  answer : StatusAnswer

def CameraStatusCall.key (call : CameraStatusCall) : String × String :=
  (call.credentialId, call.processingJobId)

/-- Whether an answer says that a credential is active for a job. -/
def StatusAnswer.confirmsCredential (answer : StatusAnswer) (key : String × String) : Bool :=
  match answer with
  | .payload fields =>
      fields.get? "credentialId" = some (.text key.1) &&
        fields.get? "processingJobId" = some (.text key.2) &&
        fields.get? "credentialKind" = some (.text "CAMERA_INGEST") &&
        fields.get? "known" = some (.bool true) && fields.get? "active" = some (.bool true)
  | _ => false

/-- How many positive answers are kept. -/
def retainedAnswers : ℕ := 1024

/-- Give up the oldest entry of a full cache. -/
def evictOldest (activeUntil : Dict (String × String) ℚ) : Dict (String × String) ℚ :=
  if retainedAnswers ≤ activeUntil.rows.length then
    match activeUntil.rows with
    | oldest :: _ => activeUntil.pop oldest.1
    | [] => activeUntil
  else
    activeUntil

namespace CameraCredentialStatusCache

/-- The call with the way that room is made as a parameter. -/
def assertActiveWith (evict : Dict (String × String) ℚ → Dict (String × String) ℚ)
    (cache : CameraCredentialStatusCache) (call : CameraStatusCall) :
    CameraCredentialStatusCache × Except SessionTokenError Unit :=
  if cache.holds call.key call.now then
    (cache, .ok ())
  else
    let forgotten := cache.activeUntil.pop call.key
    match call.answer with
    | .raised =>
        ({ cache with activeUntil := forgotten },
          .error "could not verify Main camera credential status")
    | answer =>
        if answer.confirmsCredential call.key then
          (StatusCache.remember { cache with activeUntil := evict forgotten } call.key call.now,
            .ok ())
        else
          ({ cache with activeUntil := forgotten },
            .error "Main camera credential is inactive or unknown")

def assertActive : CameraCredentialStatusCache → CameraStatusCall →
    CameraCredentialStatusCache × Except SessionTokenError Unit :=
  assertActiveWith evictOldest

/-- The cache that never gives up an entry to make room. -/
def assertActiveKeepingAll : CameraCredentialStatusCache → CameraStatusCall →
    CameraCredentialStatusCache × Except SessionTokenError Unit :=
  assertActiveWith id

end CameraCredentialStatusCache

/-! ## What one call does -/

/-- Whether a cache has no entry that another one lacks. -/
structure StatusCache.Within {κ : Type} [DecidableEq κ] (cache whole : StatusCache κ) : Prop where
  cacheTtlSec : cache.cacheTtlSec = whole.cacheTtlSec
  activeUntil : ∀ key activeUntil, cache.activeUntil.get? key = some activeUntil →
    whole.activeUntil.get? key = some activeUntil

/-- The three ways that a call goes. Both caches have these ways only. -/
inductive StatusOutcome {κ : Type} [DecidableEq κ] (cache : StatusCache κ) (key : κ) (now : ℚ)
    (confirmed : Bool) : StatusCache κ × Except SessionTokenError Unit → Prop
  /-- A positive answer still counts, and the authority is not asked. -/
  | held (hholds : cache.holds key now = true) :
      StatusOutcome cache key now confirmed (cache, .ok ())
  | confirmed (hholds : cache.holds key now = false) (hconfirmed : confirmed = true)
      (kept : StatusCache κ) (hkept : kept.Within cache) :
      StatusOutcome cache key now confirmed (kept.remember key now, .ok ())
  | refused (hholds : cache.holds key now = false) (hconfirmed : confirmed = false)
      (kept : StatusCache κ) (hkept : kept.Within cache) (reason : SessionTokenError) :
      StatusOutcome cache key now confirmed (kept, .error reason)

theorem within_pop {κ : Type} [DecidableEq κ] (cache : StatusCache κ) (key : κ) :
    StatusCache.Within { cache with activeUntil := cache.activeUntil.pop key } cache where
  cacheTtlSec := rfl
  activeUntil key' activeUntil h := by
    have hget := Dict.get?_pop cache.activeUntil key key'
    rw [hget] at h
    split at h
    · cases h
    · exact h

theorem SessionStatusCache.assertActive_outcome (cache : SessionStatusCache)
    (call : SessionStatusCall) :
    StatusOutcome cache call.processingJobId call.now
      (call.answer.confirmsSession call.processingJobId) (cache.assertActive call) := by
  unfold assertActive
  split
  case isTrue hholds => exact .held hholds
  case isFalse hholds =>
    rw [Bool.not_eq_true] at hholds
    split
    case h_1 hraised =>
      rw [hraised]
      exact .refused hholds rfl cache ⟨rfl, fun _ _ h => h⟩ _
    case h_2 =>
      split
      case isTrue hconfirmed => exact .confirmed hholds hconfirmed cache ⟨rfl, fun _ _ h => h⟩
      case isFalse hconfirmed =>
        exact .refused hholds (by simpa using hconfirmed) _ (within_pop cache _) _

theorem get?_evictOldest {activeUntil : Dict (String × String) ℚ} {key : String × String}
    {expiry : ℚ} (h : (evictOldest activeUntil).get? key = some expiry) :
    activeUntil.get? key = some expiry := by
  unfold evictOldest at h
  split at h
  case isFalse => exact h
  case isTrue =>
    split at h
    case h_2 => exact h
    case h_1 oldest rest hrows =>
      rw [Dict.get?_pop] at h
      split at h
      · cases h
      · exact h

theorem CameraCredentialStatusCache.assertActive_outcome (cache : CameraCredentialStatusCache)
    (call : CameraStatusCall) :
    StatusOutcome cache call.key call.now (call.answer.confirmsCredential call.key)
      (cache.assertActive call) := by
  unfold assertActive assertActiveWith
  split
  case isTrue hholds => exact .held hholds
  case isFalse hholds =>
    rw [Bool.not_eq_true] at hholds
    have hpop := within_pop cache call.key
    split
    case h_1 hraised =>
      rw [hraised]
      exact .refused hholds rfl _ hpop _
    case h_2 =>
      split
      case isTrue hconfirmed =>
        exact .confirmed hholds hconfirmed _
          ⟨rfl, fun key expiry h => hpop.activeUntil key expiry (get?_evictOldest h)⟩
      case isFalse hconfirmed => exact .refused hholds (by simpa using hconfirmed) _ hpop _

section Grants

variable {κ ι : Type} [DecidableEq κ]
  {step : StatusCache κ → ι → StatusCache κ × Except SessionTokenError Unit} {key : ι → κ}
  {now : ι → ℚ} {confirmed : ι → Bool}

/-- A machine whose calls go in these ways gives grants that last for its lifetime. -/
def statusGrants (houtcome : ∀ cache call,
      StatusOutcome cache (key call) (now call) (confirmed call) (step cache call)) :
    Granting κ ℚ step where
  key := key
  time := now
  lifetime := StatusCache.cacheTtlSec
  expiry? cache := cache.activeUntil.get?
  Vouched cache call := cache.holds (key call) (now call) = false ∧ confirmed call = true
  Granted answer := answer = .ok ()
  lifetime_step cache call := by
    have hout := houtcome cache call
    generalize step cache call = result at hout ⊢
    cases hout with
    | held => rfl
    | confirmed _ _ kept hkept => exact hkept.cacheTtlSec
    | refused _ _ kept hkept => exact hkept.cacheTtlSec
  expiry_step cache call k expiry h := by
    have hout := houtcome cache call
    generalize step cache call = result at hout h
    cases hout with
    | held => exact Or.inl h
    | refused _ _ _ hkept => exact Or.inl (hkept.activeUntil k expiry h)
    | confirmed hholds hconfirmed kept hkept =>
        rw [StatusCache.remember, Dict.get?_set] at h
        by_cases hk : k = key call
        · rw [if_pos hk, Option.some.injEq] at h
          refine Or.inr ⟨⟨hholds, hconfirmed⟩, hk.symm, ?_⟩
          rw [← h, hkept.cacheTtlSec]
        · rw [if_neg hk] at h
          exact Or.inl (hkept.activeUntil k expiry h)
  granted_step cache call h := by
    have hout := houtcome cache call
    generalize step cache call = result at hout h
    cases hout with
    | held hholds => exact Or.inr (StatusCache.holds_eq_true_iff.mp hholds)
    | confirmed hholds hconfirmed => exact Or.inl ⟨hholds, hconfirmed⟩
    | refused => cases h

/-- A call that is refused is refused also when entries have been given up. -/
theorem StatusOutcome.refused_of_within {cache whole : StatusCache κ} (hwithin : cache.Within whole)
    {k : κ} {t : ℚ} {positive : Bool}
    {result result' : StatusCache κ × Except SessionTokenError Unit}
    (h : StatusOutcome whole k t positive result)
    (h' : StatusOutcome cache k t positive result') (hrefused : result.2 ≠ .ok ()) :
    result'.2 ≠ .ok () := by
  cases h with
  | held => exact absurd rfl hrefused
  | confirmed => exact absurd rfl hrefused
  | refused hholds hconfirmed =>
      cases h' with
      | held hholds' =>
          obtain ⟨expiry, hexpiry, hlate⟩ := StatusCache.holds_eq_true_iff.mp hholds'
          have hwhole := StatusCache.holds_eq_true_iff.mpr
            ⟨expiry, hwithin.activeUntil k expiry hexpiry, hlate⟩
          rw [hholds] at hwhole
          cases hwhole
      | confirmed _ hconfirmed' =>
          rw [hconfirmed] at hconfirmed'
          cases hconfirmed'
      | refused => exact fun hok => by cases hok

end Grants

/-! ## The size of the cache -/

theorem length_pop_lt_of_mem {κ υ : Type} [DecidableEq κ] {d : Dict κ υ} {entry : κ × υ}
    (h : entry ∈ d.rows) : (d.pop entry.1).rows.length < d.rows.length := by
  apply List.length_filter_lt_length_iff_exists.mpr
  exact ⟨entry, h, by simp⟩

theorem length_set_le {κ υ : Type} [DecidableEq κ] (d : Dict κ υ) (k : κ) (value : υ) :
    (d.set k value).rows.length ≤ d.rows.length + 1 := by
  have hperm := (d.rows_set_perm k value).length_eq
  have hpop : (d.pop k).rows.length ≤ d.rows.length := List.length_filter_le _ _
  rw [hperm, List.length_cons]
  omega

theorem length_evictOldest {activeUntil : Dict (String × String) ℚ}
    (h : activeUntil.rows.length ≤ retainedAnswers) :
    (evictOldest activeUntil).rows.length < retainedAnswers := by
  unfold evictOldest
  by_cases hfull : retainedAnswers ≤ activeUntil.rows.length
  · rw [if_pos hfull]
    split
    case h_1 oldest rest hrows =>
      have holdest : oldest ∈ activeUntil.rows := by
        rw [hrows]
        exact List.mem_cons_self
      exact (length_pop_lt_of_mem holdest).trans_le h
    case h_2 hrows =>
      rw [hrows] at hfull
      exact absurd hfull (by decide)
  · rw [if_neg hfull]
    exact not_le.mp hfull

theorem length_assertActive {cache : CameraCredentialStatusCache} (call : CameraStatusCall)
    (h : cache.activeUntil.rows.length ≤ retainedAnswers) :
    (cache.assertActive call).1.activeUntil.rows.length ≤ retainedAnswers := by
  have hpop : (cache.activeUntil.pop call.key).rows.length ≤ retainedAnswers :=
    (List.length_filter_le _ _).trans h
  unfold CameraCredentialStatusCache.assertActive CameraCredentialStatusCache.assertActiveWith
  split
  case isTrue => exact h
  case isFalse =>
    split
    case h_1 => exact hpop
    case h_2 =>
      split
      case isTrue => exact (length_set_le _ _ _).trans (length_evictOldest hpop)
      case isFalse => exact hpop

/-! ## Runs -/

section Runs

variable {κ ι : Type} [DecidableEq κ]
  (step : StatusCache κ → ι → StatusCache κ × Except SessionTokenError Unit) (key : ι → κ)
  (now : ι → ℚ) (confirmed : ι → Bool)

/-- Whether an exchange asked the authority, and the authority confirmed its key. -/
def AskedAndConfirmed (e : Exchange (StatusCache κ) ι (Except SessionTokenError Unit)) : Prop :=
  e.before.holds (key e.input) (now e.input) = false ∧ confirmed e.input = true

/-- Whether withdrawals take effect within one lifetime in a run. Each call that succeeds is
covered by an answer for its own key, asked for less than a lifetime ago; and once the
authority has stopped to confirm a key, its calls fail when a lifetime has passed. -/
structure RevokedWithinLifetime (cache : StatusCache κ) (calls : List ι) : Prop where
  covered : Machine.EachStep step (fun past t call => (step t call).2 = .ok () →
    ∃ e ∈ past ++ [Machine.exchange step t call], AskedAndConfirmed key now confirmed e ∧
      key e.input = key call ∧ now call - now e.input < cache.cacheTtlSec) cache calls
  revoked : ∀ k withdrawn,
    (∀ e ∈ Machine.history step cache calls, key e.input = k → withdrawn ≤ now e.input →
      ¬AskedAndConfirmed key now confirmed e) →
    ∀ e ∈ Machine.history step cache calls, key e.input = k →
      withdrawn + cache.cacheTtlSec ≤ now e.input → e.output ≠ .ok ()

variable {step key now confirmed}

theorem revokedWithinLifetime_new (houtcome : ∀ cache call,
      StatusOutcome cache (key call) (now call) (confirmed call) (step cache call))
    (cacheTtlSec : {seconds : ℚ // 0 < seconds}) (calls : List ι) :
    RevokedWithinLifetime step key now confirmed (.new cacheTtlSec) calls where
  covered := (statusGrants houtcome).vouched_recently (s := .new cacheTtlSec) (fun _ => rfl)
    cacheTtlSec.property calls
  revoked _ _ hwithdrawn := (statusGrants houtcome).refused_after_lifetime (s := .new cacheTtlSec)
    (fun _ => rfl) cacheTtlSec.property hwithdrawn

end Runs

/-- **Revocation takes effect within one lifetime**, in every run of either cache. The cache of
camera credentials never holds more than its bound, and a call that is refused with entries
that it has given up is refused without them. -/
theorem revocation_within_lifetime (cacheTtlSec : {seconds : ℚ // 0 < seconds}) :
    (∀ calls : List SessionStatusCall, RevokedWithinLifetime SessionStatusCache.assertActive
      (·.processingJobId) (·.now)
      (fun call => call.answer.confirmsSession call.processingJobId) (.new cacheTtlSec) calls) ∧
    (∀ calls : List CameraStatusCall, RevokedWithinLifetime CameraCredentialStatusCache.assertActive
      (·.key) (·.now) (fun call => call.answer.confirmsCredential call.key) (.new cacheTtlSec)
      calls) ∧
    (∀ calls : List CameraStatusCall, (Machine.after CameraCredentialStatusCache.assertActive
      (.new cacheTtlSec) calls).activeUntil.rows.length ≤ 1024) ∧
    (∀ (cache whole : CameraCredentialStatusCache) (call : CameraStatusCall), cache.Within whole →
      (whole.assertActive call).2 ≠ .ok () → (cache.assertActive call).2 ≠ .ok ()) := by
  refine ⟨revokedWithinLifetime_new SessionStatusCache.assertActive_outcome cacheTtlSec,
    revokedWithinLifetime_new CameraCredentialStatusCache.assertActive_outcome cacheTtlSec,
    fun calls => ?_, fun cache whole call hwithin => ?_⟩
  · exact Machine.invariant_after _
      (I := fun cache : CameraCredentialStatusCache =>
        cache.activeUntil.rows.length ≤ retainedAnswers)
      (Nat.zero_le _) (fun _ call h => length_assertActive call h) calls
  · exact StatusOutcome.refused_of_within hwithin (whole.assertActive_outcome call)
      (cache.assertActive_outcome call)

/-! ## A credential that is pushed out and asked for again -/

/-- The answer that confirms a credential of one job. -/
def confirmingAnswer (credentialId : String) : StatusAnswer :=
  .payload
    { rows :=
        [("credentialId", .text credentialId), ("processingJobId", .text "job-1"),
          ("credentialKind", .text "CAMERA_INGEST"), ("known", .bool true),
          ("active", .bool true)]
      keys_nodup := by simp }

theorem confirmsCredential_confirmingAnswer (credentialId : String) :
    (confirmingAnswer credentialId).confirmsCredential (credentialId, "job-1") = true := by
  simp [confirmingAnswer, StatusAnswer.confirmsCredential, Dict.get?, Table.find]

/-- The calls' credentials, told apart by their lengths. -/
def distinctCall (n : ℕ) : CameraStatusCall where
  now := 0
  credentialId := String.ofList (List.replicate n 'c')
  processingJobId := "job-1"
  answer := confirmingAnswer (String.ofList (List.replicate n 'c'))

theorem key_distinctCall_inj {m n : ℕ} (h : (distinctCall m).key = (distinctCall n).key) :
    m = n := by
  have hid : String.ofList (List.replicate m 'c') = String.ofList (List.replicate n 'c') :=
    congrArg Prod.fst h
  simpa using congrArg (fun s => s.toList.length) hid

/-- A confirmed call whose key has no entry adds one. -/
theorem assertActiveWith_of_absent
    (evict : Dict (String × String) ℚ → Dict (String × String) ℚ)
    {cache : CameraCredentialStatusCache} {call : CameraStatusCall}
    (habsent : cache.activeUntil.get? call.key = none)
    (hconfirmed : call.answer.confirmsCredential call.key = true) :
    (CameraCredentialStatusCache.assertActiveWith evict cache call).1.activeUntil =
      (evict cache.activeUntil).set call.key (call.now + cache.cacheTtlSec) := by
  have hholds : cache.holds call.key call.now = false := by
    unfold StatusCache.holds
    rw [habsent]
  have hpop : cache.activeUntil.pop call.key = cache.activeUntil :=
    Table.ext (cache.activeUntil.rows_pop_of_absent habsent)
  unfold CameraCredentialStatusCache.assertActiveWith
  rw [if_neg (by simp [hholds])]
  cases hanswer : call.answer with
  | raised => simp [hanswer, StatusAnswer.confirmsCredential] at hconfirmed
  | malformed => simp [hanswer, StatusAnswer.confirmsCredential] at hconfirmed
  | payload fields =>
      rw [hanswer] at hconfirmed
      simp [hconfirmed, hpop, StatusCache.remember]

theorem cacheTtlSec_after (evict : Dict (String × String) ℚ → Dict (String × String) ℚ)
    (calls : List CameraStatusCall) (cache : CameraCredentialStatusCache) :
    (Machine.after (CameraCredentialStatusCache.assertActiveWith evict) cache
      calls).cacheTtlSec = cache.cacheTtlSec := by
  apply Machine.invariant_after _ (I := fun t : CameraCredentialStatusCache =>
    t.cacheTtlSec = cache.cacheTtlSec) rfl
  intro t call h
  unfold CameraCredentialStatusCache.assertActiveWith
  split
  · exact h
  · split
    · exact h
    · split <;> exact h

/-- A cache with a lifetime of one second. -/
def secondCache : CameraCredentialStatusCache := .new ⟨1, one_pos⟩

/-- As many credentials as the cache keeps, and one more. -/
def crowdingCalls : List CameraStatusCall := (List.range 1025).map distinctCall

/-- The cache after the first calls, up to its bound, holds their credentials in order. -/
structure Holds (n : ℕ) (cache : CameraCredentialStatusCache) : Prop where
  cacheTtlSec : cache.cacheTtlSec = 1
  rows : cache.activeUntil.rows = (List.range n).map fun i => ((distinctCall i).key, (1 : ℚ))

theorem Holds.absent {n : ℕ} {cache : CameraCredentialStatusCache} (h : Holds n cache) :
    cache.activeUntil.get? (distinctCall n).key = none := by
  rw [Option.eq_none_iff_forall_ne_some]
  intro expiry hget
  have hmem := (Dict.get?_eq_some_iff cache.activeUntil).mp hget
  rw [h.rows, List.mem_map] at hmem
  obtain ⟨i, hi, heq⟩ := hmem
  have hsame := key_distinctCall_inj (congrArg Prod.fst heq)
  rw [List.mem_range] at hi
  omega

/-- What the next confirmed call leaves. -/
theorem Holds.next {n : ℕ} {cache : CameraCredentialStatusCache} (h : Holds n cache) :
    (cache.assertActive (distinctCall n)).1.activeUntil =
      (evictOldest cache.activeUntil).set (distinctCall n).key 1 := by
  have hset := assertActiveWith_of_absent evictOldest h.absent
    (confirmsCredential_confirmingAnswer _)
  have hexpiry : (distinctCall n).now + (1 : ℚ) = 1 := zero_add 1
  rwa [h.cacheTtlSec, hexpiry] at hset

theorem holds_after {n : ℕ} (hn : n ≤ retainedAnswers) :
    Holds n (Machine.after CameraCredentialStatusCache.assertActive secondCache
      ((List.range n).map distinctCall)) := by
  induction n with
  | zero => exact ⟨rfl, rfl⟩
  | succ n ih =>
      have hbefore := ih (Nat.le_of_succ_le hn)
      refine ⟨cacheTtlSec_after evictOldest _ secondCache, ?_⟩
      rw [List.range_succ, List.map_append, List.map_append, List.map_singleton,
        List.map_singleton, Machine.after_snoc]
      generalize Machine.after CameraCredentialStatusCache.assertActive secondCache
        ((List.range n).map distinctCall) = cache at hbefore
      have hroom : evictOldest cache.activeUntil = cache.activeUntil := by
        unfold evictOldest
        rw [if_neg]
        rw [hbefore.rows, List.length_map, List.length_range]
        omega
      have habsent : cache.activeUntil.find (distinctCall n).key = none := by
        simpa [Dict.get?] using hbefore.absent
      rw [hbefore.next, hroom, Dict.set, Table.rows_put_of_absent _ habsent, hbefore.rows]

theorem range_1025 : List.range 1025 = List.range 1024 ++ [1024] := List.range_succ

/-- The first credential is given up to make room. -/
theorem first_given_up :
    (Machine.after CameraCredentialStatusCache.assertActive secondCache
      crowdingCalls).activeUntil.get? (distinctCall 0).key = none := by
  have hfull := holds_after (n := 1024) le_rfl
  rw [crowdingCalls, range_1025, List.map_append, List.map_singleton, Machine.after_snoc,
    hfull.next]
  generalize Machine.after CameraCredentialStatusCache.assertActive secondCache
    ((List.range 1024).map distinctCall) = cache at hfull
  have hrows : cache.activeUntil.rows = ((distinctCall 0).key, (1 : ℚ)) ::
      (List.range 1023).map fun i => ((distinctCall (i + 1)).key, (1 : ℚ)) := by
    rw [hfull.rows, List.range_succ_eq_map, List.map_cons, List.map_map]
    rfl
  have hevicted : evictOldest cache.activeUntil =
      cache.activeUntil.pop (distinctCall 0).key := by
    have hlength : retainedAnswers ≤ cache.activeUntil.rows.length := by
      rw [hfull.rows, List.length_map, List.length_range]
      exact le_rfl
    unfold evictOldest
    rw [if_pos hlength, hrows]
  have hne : (distinctCall 0).key ≠ (distinctCall 1024).key := fun heq =>
    absurd (key_distinctCall_inj heq) (by decide)
  rw [hevicted, Dict.get?_set_of_ne _ _ hne, Dict.get?_pop, if_pos rfl]

/-- Without evictions a call leaves the entries of other keys alone. -/
theorem get?_assertActiveKeepingAll_of_ne (cache : CameraCredentialStatusCache)
    {call : CameraStatusCall} {key : String × String} (h : key ≠ call.key) :
    (cache.assertActiveKeepingAll call).1.activeUntil.get? key = cache.activeUntil.get? key := by
  have hpop : (cache.activeUntil.pop call.key).get? key = cache.activeUntil.get? key := by
    rw [Dict.get?_pop, if_neg h]
  unfold CameraCredentialStatusCache.assertActiveKeepingAll
    CameraCredentialStatusCache.assertActiveWith
  split
  case isTrue => rfl
  case isFalse =>
    split
    case h_1 => exact hpop
    case h_2 =>
      split
      case isTrue => exact (Dict.get?_set_of_ne _ _ h).trans hpop
      case isFalse => exact hpop

/-- A cache that keeps everything holds the first credential. -/
theorem first_kept (n : ℕ) :
    (Machine.after CameraCredentialStatusCache.assertActiveKeepingAll secondCache
      ((List.range (n + 1)).map distinctCall)).activeUntil.get? (distinctCall 0).key = some 1 := by
  induction n with
  | zero => decide +kernel
  | succ n ih =>
      have hne : (distinctCall 0).key ≠ (distinctCall (n + 1)).key := fun heq =>
        absurd (key_distinctCall_inj heq) (by omega)
      rw [List.range_succ, List.map_append, List.map_singleton, Machine.after_snoc,
        get?_assertActiveKeepingAll_of_ne _ hne, ih]

/-- The first credential again, while it is still active. -/
def refreshedCall : CameraStatusCall := { distinctCall 0 with now := 1 / 2 }

/-- The first credential once more, when the authority no longer answers. -/
def unansweredCall : CameraStatusCall := { distinctCall 0 with now := 1, answer := .raised }

theorem calls_in_order :
    ((crowdingCalls ++ [refreshedCall, unansweredCall]).map (·.now)).Pairwise (· ≤ ·) := by
  have hzero : ∀ seconds ∈ crowdingCalls.map (·.now), seconds = 0 := by
    intro seconds hseconds
    rw [crowdingCalls, List.map_map, List.mem_map] at hseconds
    obtain ⟨n, -, rfl⟩ := hseconds
    rfl
  rw [List.map_append, List.pairwise_append]
  refine ⟨List.pairwise_of_forall_mem_list fun early hearly late hlate => ?_, by decide +kernel, ?_⟩
  · rw [hzero early hearly, hzero late hlate]
  · intro early hearly late hlate
    rw [hzero early hearly]
    revert late
    decide +kernel

/-- A cache that still holds the first entry refuses the last call. -/
theorem unanswered_refused {cache : CameraCredentialStatusCache}
    (hkept : cache.activeUntil.get? (distinctCall 0).key = some 1) :
    ((cache.assertActiveKeepingAll refreshedCall).1.assertActiveKeepingAll unansweredCall).2 ≠
      .ok () := by
  have hheld : cache.holds refreshedCall.key refreshedCall.now = true :=
    StatusCache.holds_eq_true_iff.mpr ⟨1, hkept, by decide +kernel⟩
  have hexpired : cache.holds unansweredCall.key unansweredCall.now = false := by
    have hget : cache.activeUntil.get? unansweredCall.key = some 1 := hkept
    unfold StatusCache.holds
    rw [hget]
    decide +kernel
  have hrefreshed : (cache.assertActiveKeepingAll refreshedCall).1 = cache := by
    unfold CameraCredentialStatusCache.assertActiveKeepingAll
      CameraCredentialStatusCache.assertActiveWith
    rw [if_pos hheld]
  rw [hrefreshed]
  unfold CameraCredentialStatusCache.assertActiveKeepingAll
    CameraCredentialStatusCache.assertActiveWith
  rw [if_neg (by simp [hexpired])]
  exact fun h => by cases h

/-- A cache that has given up the first entry lets the last call through. -/
theorem unanswered_let_through {cache : CameraCredentialStatusCache}
    (hgone : cache.activeUntil.get? (distinctCall 0).key = none)
    (hlifetime : cache.cacheTtlSec = 1) :
    ((cache.assertActive refreshedCall).1.assertActive unansweredCall).2 = .ok () := by
  have hrefreshed := @assertActiveWith_of_absent evictOldest cache refreshedCall hgone
    (confirmsCredential_confirmingAnswer _)
  have hheld : (cache.assertActive refreshedCall).1.holds unansweredCall.key
      unansweredCall.now = true := by
    refine StatusCache.holds_eq_true_iff.mpr ⟨1 / 2 + 1, ?_, by decide +kernel⟩
    have hget := Dict.get?_set_self (evictOldest cache.activeUntil) refreshedCall.key
      (refreshedCall.now + cache.cacheTtlSec)
    rw [← hrefreshed, hlifetime] at hget
    exact hget
  unfold CameraCredentialStatusCache.assertActive CameraCredentialStatusCache.assertActiveWith at *
  rw [if_pos hheld]

/-- Because its entry was given up early, the first credential was asked for again at half a
second, and is let through at one second. The cache that keeps its entries refuses it. -/
theorem eviction_outlasts_entry :
    ((crowdingCalls ++ [refreshedCall, unansweredCall]).map (·.now)).Pairwise (· ≤ ·) ∧
      ((Machine.after CameraCredentialStatusCache.assertActiveKeepingAll secondCache
        (crowdingCalls ++ [refreshedCall])).assertActiveKeepingAll unansweredCall).2 ≠ .ok () ∧
      ((Machine.after CameraCredentialStatusCache.assertActive secondCache
        (crowdingCalls ++ [refreshedCall])).assertActive unansweredCall).2 = .ok () := by
  rw [Machine.after_snoc, Machine.after_snoc]
  exact ⟨calls_in_order, unanswered_refused (first_kept 1024), unanswered_let_through
    first_given_up (cacheTtlSec_after evictOldest crowdingCalls secondCache)⟩

end ImageStream
