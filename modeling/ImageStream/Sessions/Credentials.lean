/-
# Active credentials

The relay keeps the credentials of the running jobs and of their cameras in memory. The two
stores differ in what a credential is kept under, in when it may be replaced and in their
texts; `CredentialRules` has these differences, and each store is the one store at its rules.

A reference store deletes everything expired before each call. The stores answer like it as
long as no registration meets an expired credential that it may not replace: registering
does not look at the expiry of what it finds.
-/

import ImageStream.Base.Expiry
import ImageStream.Base.Machine
import Mathlib.Data.Finset.Basic
import Mathlib.Data.Rat.Floor

namespace ImageStream

open Base

/-- Raised as a `SessionTokenError` with this text. -/
abbrev SessionTokenError := String

structure AuthorizedSessionScope where
  tenantId : String
  siteId : String
  captureSessionId : String
  processingJobId : String
  cameraIds : Finset String
  profileDigest : String
  authorizedSubject : String
  tokenJti : String
  expiresAt : ℤ
  deriving DecidableEq

structure AuthorizedCameraIngestScope where
  tenantId : String
  siteId : String
  captureSessionId : String
  processingJobId : String
  profileDigest : String
  cameraClaimId : String
  cameraId : String
  deviceId : String
  authorizedSubject : String
  tokenJti : String
  issuedAt : ℤ
  expiresAt : ℤ
  deriving DecidableEq

structure ActiveSessionCredential (Scope : Type) where
  token : String
  scope : Scope
  deriving DecidableEq

/-- `int(seconds)`. -/
def truncateSeconds (seconds : ℚ) : ℤ :=
  if 0 ≤ seconds then ⌊seconds⌋ else ⌈seconds⌉

theorem truncateSeconds_mono {early late : ℚ} (h : early ≤ late) :
    truncateSeconds early ≤ truncateSeconds late := by
  unfold truncateSeconds
  split
  case isTrue hearly =>
    rw [if_pos (hearly.trans h)]
    exact Int.floor_mono h
  case isFalse hearly =>
    split
    case isTrue hlate =>
      have hnegative : ⌈early⌉ ≤ 0 := Int.ceil_le.mpr (by simpa using (not_le.mp hearly).le)
      exact hnegative.trans (Int.floor_nonneg.mpr hlate)
    case isFalse => exact Int.ceil_mono h

/-! ## The stores -/

/-- What the two stores differ in. -/
structure CredentialRules (κ Scope Query : Type) where
  key : Scope → κ
  expiresAt : Scope → ℤ
  /-- Why the scope of an existing credential keeps another one from replacing it. -/
  replacementConflict : Scope → Scope → Option SessionTokenError
  queryKey : Query → Except SessionTokenError κ
  /-- Why a credential is not the one that is asked for. -/
  queryConflict : Query → Scope → Option SessionTokenError
  tokenMissing : SessionTokenError
  tokenExpired : SessionTokenError
  unavailable : SessionTokenError
  expired : SessionTokenError

namespace CredentialRules

variable {κ Scope Query : Type} [DecidableEq κ] (rules : CredentialRules κ Scope Query)

def isExpired (now : ℚ) (scope : Scope) : Bool :=
  decide (rules.expiresAt scope ≤ truncateSeconds now)

def register (credentials : Dict κ (ActiveSessionCredential Scope)) (now : ℚ) (token : String)
    (scope : Scope) :
    Dict κ (ActiveSessionCredential Scope) ×
      Except SessionTokenError (ActiveSessionCredential Scope) :=
  if token = "" then (credentials, .error rules.tokenMissing)
  else if rules.isExpired now scope then (credentials, .error rules.tokenExpired)
  else
    match (credentials.get? (rules.key scope)).bind fun existing =>
        rules.replacementConflict existing.scope scope with
    | some reason => (credentials, .error reason)
    | none => (credentials.set (rules.key scope) ⟨token, scope⟩, .ok ⟨token, scope⟩)

def resolve (credentials : Dict κ (ActiveSessionCredential Scope)) (now : ℚ) (query : Query) :
    Dict κ (ActiveSessionCredential Scope) ×
      Except SessionTokenError (ActiveSessionCredential Scope) :=
  match rules.queryKey query with
  | .error reason => (credentials, .error reason)
  | .ok key =>
      match credentials.get? key with
      | none => (credentials, .error rules.unavailable)
      | some credential =>
          if rules.isExpired now credential.scope then
            (credentials.pop key, .error rules.expired)
          else
            match rules.queryConflict query credential.scope with
            | some reason => (credentials, .error reason)
            | none => (credentials, .ok credential)

end CredentialRules

/-- Revoke the credential of a key, with whether there was one. -/
def revokeCredential {κ Scope : Type} [DecidableEq κ]
    (credentials : Dict κ (ActiveSessionCredential Scope)) (key : κ) :
    Dict κ (ActiveSessionCredential Scope) × Bool :=
  (credentials.pop key, (credentials.get? key).isSome)

/-- What `resolve_for_claim` reads of a claim. -/
structure AuthorizedClaim where
  tenantId : Option String
  siteId : Option String
  captureSessionId : Option String
  processingJobId : Option String
  profileDigest : Option String
  authorizedSubject : Option String
  sessionTokenJti : Option String
  authorizedCameraIds : List String

/-- Whether a scope is that of a claim. -/
def AuthorizedSessionScope.matchesClaim (scope : AuthorizedSessionScope)
    (claim : AuthorizedClaim) : Bool :=
  decide (claim.tenantId = some scope.tenantId) && decide (claim.siteId = some scope.siteId) &&
    decide (claim.captureSessionId = some scope.captureSessionId) &&
    decide (claim.processingJobId = some scope.processingJobId) &&
    decide (claim.profileDigest = some scope.profileDigest) &&
    decide (claim.authorizedSubject = some scope.authorizedSubject) &&
    decide (claim.sessionTokenJti = some scope.tokenJti) &&
    decide (claim.authorizedCameraIds.toFinset = scope.cameraIds)

/-- The rules of `ActiveSessionCredentialStore`. -/
def sessionRules : CredentialRules String AuthorizedSessionScope AuthorizedClaim where
  key := AuthorizedSessionScope.processingJobId
  expiresAt := AuthorizedSessionScope.expiresAt
  replacementConflict existing scope :=
    if existing ≠ scope then some "processing job credential scope cannot be replaced" else none
  queryKey claim :=
    match claim.processingJobId with
    | some processingJobId =>
        if processingJobId ≠ "" then .ok processingJobId
        else .error "authorized manifest is missing processing_job_id"
    | none => .error "authorized manifest is missing processing_job_id"
  queryConflict claim scope :=
    if scope.matchesClaim claim then none
    else some "active credential does not match authorized manifest"
  tokenMissing := "session token is required"
  tokenExpired := "session token is expired"
  unavailable := "active session credential is unavailable"
  expired := "active session credential is expired"

namespace ActiveSessionCredentialStore

abbrev register := sessionRules.register

abbrev resolveForClaim := sessionRules.resolve

end ActiveSessionCredentialStore

/-- What the camera store is asked for: the credential of a camera, or that it is this one. -/
inductive CameraQuery
  | resolve (processingJobId cameraId : String)
  | assertCurrent (scope : AuthorizedCameraIngestScope)

/-- The rules of `ActiveCameraIngestCredentialStore`. -/
def cameraRules : CredentialRules (String × String) AuthorizedCameraIngestScope CameraQuery where
  key scope := (scope.processingJobId, scope.cameraId)
  expiresAt := AuthorizedCameraIngestScope.expiresAt
  replacementConflict existing scope :=
    if existing.cameraClaimId ≠ scope.cameraClaimId then
      some "active camera claim cannot be replaced"
    else if scope.issuedAt < existing.issuedAt then
      some "older camera ingest credential cannot replace a newer one"
    else none
  queryKey query :=
    match query with
    | .resolve processingJobId cameraId => .ok (processingJobId, cameraId)
    | .assertCurrent scope => .ok (scope.processingJobId, scope.cameraId)
  queryConflict query existing :=
    match query with
    | .resolve _ _ => none
    | .assertCurrent scope =>
        if existing ≠ scope then some "camera ingest credential has been replaced" else none
  tokenMissing := "camera ingest credential is required"
  tokenExpired := "camera ingest credential is expired"
  unavailable := "active camera ingest credential is unavailable"
  expired := "active camera ingest credential is expired"

namespace ActiveCameraIngestCredentialStore

abbrev register := cameraRules.register

abbrev resolve (credentials : Dict (String × String)
    (ActiveSessionCredential AuthorizedCameraIngestScope)) (now : ℚ)
    (processingJobId cameraId : String) :=
  cameraRules.resolve credentials now (.resolve processingJobId cameraId)

abbrev assertCurrent (credentials : Dict (String × String)
    (ActiveSessionCredential AuthorizedCameraIngestScope)) (now : ℚ)
    (scope : AuthorizedCameraIngestScope) :=
  cameraRules.resolve credentials now (.assertCurrent scope)

end ActiveCameraIngestCredentialStore

/-! ## Runs -/

inductive CredentialOp (κ Scope Query : Type)
  | register (token : String) (scope : Scope)
  | resolve (query : Query)
  | revoke (key : κ)
  | clear

/-- One call, with the time of the clock. -/
structure CredentialCall (κ Scope Query : Type) where
  now : ℚ
  op : CredentialOp κ Scope Query

inductive CallAnswer (Scope : Type)
  | credential (answer : Except SessionTokenError (ActiveSessionCredential Scope))
  | revoked (found : Bool)
  | cleared

namespace CallAnswer

variable {Scope : Type}

/-- Whether a call raises nothing. -/
def succeeds : CallAnswer Scope → Bool
  | .credential (.ok _) => true
  | .credential (.error _) => false
  | .revoked _ => true
  | .cleared => true

/-- Whether a call raises nothing and, if it revokes, finds what it revokes. -/
def achieves : CallAnswer Scope → Bool
  | .revoked found => found
  | answer => answer.succeeds

end CallAnswer

namespace CredentialRules

variable {κ Scope Query : Type} [DecidableEq κ] (rules : CredentialRules κ Scope Query)

def step (credentials : Dict κ (ActiveSessionCredential Scope))
    (call : CredentialCall κ Scope Query) :
    Dict κ (ActiveSessionCredential Scope) × CallAnswer Scope :=
  match call.op with
  | .register token scope =>
      let (after, answer) := rules.register credentials call.now token scope
      (after, .credential answer)
  | .resolve query =>
      let (after, answer) := rules.resolve credentials call.now query
      (after, .credential answer)
  | .revoke key =>
      let (after, found) := revokeCredential credentials key
      (after, .revoked found)
  | .clear => (.empty, .cleared)

/-- When a credential counts. -/
def expiry : Expiry ℚ (ActiveSessionCredential Scope) where
  live now credential := !rules.isExpired now credential.scope
  live_of_le hle hlive := by
    simp only [isExpired, Bool.not_eq_true', decide_eq_false_iff_not, not_le] at hlive ⊢
    exact (truncateSeconds_mono hle).trans_lt hlive

/-- The reference store: what has expired is deleted before each call. -/
def referenceStep (credentials : Dict κ (ActiveSessionCredential Scope))
    (call : CredentialCall κ Scope Query) :
    Dict κ (ActiveSessionCredential Scope) × CallAnswer Scope :=
  rules.step (rules.expiry.purge call.now credentials) call

/-- Whether a call does not try to register against an expired credential that it may not
replace. -/
def MeetsNoStale (credentials : Dict κ (ActiveSessionCredential Scope))
    (call : CredentialCall κ Scope Query) : Prop :=
  ∀ token scope, call.op = .register token scope → token ≠ "" →
    rules.isExpired call.now scope = false →
    ∀ existing, credentials.get? (rules.key scope) = some existing →
      rules.isExpired call.now existing.scope = true →
      rules.replacementConflict existing.scope scope = none

/-- Whether a call does not revoke an expired credential. -/
def RevokesNoStale (credentials : Dict κ (ActiveSessionCredential Scope))
    (call : CredentialCall κ Scope Query) : Prop :=
  ∀ key, call.op = .revoke key → ∀ existing, credentials.get? key = some existing →
    rules.isExpired call.now existing.scope = false

/-! ### What one call does to both stores -/

/-- A credential under a key, in a store and in one that agrees with it on what is live. -/
inductive Lookup (now : ℚ) : Option (ActiveSessionCredential Scope) →
    Option (ActiveSessionCredential Scope) → Prop
  | absent : Lookup now none none
  | stale (existing : ActiveSessionCredential Scope)
      (hexpired : rules.isExpired now existing.scope = true) : Lookup now (some existing) none
  | live (existing : ActiveSessionCredential Scope)
      (hlive : rules.isExpired now existing.scope = false) :
      Lookup now (some existing) (some existing)

variable {rules} {credentials purged : Dict κ (ActiveSessionCredential Scope)} {now : ℚ}

theorem lookup (hpurged : ∀ key, purged.get? key = rules.expiry.liveAt now credentials key)
    (key : κ) : rules.Lookup now (credentials.get? key) (purged.get? key) := by
  rw [hpurged]
  unfold Expiry.liveAt
  cases credentials.get? key with
  | none => exact .absent
  | some existing =>
      cases hexpired : rules.isExpired now existing.scope with
      | true =>
          have hdead : ¬rules.expiry.live now existing = true := by simp [expiry, hexpired]
          rw [Option.filter_some, if_neg hdead]
          exact .stale existing hexpired
      | false =>
          have hlive : rules.expiry.live now existing = true := by simp [expiry, hexpired]
          rw [Option.filter_some, if_pos hlive]
          exact .live existing hexpired

/-- Taking out an expired credential keeps what is live. -/
theorem sameLive_pop_stale (hsame : rules.expiry.SameLive credentials purged now) {key : κ}
    {existing : ActiveSessionCredential Scope} (hget : credentials.get? key = some existing)
    (hexpired : rules.isExpired now existing.scope = true) :
    rules.expiry.SameLive (credentials.pop key) purged now := by
  have hdead : rules.expiry.liveAt now credentials key = none := by
    have hfalse : ¬rules.expiry.live now existing = true := by simp [expiry, hexpired]
    rw [Expiry.liveAt, hget, Option.filter_some, if_neg hfalse]
  exact (Expiry.SameLive.pop_expired hdead).trans hsame

/-- A registration goes the same way in both stores, unless it meets an expired credential
that it may not replace. -/
theorem register_agrees (hsame : rules.expiry.SameLive credentials purged now)
    (hpurged : ∀ key, purged.get? key = rules.expiry.liveAt now credentials key) (token : String)
    (scope : Scope) :
    let call : CredentialCall κ Scope Query := ⟨now, .register token scope⟩
    ((rules.step credentials call).2.succeeds = (rules.step purged call).2.succeeds ↔
        rules.MeetsNoStale credentials call) ∧
      (rules.MeetsNoStale credentials call →
        rules.expiry.SameLive (rules.step credentials call).1 (rules.step purged call).1 now) := by
  intro call
  have hmeets : rules.MeetsNoStale credentials call ↔ (token ≠ "" →
      rules.isExpired now scope = false → ∀ existing,
        credentials.get? (rules.key scope) = some existing →
          rules.isExpired now existing.scope = true →
            rules.replacementConflict existing.scope scope = none) := by
    constructor
    · exact fun h => h token scope rfl
    · rintro h token' scope' heq
      cases heq
      exact h
  rw [hmeets]
  simp only [call, step, register]
  by_cases htoken : token = ""
  · simp [htoken, CallAnswer.succeeds, hsame]
  · cases hscope : rules.isExpired now scope with
    | true => simp [htoken, CallAnswer.succeeds, hsame]
    | false =>
        simp only [htoken, if_false, Bool.false_eq_true, ne_eq, not_false_eq_true, true_imp_iff]
        have hlookup := lookup hpurged (rules.key scope)
        have hset := hsame.set (rules.key scope) ⟨token, scope⟩
        generalize credentials.get? (rules.key scope) = found at hlookup ⊢
        generalize purged.get? (rules.key scope) = found' at hlookup ⊢
        cases hlookup with
        | absent => simp [CallAnswer.succeeds, hset]
        | stale existing hexpired =>
            cases hconflict : rules.replacementConflict existing.scope scope with
            | none => simp [CallAnswer.succeeds, hconflict, hset]
            | some reason => simp [CallAnswer.succeeds, hconflict, hexpired]
        | live existing hlive =>
            cases hconflict : rules.replacementConflict existing.scope scope with
            | none => simp [CallAnswer.succeeds, hconflict, hset]
            | some reason => simp [CallAnswer.succeeds, hconflict, hlive, hsame]

/-- A lookup goes the same way in both stores. -/
theorem resolve_agrees (hsame : rules.expiry.SameLive credentials purged now)
    (hpurged : ∀ key, purged.get? key = rules.expiry.liveAt now credentials key) (query : Query) :
    let call : CredentialCall κ Scope Query := ⟨now, .resolve query⟩
    (rules.step credentials call).2.succeeds = (rules.step purged call).2.succeeds ∧
      rules.expiry.SameLive (rules.step credentials call).1 (rules.step purged call).1 now := by
  intro call
  simp only [call, step, resolve]
  cases rules.queryKey query with
  | error reason => exact ⟨rfl, hsame⟩
  | ok key =>
      have hlookup := lookup hpurged key
      have hpop := @sameLive_pop_stale _ _ _ _ _ _ _ _ hsame key
      simp only
      generalize credentials.get? key = found at hlookup hpop ⊢
      generalize purged.get? key = found' at hlookup ⊢
      cases hlookup with
      | absent => exact ⟨rfl, hsame⟩
      | stale existing hexpired =>
          simp only [hexpired, if_true]
          exact ⟨rfl, hpop rfl hexpired⟩
      | live existing hlive =>
          simp only [hlive, Bool.false_eq_true, if_false]
          cases rules.queryConflict query existing.scope with
          | none => exact ⟨rfl, hsame⟩
          | some reason => exact ⟨rfl, hsame⟩

/-- A revocation leaves the same live credentials, and finds one that is live. -/
theorem revoke_agrees (hsame : rules.expiry.SameLive credentials purged now)
    (hpurged : ∀ key, purged.get? key = rules.expiry.liveAt now credentials key) (key : κ) :
    let call : CredentialCall κ Scope Query := ⟨now, .revoke key⟩
    ((rules.step credentials call).2.achieves = (rules.step purged call).2.achieves ↔
        rules.RevokesNoStale credentials call) ∧
      rules.expiry.SameLive (rules.step credentials call).1 (rules.step purged call).1 now := by
  intro call
  refine ⟨?_, hsame.pop key⟩
  have hrevokes : rules.RevokesNoStale credentials call ↔
      ∀ existing, credentials.get? key = some existing →
        rules.isExpired now existing.scope = false := by
    constructor
    · exact fun h => h key rfl
    · rintro h key' heq
      cases heq
      exact h
  rw [hrevokes]
  simp only [call, step, revokeCredential, CallAnswer.achieves]
  have hlookup := lookup hpurged key
  generalize credentials.get? key = found at hlookup ⊢
  generalize purged.get? key = found' at hlookup ⊢
  cases hlookup with
  | absent => simp
  | stale existing hexpired => simp [hexpired]
  | live existing hlive => simp [hlive]

/-- One call at stores that agree on what is live. -/
theorem step_agrees (call : CredentialCall κ Scope Query)
    (hsame : rules.expiry.SameLive credentials purged call.now)
    (hpurged : ∀ key, purged.get? key = rules.expiry.liveAt call.now credentials key) :
    ((rules.step credentials call).2.succeeds = (rules.step purged call).2.succeeds ↔
        rules.MeetsNoStale credentials call) ∧
      ((rules.step credentials call).2.achieves = (rules.step purged call).2.achieves ↔
        rules.MeetsNoStale credentials call ∧ rules.RevokesNoStale credentials call) ∧
      (rules.MeetsNoStale credentials call →
        rules.expiry.SameLive (rules.step credentials call).1 (rules.step purged call).1
          call.now) := by
  obtain ⟨time, op⟩ := call
  cases op with
  | register token scope =>
      obtain ⟨hsucceeds, hafter⟩ := @register_agrees _ _ Query _ _ _ _ _ hsame hpurged token scope
      have hrevokes : rules.RevokesNoStale credentials
          (⟨time, .register token scope⟩ : CredentialCall κ Scope Query) :=
        fun key heq => by cases heq
      refine ⟨hsucceeds, ?_, hafter⟩
      rw [and_iff_left hrevokes]
      exact hsucceeds
  | resolve query =>
      obtain ⟨hsucceeds, hafter⟩ := resolve_agrees hsame hpurged query
      have hmeets : rules.MeetsNoStale credentials ⟨time, .resolve query⟩ :=
        fun token scope heq => by cases heq
      have hrevokes : rules.RevokesNoStale credentials ⟨time, .resolve query⟩ :=
        fun key heq => by cases heq
      exact ⟨iff_of_true hsucceeds hmeets, iff_of_true hsucceeds ⟨hmeets, hrevokes⟩,
        fun _ => hafter⟩
  | revoke key =>
      obtain ⟨hachieves, hafter⟩ := @revoke_agrees _ _ Query _ _ _ _ _ hsame hpurged key
      have hmeets : rules.MeetsNoStale credentials
          (⟨time, .revoke key⟩ : CredentialCall κ Scope Query) :=
        fun token scope heq => by cases heq
      exact ⟨iff_of_true rfl hmeets, by rw [hachieves, and_iff_right hmeets], fun _ => hafter⟩
  | clear =>
      have hmeets : rules.MeetsNoStale credentials
          (⟨time, .clear⟩ : CredentialCall κ Scope Query) :=
        fun token scope heq => by cases heq
      have hrevokes : rules.RevokesNoStale credentials
          (⟨time, .clear⟩ : CredentialCall κ Scope Query) :=
        fun key heq => by cases heq
      exact ⟨iff_of_true rfl hmeets, iff_of_true rfl ⟨hmeets, hrevokes⟩,
        fun _ => Expiry.SameLive.refl _ _⟩

/-- The stores after calls that agree on what is live at the last one or later. -/
def Agree (past : List (CredentialCall κ Scope Query))
    (credentials reference : Dict κ (ActiveSessionCredential Scope)) : Prop :=
  ∀ now, (∀ call ∈ past, call.now ≤ now) → rules.expiry.SameLive credentials reference now

variable {calls : List (CredentialCall κ Scope Query)}

theorem Agree.step (hordered : (calls.map (·.now)).Pairwise (· ≤ ·))
    {past : List (CredentialCall κ Scope Query)} {call : CredentialCall κ Scope Query}
    (hpart : (past ++ [call]).IsPrefix calls)
    {reference : Dict κ (ActiveSessionCredential Scope)}
    (h : rules.Agree past credentials reference) :
    ((rules.step credentials call).2.succeeds = (rules.referenceStep reference call).2.succeeds ↔
        rules.MeetsNoStale credentials call) ∧
      ((rules.step credentials call).2.achieves = (rules.referenceStep reference call).2.achieves ↔
        rules.MeetsNoStale credentials call ∧ rules.RevokesNoStale credentials call) ∧
      (rules.MeetsNoStale credentials call → rules.Agree (past ++ [call])
        (rules.step credentials call).1 (rules.referenceStep reference call).1) := by
  have hlater : ∀ earlier ∈ past, earlier.now ≤ call.now := by
    have hpairs := hordered.sublist (hpart.sublist.map (·.now))
    rw [List.map_append, List.pairwise_append] at hpairs
    intro earlier hearlier
    exact hpairs.2.2 _ (List.mem_map_of_mem hearlier) _ (by simp)
  have hlive := h call.now hlater
  have hpurged : ∀ key, (rules.expiry.purge call.now reference).get? key =
      rules.expiry.liveAt call.now credentials key := by
    intro key
    rw [Expiry.get?_purge]
    exact (hlive call.now le_rfl key).symm
  obtain ⟨hsucceeds, hachieves, hafter⟩ := step_agrees call
    (hlive.trans (Expiry.SameLive.purge reference call.now)) hpurged
  refine ⟨hsucceeds, hachieves, fun hmeets now hnow => (hafter hmeets).mono ?_⟩
  exact hnow call (by simp)

/-- The stores agree on every call of a run exactly when its registrations meet no stale
credential, also on what revocations find when these meet none either. -/
theorem agrees_iff (hordered : (calls.map (·.now)).Pairwise (· ≤ ·)) :
    (((Machine.history rules.step .empty calls).map fun e => e.output.succeeds) =
        ((Machine.history rules.referenceStep .empty calls).map fun e => e.output.succeeds) ↔
      Machine.EachStep rules.step (fun _ => rules.MeetsNoStale) .empty calls) ∧
    (((Machine.history rules.step .empty calls).map fun e => e.output.achieves) =
        ((Machine.history rules.referenceStep .empty calls).map fun e => e.output.achieves) ↔
      Machine.EachStep rules.step (fun _ credentials call =>
        rules.MeetsNoStale credentials call ∧ rules.RevokesNoStale credentials call)
        .empty calls) := by
  have hinit : rules.Agree ([] : List (CredentialCall κ Scope Query)) .empty .empty :=
    fun now _ => Expiry.SameLive.refl _ now
  constructor
  · apply Machine.outputs_eq_iff_of_lockstep rules.step CallAnswer.succeeds hinit
    intro past credentials reference call hpart h
    obtain ⟨hsucceeds, -, hafter⟩ := h.step hordered hpart
    exact ⟨hsucceeds, hafter⟩
  · apply Machine.outputs_eq_iff_of_lockstep rules.step CallAnswer.achieves hinit
    intro past credentials reference call hpart h
    obtain ⟨-, hachieves, hafter⟩ := h.step hordered hpart
    exact ⟨hachieves, fun hcondition => hafter hcondition.1⟩

/-- While a credential is live, a registration replaces it by the rules only. -/
theorem replaced_by_rules {now : ℚ} {token : String} {scope : Scope}
    {existing : ActiveSessionCredential Scope}
    (hget : credentials.get? (rules.key scope) = some existing)
    (hregistered : ∃ credential, (rules.register credentials now token scope).2 = .ok credential) :
    rules.replacementConflict existing.scope scope = none := by
  obtain ⟨credential, hok⟩ := hregistered
  unfold register at hok
  split at hok
  · cases hok
  · split at hok
    · cases hok
    · rw [hget] at hok
      cases hconflict : rules.replacementConflict existing.scope scope with
      | none => rfl
      | some reason => simp [hconflict] at hok

/-- A registration that meets no stale credential succeeds when its key has no live one. -/
theorem register_succeeds {now : ℚ} {token : String} {scope : Scope} (htoken : token ≠ "")
    (hscope : rules.isExpired now scope = false)
    (hfree : rules.expiry.liveAt now credentials (rules.key scope) = none)
    (hmeets : rules.MeetsNoStale credentials
      (⟨now, .register token scope⟩ : CredentialCall κ Scope Query)) :
    (rules.register credentials now token scope).2 = .ok ⟨token, scope⟩ := by
  unfold register
  rw [if_neg htoken, if_neg (by simp [hscope])]
  unfold Expiry.liveAt at hfree
  cases hget : credentials.get? (rules.key scope) with
  | none => rfl
  | some existing =>
      have hdead : rules.isExpired now existing.scope = true := by
        rw [hget, Option.filter_some] at hfree
        by_contra hlive
        simp [expiry, hlive] at hfree
      have hconflict := hmeets token scope rfl htoken hscope existing hget hdead
      simp [hconflict]

end CredentialRules

/-! ## Both stores -/

abbrev SessionCredentialCall :=
  CredentialCall String AuthorizedSessionScope AuthorizedClaim

abbrev CameraCredentialCall :=
  CredentialCall (String × String) AuthorizedCameraIngestScope CameraQuery

/-- **Expired credentials are as good as absent**, in both stores, exactly along the runs whose
registrations meet no expired credential that they may not replace; and revocations find what
they would find among the live ones exactly when they meet no expired one. -/
theorem expired_as_absent_iff (sessionCalls : List SessionCredentialCall)
    (cameraCalls : List CameraCredentialCall)
    (hsession : (sessionCalls.map (·.now)).Pairwise (· ≤ ·))
    (hcamera : (cameraCalls.map (·.now)).Pairwise (· ≤ ·)) :
    ((((Machine.history sessionRules.step .empty sessionCalls).map fun e => e.output.succeeds) =
          ((Machine.history sessionRules.referenceStep .empty sessionCalls).map
            fun e => e.output.succeeds) ↔
        Machine.EachStep sessionRules.step (fun _ => sessionRules.MeetsNoStale) .empty
          sessionCalls) ∧
      (((Machine.history sessionRules.step .empty sessionCalls).map fun e => e.output.achieves) =
          ((Machine.history sessionRules.referenceStep .empty sessionCalls).map
            fun e => e.output.achieves) ↔
        Machine.EachStep sessionRules.step (fun _ credentials call =>
          sessionRules.MeetsNoStale credentials call ∧
            sessionRules.RevokesNoStale credentials call) .empty sessionCalls)) ∧
    ((((Machine.history cameraRules.step .empty cameraCalls).map fun e => e.output.succeeds) =
          ((Machine.history cameraRules.referenceStep .empty cameraCalls).map
            fun e => e.output.succeeds) ↔
        Machine.EachStep cameraRules.step (fun _ => cameraRules.MeetsNoStale) .empty
          cameraCalls) ∧
      (((Machine.history cameraRules.step .empty cameraCalls).map fun e => e.output.achieves) =
          ((Machine.history cameraRules.referenceStep .empty cameraCalls).map
            fun e => e.output.achieves) ↔
        Machine.EachStep cameraRules.step (fun _ credentials call =>
          cameraRules.MeetsNoStale credentials call ∧
            cameraRules.RevokesNoStale credentials call) .empty cameraCalls)) :=
  ⟨CredentialRules.agrees_iff hsession, CredentialRules.agrees_iff hcamera⟩

/-! ### Credentials that come after others have expired -/

/-- The scope of one job's session token. -/
def sessionScope (tokenJti : String) (expiresAt : ℤ) : AuthorizedSessionScope where
  tenantId := "tenant"
  siteId := "site"
  captureSessionId := "session"
  processingJobId := "job"
  cameraIds := {"left"}
  profileDigest := "digest"
  authorizedSubject := "participant"
  tokenJti := tokenJti
  expiresAt := expiresAt

/-- The scope of one camera's credential. -/
def cameraScope (cameraClaimId : String) (issuedAt expiresAt : ℤ) :
    AuthorizedCameraIngestScope where
  tenantId := "tenant"
  siteId := "site"
  captureSessionId := "session"
  processingJobId := "job"
  profileDigest := "digest"
  cameraClaimId := cameraClaimId
  cameraId := "left"
  deviceId := "phone"
  authorizedSubject := "participant"
  tokenJti := "jti"
  issuedAt := issuedAt
  expiresAt := expiresAt

/-- A second token for the job, registered after the first one has expired. -/
def lateSessionCalls : List SessionCredentialCall :=
  [⟨0, .register "first" (sessionScope "jti-1" 10)⟩,
    ⟨20, .register "second" (sessionScope "jti-2" 100)⟩]

/-- A second claim for the camera, registered after the first one's credential has expired. -/
def lateCameraCalls : List CameraCredentialCall :=
  [⟨0, .register "first" (cameraScope "claim-1" 0 10)⟩,
    ⟨20, .register "second" (cameraScope "claim-2" 20 100)⟩]

/-- The same where the first token is looked up in between. -/
def resolvedSessionCalls : List SessionCredentialCall :=
  [⟨0, .register "first" (sessionScope "jti-1" 10)⟩,
    ⟨15, .resolve ⟨some "tenant", some "site", some "session", some "job", some "digest",
      some "participant", some "jti-1", ["left"]⟩⟩,
    ⟨20, .register "second" (sessionScope "jti-2" 100)⟩]

/-- The second credential of the same claim, after the first one has expired. -/
def refreshedCameraCalls : List CameraCredentialCall :=
  [⟨0, .register "first" (cameraScope "claim-1" 0 10)⟩,
    ⟨20, .register "second" (cameraScope "claim-1" 20 100)⟩]

theorem expired_as_absent_resolved :
    Machine.EachStep sessionRules.step (fun _ => sessionRules.MeetsNoStale) .empty
        resolvedSessionCalls ∧
      Machine.EachStep cameraRules.step (fun _ => cameraRules.MeetsNoStale) .empty
        refreshedCameraCalls := by
  have hstores := expired_as_absent_iff resolvedSessionCalls refreshedCameraCalls
    (by decide +kernel) (by decide +kernel)
  exact ⟨hstores.1.1.mp (by decide +kernel), hstores.2.1.mp (by decide +kernel)⟩

/-- The expired credential locks the next one out, of the job and of the camera. -/
theorem expired_credential_locks_out :
    ¬(((Machine.history sessionRules.step .empty lateSessionCalls).map
          fun e => e.output.succeeds) =
        (Machine.history sessionRules.referenceStep .empty lateSessionCalls).map
          fun e => e.output.succeeds) ∧
      ¬(((Machine.history cameraRules.step .empty lateCameraCalls).map
          fun e => e.output.succeeds) =
        (Machine.history cameraRules.referenceStep .empty lateCameraCalls).map
          fun e => e.output.succeeds) := by
  decide +kernel

end ImageStream
