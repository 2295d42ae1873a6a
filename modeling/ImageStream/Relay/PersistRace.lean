/-
# Persisting in two steps

A session's reads hold no lock, so between what `persist_frame_set_manifest` reads and
its commit other transactions may run. The commit then writes the rows that the read
has settled, by primary key and whatever they have become. Here any number of calls
read and commit in between the store's own transactions.

An offer stands from its claim until `reconcile_not_found` has ended it. A commit takes
an offer back exactly when a claim has come between its read and itself.
-/

import ImageStream.Base.Standing
import ImageStream.Relay.InFlight
import ImageStream.Relay.OfferOrder

namespace ImageStream

open Base

/-- The database, and the calls that have read and not committed yet. -/
structure Racing where
  db : Database := {}
  pending : Dict ℕ (SynchronizedFrameSet × PersistPlan) := Table.empty

inductive RaceOp
  | store (op : StoreOp)
  | read (call : ℕ) (frameSet : SynchronizedFrameSet) (createdAtMs : Option ℤ) (nowMs : ℤ)
  | commit (call : ℕ)

inductive RaceAnswer
  | store (answer : StoreAnswer)
  | reading
  | committed (result : Except ManifestError Bool)
  /-- The call has read already, or it has nothing to commit. -/
  | ignored
  deriving DecidableEq

def raceStep (s : Racing) : RaceOp → Racing × RaceAnswer
  | .store op => ({ s with db := (storeStep s.db op).1 }, .store (storeStep s.db op).2)
  | .read call frameSet createdAtMs nowMs =>
      match s.pending.get? call with
      | some _ => (s, .ignored)
      | none =>
          let plan := persistRead s.db frameSet createdAtMs nowMs
          ({ s with pending := s.pending.set call (frameSet, plan) }, .reading)
  | .commit call =>
      match s.pending.get? call with
      | none => (s, .ignored)
      | some (frameSet, plan) =>
          ({ s with
            db := (persistCommit s.db frameSet plan).1
            pending := s.pending.pop call },
            .committed (persistCommit s.db frameSet plan).2)

abbrev RaceExchange : Type := Exchange Racing RaceOp RaceAnswer

namespace RaceExchange

/-- The frame set that an exchange has claimed. -/
def claims (e : RaceExchange) : Option String :=
  match e.output with
  | .store answer => answer.claim?.map (·.key.frameSetUid)
  | _ => none

/-- The frame set in flight that an exchange has found to be missing. -/
def loses (e : RaceExchange) : Option String :=
  match e.input, e.output with
  | .store op, .store answer => (notFound? op answer).map (·.1.frameSetUid)
  | _, _ => none

/-- Whether an exchange is the read of a call. -/
def reads (call : ℕ) (e : RaceExchange) : Bool :=
  match e.input, e.output with
  | .read call' _ _ _, .reading => call' = call
  | _, _ => false

end RaceExchange

/-- Whether a frame set has been claimed and `reconcile_not_found` has not ended its
flight since. -/
def OfferStands (past : List RaceExchange) (uid : String) : Prop :=
  Standing RaceExchange.claims RaceExchange.loses past uid

/-- What has happened since a call's last read. -/
def sinceRead (call : ℕ) (past : List RaceExchange) : List RaceExchange :=
  sinceLast (RaceExchange.reads call) past

/-- A commit that goes through supersedes no frame set that has been claimed since its
read, unless its flight has been ended since. -/
def NothingClaimedSince (past : List RaceExchange) (s : Racing) : RaceOp → Prop
  | .commit call => ∀ frameSet insertion,
      s.pending.get? call = some (frameSet, .insert insertion) → insertion.Fits s.db →
        ∀ uid ∈ insertion.superseded, ¬OfferStands (sinceRead call past) uid
  | _ => True

/-- No offer has been taken back: a frame set whose offer stands is not superseded, and
the one in flight is in an active state. -/
structure OffersKept (past : List RaceExchange) (s : Racing) : Prop where
  standing : ∀ uid, OfferStands past uid → s.db.liveState? uid ≠ some .supersededBeforeOffer
  inFlight : ∀ uid, s.db.inFlight? = some uid →
    ∃ state ∈ activeStates, s.db.liveState? uid = some state

/-! ## The invariant -/

/-- What holds as long as no offer has been taken back. -/
structure RaceSound (past : List RaceExchange) (s : Racing) : Prop where
  agrees : Custody.Agrees LiveState.stage s.db.custody
  flight : ∀ uid, s.db.inFlight? = some uid → OfferStands past uid
  offered : ∀ uid, OfferStands past uid → ∃ state, s.db.liveState? uid = some state ∧
    state ≠ .eligible ∧ state ≠ .supersededBeforeOffer
  idle : ∀ call frameSet plan, s.pending.get? call = some (frameSet, plan) → plan.AddsIdle
  since : ∀ call frameSet plan, s.pending.get? call = some (frameSet, plan) →
    ∀ uid ∈ plan.superseded, OfferStands past uid → OfferStands (sinceRead call past) uid

theorem raceSound_init : RaceSound [] {} where
  agrees := Database.inFlightSound_empty.agrees
  flight _ h := by cases h
  offered uid h := absurd h (Standing.not_nil uid)
  idle _ _ _ h := by cases h
  since _ _ _ h := by cases h

theorem RaceSound.offersKept {past : List RaceExchange} {s : Racing} (h : RaceSound past s) :
    OffersKept past s where
  standing uid hstands hsuperseded := by
    obtain ⟨state, hstate, -, hne⟩ := h.offered uid hstands
    rw [hstate] at hsuperseded
    exact hne (Option.some.inj hsuperseded)
  inFlight uid huid := by
    obtain ⟨state, hstate, hheld⟩ := (h.agrees uid).mpr huid
    exact ⟨state, mem_activeStates.mpr hheld, hstate⟩

section Step

variable {past : List RaceExchange} {s : Racing}

/-- The reads that are pending stay as they were after an exchange of another kind. -/
theorem RaceSound.since_snoc (h : RaceSound past s) {e : RaceExchange} {call : ℕ}
    (hreads : e.reads call = false) {frameSet : SynchronizedFrameSet} {plan : PersistPlan}
    (hpending : s.pending.get? call = some (frameSet, plan)) {uid : String}
    (huid : uid ∈ plan.superseded) (hstands : OfferStands (past ++ [e]) uid) :
    OfferStands (sinceRead call (past ++ [e])) uid := by
  unfold OfferStands sinceRead at *
  rw [sinceLast_concat hreads, Standing.snoc_iff]
  rcases Standing.snoc_iff.mp hstands with hclaims | ⟨hbefore, hloses⟩
  · exact Or.inl hclaims
  · exact Or.inr ⟨h.since call frameSet plan hpending uid huid hbefore, hloses⟩

/-- What an idle transaction leaves of the offers. -/
theorem RaceSound.offered_of_idle (h : RaceSound past s) {db' : Database}
    (items : ∀ uid, Custody.Idle LiveState.stage (s.db.liveState? uid) (db'.liveState? uid))
    {uid : String} (hstands : OfferStands past uid) :
    ∃ state, db'.liveState? uid = some state ∧ state ≠ .eligible ∧
      state ≠ .supersededBeforeOffer := by
  obtain ⟨state, hstate, heligible, hsuperseded⟩ := h.offered uid hstands
  have hitem := items uid
  rw [hstate] at hitem
  generalize db'.liveState? uid = after at hitem ⊢
  cases hitem with
  | same status => exact ⟨state, rfl, heligible, hsuperseded⟩
  | givenUp hold hnew => cases state <;> first | exact absurd rfl heligible | cases hold

/-- A store transaction changes no pending call. -/
theorem RaceSound.store (h : RaceSound past s) (op : StoreOp) :
    RaceSound (past ++ [Machine.exchange raceStep s (.store op)]) (raceStep s (.store op)).1 := by
  have heffect := storeStep_effect s.db op
  refine ⟨h.agrees.step heffect.custody_step, fun uid huid => ?_, fun uid hstands => ?_,
    h.idle, fun call frameSet plan hpending uid huid hstands =>
      h.since_snoc rfl hpending huid hstands⟩
  · refine Standing.snoc_iff.mpr ?_
    show (storeStep s.db op).2.claim?.map (·.key.frameSetUid) = some uid ∨
      (OfferStands past uid ∧ (notFound? op (storeStep s.db op).2).map (·.1.frameSetUid) ≠ some uid)
    change (storeStep s.db op).1.inFlight? = some uid at huid
    cases heffect with
    | background items offer unclaimed found =>
        rw [StoreEffect.inFlight?_of_offer offer] at huid
        exact Or.inr ⟨h.flight uid huid, by rw [found]; simp⟩
    | claimed credit offeredAtMs candidate empty picked was now others offer claim found =>
        rw [StoreEffect.inFlight?_of_offer offer] at huid
        exact Or.inl (by rw [claim]; exact huid)
    | moved key state current held now others offer unclaimed found =>
        rw [StoreEffect.inFlight?_of_offer offer] at huid
        exact Or.inr ⟨h.flight uid huid, by rw [found]; simp⟩
    | released key state current ended offered now others offer unclaimed found =>
        rw [StoreEffect.inFlight?_of_offer offer] at huid
        cases huid
    | notFound key retryAllowed current now others offer unclaimed found =>
        rw [StoreEffect.inFlight?_of_offer offer] at huid
        cases huid
  · have hcases : (storeStep s.db op).2.claim?.map (·.key.frameSetUid) = some uid ∨
        (OfferStands past uid ∧
          (notFound? op (storeStep s.db op).2).map (·.1.frameSetUid) ≠ some uid) :=
      Standing.snoc_iff.mp hstands
    show ∃ state, (storeStep s.db op).1.liveState? uid = some state ∧ state ≠ .eligible ∧
      state ≠ .supersededBeforeOffer
    have hother : ∀ {acted : String}, uid ≠ acted →
        (∀ uid', uid' ≠ acted → (storeStep s.db op).1.liveState? uid' = s.db.liveState? uid') →
        (storeStep s.db op).2.claim?.map (·.key.frameSetUid) ≠ some uid →
        ∃ state, (storeStep s.db op).1.liveState? uid = some state ∧ state ≠ .eligible ∧
          state ≠ .supersededBeforeOffer := by
      intro acted hne hothers hclaim
      rw [hothers uid hne]
      exact h.offered uid (hcases.resolve_left hclaim).1
    cases heffect with
    | background items offer unclaimed found =>
        rw [unclaimed] at hcases
        exact h.offered_of_idle items (hcases.resolve_left (by simp)).1
    | claimed credit offeredAtMs candidate empty picked was now others offer claim found =>
        by_cases huid : uid = candidate.frameSetUid
        · exact ⟨.offered, huid ▸ now, by decide, by decide⟩
        · refine hother huid others ?_
          rw [claim]
          exact fun heq => huid (Option.some.inj heq).symm
    | moved key state current held now others offer unclaimed found =>
        by_cases huid : uid = key.frameSetUid
        · refine ⟨state, huid ▸ now, ?_, ?_⟩ <;> rintro rfl <;> cases held
        · exact hother huid others (by rw [unclaimed]; simp)
    | released key state current ended offered now others offer unclaimed found =>
        by_cases huid : uid = key.frameSetUid
        · refine ⟨state, huid ▸ now, ?_, offered⟩
          rintro rfl
          cases ended
        · exact hother huid others (by rw [unclaimed]; simp)
    | notFound key retryAllowed current now others offer unclaimed found =>
        by_cases huid : uid = key.frameSetUid
        · rw [unclaimed, found, huid] at hcases
          simp at hcases
        · exact hother huid others (by rw [unclaimed]; simp)

/-- An exchange that concerns no offer leaves what stands. -/
theorem offerStands_snoc {e : RaceExchange} (hclaims : e.claims = none) (hloses : e.loses = none)
    (uid : String) : OfferStands (past ++ [e]) uid ↔ OfferStands past uid :=
  Standing.snoc_of_quiet hclaims hloses

/-- An exchange that is ignored changes nothing. -/
theorem RaceSound.ignored (h : RaceSound past s) {e : RaceExchange} (he : e.output = .ignored) :
    RaceSound (past ++ [e]) s := by
  have hclaims : e.claims = none := by simp [RaceExchange.claims, he]
  have hloses : e.loses = none := by
    unfold RaceExchange.loses
    rw [he]
    split <;> simp_all
  have hreads : ∀ call, e.reads call = false := by
    intro call
    unfold RaceExchange.reads
    rw [he]
    split <;> simp_all
  exact
    { agrees := h.agrees
      flight := fun uid huid => (offerStands_snoc hclaims hloses uid).mpr (h.flight uid huid)
      offered := fun uid hstands => h.offered uid ((offerStands_snoc hclaims hloses uid).mp hstands)
      idle := h.idle
      since := fun call frameSet plan hpending uid huid hstands =>
        h.since_snoc (hreads call) hpending huid hstands }

/-- What a call reads as eligible has no offer that stands. -/
theorem RaceSound.read (h : RaceSound past s) (call : ℕ) (frameSet : SynchronizedFrameSet)
    (createdAtMs : Option ℤ) (nowMs : ℤ) :
    RaceSound (past ++ [Machine.exchange raceStep s (.read call frameSet createdAtMs nowMs)])
      (raceStep s (.read call frameSet createdAtMs nowMs)).1 := by
  cases hpending : s.pending.get? call with
  | some reading =>
      have hstep : raceStep s (.read call frameSet createdAtMs nowMs) = (s, .ignored) := by
        simp only [raceStep, hpending]
      rw [hstep]
      exact h.ignored (congrArg Prod.snd hstep)
  | none =>
      have hstep : raceStep s (.read call frameSet createdAtMs nowMs) =
          ({ s with
            pending := s.pending.set call
              (frameSet, persistRead s.db frameSet createdAtMs nowMs) },
            .reading) := by
        simp only [raceStep, hpending]
      have hclaims : RaceExchange.claims (Machine.exchange raceStep s
          (.read call frameSet createdAtMs nowMs)) = none := by
        simp [RaceExchange.claims, Machine.exchange, hstep]
      have hloses : RaceExchange.loses (Machine.exchange raceStep s
          (.read call frameSet createdAtMs nowMs)) = none := by
        simp [RaceExchange.loses, Machine.exchange, hstep]
      have hstands : ∀ uid, OfferStands (past ++ [_]) uid ↔ OfferStands past uid :=
        offerStands_snoc hclaims hloses
      rw [hstep]
      refine ⟨h.agrees, fun uid huid => (hstands uid).mpr (h.flight uid huid),
        fun uid huid => h.offered uid ((hstands uid).mp huid), ?_, ?_⟩
      · intro call' frameSet' plan hplan
        by_cases hcall : call' = call
        · rw [hcall, Dict.get?_set_self] at hplan
          cases hplan
          exact persistRead_addsIdle _ _ _ _
        · rw [Dict.get?_set_of_ne _ _ hcall] at hplan
          exact h.idle call' frameSet' plan hplan
      · intro call' frameSet' plan hplan uid huid huidStands
        by_cases hcall : call' = call
        · rw [hcall, Dict.get?_set_self] at hplan
          cases hplan
          obtain ⟨state, hstate, hne, -⟩ := h.offered uid ((hstands uid).mp huidStands)
          rw [persistRead_superseded huid] at hstate
          exact absurd (Option.some.inj hstate).symm hne
        · rw [Dict.get?_set_of_ne _ _ hcall] at hplan
          refine h.since_snoc ?_ hplan huid huidStands
          have hne : ¬call = call' := fun heq => hcall heq.symm
          simp [RaceExchange.reads, Machine.exchange, hstep, hne]

/-- The plan of a pending call. -/
theorem raceStep_commit {call : ℕ} {frameSet : SynchronizedFrameSet} {plan : PersistPlan}
    (hpending : s.pending.get? call = some (frameSet, plan)) :
    raceStep s (.commit call) =
      ({ s with
        db := (persistCommit s.db frameSet plan).1
        pending := s.pending.pop call },
        .committed (persistCommit s.db frameSet plan).2) := by
  simp only [raceStep, hpending]

theorem claims_commit (call : ℕ) :
    RaceExchange.claims (Machine.exchange raceStep s (.commit call)) = none := by
  dsimp only [RaceExchange.claims, Machine.exchange, raceStep]
  cases s.pending.get? call <;> rfl

theorem loses_commit (call : ℕ) :
    RaceExchange.loses (Machine.exchange raceStep s (.commit call)) = none := by
  rfl

/-- What a commit leaves of a frame set, if its plan does not supersede the set. -/
theorem persistCommit_offered {db : Database} (frameSet : SynchronizedFrameSet)
    {plan : PersistPlan} {uid : String} {state : LiveState}
    (hstate : db.liveState? uid = some state)
    (hkept : ∀ insertion, plan = .insert insertion → insertion.Fits db →
      uid ∉ insertion.superseded) :
    (persistCommit db frameSet plan).1.liveState? uid = some state := by
  rcases persistCommit_cases db frameSet plan with
    h | ⟨projection, rfl, habsent, h⟩ | ⟨insertion, rfl, hfits, h⟩
  · rw [h, hstate]
  · rw [h, liveState?_put, if_neg, hstate]
    rintro rfl
    rw [liveState?_eq_none habsent] at hstate
    cases hstate
  · rw [h, liveState?_apply, if_neg, if_neg (hkept insertion rfl hfits), hstate]
    rintro rfl
    rw [liveState?_eq_none hfits.projection] at hstate
    cases hstate

/-- A commit puts nothing in an active state. -/
theorem persistCommit_liveState? (db : Database) (frameSet : SynchronizedFrameSet)
    {plan : PersistPlan} (hadds : plan.AddsIdle) (uid : String) :
    (persistCommit db frameSet plan).1.liveState? uid = db.liveState? uid ∨
      ¬Custody.Active LiveState.stage ((persistCommit db frameSet plan).1.liveState? uid) := by
  rcases persistCommit_cases db frameSet plan with
    h | ⟨projection, rfl, habsent, h⟩ | ⟨insertion, rfl, hfits, h⟩
  · exact Or.inl (by rw [h])
  · rw [h, liveState?_put]
    split
    · exact Or.inr (Custody.active_some.not.mpr hadds)
    · exact Or.inl rfl
  · rw [h, liveState?_apply]
    split
    · exact Or.inr (Custody.active_some.not.mpr hadds)
    split
    · cases db.liveState? uid with
      | none => exact Or.inl rfl
      | some state => exact Or.inr (Custody.active_some.not.mpr fun h => Stage.noConfusion h)
    · exact Or.inl rfl

theorem inFlight?_persistCommit (db : Database) (frameSet : SynchronizedFrameSet)
    (plan : PersistPlan) : (persistCommit db frameSet plan).1.inFlight? = db.inFlight? := by
  simp only [Database.inFlight?, Database.client, clientState_persistCommit]

/-- A commit that supersedes nothing claimed since its read takes no offer back. -/
theorem RaceSound.commit (h : RaceSound past s) {call : ℕ}
    (hsince : NothingClaimedSince past s (.commit call)) :
    RaceSound (past ++ [Machine.exchange raceStep s (.commit call)])
      (raceStep s (.commit call)).1 := by
  cases hpending : s.pending.get? call with
  | none =>
      have hstep : raceStep s (.commit call) = (s, .ignored) := by
        simp only [raceStep, hpending]
      rw [hstep]
      exact h.ignored (congrArg Prod.snd hstep)
  | some reading =>
      obtain ⟨frameSet, plan⟩ := reading
      have hstands : ∀ uid, OfferStands (past ++ [Machine.exchange raceStep s (.commit call)]) uid ↔
          OfferStands past uid :=
        offerStands_snoc (claims_commit call) (loses_commit call)
      have hkept : ∀ uid, OfferStands past uid → ∀ insertion, plan = .insert insertion →
          insertion.Fits s.db → uid ∉ insertion.superseded := by
        rintro uid huid insertion rfl hfits hmem
        exact hsince frameSet insertion hpending hfits uid hmem
          (h.since call frameSet (.insert insertion) hpending uid hmem huid)
      have hinFlight := inFlight?_persistCommit s.db frameSet plan
      have hpop : ∀ call' frameSet' plan', (s.pending.pop call).get? call' =
          some (frameSet', plan') → s.pending.get? call' = some (frameSet', plan') := by
        intro call' frameSet' plan' hplan
        rw [Dict.get?_pop] at hplan
        split at hplan
        · cases hplan
        · exact hplan
      rw [raceStep_commit hpending]
      refine ⟨fun uid => ?_, fun uid huid => ?_, fun uid huid => ?_,
        fun call' frameSet' plan' hplan => h.idle call' frameSet' plan' (hpop _ _ _ hplan),
        fun call' frameSet' plan' hplan uid hmem huid =>
          h.since_snoc rfl (hpop _ _ _ hplan) hmem huid⟩
      · show Custody.Active LiveState.stage
          ((persistCommit s.db frameSet plan).1.liveState? uid) ↔
            (persistCommit s.db frameSet plan).1.inFlight? = some uid
        rw [hinFlight]
        refine Iff.trans ?_ (h.agrees uid)
        constructor
        · intro hactive
          rcases persistCommit_liveState? s.db frameSet (h.idle call frameSet plan hpending) uid
            with hsame | hidle
          · rw [hsame] at hactive
            exact hactive
          · exact absurd hactive hidle
        · intro hactive
          obtain ⟨state, hstate, hheld⟩ := hactive
          have huid := h.flight uid ((h.agrees uid).mp ⟨state, hstate, hheld⟩)
          exact ⟨state, persistCommit_offered frameSet hstate (hkept uid huid), hheld⟩
      · exact (hstands uid).mpr (h.flight uid (hinFlight.symm.trans huid))
      · have hbefore := (hstands uid).mp huid
        obtain ⟨state, hstate, hne⟩ := h.offered uid hbefore
        exact ⟨state, persistCommit_offered frameSet hstate (hkept uid hbefore), hne⟩

theorem RaceSound.step (h : RaceSound past s) {op : RaceOp}
    (hsince : NothingClaimedSince past s op) :
    RaceSound (past ++ [Machine.exchange raceStep s op]) (raceStep s op).1 := by
  cases op with
  | store op => exact h.store op
  | read call frameSet createdAtMs nowMs => exact h.read call frameSet createdAtMs nowMs
  | commit call => exact h.commit hsince

/-- A commit that supersedes what has been claimed since its read takes an offer back. -/
theorem RaceSound.nothingClaimedSince (h : RaceSound past s) {op : RaceOp}
    (hkept : OffersKept (past ++ [Machine.exchange raceStep s op]) (raceStep s op).1) :
    NothingClaimedSince past s op := by
  cases op with
  | store op => trivial
  | read call frameSet createdAtMs nowMs => trivial
  | commit call =>
      intro frameSet insertion hpending hfits uid hmem hsinceRead
      obtain ⟨before, hbefore⟩ := exists_append_sinceLast (RaceExchange.reads call) past
      have huid : OfferStands past uid := by
        unfold OfferStands
        rw [hbefore]
        exact Standing.of_suffix hsinceRead
      obtain ⟨state, hstate, -⟩ := h.offered uid huid
      have hnew : uid ≠ insertion.projection.frameSetUid := by
        rintro rfl
        rw [liveState?_eq_none hfits.projection] at hstate
        cases hstate
      have hafter : (raceStep s (.commit call)).1.db.liveState? uid =
          some .supersededBeforeOffer := by
        rw [raceStep_commit hpending]
        simp only [persistCommit, if_pos hfits]
        rw [liveState?_apply, if_neg hnew, if_pos hmem, hstate]
        rfl
      exact hkept.standing uid
        ((offerStands_snoc (claims_commit call) (loses_commit call) uid).mpr huid) hafter

end Step

/-! ## Every run -/

theorem raceSound_of_run {ops : List RaceOp}
    (hsince : Machine.EachStep raceStep NothingClaimedSince {} ops) :
    RaceSound (Machine.history raceStep {} ops) (Machine.after raceStep {} ops) :=
  Machine.history_invariant_of raceStep raceSound_init (fun _ _ _ h hsince => h.step hsince) hsince

/-- **Offers are kept exactly when no commit supersedes what has been claimed since its
read.** In a run of any number of persisting calls with the store's transactions, no
offer has been taken back in any state that is reached if and only if every commit that
goes through supersedes only frame sets without a claim between its read and itself. -/
theorem offers_kept_iff (ops : List RaceOp) :
    (∀ first second, ops = first ++ second →
      OffersKept (Machine.history raceStep {} first) (Machine.after raceStep {} first)) ↔
    Machine.EachStep raceStep NothingClaimedSince {} ops := by
  constructor
  · intro hkept
    induction ops using List.reverseRecOn with
    | nil => exact fun first op second hsplit => by simp at hsplit
    | append_singleton ops op ih =>
        have hbefore := ih fun first second hsplit =>
          hkept first (second ++ [op]) (by rw [hsplit, List.append_assoc])
        have hlast := hkept (ops ++ [op]) [] (List.append_nil _).symm
        rw [Machine.history_snoc, Machine.after_snoc] at hlast
        exact (Machine.eachStep_snoc raceStep).mpr
          ⟨hbefore, (raceSound_of_run hbefore).nothingClaimedSince hlast⟩
  · rintro hsince first second rfl
    exact (raceSound_of_run (Machine.EachStep.of_append raceStep hsince)).offersKept

/-! ### An offer that is taken back -/

/-- A newer frame set is being persisted while the waiting one is claimed. -/
def takenBackRun : List RaceOp :=
  [.store (.persistFrameSetManifest (numberedSet 1 "first") (some 1030) 0),
    .read 0 (numberedSet 2 "second") (some 2030) 0,
    .store (.claimLatest someCredit 2040),
    .commit 0]

theorem offer_taken_back :
    let s := Machine.after raceStep {} takenBackRun
    s.db.inFlight? = some "first" ∧ s.db.liveState? "first" = some .supersededBeforeOffer ∧
      ¬OffersKept (Machine.history raceStep {} takenBackRun) s := by
  intro s
  have hinFlight : s.db.inFlight? = some "first" := by decide +kernel
  have hstate : s.db.liveState? "first" = some .supersededBeforeOffer := by decide +kernel
  refine ⟨hinFlight, hstate, fun hkept => ?_⟩
  obtain ⟨state, hactive, hfirst⟩ := hkept.inFlight "first" hinFlight
  rw [hstate] at hfirst
  cases hfirst
  revert hactive
  decide

end ImageStream
