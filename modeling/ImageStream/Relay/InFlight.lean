/-
# The frame set in flight

The in-flight columns and the live states of the projections are two records of one
fact. Every transaction is a step of a one-item custody over them: the columns name
the one projection that is offered, unresolved, accepted or started, and a projection
in a terminal state is left alone by whatever comes later.
-/

import ImageStream.Relay.StoreRuns

namespace ImageStream

open Base

/-- The live states of a frame set in flight. -/
def activeStates : List LiveState := [.offered, .unresolved, .accepted, .started]

/-- The live states that end a frame set's delivery. -/
def terminalStates : List LiveState :=
  [.rejected, .completed, .failed, .recoveryRequired, .expiredBeforeOffer,
    .supersededBeforeOffer, .sessionInactive]

theorem mem_activeStates {state : LiveState} : state ∈ activeStates ↔ state.stage = .held := by
  cases state <;> decide

theorem mem_terminalStates {state : LiveState} :
    state ∈ terminalStates ↔ state.stage = .done := by
  cases state <;> decide

/-- All in-flight columns are null. -/
structure RelayV2ClientState.NothingInFlight (state : RelayV2ClientState) : Prop where
  frameSetUid : state.inFlightFrameSetUid = none
  creditId : state.inFlightCreditId = none
  processorInstanceId : state.inFlightProcessorInstanceId = none
  streamEpoch : state.inFlightStreamEpoch = none
  offeredAtMs : state.inFlightOfferedAtMs = none

/-- All in-flight columns are set. -/
structure RelayV2ClientState.AllInFlight (state : RelayV2ClientState) : Prop where
  frameSetUid : state.inFlightFrameSetUid ≠ none
  creditId : state.inFlightCreditId ≠ none
  processorInstanceId : state.inFlightProcessorInstanceId ≠ none
  streamEpoch : state.inFlightStreamEpoch ≠ none
  offeredAtMs : state.inFlightOfferedAtMs ≠ none

/-- The in-flight columns are all null or all set. -/
def RelayV2ClientState.WholeInFlight (state : RelayV2ClientState) : Prop :=
  state.NothingInFlight ∨ state.AllInFlight

theorem RelayV2ClientState.wholeInFlight_offer {state : RelayV2ClientState} :
    state.offer.WholeInFlight ↔ state.WholeInFlight := by
  constructor
  · rintro (⟨h1, h2, h3, h4, h5⟩ | ⟨h1, h2, h3, h4, h5⟩)
    · exact Or.inl ⟨h1, h2, h3, h4, h5⟩
    · exact Or.inr ⟨h1, h2, h3, h4, h5⟩
  · rintro (⟨h1, h2, h3, h4, h5⟩ | ⟨h1, h2, h3, h4, h5⟩)
    · exact Or.inl ⟨h1, h2, h3, h4, h5⟩
    · exact Or.inr ⟨h1, h2, h3, h4, h5⟩

namespace StoreEffect

variable {db db' : Database} {op : StoreOp} {answer : StoreAnswer}

/-- The offer columns settle what is in flight. -/
theorem inFlight?_of_offer {state : RelayV2ClientState} (h : db.client.offer = state.offer) :
    db.inFlight? = state.inFlightFrameSetUid := by
  have huid : db.client.offer.inFlightFrameSetUid = state.offer.inFlightFrameSetUid := by rw [h]
  exact huid

/-- Every transaction is a step of the custody. -/
theorem custody_step (h : StoreEffect db op db' answer) :
    Custody.Step LiveState.stage db.custody db'.custody := by
  cases h with
  | background items offer unclaimed found =>
      exact .idle items (inFlight?_of_offer offer)
  | claimed credit offeredAtMs candidate empty picked was now others offer claim found =>
      exact .take candidate.frameSetUid .eligible .offered empty was rfl rfl now others
        (inFlight?_of_offer offer)
  | moved key state current held now others offer unclaimed found =>
      have hinside := LatestLive.inFlight?_of_matchesCurrent db current
      exact .keep key.frameSetUid state hinside held now others
        ((inFlight?_of_offer offer).trans hinside)
  | released key state current ended offered now others offer unclaimed found =>
      have hfreed : state.stage ≠ .held := by
        rw [ended]
        exact fun h => Stage.noConfusion h
      exact .release key.frameSetUid state (LatestLive.inFlight?_of_matchesCurrent db current)
        hfreed now others (inFlight?_of_offer offer)
  | notFound key retryAllowed current now others offer unclaimed found =>
      refine .release key.frameSetUid _ (LatestLive.inFlight?_of_matchesCurrent db current)
        ?_ now others (inFlight?_of_offer offer)
      cases retryAllowed <;> exact fun h => Stage.noConfusion h

/-- Every transaction keeps the in-flight columns all null or all set. -/
theorem wholeInFlight (h : StoreEffect db op db' answer) (hdb : db.client.WholeInFlight) :
    db'.client.WholeInFlight := by
  have hof : ∀ {state : RelayV2ClientState}, db'.client.offer = state.offer →
      state.WholeInFlight → db'.client.WholeInFlight := by
    intro state hoffer hstate
    rw [← RelayV2ClientState.wholeInFlight_offer, hoffer]
    exact RelayV2ClientState.wholeInFlight_offer.mpr hstate
  cases h with
  | background items offer unclaimed found => exact hof offer hdb
  | claimed credit offeredAtMs candidate empty picked was now others offer claim found =>
      exact hof offer (Or.inr ⟨nofun, nofun, nofun, nofun, nofun⟩)
  | moved key state current held now others offer unclaimed found => exact hof offer hdb
  | released key state current ended offered now others offer unclaimed found =>
      exact hof offer (Or.inl ⟨rfl, rfl, rfl, rfl, rfl⟩)
  | notFound key retryAllowed current now others offer unclaimed found =>
      exact hof offer (Or.inl ⟨rfl, rfl, rfl, rfl, rfl⟩)

end StoreEffect

/-! ## Every run -/

/-- The columns and the live states of a database agree. -/
structure Database.InFlightSound (db : Database) : Prop where
  agrees : Custody.Agrees LiveState.stage db.custody
  whole : db.client.WholeInFlight

theorem Database.inFlightSound_empty : ({} : Database).InFlightSound where
  agrees uid := by
    constructor
    · exact fun h => absurd h Custody.active_none
    · exact fun h => by cases h
  whole := Or.inl ⟨rfl, rfl, rfl, rfl, rfl⟩

theorem Database.InFlightSound.step {db : Database} (h : db.InFlightSound) (op : StoreOp) :
    (storeStep db op).1.InFlightSound where
  agrees := h.agrees.step (storeStep_effect db op).custody_step
  whole := (storeStep_effect db op).wholeInFlight h.whole

theorem inFlightSound_after (ops : List StoreOp) :
    (Machine.after storeStep {} ops).InFlightSound :=
  Machine.invariant_after storeStep Database.inFlightSound_empty
    (fun _ op h => h.step op) ops

/-- A projection in a terminal state is left alone for good. -/
theorem terminal_after {db : Database} (hdb : db.InFlightSound) {uid : String}
    {state : LiveState} (hterminal : state.stage = .done) (hstate : db.liveState? uid = some state)
    (later : List StoreOp) : (Machine.after storeStep db later).liveState? uid = some state := by
  have hkept := Machine.invariant_after storeStep
    (I := fun db => db.InFlightSound ∧ db.liveState? uid = some state) ⟨hdb, hstate⟩
    (fun db op h =>
      ⟨h.1.step op, (storeStep_effect db op).custody_step.done h.1.agrees h.2 hterminal⟩) later
  exact hkept.2

/-- In every reachable database the projections in an active state are exactly the one
in flight, the in-flight columns are all null or all set, and a terminal live state is
never changed. -/
theorem inFlight_exact (ops : List StoreOp) :
    let db := Machine.after storeStep {} ops
    (∀ uid, (∃ state ∈ activeStates, db.liveState? uid = some state) ↔
      db.inFlight? = some uid) ∧
    db.client.WholeInFlight ∧
    ∀ (later : List StoreOp) (uid : String), ∀ state ∈ terminalStates,
      db.liveState? uid = some state →
        (Machine.after storeStep db later).liveState? uid = some state := by
  intro db
  have hsound : db.InFlightSound := inFlightSound_after ops
  refine ⟨fun uid => ?_, hsound.whole, ?_⟩
  · refine Iff.trans ?_ (hsound.agrees uid)
    constructor
    · rintro ⟨state, hactive, hstate⟩
      exact ⟨state, hstate, mem_activeStates.mp hactive⟩
    · rintro ⟨state, hstate, hheld⟩
      exact ⟨state, mem_activeStates.mpr hheld, hstate⟩
  · intro later uid state hterminal hstate
    exact terminal_after hsound (mem_terminalStates.mp hterminal) hstate later

end ImageStream
