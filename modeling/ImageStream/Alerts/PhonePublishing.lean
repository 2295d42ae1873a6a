/-
# Reliable publishing

A call goes through its snapshot in order. Each matching subscription of the snapshot is ahead of
the call until the call has put its payload into that subscription's queue, so a call that has
returned has reached all of them. A call that raises leaves the rest of them out.
-/

import ImageStream.Alerts.PhoneQueues

namespace ImageStream.Alerts

open Base

universe u

variable {α : Type u}

namespace PhoneAlertDeliveryHub

variable {hub : PhoneAlertDeliveryHub α}

/-! ## What a call has still to reach -/

/-- What a step does to a call and to the others. -/
structure CallStep (hub : PhoneAlertDeliveryHub α) (call : ℕ) (publishCall : PublishCall α)
    (hub' : PhoneAlertDeliveryHub α) (answer : HubAnswer α) (publishCall' : PublishCall α) :
    Prop where
  after : hub'.calls.get? call = some publishCall'
  others : ∀ other, other ≠ call → hub'.calls.get? other = hub.calls.get? other
  record : publishCall'.record = publishCall.record
  subscriptions : publishCall'.subscriptions = publishCall.subscriptions
  ahead : ∀ subscription ∈ publishCall.position.ahead,
    subscription.matches publishCall.record = true →
      subscription ∈ publishCall'.position.ahead ∨
        answer = .delivered call subscription.subscriptionId publishCall.record
  operations : publishCall.position.operationsLeft ≠ 0 →
    publishCall'.position.operationsLeft < publishCall.position.operationsLeft

/-- A call that moves to a new position. -/
theorem CallStep.of_set {call : ℕ} {publishCall publishCall' : PublishCall α}
    {hub' : PhoneAlertDeliveryHub α} {answer : HubAnswer α}
    (hcalls : hub'.calls = hub.calls.set call publishCall')
    (hrecord : publishCall'.record = publishCall.record)
    (hsubscriptions : publishCall'.subscriptions = publishCall.subscriptions)
    (hahead : ∀ subscription ∈ publishCall.position.ahead,
      subscription.matches publishCall.record = true →
        subscription ∈ publishCall'.position.ahead ∨
          answer = .delivered call subscription.subscriptionId publishCall.record)
    (hoperations :
      publishCall'.position.operationsLeft < publishCall.position.operationsLeft) :
    CallStep hub call publishCall hub' answer publishCall' where
  after := by rw [hcalls, Dict.get?_set_self]
  others other hne := by rw [hcalls, Dict.get?_set_of_ne _ _ hne]
  record := hrecord
  subscriptions := hsubscriptions
  ahead := hahead
  operations _ := hoperations

theorem Advances.callStep {call : ℕ} {publishCall : PublishCall α}
    (hcall : hub.calls.get? call = some publishCall) {hub' : PhoneAlertDeliveryHub α}
    {answer : HubAnswer α} (h : hub.Advances call publishCall hub' answer) :
    ∃ publishCall', CallStep hub call publishCall hub' answer publishCall' := by
  cases h with
  | returns hposition =>
      refine ⟨_, .of_set (hub.calls_finish call publishCall) rfl rfl ?_ ?_⟩
      · intro subscription hahead
        rw [hposition] at hahead
        cases hahead
      · rw [hposition]
        exact Nat.zero_lt_succ _
  | skips subscription remaining hposition hother =>
      refine ⟨_, .of_set (hub.calls_setCall call _) rfl rfl ?_ ?_⟩
      · intro ahead hahead hmatches
        rw [hposition] at hahead
        rcases List.mem_cons.mp hahead with rfl | hremaining
        · rw [hother] at hmatches
          cases hmatches
        · exact .inl hremaining
      · rw [hposition]
        simp only [Position.operationsLeft, List.length_cons]
        omega
  | findsFull subscription remaining hposition =>
      refine ⟨_, .of_set (hub.calls_setCall call _) rfl rfl ?_ ?_⟩
      · intro ahead hahead _
        rw [hposition] at hahead
        exact .inl hahead
      · rw [hposition]
        simp only [Position.operationsLeft, List.length_cons]
        omega
  | findsPlace subscription remaining hposition hmatches hplace =>
      refine ⟨_, .of_set (hub.calls_setCall call _) rfl rfl ?_ ?_⟩
      · intro ahead hahead _
        rw [hposition] at hahead
        exact .inl hahead
      · rw [hposition]
        simp only [Position.operationsLeft, List.length_cons]
        omega
  | removes subscription remaining hposition =>
      refine ⟨_, .of_set (hub.calls_setCall call _) rfl rfl ?_ ?_⟩
      · intro ahead hahead _
        rw [hposition] at hahead
        exact .inl hahead
      · rw [hposition]
        simp only [Position.operationsLeft]
        omega
  | puts subscription remaining hposition hplace queue hqueue =>
      refine ⟨_, .of_set (hub.calls_setCall call _) rfl rfl ?_ ?_⟩
      · intro ahead hahead _
        rw [hposition] at hahead
        rcases List.mem_cons.mp hahead with rfl | hremaining
        · exact .inr rfl
        · exact .inl hremaining
      · rw [hposition]
        simp only [Position.operationsLeft]
        omega
  | overflows subscription remaining hposition hfull =>
      refine ⟨_, .of_set (hub.calls_setCall call _) rfl rfl ?_ ?_⟩
      · intro ahead hahead _
        rw [hposition] at hahead
        exact .inl hahead
      · rw [hposition]
        exact Nat.zero_lt_succ _
  | ended hposition =>
      refine ⟨publishCall, hcall, fun _ _ => rfl, rfl, rfl, fun _ hahead _ => .inl hahead, ?_⟩
      intro hleft
      rcases hposition with hreturned | ⟨remaining, hraised⟩
      · rw [hreturned] at hleft
        exact absurd rfl hleft
      · rw [hraised] at hleft
        exact absurd rfl hleft

/-- A delivery has put the payload into the queue. -/
theorem Advances.queue_of_delivered {call call' : ℕ} {publishCall : PublishCall α}
    {hub' : PhoneAlertDeliveryHub α} {subscriptionId : String} {payload : ProcessingAlertRecord α}
    (h : hub.Advances call publishCall hub' (.delivered call' subscriptionId payload)) :
    (hub'.queue subscriptionId).queue = (hub.queue subscriptionId).queue ++ [payload] := by
  cases h with
  | puts subscription remaining hposition hplace queue hqueue =>
      rw [queue_setQueue, if_pos rfl, hqueue]

/-- Whether every call has still to come to a matching subscription of its snapshot, or has
put its payload into that subscription's queue. -/
def Covered (past : List (Exchange (PhoneAlertDeliveryHub α) (HubInput α) (HubAnswer α)))
    (hub : PhoneAlertDeliveryHub α) : Prop :=
  ∀ call publishCall, hub.calls.get? call = some publishCall →
    ∀ subscription ∈ publishCall.subscriptions, subscription.matches publishCall.record = true →
      subscription ∈ publishCall.position.ahead ∨
        ∃ e ∈ past, e.output =
          .delivered call subscription.subscriptionId publishCall.record

variable {past : List (Exchange (PhoneAlertDeliveryHub α) (HubInput α) (HubAnswer α))}

theorem Covered.weaken (h : Covered past hub)
    (e : Exchange (PhoneAlertDeliveryHub α) (HubInput α) (HubAnswer α)) :
    Covered (past ++ [e]) hub := by
  intro call publishCall hcall subscription hsubscription hmatches
  rcases h call publishCall hcall subscription hsubscription hmatches with
    hahead | ⟨e', he', houtput⟩
  · exact .inl hahead
  · exact .inr ⟨e', List.mem_append_left _ he', houtput⟩

theorem Covered.step (h : Covered past hub) (input : HubInput α) :
    Covered (past ++ [Machine.exchange hubStep hub input]) (hubStep hub input).1 := by
  have hweak := h.weaken (Machine.exchange hubStep hub input)
  cases input with
  | subscribe id deviceIds cameraDeviceIds sessionId connectedAtMs =>
      have hcalls : (hub.subscribe id deviceIds cameraDeviceIds sessionId connectedAtMs).calls =
          hub.calls := by
        unfold subscribe
        split <;> rfl
      intro call publishCall hcall
      dsimp only [hubStep] at hcall
      rw [hcalls] at hcall
      exact hweak call publishCall hcall
  | unsubscribe id => exact hweak
  | publish call record nowMs =>
      intro call' publishCall hcall
      dsimp only [hubStep, publish] at hcall
      split at hcall
      case isTrue => exact hweak call' publishCall hcall
      case isFalse =>
        split at hcall
        case isTrue => exact hweak call' publishCall hcall
        case isFalse =>
          rw [calls_setCall, Dict.get?_set] at hcall
          split at hcall
          case isTrue =>
            cases hcall
            intro subscription hsubscription _
            exact .inl hsubscription
          case isFalse => exact hweak call' publishCall hcall
  | advance call =>
      cases hcall : hub.calls.get? call with
      | none =>
          have hstep : hubStep hub (.advance call) = (hub, .nothing) := by
            dsimp only [hubStep]
            rw [hcall]
          rw [hstep]
          exact hweak
      | some publishCall =>
          have hstep : hubStep hub (.advance call) = hub.advance call publishCall := by
            dsimp only [hubStep]
            rw [hcall]
          obtain ⟨publishCall', hcallStep⟩ := (hub.advances call publishCall).callStep hcall
          intro other otherCall hother subscription hsubscription hmatches
          rw [hstep] at hother
          by_cases hsame : other = call
          · subst hsame
            cases hcallStep.after.symm.trans hother
            rw [hcallStep.subscriptions] at hsubscription
            rw [hcallStep.record] at hmatches ⊢
            rcases h other publishCall hcall subscription hsubscription hmatches with
              hahead | ⟨e, he, houtput⟩
            · rcases hcallStep.ahead subscription hahead hmatches with hstill | hdelivered
              · exact .inl hstill
              · refine .inr ⟨_, List.mem_append_right _ (List.mem_singleton_self _), ?_⟩
                dsimp only [Machine.exchange]
                rw [hstep, hdelivered]
            · exact .inr ⟨e, List.mem_append_left _ he, houtput⟩
          · rw [hcallStep.others other hsame] at hother
            exact hweak other otherCall hother subscription hsubscription hmatches
  | nextEvent id => exact hweak

end PhoneAlertDeliveryHub

/-! ## Publishing -/

/-- What publishing comes to when it is reliable: no put finds the queue full, every call that
has returned has put its payload into the queue of every matching subscription of its snapshot,
every call that has not ended is nearer to its end with its next operation, and the queues hold
what they may and give up only what is at their front. -/
structure PublishesReliably
    (past : List (Exchange (PhoneAlertDeliveryHub α) (HubInput α) (HubAnswer α)))
    (hub : PhoneAlertDeliveryHub α) : Prop where
  neverRaises : ∀ e ∈ past, ∀ call, e.output ≠ .raised call
  reaches : ∀ call publishCall, hub.calls.get? call = some publishCall →
    publishCall.position = .returned → ∀ subscription ∈ publishCall.subscriptions,
      subscription.matches publishCall.record = true →
        ∃ e ∈ past, e.output = .delivered call subscription.subscriptionId publishCall.record
  puts : ∀ e ∈ past, ∀ call subscriptionId payload,
    e.output = .delivered call subscriptionId payload →
      (e.after.queue subscriptionId).queue = (e.before.queue subscriptionId).queue ++ [payload]
  progresses : ∀ call publishCall, hub.calls.get? call = some publishCall →
    publishCall.position.operationsLeft ≠ 0 →
      ∃ publishCall', (hubStep hub (.advance call)).1.calls.get? call = some publishCall' ∧
        publishCall'.position.operationsLeft < publishCall.position.operationsLeft
  bounded : hub.Bounded
  givesUp : ∀ e ∈ past, ∀ subscriptionId,
    QueueMove (e.before.queue subscriptionId).queue (e.after.queue subscriptionId).queue

namespace PhoneAlertDeliveryHub

theorem covered_after (inputs : List (HubInput α)) :
    Covered (Machine.history hubStep ({} : PhoneAlertDeliveryHub α) inputs)
      (Machine.after hubStep {} inputs) :=
  Machine.history_invariant hubStep (fun _ _ hcall => nomatch hcall)
    (fun _ _ input h => h.step input) inputs

/-- Where every step reserves, no step raises. -/
theorem not_raised_of_reserves {inputs : List (HubInput α)}
    (h : Machine.EachStep hubStep (fun _ hub input => hub.Reserves input)
      ({} : PhoneAlertDeliveryHub α) inputs) :
    ∀ e ∈ Machine.history hubStep ({} : PhoneAlertDeliveryHub α) inputs,
      ∀ call, e.output ≠ .raised call := by
  have hrun := Machine.history_invariant_of hubStep
    (I := fun past (hub : PhoneAlertDeliveryHub α) =>
      hub.Kept ∧ ∀ e ∈ past, ∀ call, e.output ≠ .raised call)
    (C := fun _ hub input => hub.Reserves input) (s := {}) ?_ ?_ h
  · exact hrun.2
  · exact ⟨fun _ => Nat.zero_le _, fun _ he => nomatch he⟩
  · rintro past hub input ⟨hkept, hpast⟩ hreserves
    refine ⟨hkept.step hreserves, fun e he => ?_⟩
    rcases List.mem_append.mp he with hold | hnew
    · exact hpast e hold
    · rw [List.mem_singleton.mp hnew]
      exact hkept.not_raised input

/-- Publishing is reliable in every run whose steps promise no place twice. After a step that
promises one twice, the calls that are about to put can run into a full queue by themselves. -/
theorem publishes_reliably_of_reserves (inputs : List (HubInput α)) :
    (Machine.EachStep hubStep (fun _ hub input => hub.Reserves input)
        ({} : PhoneAlertDeliveryHub α) inputs →
      PublishesReliably (Machine.history hubStep ({} : PhoneAlertDeliveryHub α) inputs)
        (Machine.after hubStep {} inputs)) ∧
      ∀ input, ¬ (Machine.after hubStep ({} : PhoneAlertDeliveryHub α) inputs).Reserves input →
        ∃ calls : List ℕ, ∃ e ∈ Machine.history hubStep ({} : PhoneAlertDeliveryHub α)
          (inputs ++ input :: calls.map .advance), e.output.isRaised = true := by
  constructor
  · intro h
    refine
      { neverRaises := not_raised_of_reserves h
        reaches := ?_
        puts := ?_
        progresses := ?_
        bounded := bounded_after inputs
        givesUp := ?_ }
    · intro call publishCall hcall hreturned subscription hsubscription hmatches
      rcases covered_after inputs call publishCall hcall subscription hsubscription hmatches with
        hahead | hdelivered
      · rw [hreturned] at hahead
        cases hahead
      · exact hdelivered
    · intro e he call subscriptionId payload houtput
      obtain ⟨first, input, second, -, rfl⟩ := Machine.exists_split_of_mem_history hubStep he
      generalize Machine.after hubStep {} first = hub at houtput ⊢
      cases input with
      | advance call' =>
          dsimp only [Machine.exchange, hubStep] at houtput ⊢
          cases hcall : hub.calls.get? call' with
          | none =>
              rw [hcall] at houtput
              cases houtput
          | some publishCall =>
              rw [hcall] at houtput
              have hadvances := hub.advances call' publishCall
              rw [houtput] at hadvances
              exact hadvances.queue_of_delivered
      | _ => cases houtput
    · intro call publishCall hcall hleft
      generalize Machine.after hubStep {} inputs = hub at hcall ⊢
      obtain ⟨publishCall', hcallStep⟩ := (hub.advances call publishCall).callStep hcall
      refine ⟨publishCall', ?_, hcallStep.operations hleft⟩
      dsimp only [hubStep]
      rw [hcall]
      exact hcallStep.after
    · intro e he subscriptionId
      obtain ⟨first, input, second, -, rfl⟩ := Machine.exists_split_of_mem_history hubStep he
      exact queueMove_hubStep input subscriptionId
  · intro input hreserves
    obtain ⟨subscriptionId, hclaimed⟩ := claimed_of_not_reserves hreserves
    obtain ⟨calls, e, he, hraised⟩ :=
      exists_raised_of_claimed ((bounded_after inputs).step input) hclaimed
    refine ⟨calls, e, ?_, hraised⟩
    rw [Machine.history_append]
    exact List.mem_append_right _ (List.mem_cons_of_mem _ he)

/-- An alert of one camera. -/
def cameraAlert (eventId : String) : ProcessingAlertRecord Unit :=
  ⟨eventId, ["camera-1"], (), 1000, 2000, none⟩

def phoneSubscribes : HubInput Unit := .subscribe "phone" ["android-1"] ["camera-1"] none 900

theorem publishes_reliably_one_call :
    let inputs := [phoneSubscribes, .publish 0 (cameraAlert "event") 1000, .advance 0, .advance 0,
      .advance 0]
    PublishesReliably (Machine.history hubStep ({} : PhoneAlertDeliveryHub Unit) inputs)
      (Machine.after hubStep {} inputs) := by
  refine (publishes_reliably_of_reserves _).1 ?_
  have hsnoc : ∀ inputs input, Machine.EachStep hubStep (fun _ hub input => hub.Reserves input)
      ({} : PhoneAlertDeliveryHub Unit) inputs → (Machine.after hubStep {} inputs).Reserves input →
        Machine.EachStep hubStep (fun _ hub input => hub.Reserves input) {} (inputs ++ [input]) :=
    fun inputs input hinputs hinput => (Machine.eachStep_snoc hubStep).mpr ⟨hinputs, hinput⟩
  have hsubscribed := hsnoc [] phoneSubscribes (Machine.eachStep_nil hubStep) trivial
  have hbegun := hsnoc _ (.publish 0 (cameraAlert "event") 1000) hsubscribed trivial
  have htested := hsnoc _ (.advance 0) hbegun fun call hcall => by
    cases hcall
    exact fun _ _ => by decide +kernel
  have hput := hsnoc _ (.advance 0) htested fun call hcall => by
    cases hcall
    exact trivial
  exact hsnoc _ (.advance 0) hput fun call hcall => by
    cases hcall
    exact trivial

/-- Forty-nine alerts one after the other, and then two whose calls both test before one puts. -/
def overlappingPublishes : List (HubInput Unit) :=
  phoneSubscribes ::
    (List.range 49).flatMap (fun call =>
      [.publish call (cameraAlert "event") 1000, .advance call, .advance call, .advance call]) ++
    [.publish 49 (cameraAlert "left") 1000, .publish 50 (cameraAlert "right") 1000,
      .advance 49, .advance 50, .advance 49, .advance 50]

theorem overlapping_publish_raises :
    ¬ PublishesReliably
      (Machine.history hubStep ({} : PhoneAlertDeliveryHub Unit) overlappingPublishes)
      (Machine.after hubStep {} overlappingPublishes) := by
  intro h
  have hraises : (Machine.history hubStep ({} : PhoneAlertDeliveryHub Unit)
      overlappingPublishes).any (fun e => e.output.isRaised) = true := by
    decide +kernel
  obtain ⟨e, he, hraised⟩ := List.any_eq_true.mp hraises
  have hnever := h.neverRaises e he
  cases houtput : e.output with
  | raised call => exact hnever call houtput
  | _ =>
      rw [houtput] at hraised
      cases hraised

end PhoneAlertDeliveryHub

end ImageStream.Alerts
