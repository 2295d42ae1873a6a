/-
# The queues of the phones

A call that has found a place, or made one, is about to put: the place is promised to it. The
places of a queue that are taken and those that are promised are what the invariant counts. A
put turns a promised place into a taken one and a removal a taken one into a promised one, so
only a test, or a removal from a queue that has been emptied, can promise too many.

As long as no place is promised twice, every put finds a place. When one is, the calls that are
about to put fill the queue by themselves and the last of them raises.
-/

import ImageStream.Alerts.PhoneDelivery

namespace ImageStream.Alerts

open Base

universe u

variable {α : Type u}

namespace PhoneAlertDeliveryHub

variable (hub : PhoneAlertDeliveryHub α)

/-! ## Queues and calls -/

@[simp]
theorem queue_setCall (call : ℕ) (publishCall : PublishCall α) (subscriptionId : String) :
    (hub.setCall call publishCall).queue subscriptionId = hub.queue subscriptionId := rfl

@[simp]
theorem queue_finish (call : ℕ) (publishCall : PublishCall α) (subscriptionId : String) :
    (hub.finish call publishCall).queue subscriptionId = hub.queue subscriptionId := rfl

theorem queue_setQueue (subscriptionId other : String) (queue : SubscriptionQueue α) :
    (hub.setQueue subscriptionId queue).queue other =
      if other = subscriptionId then queue else hub.queue other := by
  unfold PhoneAlertDeliveryHub.queue setQueue
  rw [Dict.get?_set]
  split <;> rfl

@[simp]
theorem calls_setQueue (subscriptionId : String) (queue : SubscriptionQueue α) :
    (hub.setQueue subscriptionId queue).calls = hub.calls := rfl

@[simp]
theorem calls_setCall (call : ℕ) (publishCall : PublishCall α) :
    (hub.setCall call publishCall).calls = hub.calls.set call publishCall := rfl

@[simp]
theorem calls_finish (call : ℕ) (publishCall : PublishCall α) :
    (hub.finish call publishCall).calls =
      hub.calls.set call { publishCall with position := .returned } := rfl

/-- What the next operation of a call does. -/
inductive Advances (call : ℕ) (publishCall : PublishCall α) :
    PhoneAlertDeliveryHub α → HubAnswer α → Prop
  | returns (hposition : publishCall.position = .scanning []) :
      Advances call publishCall (hub.finish call publishCall) (.returned call publishCall.matched)
  | skips (subscription : PhoneAlertSubscription) (remaining : List PhoneAlertSubscription)
      (hposition : publishCall.position = .scanning (subscription :: remaining))
      (hother : subscription.matches publishCall.record = false) :
      Advances call publishCall
        (hub.setCall call { publishCall with position := .scanning remaining }) .nothing
  | findsFull (subscription : PhoneAlertSubscription) (remaining : List PhoneAlertSubscription)
      (hposition : publishCall.position = .scanning (subscription :: remaining)) :
      Advances call publishCall
        (hub.setCall call { publishCall with position := .removing subscription remaining }) .nothing
  | findsPlace (subscription : PhoneAlertSubscription) (remaining : List PhoneAlertSubscription)
      (hposition : publishCall.position = .scanning (subscription :: remaining))
      (hmatches : subscription.matches publishCall.record = true)
      (hplace : (hub.queue subscription.subscriptionId).full = false) :
      Advances call publishCall
        (hub.setCall call { publishCall with position := .putting subscription remaining }) .nothing
  | removes (subscription : PhoneAlertSubscription) (remaining : List PhoneAlertSubscription)
      (hposition : publishCall.position = .removing subscription remaining) :
      Advances call publishCall
        ((hub.setCall call { publishCall with position := .putting subscription remaining }).setQueue
          subscription.subscriptionId (hub.queue subscription.subscriptionId).removeOldest) .nothing
  | puts (subscription : PhoneAlertSubscription) (remaining : List PhoneAlertSubscription)
      (hposition : publishCall.position = .putting subscription remaining)
      (hplace : (hub.queue subscription.subscriptionId).queue.length < queueCapacity)
      (queue : SubscriptionQueue α)
      (hqueue : queue.queue =
        (hub.queue subscription.subscriptionId).queue ++ [publishCall.record]) :
      Advances call publishCall
        ((hub.setCall call { publishCall with
            matched := publishCall.matched + 1
            position := .scanning remaining }).setQueue subscription.subscriptionId queue)
        (.delivered call subscription.subscriptionId publishCall.record)
  | overflows (subscription : PhoneAlertSubscription) (remaining : List PhoneAlertSubscription)
      (hposition : publishCall.position = .putting subscription remaining)
      (hfull : queueCapacity ≤ (hub.queue subscription.subscriptionId).queue.length) :
      Advances call publishCall
        (hub.setCall call { publishCall with position := .raised (subscription :: remaining) })
        (.raised call)
  | ended (hposition : publishCall.position = .returned ∨
      ∃ remaining, publishCall.position = .raised remaining) :
      Advances call publishCall hub .nothing

theorem advances (call : ℕ) (publishCall : PublishCall α) :
    hub.Advances call publishCall (hub.advance call publishCall).1
      (hub.advance call publishCall).2 := by
  unfold advance
  cases hposition : publishCall.position with
  | scanning remaining =>
      cases remaining with
      | nil => exact .returns hposition
      | cons subscription remaining =>
          dsimp only
          split
          case isTrue hother =>
            exact .skips subscription remaining hposition (by simpa using hother)
          case isFalse hmatches =>
            split
            case isTrue => exact .findsFull subscription remaining hposition
            case isFalse hplace =>
              exact .findsPlace subscription remaining hposition (by simpa using hmatches)
                (by simpa using hplace)
  | removing subscription remaining => exact .removes subscription remaining hposition
  | putting subscription remaining =>
      dsimp only [SubscriptionQueue.put]
      by_cases hfull : (hub.queue subscription.subscriptionId).full = true
      · rw [if_pos hfull]
        exact .overflows subscription remaining hposition (of_decide_eq_true hfull)
      · rw [if_neg hfull]
        refine .puts subscription remaining hposition ?_ _ rfl
        simpa [SubscriptionQueue.full] using hfull
  | returned => exact .ended (.inl hposition)
  | raised remaining => exact .ended (.inr ⟨remaining, hposition⟩)

end PhoneAlertDeliveryHub

/-! ## What a step does to a queue -/

/-- How a queue may change: a payload leaves it at its front, or enters it where there is a
place. -/
inductive QueueMove : List (ProcessingAlertRecord α) → List (ProcessingAlertRecord α) → Prop
  | same (queue : List (ProcessingAlertRecord α)) : QueueMove queue queue
  | givesUp (payload : ProcessingAlertRecord α) (queue : List (ProcessingAlertRecord α)) :
      QueueMove (payload :: queue) queue
  | takes (queue : List (ProcessingAlertRecord α)) (payload : ProcessingAlertRecord α)
      (hplace : queue.length < queueCapacity) : QueueMove queue (queue ++ [payload])

theorem QueueMove.bounded {before after : List (ProcessingAlertRecord α)}
    (h : QueueMove before after) (hbefore : before.length ≤ queueCapacity) :
    after.length ≤ queueCapacity := by
  cases h with
  | same => exact hbefore
  | givesUp payload => exact (Nat.le_succ after.length).trans hbefore
  | takes _ payload hplace =>
      rw [List.length_append, List.length_singleton]
      exact hplace

theorem removeOldest_queue (subscription : SubscriptionQueue α) :
    subscription.removeOldest.queue = subscription.queue.tail := by
  unfold SubscriptionQueue.removeOldest
  split
  case h_1 hempty => rw [hempty, List.tail_nil]
  case h_2 payload queue hcons => rw [hcons, List.tail_cons]

theorem nextEvent_queue (subscription : SubscriptionQueue α) :
    subscription.nextEvent.1.queue = subscription.queue.tail := by
  unfold SubscriptionQueue.nextEvent
  split
  case h_1 hempty => rw [hempty, List.tail_nil]
  case h_2 payload queue hcons => rw [hcons, List.tail_cons]

theorem queueMove_tail (queue : List (ProcessingAlertRecord α)) : QueueMove queue queue.tail := by
  cases queue with
  | nil => exact .same []
  | cons payload queue => exact .givesUp payload queue

namespace PhoneAlertDeliveryHub

variable {hub : PhoneAlertDeliveryHub α}

theorem queueMove_setQueue {hub' : PhoneAlertDeliveryHub α} {subscriptionId : String}
    {queue : SubscriptionQueue α}
    (hsame : ∀ other, hub'.queue other = hub.queue other)
    (h : QueueMove (hub.queue subscriptionId).queue queue.queue) (other : String) :
    QueueMove (hub.queue other).queue ((hub'.setQueue subscriptionId queue).queue other).queue := by
  rw [queue_setQueue]
  split
  case isTrue hother =>
    rw [hother]
    exact h
  case isFalse =>
    rw [hsame]
    exact .same _

theorem Advances.queueMove {call : ℕ} {publishCall : PublishCall α}
    {hub' : PhoneAlertDeliveryHub α} {answer : HubAnswer α}
    (h : hub.Advances call publishCall hub' answer) (subscriptionId : String) :
    QueueMove (hub.queue subscriptionId).queue (hub'.queue subscriptionId).queue := by
  cases h with
  | returns hposition => exact .same _
  | skips subscription remaining hposition hother => exact .same _
  | findsFull subscription remaining hposition => exact .same _
  | findsPlace subscription remaining hposition hmatches hplace => exact .same _
  | removes subscription remaining hposition =>
      refine queueMove_setQueue (fun _ => rfl) ?_ subscriptionId
      rw [removeOldest_queue]
      exact queueMove_tail _
  | puts subscription remaining hposition hplace queue hqueue =>
      refine queueMove_setQueue (fun _ => rfl) ?_ subscriptionId
      rw [hqueue]
      exact .takes _ _ hplace
  | overflows subscription remaining hposition hfull => exact .same _
  | ended hposition => exact .same _

/-- A new subscription starts with an empty queue, which is how one that is not there reads. -/
theorem queue_subscribe (subscriptionId : String) (deviceIds cameraDeviceIds : List String)
    (sessionId : Option String) (connectedAtMs : ℤ) (other : String) :
    (hub.subscribe subscriptionId deviceIds cameraDeviceIds sessionId connectedAtMs).queue other =
      hub.queue other := by
  unfold subscribe
  split
  case isTrue hnew =>
    unfold PhoneAlertDeliveryHub.queue
    dsimp only
    rw [Dict.get?_set]
    split
    case isTrue hother => rw [hother, hnew, Option.getD_some, Option.getD_none]
    case isFalse => rfl
  case isFalse => rfl

theorem queue_publish (call : ℕ) (record : ProcessingAlertRecord α) (nowMs : ℤ) (other : String) :
    (hub.publish call record nowMs).queue other = hub.queue other := by
  unfold publish
  split
  · rfl
  split
  · rfl
  · rfl

theorem queueMove_hubStep (input : HubInput α) (subscriptionId : String) :
    QueueMove (hub.queue subscriptionId).queue
      ((hubStep hub input).1.queue subscriptionId).queue := by
  cases input with
  | subscribe id deviceIds cameraDeviceIds sessionId connectedAtMs =>
      dsimp only [hubStep]
      rw [queue_subscribe]
      exact .same _
  | unsubscribe id => exact .same _
  | publish call record nowMs =>
      dsimp only [hubStep]
      rw [queue_publish]
      exact .same _
  | advance call =>
      dsimp only [hubStep]
      cases hub.calls.get? call with
      | none => exact .same _
      | some publishCall => exact (hub.advances call publishCall).queueMove subscriptionId
  | nextEvent id =>
      have htaken : QueueMove (hub.queue id).queue (hub.queue id).nextEvent.1.queue := by
        rw [nextEvent_queue]
        exact queueMove_tail _
      exact queueMove_setQueue (fun _ => rfl) htaken subscriptionId

/-- Whether no queue holds more than its capacity. -/
def Bounded (hub : PhoneAlertDeliveryHub α) : Prop :=
  ∀ subscriptionId, (hub.queue subscriptionId).queue.length ≤ queueCapacity

theorem Bounded.step (h : hub.Bounded) (input : HubInput α) : (hubStep hub input).1.Bounded :=
  fun subscriptionId => (queueMove_hubStep input subscriptionId).bounded (h subscriptionId)

theorem bounded_after (inputs : List (HubInput α)) :
    (Machine.after hubStep ({} : PhoneAlertDeliveryHub α) inputs).Bounded :=
  Machine.invariant_after hubStep (fun _ => Nat.zero_le _) (fun _ input h => h.step input) inputs

/-! ## Promised places -/

/-- How many calls are about to put into a queue. -/
def promised (hub : PhoneAlertDeliveryHub α) (subscriptionId : String) : ℕ :=
  hub.calls.rows.countP fun entry => entry.2.position.putsInto subscriptionId

/-- What a call promises of a queue: one place or none. -/
def share (publishCall : PublishCall α) (subscriptionId : String) : ℕ :=
  if publishCall.position.putsInto subscriptionId then 1 else 0

theorem countP_cons_share (entries : List (ℕ × PublishCall α)) (call : ℕ)
    (publishCall : PublishCall α) (subscriptionId : String) :
    ((call, publishCall) :: entries).countP
        (fun entry => entry.2.position.putsInto subscriptionId) =
      entries.countP (fun entry => entry.2.position.putsInto subscriptionId) +
        share publishCall subscriptionId := by
  rw [List.countP_cons]
  rfl

/-- What a call that has moved on promises takes the place of what it promised. -/
theorem promised_of_get? {call : ℕ} {publishCall publishCall' : PublishCall α}
    (hcall : hub.calls.get? call = some publishCall) {hub' : PhoneAlertDeliveryHub α}
    (hcalls : hub'.calls = hub.calls.set call publishCall') (subscriptionId : String) :
    hub'.promised subscriptionId + share publishCall subscriptionId =
      hub.promised subscriptionId + share publishCall' subscriptionId := by
  unfold promised
  rw [hcalls, (hub.calls.rows_set_perm call publishCall').countP_eq,
    (hub.calls.rows_perm_of_get? hcall).countP_eq, countP_cons_share, countP_cons_share]
  omega

/-- A call that begins promises nothing. -/
theorem promised_publish (call : ℕ) (record : ProcessingAlertRecord α) (nowMs : ℤ)
    (subscriptionId : String) :
    (hub.publish call record nowMs).promised subscriptionId = hub.promised subscriptionId := by
  unfold publish
  split
  case isTrue => rfl
  case isFalse hnew =>
    rw [not_not] at hnew
    split
    case isTrue => rfl
    case isFalse =>
      unfold promised
      have hrows := hub.calls.rows_set_perm call
        { record := record
          subscriptions := hub.subscriptions.values
          position := .scanning hub.subscriptions.values }
      have hpop := hub.calls.rows_pop_of_absent hnew
      refine (hrows.countP_eq _).trans ?_
      rw [countP_cons_share, hpop]
      rfl

/-- A call that is about to put is one of those that a queue is promised to. -/
theorem exists_call_of_promised {subscriptionId : String} (h : 0 < hub.promised subscriptionId) :
    ∃ call publishCall, hub.calls.get? call = some publishCall ∧
      ∃ subscription remaining, publishCall.position = .putting subscription remaining ∧
        subscription.subscriptionId = subscriptionId := by
  obtain ⟨⟨call, publishCall⟩, hmem, hputs⟩ := List.countP_pos_iff.mp h
  refine ⟨call, publishCall, (hub.calls.get?_eq_some_iff).mpr hmem, ?_⟩
  dsimp only at hputs
  cases hposition : publishCall.position with
  | putting subscription remaining =>
      rw [hposition] at hputs
      exact ⟨subscription, remaining, rfl, of_decide_eq_true hputs⟩
  | _ =>
      rw [hposition] at hputs
      cases hputs

theorem promised_pos_of_get? {call : ℕ} {publishCall : PublishCall α}
    (hcall : hub.calls.get? call = some publishCall) {subscriptionId : String}
    (hputs : publishCall.position.putsInto subscriptionId = true) :
    0 < hub.promised subscriptionId :=
  List.countP_pos_iff.mpr ⟨(call, publishCall), (hub.calls.get?_eq_some_iff).mp hcall, hputs⟩

/-- The places of a queue that are taken or promised. -/
def claimed (hub : PhoneAlertDeliveryHub α) (subscriptionId : String) : ℕ :=
  (hub.queue subscriptionId).queue.length + hub.promised subscriptionId

/-- Whether no place of any queue is promised twice. -/
def Kept (hub : PhoneAlertDeliveryHub α) : Prop :=
  ∀ subscriptionId, hub.claimed subscriptionId ≤ queueCapacity

/-- Whether a step promises a place only if there is one that is not promised: when a call has
found a place, or has made one, the payloads in the queue and the other calls that are about to
put into it are together fewer than its capacity. -/
def Reserves (hub : PhoneAlertDeliveryHub α) : HubInput α → Prop
  | .advance call => ∀ publishCall, hub.calls.get? call = some publishCall →
      match publishCall.position with
      | .scanning (subscription :: _) =>
          subscription.matches publishCall.record = true →
            (hub.queue subscription.subscriptionId).full = false →
              hub.claimed subscription.subscriptionId < queueCapacity
      | .removing subscription _ =>
          (hub.queue subscription.subscriptionId).queue.tail.length +
            hub.promised subscription.subscriptionId < queueCapacity
      | _ => True
  | _ => True

theorem share_eq {publishCall : PublishCall α} {position : Position}
    (h : publishCall.position = position) (subscriptionId : String) :
    share publishCall subscriptionId = if position.putsInto subscriptionId then 1 else 0 := by
  rw [share, h]

@[simp]
theorem claimed_setQueue (subscriptionId other : String) (queue : SubscriptionQueue α) :
    (hub.setQueue subscriptionId queue).claimed other =
      (if other = subscriptionId then queue.queue.length else (hub.queue other).queue.length) +
        hub.promised other := by
  unfold claimed
  rw [queue_setQueue]
  split <;> rfl

/-- A call that moves on, and promises no place that it did not promise, claims no more. -/
theorem claimed_le_of_moves {call : ℕ} {publishCall publishCall' : PublishCall α}
    (hcall : hub.calls.get? call = some publishCall) {hub' : PhoneAlertDeliveryHub α}
    (hcalls : hub'.calls = hub.calls.set call publishCall')
    (hqueues : ∀ subscriptionId, hub'.queue subscriptionId = hub.queue subscriptionId)
    {subscriptionId : String} (hputs : publishCall'.position.putsInto subscriptionId = false) :
    hub'.claimed subscriptionId ≤ hub.claimed subscriptionId := by
  have hpromised := promised_of_get? hcall hcalls subscriptionId
  have hnone : share publishCall' subscriptionId = 0 := by
    rw [share, hputs]
    rfl
  unfold claimed
  rw [hqueues]
  omega

/-- A call that finds a place claims one more. -/
theorem claimed_findsPlace {call : ℕ} {publishCall : PublishCall α}
    (hcall : hub.calls.get? call = some publishCall) {subscription : PhoneAlertSubscription}
    {remaining : List PhoneAlertSubscription}
    (hposition : publishCall.position = .scanning (subscription :: remaining))
    (subscriptionId : String) :
    (hub.setCall call { publishCall with position := .putting subscription remaining }).claimed
        subscriptionId =
      hub.claimed subscriptionId +
        if subscription.subscriptionId = subscriptionId then 1 else 0 := by
  have hpromised := promised_of_get? hcall
    (hub.calls_setCall call { publishCall with position := .putting subscription remaining })
    subscriptionId
  rw [share_eq hposition, share_eq rfl] at hpromised
  simp only [Position.putsInto, Bool.false_eq_true, if_false, decide_eq_true_eq] at hpromised
  unfold claimed
  rw [queue_setCall]
  omega

/-- A call that removes the oldest payload claims its place, or another one if the queue has been
emptied meanwhile. -/
theorem claimed_removes {call : ℕ} {publishCall : PublishCall α}
    (hcall : hub.calls.get? call = some publishCall) {subscription : PhoneAlertSubscription}
    {remaining : List PhoneAlertSubscription}
    (hposition : publishCall.position = .removing subscription remaining)
    (subscriptionId : String) :
    ((hub.setCall call { publishCall with position := .putting subscription remaining }).setQueue
        subscription.subscriptionId
        (hub.queue subscription.subscriptionId).removeOldest).claimed subscriptionId =
      if subscription.subscriptionId = subscriptionId then
        (hub.queue subscriptionId).queue.tail.length + hub.promised subscriptionId + 1
      else hub.claimed subscriptionId := by
  have hpromised := promised_of_get? hcall
    (hub.calls_setCall call { publishCall with position := .putting subscription remaining })
    subscriptionId
  rw [share_eq hposition, share_eq rfl] at hpromised
  rw [claimed_setQueue, removeOldest_queue, queue_setCall]
  by_cases hid : subscription.subscriptionId = subscriptionId
  · simp only [Position.putsInto, hid, decide_true, if_true, Bool.false_eq_true, if_false]
      at hpromised ⊢
    omega
  · simp only [Position.putsInto, hid, decide_false, Bool.false_eq_true, if_false] at hpromised ⊢
    rw [if_neg fun h => hid h.symm]
    unfold claimed
    omega

/-- A put claims the place that was promised. -/
theorem claimed_put {call : ℕ} {publishCall : PublishCall α}
    (hcall : hub.calls.get? call = some publishCall) {subscription : PhoneAlertSubscription}
    {remaining : List PhoneAlertSubscription}
    (hposition : publishCall.position = .putting subscription remaining)
    {queue : SubscriptionQueue α}
    (hqueue : queue.queue =
      (hub.queue subscription.subscriptionId).queue ++ [publishCall.record])
    (subscriptionId : String) :
    ((hub.setCall call { publishCall with
        matched := publishCall.matched + 1
        position := .scanning remaining }).setQueue subscription.subscriptionId queue).claimed
          subscriptionId = hub.claimed subscriptionId := by
  have hpromised := promised_of_get? hcall
    (hub.calls_setCall call { publishCall with
      matched := publishCall.matched + 1
      position := .scanning remaining })
    subscriptionId
  rw [share_eq hposition, share_eq rfl] at hpromised
  rw [claimed_setQueue, hqueue, queue_setCall, List.length_append, List.length_singleton]
  unfold claimed
  by_cases hid : subscription.subscriptionId = subscriptionId
  · simp only [Position.putsInto, hid, decide_true, if_true, Bool.false_eq_true, if_false]
      at hpromised ⊢
    omega
  · simp only [Position.putsInto, hid, decide_false, Bool.false_eq_true, if_false] at hpromised
    rw [if_neg fun h => hid h.symm]
    omega

/-- A step that promises a free place keeps the places promised once. -/
theorem Kept.advances {call : ℕ} {publishCall : PublishCall α}
    (hcall : hub.calls.get? call = some publishCall) {hub' : PhoneAlertDeliveryHub α}
    {answer : HubAnswer α} (h : hub.Kept) (hreserves : hub.Reserves (.advance call))
    (hadvances : hub.Advances call publishCall hub' answer) : hub'.Kept := by
  intro subscriptionId
  have hreserves := hreserves publishCall hcall
  have hkept := h subscriptionId
  cases hadvances with
  | returns hposition =>
      have hcalls := hub.calls_finish call publishCall
      exact (claimed_le_of_moves hcall hcalls (fun _ => rfl) rfl).trans hkept
  | skips subscription remaining hposition hother =>
      exact (claimed_le_of_moves hcall (hub.calls_setCall call _) (fun _ => rfl) rfl).trans hkept
  | findsFull subscription remaining hposition =>
      exact (claimed_le_of_moves hcall (hub.calls_setCall call _) (fun _ => rfl) rfl).trans hkept
  | findsPlace subscription remaining hposition hmatches hplace =>
      rw [hposition] at hreserves
      have hfree := hreserves hmatches hplace
      rw [claimed_findsPlace hcall hposition]
      split
      case isTrue hid =>
        rw [hid] at hfree
        exact hfree
      case isFalse => exact hkept
  | removes subscription remaining hposition =>
      rw [hposition] at hreserves
      rw [claimed_removes hcall hposition]
      split
      case isTrue hid =>
        dsimp only at hreserves
        rw [hid] at hreserves
        exact hreserves
      case isFalse => exact hkept
  | puts subscription remaining hposition hplace queue hqueue =>
      exact (claimed_put hcall hposition hqueue subscriptionId).trans_le hkept
  | overflows subscription remaining hposition hfull =>
      exact (claimed_le_of_moves hcall (hub.calls_setCall call _) (fun _ => rfl) rfl).trans hkept
  | ended hposition => exact hkept

theorem Kept.step (h : hub.Kept) {input : HubInput α} (hreserves : hub.Reserves input) :
    (hubStep hub input).1.Kept := by
  cases input with
  | subscribe id deviceIds cameraDeviceIds sessionId connectedAtMs =>
      intro subscriptionId
      dsimp only [hubStep]
      have hcalls : (hub.subscribe id deviceIds cameraDeviceIds sessionId connectedAtMs).calls =
          hub.calls := by
        unfold subscribe
        split <;> rfl
      unfold claimed promised
      rw [queue_subscribe, hcalls]
      exact h subscriptionId
  | unsubscribe id => exact h
  | publish call record nowMs =>
      intro subscriptionId
      dsimp only [hubStep]
      unfold claimed
      rw [queue_publish, promised_publish]
      exact h subscriptionId
  | advance call =>
      dsimp only [hubStep]
      cases hcall : hub.calls.get? call with
      | none => exact h
      | some publishCall => exact h.advances hcall hreserves (hub.advances call publishCall)
  | nextEvent id =>
      intro subscriptionId
      have hkept := h subscriptionId
      dsimp only [hubStep]
      rw [claimed_setQueue, nextEvent_queue]
      unfold claimed at hkept
      split
      case isTrue hid =>
        rw [← hid, List.length_tail]
        omega
      case isFalse => exact hkept

/-- A call raises where it is about to put into a queue that is full. -/
theorem Advances.of_raised {call call' : ℕ} {publishCall : PublishCall α}
    {hub' : PhoneAlertDeliveryHub α} (h : hub.Advances call publishCall hub' (.raised call')) :
    ∃ subscription remaining, publishCall.position = .putting subscription remaining ∧
      queueCapacity ≤ (hub.queue subscription.subscriptionId).queue.length := by
  cases h with
  | overflows subscription remaining hposition hfull =>
      exact ⟨subscription, remaining, hposition, hfull⟩

/-- Where no place is promised twice, a call finds the place that it is about to put into. -/
theorem Kept.not_raised (h : hub.Kept) (input : HubInput α) (call : ℕ) :
    (hubStep hub input).2 ≠ .raised call := by
  cases input with
  | advance call' =>
      dsimp only [hubStep]
      cases hcall : hub.calls.get? call' with
      | none => exact nofun
      | some publishCall =>
          intro hraised
          have hadvances := hub.advances call' publishCall
          rw [hraised] at hadvances
          obtain ⟨subscription, remaining, hposition, hfull⟩ := hadvances.of_raised
          have hputs : publishCall.position.putsInto subscription.subscriptionId = true := by
            rw [hposition]
            exact decide_eq_true rfl
          have hpromised := promised_pos_of_get? hcall hputs
          have hkept := h subscription.subscriptionId
          unfold claimed at hkept
          omega
  | _ => exact nofun

/-! ## Places promised twice -/

/-- A call that is about to put raises or puts. -/
theorem advance_of_putting {call : ℕ} {publishCall : PublishCall α}
    {subscription : PhoneAlertSubscription} {remaining : List PhoneAlertSubscription}
    (hposition : publishCall.position = .putting subscription remaining) :
    (queueCapacity ≤ (hub.queue subscription.subscriptionId).queue.length ∧
        (hub.advance call publishCall).2 = .raised call) ∨
      ∃ queue : SubscriptionQueue α,
        queue.queue = (hub.queue subscription.subscriptionId).queue ++ [publishCall.record] ∧
          (hub.advance call publishCall).1 =
            (hub.setCall call { publishCall with
              matched := publishCall.matched + 1
              position := .scanning remaining }).setQueue subscription.subscriptionId queue := by
  unfold advance
  rw [hposition]
  dsimp only [SubscriptionQueue.put]
  by_cases hfull : (hub.queue subscription.subscriptionId).full = true
  · rw [if_pos hfull]
    exact .inl ⟨of_decide_eq_true hfull, rfl⟩
  · rw [if_neg hfull]
    exact .inr ⟨_, rfl, rfl⟩

/-- When more places are claimed than a queue has, the calls that are about to put fill it until
one of them raises. -/
theorem exists_raised_of_claimed {subscriptionId : String} (hbounded : hub.Bounded)
    (h : queueCapacity < hub.claimed subscriptionId) :
    ∃ calls : List ℕ, ∃ e ∈ Machine.history hubStep hub (calls.map .advance),
      e.output.isRaised = true := by
  -- By induction on the places that are still free: a put claims no other place than its own.
  induction hfree : queueCapacity - (hub.queue subscriptionId).queue.length
    using Nat.strong_induction_on generalizing hub with
  | _ free ih =>
      have hlength := hbounded subscriptionId
      have hpromised : 0 < hub.promised subscriptionId := by
        unfold claimed at h
        omega
      obtain ⟨call, publishCall, hcall, subscription, remaining, hposition, rfl⟩ :=
        exists_call_of_promised hpromised
      have hstep : hubStep hub (.advance call) = hub.advance call publishCall := by
        dsimp only [hubStep]
        rw [hcall]
      have hadvance : (queueCapacity ≤ (hub.queue subscription.subscriptionId).queue.length ∧
          (hub.advance call publishCall).2 = .raised call) ∨ _ := hub.advance_of_putting hposition
      rcases hadvance with ⟨-, hraised⟩ | ⟨queue, hqueue, hnext⟩
      · refine ⟨[call], Machine.exchange hubStep hub (.advance call),
          List.mem_singleton_self _, ?_⟩
        dsimp only [Machine.exchange]
        rw [hstep, hraised]
        rfl
      · have hbounded' := hbounded.step (.advance call)
        rw [hstep, hnext] at hbounded'
        have hclaimed := claimed_put hcall hposition hqueue subscription.subscriptionId
        have hlength' := hbounded' subscription.subscriptionId
        have hqueue' : ((hub.setCall call { publishCall with
            matched := publishCall.matched + 1
            position := .scanning remaining }).setQueue subscription.subscriptionId queue).queue
              subscription.subscriptionId = queue := by
          rw [queue_setQueue, if_pos rfl]
        rw [hqueue', hqueue, List.length_append, List.length_singleton] at hlength'
        have hfree' : queueCapacity - (((hub.setCall call { publishCall with
            matched := publishCall.matched + 1
            position := .scanning remaining }).setQueue subscription.subscriptionId queue).queue
              subscription.subscriptionId).queue.length < free := by
          rw [hqueue', hqueue, List.length_append, List.length_singleton]
          omega
        obtain ⟨calls, e, he, hraised⟩ := ih _ hfree' hbounded' (h.trans_eq hclaimed.symm) rfl
        refine ⟨call :: calls, e, List.mem_cons_of_mem _ ?_, hraised⟩
        rw [hstep, hnext]
        exact he

/-- A step that promises a place twice claims more places than there are. -/
theorem claimed_of_not_reserves {input : HubInput α} (h : ¬ hub.Reserves input) :
    ∃ subscriptionId, queueCapacity < (hubStep hub input).1.claimed subscriptionId := by
  cases input with
  | advance call =>
      unfold Reserves at h
      rw [not_forall] at h
      obtain ⟨publishCall, h⟩ := h
      rw [Classical.not_imp] at h
      obtain ⟨hcall, h⟩ := h
      have hstep : hubStep hub (.advance call) = hub.advance call publishCall := by
        dsimp only [hubStep]
        rw [hcall]
      rw [hstep]
      split at h
      case h_1 subscription remaining hposition =>
        rw [Classical.not_imp, Classical.not_imp, not_lt] at h
        obtain ⟨hmatches, hplace, hclaimed⟩ := h
        have hnext : (hub.advance call publishCall).1 =
            hub.setCall call { publishCall with position := .putting subscription remaining } := by
          simp [advance, hposition, hmatches, hplace]
        refine ⟨subscription.subscriptionId, ?_⟩
        rw [hnext, claimed_findsPlace hcall hposition, if_pos rfl]
        exact Nat.lt_succ_of_le hclaimed
      case h_2 subscription remaining hposition =>
        have hnext : (hub.advance call publishCall).1 =
            (hub.setCall call { publishCall with
              position := .putting subscription remaining }).setQueue subscription.subscriptionId
                (hub.queue subscription.subscriptionId).removeOldest := by
          simp [advance, hposition]
        refine ⟨subscription.subscriptionId, ?_⟩
        rw [hnext, claimed_removes hcall hposition, if_pos rfl]
        exact Nat.lt_succ_of_le (not_lt.mp h)
      case h_3 => exact absurd trivial h
  | _ => exact absurd trivial h

end PhoneAlertDeliveryHub

end ImageStream.Alerts
