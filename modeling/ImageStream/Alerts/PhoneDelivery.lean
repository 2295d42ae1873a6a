/-
# Delivery of alerts to phones

A phone subscribes and gets a queue of its own. An alert is published by the thread of the route
that received it: under the lock the thread takes a snapshot of the subscriptions, and then,
outside the lock, it goes through the ones that match. It puts the alert into the queue of each
in three operations of the queue: it tests whether the queue is full, removes the oldest payload
if it was, and puts its own. Any number of threads publish at once, and the phones take from
their queues meanwhile.

Each queue operation is atomic, so a run is a list of them, in any order that the threads allow.
-/

import ImageStream.Base.Machine
import ImageStream.Base.Table
import ImageStream.Base.Text

namespace ImageStream.Alerts

open Base

universe u

variable {α : Type u}

/-- `maxsize` of a subscription's queue. -/
def queueCapacity : ℕ := 50

/-- An alert as it is stored. It is also the payload that a queue holds, which is this record as
a dictionary. -/
structure ProcessingAlertRecord (α : Type u) where
  eventId : String
  cameraDevices : List String
  /-- What else the alert says. -/
  alert : α
  receivedAtMs : ℤ
  expiresAtMs : ℤ
  routingSessionId : Option String
  deriving DecidableEq

def ProcessingAlertRecord.isExpired (record : ProcessingAlertRecord α) (nowMs : ℤ) : Bool :=
  decide (record.expiresAtMs < nowMs)

/-- What a subscription is made with. -/
structure PhoneAlertSubscription where
  subscriptionId : String
  deviceIds : List String
  cameraDeviceIds : List String
  sessionId : Option String
  connectedAtMs : ℤ
  deriving DecidableEq

/-- Whether an alert is for a subscription. -/
def PhoneAlertSubscription.matches (subscription : PhoneAlertSubscription)
    (record : ProcessingAlertRecord α) : Bool :=
  (truthy subscription.sessionId && decide (record.routingSessionId = subscription.sessionId)) ||
    record.cameraDevices.any fun device => decide (device ∈ subscription.cameraDeviceIds)

/-- What changes of a subscription. -/
structure SubscriptionQueue (α : Type u) where
  queue : List (ProcessingAlertRecord α) := []
  deliveredCount : ℕ := 0
  droppedCount : ℕ := 0
  lastSentEventId : Option String := none

namespace SubscriptionQueue

def full (subscription : SubscriptionQueue α) : Bool :=
  decide (queueCapacity ≤ subscription.queue.length)

/-- `get_nowait`, which removes nothing when a phone has emptied the queue meanwhile. -/
def removeOldest (subscription : SubscriptionQueue α) : SubscriptionQueue α :=
  match subscription.queue with
  | [] => subscription
  | _ :: queue =>
      { subscription with queue := queue, droppedCount := subscription.droppedCount + 1 }

/-- `put_nowait`, which raises when the queue is full. -/
def put (subscription : SubscriptionQueue α) (payload : ProcessingAlertRecord α) :
    Option (SubscriptionQueue α) :=
  if subscription.full then none
  else
    some { subscription with
      queue := subscription.queue ++ [payload]
      deliveredCount := subscription.deliveredCount + 1
      lastSentEventId := some payload.eventId }

def nextEvent (subscription : SubscriptionQueue α) :
    SubscriptionQueue α × Option (ProcessingAlertRecord α) :=
  match subscription.queue with
  | [] => (subscription, none)
  | payload :: queue => ({ subscription with queue := queue }, some payload)

end SubscriptionQueue

/-! ## Publishing -/

/-- Where a call of `publish` stands: before a test, between the test and the removal, before a
put, or at its end. -/
inductive Position
  | scanning (remaining : List PhoneAlertSubscription)
  | removing (subscription : PhoneAlertSubscription) (remaining : List PhoneAlertSubscription)
  | putting (subscription : PhoneAlertSubscription) (remaining : List PhoneAlertSubscription)
  | returned
  /-- `queue.Full` was raised, with these subscriptions still to come. -/
  | raised (remaining : List PhoneAlertSubscription)
  deriving DecidableEq

namespace Position

/-- The subscriptions that are still to come. -/
def ahead : Position → List PhoneAlertSubscription
  | scanning remaining => remaining
  | removing subscription remaining => subscription :: remaining
  | putting subscription remaining => subscription :: remaining
  | returned => []
  | raised remaining => remaining

/-- Whether the next operation is a put into the queue of a subscription. -/
def putsInto (subscriptionId : String) : Position → Bool
  | putting subscription _ => decide (subscription.subscriptionId = subscriptionId)
  | _ => false

/-- How many operations are left at most. -/
def operationsLeft : Position → ℕ
  | scanning remaining => 3 * remaining.length + 1
  | removing _ remaining => 3 * remaining.length + 3
  | putting _ remaining => 3 * remaining.length + 2
  | returned => 0
  | raised _ => 0

end Position

/-- A call of `publish` that is not expired, with its snapshot of the subscriptions. -/
structure PublishCall (α : Type u) where
  record : ProcessingAlertRecord α
  subscriptions : List PhoneAlertSubscription
  matched : ℕ := 0
  position : Position

structure PhoneAlertDeliveryHub (α : Type u) where
  subscriptions : Dict String PhoneAlertSubscription := .empty
  /-- The queue of every subscription that was made, also of those that are gone. -/
  queues : Dict String (SubscriptionQueue α) := .empty
  /-- The calls of `publish`, also those that have ended. -/
  calls : Dict ℕ (PublishCall α) := .empty
  publishedCount : ℕ := 0
  deliveredCount : ℕ := 0
  skippedExpiredCount : ℕ := 0
  skippedUnmatchedCount : ℕ := 0

inductive HubInput (α : Type u)
  | subscribe (subscriptionId : String) (deviceIds cameraDeviceIds : List String)
      (sessionId : Option String) (connectedAtMs : ℤ)
  | unsubscribe (subscriptionId : String)
  /-- The part of `publish` under the lock. -/
  | publish (call : ℕ) (record : ProcessingAlertRecord α) (nowMs : ℤ)
  /-- The next operation of a call. -/
  | advance (call : ℕ)
  | nextEvent (subscriptionId : String)

inductive HubAnswer (α : Type u)
  | nothing
  | event (payload : Option (ProcessingAlertRecord α))
  | delivered (call : ℕ) (subscriptionId : String) (payload : ProcessingAlertRecord α)
  | returned (call matched : ℕ)
  | raised (call : ℕ)

/-- Whether a call has raised. -/
def HubAnswer.isRaised : HubAnswer α → Bool
  | .raised _ => true
  | _ => false

namespace PhoneAlertDeliveryHub

variable (hub : PhoneAlertDeliveryHub α)

/-- The queue of a subscription. -/
def queue (subscriptionId : String) : SubscriptionQueue α :=
  (hub.queues.get? subscriptionId).getD {}

def setQueue (subscriptionId : String) (queue : SubscriptionQueue α) : PhoneAlertDeliveryHub α :=
  { hub with queues := hub.queues.set subscriptionId queue }

def setCall (call : ℕ) (publishCall : PublishCall α) : PhoneAlertDeliveryHub α :=
  { hub with calls := hub.calls.set call publishCall }

/-- Make a subscription. Its id is a new UUID, which no other has had. -/
def subscribe (subscriptionId : String) (deviceIds cameraDeviceIds : List String)
    (sessionId : Option String) (connectedAtMs : ℤ) : PhoneAlertDeliveryHub α :=
  if hub.queues.get? subscriptionId = none then
    { hub with
      subscriptions := hub.subscriptions.set subscriptionId
        { subscriptionId := subscriptionId
          deviceIds := deviceIds.eraseDups
          cameraDeviceIds :=
            (if cameraDeviceIds.isEmpty then deviceIds else cameraDeviceIds).eraseDups
          sessionId := sessionId
          connectedAtMs := connectedAtMs }
      queues := hub.queues.set subscriptionId {} }
  else hub

def unsubscribe (subscriptionId : String) : PhoneAlertDeliveryHub α :=
  { hub with subscriptions := hub.subscriptions.pop subscriptionId }

/-- Begin a call of `publish`, unless the alert is expired. -/
def publish (call : ℕ) (record : ProcessingAlertRecord α) (nowMs : ℤ) : PhoneAlertDeliveryHub α :=
  if hub.calls.get? call ≠ none then hub
  else if record.isExpired nowMs then
    { hub with skippedExpiredCount := hub.skippedExpiredCount + 1 }
  else
    { hub with publishedCount := hub.publishedCount + 1 }.setCall call
      { record := record
        subscriptions := hub.subscriptions.values
        position := .scanning hub.subscriptions.values }

/-- The end of `publish`, under the lock again. -/
def finish (call : ℕ) (publishCall : PublishCall α) : PhoneAlertDeliveryHub α :=
  { hub with
    deliveredCount := hub.deliveredCount + publishCall.matched
    skippedUnmatchedCount :=
      if publishCall.matched = 0 then hub.skippedUnmatchedCount + 1
      else hub.skippedUnmatchedCount }.setCall call { publishCall with position := .returned }

/-- The next operation of a call. -/
def advance (call : ℕ) (publishCall : PublishCall α) : PhoneAlertDeliveryHub α × HubAnswer α :=
  let moveTo position := hub.setCall call { publishCall with position := position }
  match publishCall.position with
  | .scanning [] => (hub.finish call publishCall, .returned call publishCall.matched)
  | .scanning (subscription :: remaining) =>
      if !subscription.matches publishCall.record then (moveTo (.scanning remaining), .nothing)
      else if (hub.queue subscription.subscriptionId).full then
        (moveTo (.removing subscription remaining), .nothing)
      else (moveTo (.putting subscription remaining), .nothing)
  | .removing subscription remaining =>
      ((moveTo (.putting subscription remaining)).setQueue subscription.subscriptionId
        (hub.queue subscription.subscriptionId).removeOldest, .nothing)
  | .putting subscription remaining =>
      match (hub.queue subscription.subscriptionId).put publishCall.record with
      | none => (moveTo (.raised (subscription :: remaining)), .raised call)
      | some queue =>
          ((hub.setCall call { publishCall with
              matched := publishCall.matched + 1
              position := .scanning remaining }).setQueue subscription.subscriptionId queue,
            .delivered call subscription.subscriptionId publishCall.record)
  | .returned => (hub, .nothing)
  | .raised _ => (hub, .nothing)

end PhoneAlertDeliveryHub

def hubStep (hub : PhoneAlertDeliveryHub α) :
    HubInput α → PhoneAlertDeliveryHub α × HubAnswer α
  | .subscribe subscriptionId deviceIds cameraDeviceIds sessionId connectedAtMs =>
      (hub.subscribe subscriptionId deviceIds cameraDeviceIds sessionId connectedAtMs, .nothing)
  | .unsubscribe subscriptionId => (hub.unsubscribe subscriptionId, .nothing)
  | .publish call record nowMs => (hub.publish call record nowMs, .nothing)
  | .advance call =>
      match hub.calls.get? call with
      | none => (hub, .nothing)
      | some publishCall => hub.advance call publishCall
  | .nextEvent subscriptionId =>
      let (queue, payload) := (hub.queue subscriptionId).nextEvent
      (hub.setQueue subscriptionId queue, .event payload)

end ImageStream.Alerts
