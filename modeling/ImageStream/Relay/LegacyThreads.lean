/-
# The threads of the legacy relay

Producers enqueue, a worker calls the processor, the call's library draws messages from a
generator, and an operator starts, stops and clears the service. gRPC draws from a
generator in a thread of its own, which may outlive the call, so after a reconnection two
generators of one worker can be at the queue together. How often a generator is resumed and
when it is closed is up to the library.

Each thread is at one place of its code. The fields that one assignment after another sets
are set in one step.
-/

import ImageStream.Base.Crew
import ImageStream.Base.Fifo
import ImageStream.Relay.LegacyRelay

namespace ImageStream

open Base

/-- A thread at its place in the code. Generators name the worker whose stop event they
read. -/
inductive RelayThread (M : Type)
  /-- `enqueue`, once the service has been found enabled. -/
  | putting (message : M)
  | counting (message : M)
  /-- `start`, once no worker has been found alive. -/
  | starting
  | publishing (worker : ℕ)
  /-- `_run`. -/
  | looping
  | connecting
  | calling
  | waiting
  | stopped (acknowledged : Bool)
  /-- The generator of a call. -/
  | unstarted (worker : ℕ)
  | polling (worker : ℕ)
  | getting (worker : ℕ)
  | sending (worker : ℕ) (message : M)
  | yielded (worker : ℕ) (message : M)
  | exhausted (worker : ℕ)
  | closed
  /-- `stop`, and `clear` if it goes on. -/
  | stopping (clears : Bool)
  | forgetting (clears : Bool)
  | draining
  | drained (message : M)
  | resetting
  /-- A call that has returned. -/
  | returned
  /-- `task_done` has raised. -/
  | overdone
  deriving DecidableEq

/-- What the outside decides in a step. -/
inductive RelayEvent
  | proceed
  | acknowledged (ack : RelayAck)
  | raised (text : String)
  | close

/-- The service, its threads and the workers whose stop event is set. -/
structure LegacyRelay (M : Type) where
  service : RelayService M := {}
  threads : List (RelayThread M) := []
  stopEvents : List ℕ := []

/-- What a step does to the queue. -/
inductive QueueEffect (M : Type)
  | none
  | put (message : M)
  | took (message : M)

inductive RelayOp (M : Type)
  | configure (target : String) (enabled : Bool)
  | enqueue (message : M)
  | start
  | stop
  | clear
  | step (i : ℕ) (event : RelayEvent)

namespace RelayThread

variable {M : Type}

/-- Whether a thread has taken a message whose task is not done. -/
def holds : RelayThread M → Bool
  | sending _ _ | yielded _ _ | drained _ => true
  | _ => false

/-- Whether a thread is a worker that has not returned. -/
def isWorking : RelayThread M → Bool
  | looping | connecting | calling | waiting => true
  | _ => false

/-- After `stop`: `clear` goes on to drain. -/
def afterStop (clears : Bool) : RelayThread M := if clears then draining else returned

end RelayThread

namespace RelayService

variable {M : Type}

/-- The worker records an exception of its call. -/
def recordError (service : RelayService M) (text : String) : RelayService M :=
  { service with
    lastError := some text
    lastAckSuccess := some false
    errorCount := service.errorCount + 1 }

def recordAck (service : RelayService M) (ack : RelayAck) : RelayService M :=
  { service with
    lastAckSuccess := some ack.success
    lastAckReceivedCount := some ack.receivedCount
    ackReceivedCount := service.ackReceivedCount + ack.receivedCount
    lastError := if ack.success then none else some ack.message
    errorCount := service.errorCount + if ack.success then 0 else 1 }

/-- The assignments of `clear`. -/
def reset (service : RelayService M) : RelayService M :=
  { queue := service.queue
    runtime := service.runtime }

end RelayService

/-! ## Steps -/

namespace LegacyRelay

variable {M : Type} (s : LegacyRelay M)

def isAlive (worker : ℕ) : Bool :=
  match s.threads[worker]? with
  | some thread => thread.isWorking
  | none => false

/-- `stop_event.is_set() and self.queue.empty()`. -/
def finished (worker : ℕ) : Bool :=
  decide (worker ∈ s.stopEvents) && s.service.queue.items.isEmpty

/-- A thread comes to another place. -/
def moveTo (i : ℕ) (thread : RelayThread M) : LegacyRelay M :=
  { s with threads := s.threads.set i thread }

/-- A thread does its task: `none` where `task_done` raises. -/
def doneTask (i : ℕ) (thread : RelayThread M) : LegacyRelay M :=
  match s.service.queue.taskDone with
  | none => s.moveTo i .overdone
  | some queue => { s.moveTo i thread with service := { s.service with queue := queue } }

/-- A thread takes a message, if there is one. -/
def take (i : ℕ) (empty : RelayThread M) (took : M → RelayThread M) :
    LegacyRelay M × QueueEffect M :=
  match s.service.queue.get with
  | none => (s.moveTo i empty, .none)
  | some (message, queue) =>
      ({ s.moveTo i (took message) with service := { s.service with queue := queue } },
        .took message)

variable [RelayMessage M]

/-- The next step of one thread. -/
def stepThread (i : ℕ) (thread : RelayThread M) (event : RelayEvent) :
    LegacyRelay M × QueueEffect M :=
  match thread with
  | .putting message =>
      ({ s.moveTo i (.counting message) with service := s.service.put message }, .put message)
  | .counting message =>
      ({ s.moveTo i .returned with service := s.service.countEnqueued message }, .none)
  | .starting =>
      ({ s.moveTo i (.publishing s.threads.length) with
          threads := s.threads.set i (.publishing s.threads.length) ++ [.looping]
          service := { s.service with lastError := none } }, .none)
  | .publishing worker =>
      ({ s.moveTo i .returned with service := { s.service with runtime := some worker } }, .none)
  | .looping =>
      (s.moveTo i (if s.finished i then .stopped false else .connecting), .none)
  | .connecting =>
      match event with
      | .raised text =>
          ({ s.moveTo i .waiting with service := s.service.recordError text }, .none)
      | _ => ({ s with threads := s.threads.set i .calling ++ [.unstarted i] }, .none)
  | .calling =>
      match event with
      | .raised text =>
          ({ s.moveTo i .waiting with service := s.service.recordError text }, .none)
      | .acknowledged ack =>
          ({ s.moveTo i (.stopped true) with service := s.service.recordAck ack }, .none)
      | _ => (s, .none)
  | .waiting => (s.moveTo i (if i ∈ s.stopEvents then .stopped false else .looping), .none)
  | .unstarted worker =>
      match event with
      | .close => (s.moveTo i .closed, .none)
      | _ => (s.moveTo i (.polling worker), .none)
  | .polling worker =>
      (s.moveTo i (if s.finished worker then .exhausted worker else .getting worker), .none)
  -- A `get` that runs out of time comes back to the test.
  | .getting worker => s.take i (.polling worker) (.sending worker)
  | .sending worker message =>
      ({ s.moveTo i (.yielded worker message) with
          service := { s.service with sentCount := s.service.sentCount + 1 } }, .none)
  | .yielded worker _ =>
      match event with
      | .close => (s.doneTask i .closed, .none)
      | _ => (s.doneTask i (.polling worker), .none)
  | .stopping clears =>
      match s.service.runtime with
      | none => (s.moveTo i (.afterStop clears), .none)
      | some worker =>
          ({ s.moveTo i (.forgetting clears) with
              stopEvents := worker :: s.stopEvents }, .none)
  | .forgetting clears =>
      ({ s.moveTo i (.afterStop clears) with
          service := { s.service with runtime := none } }, .none)
  | .draining => s.take i .resetting .drained
  | .drained _ => (s.doneTask i .draining, .none)
  | .resetting => ({ s.moveTo i .returned with service := s.service.reset }, .none)
  | .stopped _ | .exhausted _ | .closed | .returned | .overdone => (s, .none)

end LegacyRelay

/-- A call of the service, or one step of a thread. -/
def relayStep {M : Type} [RelayMessage M] (s : LegacyRelay M) :
    RelayOp M → LegacyRelay M × QueueEffect M
  | .configure target enabled =>
      ({ s with
          service := { s.service with
            target := some target
            enabled := enabled } }, .none)
  | .enqueue message =>
      (if s.service.enabled then { s with threads := s.threads ++ [.putting message] } else s,
        .none)
  -- An empty target counts as none; the exception changes nothing.
  | .start =>
      (if s.service.enabled ∧ truthy s.service.target = true ∧
          s.service.runtime.any s.isAlive = false then
        { s with threads := s.threads ++ [.starting] }
      else
        s, .none)
  | .stop => ({ s with threads := s.threads ++ [.stopping false] }, .none)
  | .clear => ({ s with threads := s.threads ++ [.stopping true] }, .none)
  | .step i event =>
      match s.threads[i]? with
      | none => (s, .none)
      | some thread => s.stepThread i thread event

abbrev RelayExchange (M : Type) : Type :=
  Exchange (LegacyRelay M) (RelayOp M) (QueueEffect M)

end ImageStream
