/-
# What the legacy relay does with its messages

Messages leave the queue in the order in which they were put, each once, whichever threads
take them: several generators of lost calls and a `clear` may be at the queue together. Every
message that has left is in the hands of one thread until its task is done, so that
`task_done` is never called too often.
-/

import ImageStream.Relay.LegacyThreads

namespace ImageStream

open Base

variable {M : Type}

/-! ## The queue -/

def RelayExchange.put (e : RelayExchange M) : List M :=
  match e.output with
  | .put message => [message]
  | _ => []

def RelayExchange.taken (e : RelayExchange M) : List M :=
  match e.output with
  | .took message => [message]
  | _ => []

namespace LegacyRelay

/-- The messages in the queue. -/
def queued (s : LegacyRelay M) : List M := s.service.queue.items

theorem queued_moveTo (s : LegacyRelay M) (i : ℕ) (thread : RelayThread M) :
    (s.moveTo i thread).queued = s.queued := rfl

theorem queued_doneTask (s : LegacyRelay M) (i : ℕ) (thread : RelayThread M) :
    (s.doneTask i thread).queued = s.queued := by
  unfold doneTask TaskQueue.taskDone queued
  cases s.service.queue.unfinishedTasks <;> rfl

/-- What a thread takes is the first message. -/
theorem queued_take (s : LegacyRelay M) (i : ℕ) (empty : RelayThread M)
    (took : M → RelayThread M) (input : RelayOp M) :
    s.queued = RelayExchange.taken ⟨s, input, (s.take i empty took).2, (s.take i empty took).1⟩ ++
      (s.take i empty took).1.queued := by
  unfold take TaskQueue.get queued
  cases hitems : s.service.queue.items with
  | nil => exact hitems.symm
  | cons message items => rfl

theorem put_take (s : LegacyRelay M) (i : ℕ) (empty : RelayThread M) (took : M → RelayThread M)
    (input : RelayOp M) (after : LegacyRelay M) :
    RelayExchange.put ⟨s, input, (s.take i empty took).2, after⟩ = [] := by
  unfold take TaskQueue.get
  cases s.service.queue.items <;> rfl

end LegacyRelay

/-- An exchange that leaves the queue as it is. -/
theorem moves_of_queued {e : RelayExchange M} (houtput : e.output = .none)
    (hqueued : e.after.queued = e.before.queued) :
    Fifo.Moves LegacyRelay.queued RelayExchange.put RelayExchange.taken e := by
  constructor
  unfold RelayExchange.put RelayExchange.taken
  rw [houtput, hqueued, List.append_nil]
  rfl

theorem moves_take (s : LegacyRelay M) (i : ℕ) (empty : RelayThread M)
    (took : M → RelayThread M) (input : RelayOp M) :
    Fifo.Moves LegacyRelay.queued RelayExchange.put RelayExchange.taken
      ⟨s, input, (s.take i empty took).2, (s.take i empty took).1⟩ := by
  constructor
  rw [LegacyRelay.put_take, List.append_nil]
  exact s.queued_take i empty took input

/-- **Each step takes from the front of the queue or puts at its end.** -/
theorem relayStep_moves [RelayMessage M] (s : LegacyRelay M) (op : RelayOp M) :
    Fifo.Moves LegacyRelay.queued RelayExchange.put RelayExchange.taken
      (Machine.exchange relayStep s op) := by
  unfold Machine.exchange
  cases op with
  | configure target enabled => exact moves_of_queued rfl rfl
  | enqueue message =>
      refine moves_of_queued rfl ?_
      unfold relayStep
      dsimp only
      split <;> rfl
  | start =>
      refine moves_of_queued rfl ?_
      unfold relayStep
      dsimp only
      split <;> rfl
  | stop => exact moves_of_queued rfl rfl
  | clear => exact moves_of_queued rfl rfl
  | step i event =>
      unfold relayStep
      dsimp only
      cases hfound : s.threads[i]? with
      | none => exact moves_of_queued rfl rfl
      | some thread =>
          dsimp only
          unfold LegacyRelay.stepThread
          cases thread with
          | putting message => exact ⟨rfl⟩
          | counting message => exact moves_of_queued rfl rfl
          | starting => exact moves_of_queued rfl rfl
          | publishing worker => exact moves_of_queued rfl rfl
          | looping => exact moves_of_queued rfl rfl
          | connecting => cases event <;> exact moves_of_queued rfl rfl
          | calling => cases event <;> exact moves_of_queued rfl rfl
          | waiting => exact moves_of_queued rfl rfl
          | stopped acknowledged => exact moves_of_queued rfl rfl
          | unstarted worker => cases event <;> exact moves_of_queued rfl rfl
          | polling worker => exact moves_of_queued rfl rfl
          | getting worker => exact moves_take _ _ _ _ _
          | sending worker message => exact moves_of_queued rfl rfl
          | yielded worker message =>
              cases event <;> exact moves_of_queued rfl (LegacyRelay.queued_doneTask _ _ _)
          | exhausted worker => exact moves_of_queued rfl rfl
          | closed => exact moves_of_queued rfl rfl
          | stopping clears =>
              dsimp only
              cases s.service.runtime <;> exact moves_of_queued rfl rfl
          | forgetting clears => exact moves_of_queued rfl rfl
          | draining => exact moves_take _ _ _ _ _
          | drained message => exact moves_of_queued rfl (LegacyRelay.queued_doneTask _ _ _)
          | resetting => exact moves_of_queued rfl rfl
          | returned => exact moves_of_queued rfl rfl
          | overdone => exact moves_of_queued rfl rfl

/-! ## Tasks and stop events -/

namespace LegacyRelay

/-- A thread that has come to its end knows that it may: a worker without an acknowledgement
and a generator that has run out have found the stop event of the worker set. -/
def MayEnd (s : LegacyRelay M) (i : ℕ) : RelayThread M → Prop
  | .stopped acknowledged => acknowledged = false → i ∈ s.stopEvents
  | .exhausted worker => worker ∈ s.stopEvents
  | .overdone => False
  | _ => True

/-- The unfinished tasks are those in the queue and those that a thread holds. -/
structure Sound (s : LegacyRelay M) : Prop where
  tasks : s.service.queue.unfinishedTasks =
    s.queued.length + s.threads.countP RelayThread.holds
  ends : ∀ i thread, s.threads[i]? = some thread → s.MayEnd i thread

variable {s : LegacyRelay M} {i : ℕ} {thread : RelayThread M}

theorem MayEnd.mono {s' : LegacyRelay M} (hevents : ∀ w ∈ s.stopEvents, w ∈ s'.stopEvents)
    (h : s.MayEnd i thread) : s'.MayEnd i thread := by
  unfold MayEnd at h ⊢
  split at h
  · exact fun hnot => hevents _ (h hnot)
  · exact hevents _ h
  · exact h
  · trivial

/-- A thread comes to another place, while the queue loses or gains what the thread gains or
loses. -/
theorem Sound.set (h : s.Sound) (hfound : s.threads[i]? = some thread) {moved : RelayThread M}
    {service : RelayService M} {stopEvents : List ℕ}
    (hevents : ∀ w ∈ s.stopEvents, w ∈ stopEvents)
    (hends : MayEnd { s with stopEvents := stopEvents } i moved)
    (hbalance : service.queue.unfinishedTasks + s.queued.length + (if thread.holds then 1 else 0) =
      s.service.queue.unfinishedTasks + service.queue.items.length +
        if moved.holds then 1 else 0) :
    Sound
      { service := service
        threads := s.threads.set i moved
        stopEvents := stopEvents } := by
  have hcount := @Crew.countP_set_add _ s.threads i thread moved RelayThread.holds hfound
  have htasks := h.tasks
  constructor
  case tasks =>
    show service.queue.unfinishedTasks = service.queue.items.length +
      (s.threads.set i moved).countP RelayThread.holds
    omega
  case ends =>
    intro j other hother
    have hlt := (List.getElem?_eq_some_iff.mp hfound).1
    by_cases hj : i = j
    · subst hj
      rw [List.getElem?_set_self hlt] at hother
      cases hother
      exact hends.mono fun _ h => h
    · rw [List.getElem?_set_ne hj] at hother
      exact (h.ends j other hother).mono hevents

/-- A thread that holds nothing joins. -/
theorem Sound.snoc (h : s.Sound) {joined : RelayThread M} (hholds : joined.holds = false)
    (hends : s.MayEnd s.threads.length joined) :
    Sound { s with threads := s.threads ++ [joined] } := by
  constructor
  case tasks =>
    show _ = _ + (s.threads ++ [joined]).countP RelayThread.holds
    rw [Crew.countP_snoc_of_false hholds]
    exact h.tasks
  case ends =>
    intro j other hother
    rcases Crew.found_snoc hother with hold | ⟨rfl, rfl⟩
    · exact (h.ends j other hold).mono fun _ h => h
    · exact hends.mono fun _ h => h

/-- A step that leaves the queue alone. -/
theorem Sound.set_of_queue (h : s.Sound) (hfound : s.threads[i]? = some thread)
    {moved : RelayThread M} {service : RelayService M} (hqueue : service.queue = s.service.queue)
    (hholds : moved.holds = thread.holds) (hends : s.MayEnd i moved) :
    Sound
      { s with
        service := service
        threads := s.threads.set i moved } := by
  refine h.set hfound (fun _ h => h) hends ?_
  rw [hqueue, hholds]
  rfl

theorem Sound.take (h : s.Sound) (hfound : s.threads[i]? = some thread)
    {empty : RelayThread M} {took : M → RelayThread M} (hholds : thread.holds = false)
    (hempty : empty.holds = false) (htook : ∀ message, (took message).holds = true)
    (hendsEmpty : s.MayEnd i empty) (hendsTook : ∀ message, s.MayEnd i (took message)) :
    (s.take i empty took).1.Sound := by
  unfold LegacyRelay.take TaskQueue.get
  cases hitems : s.service.queue.items with
  | nil => exact h.set_of_queue hfound rfl (hempty.trans hholds.symm) hendsEmpty
  | cons message items =>
      refine h.set hfound (fun _ h => h) (hendsTook message) ?_
      unfold queued
      rw [hitems, hholds, htook]
      dsimp only [moveTo]
      rw [List.length_cons]
      simp
      omega

theorem Sound.doneTask (h : s.Sound) (hfound : s.threads[i]? = some thread)
    {moved : RelayThread M} (hholds : thread.holds = true) (hmoved : moved.holds = false)
    (hends : s.MayEnd i moved) : (s.doneTask i moved).Sound := by
  have hpos : 0 < s.threads.countP RelayThread.holds :=
    List.countP_pos_iff.mpr ⟨thread, Crew.mem_of_found hfound, hholds⟩
  have htasks := h.tasks
  unfold LegacyRelay.doneTask TaskQueue.taskDone
  cases hunfinished : s.service.queue.unfinishedTasks with
  | zero => omega
  | succ unfinished =>
      refine h.set hfound (fun _ h => h) hends ?_
      rw [hholds, hmoved, hunfinished]
      unfold queued
      simp
      omega

variable [RelayMessage M]

/-- One step of one thread. -/
theorem Sound.stepThread (h : s.Sound) (hfound : s.threads[i]? = some thread)
    (event : RelayEvent) : (s.stepThread i thread event).1.Sound := by
  have hstop : ∀ worker, s.finished worker = true → worker ∈ s.stopEvents := by
    intro worker hfinished
    unfold finished at hfinished
    rw [Bool.and_eq_true, decide_eq_true_eq] at hfinished
    exact hfinished.1
  unfold LegacyRelay.stepThread
  cases thread with
  | putting message =>
      refine h.set hfound (fun _ h => h) trivial ?_
      unfold RelayService.put TaskQueue.put queued RelayThread.holds
      simp
      omega
  | counting message => exact h.set_of_queue hfound rfl rfl trivial
  | starting =>
      have hmoved : Sound
          { s with
            service := { s.service with lastError := none }
            threads := s.threads.set i (.publishing s.threads.length) } :=
        h.set_of_queue hfound rfl rfl trivial
      exact hmoved.snoc (rfl : (RelayThread.looping : RelayThread M).holds = false) trivial
  | publishing worker => exact h.set_of_queue hfound rfl rfl trivial
  | looping =>
      dsimp only
      split
      · rename_i hfinished
        exact h.set_of_queue hfound rfl rfl fun _ => hstop i hfinished
      · exact h.set_of_queue hfound rfl rfl trivial
  | connecting =>
      have hcalls := (h.set_of_queue hfound rfl rfl trivial :
        Sound { s with threads := s.threads.set i .calling }).snoc
          (rfl : (RelayThread.unstarted i : RelayThread M).holds = false) trivial
      cases event with
      | raised text => exact h.set_of_queue hfound rfl rfl trivial
      | proceed => exact hcalls
      | acknowledged ack => exact hcalls
      | close => exact hcalls
  | calling =>
      cases event with
      | raised text => exact h.set_of_queue hfound rfl rfl trivial
      | acknowledged ack => exact h.set_of_queue hfound rfl rfl fun hnot => by cases hnot
      | proceed => exact h
      | close => exact h
  | waiting =>
      dsimp only
      split
      · rename_i hmem
        exact h.set_of_queue hfound rfl rfl fun _ => hmem
      · exact h.set_of_queue hfound rfl rfl trivial
  | stopped acknowledged => exact h
  | unstarted worker => cases event <;> exact h.set_of_queue hfound rfl rfl trivial
  | polling worker =>
      dsimp only
      split
      · rename_i hfinished
        exact h.set_of_queue hfound rfl rfl (hstop worker hfinished)
      · exact h.set_of_queue hfound rfl rfl trivial
  | getting worker =>
      exact h.take hfound rfl rfl (fun _ => rfl) trivial fun _ => trivial
  | sending worker message => exact h.set_of_queue hfound rfl rfl trivial
  | yielded worker message => cases event <;> exact h.doneTask hfound rfl rfl trivial
  | exhausted worker => exact h
  | closed => exact h
  | stopping clears =>
      have hends : ∀ t : LegacyRelay M, t.MayEnd i (.afterStop clears) := by
        intro t
        cases clears <;> trivial
      have hholds : (RelayThread.afterStop clears : RelayThread M).holds = false := by
        cases clears <;> rfl
      dsimp only
      cases s.service.runtime with
      | none => exact h.set_of_queue hfound rfl hholds (hends s)
      | some worker =>
          exact h.set hfound (fun _ hmem => List.mem_cons_of_mem _ hmem) trivial rfl
  | forgetting clears =>
      have hends : s.MayEnd i (.afterStop clears) := by cases clears <;> trivial
      have hholds : (RelayThread.afterStop clears : RelayThread M).holds = false := by
        cases clears <;> rfl
      exact h.set_of_queue hfound rfl hholds hends
  | draining => exact h.take hfound rfl rfl (fun _ => rfl) trivial fun _ => trivial
  | drained message => exact h.doneTask hfound rfl rfl trivial
  | resetting => exact h.set_of_queue hfound rfl rfl trivial
  | returned => exact h
  | overdone => exact h

theorem Sound.step (h : s.Sound) (op : RelayOp M) : (relayStep s op).1.Sound := by
  cases op with
  | configure target enabled => exact ⟨h.tasks, h.ends⟩
  | enqueue message =>
      unfold relayStep
      dsimp only
      split
      · exact h.snoc rfl trivial
      · exact h
  | start =>
      unfold relayStep
      dsimp only
      split
      · exact h.snoc rfl trivial
      · exact h
  | stop => exact h.snoc rfl trivial
  | clear => exact h.snoc rfl trivial
  | step i event =>
      unfold relayStep
      dsimp only
      cases hfound : s.threads[i]? with
      | none => exact h
      | some thread => exact h.stepThread hfound event

theorem Sound.after (h : s.Sound) (ops : List (RelayOp M)) :
    (Machine.after relayStep s ops).Sound := by
  induction ops generalizing s with
  | nil => exact h
  | cons op ops ih => exact ih (h.step op)

end LegacyRelay

/-! ## The counters -/

namespace RelayThread

def isCounting : RelayThread M → Bool
  | counting _ => true
  | _ => false

def isSending : RelayThread M → Bool
  | sending _ _ => true
  | _ => false

/-- Whether a thread belongs to a `clear`. -/
def clears : RelayThread M → Bool
  | stopping clears | forgetting clears => clears
  | draining | drained _ | resetting => true
  | _ => false

end RelayThread

namespace LegacyRelay

/-- The counters are behind what has been put and taken by the threads that have yet to
count. -/
structure Counted (s : LegacyRelay M) (put taken : ℕ) : Prop where
  uncleared : ∀ thread ∈ s.threads, thread.clears = false
  enqueued : s.service.enqueuedCount + s.threads.countP RelayThread.isCounting = put
  sent : s.service.sentCount + s.threads.countP RelayThread.isSending = taken

variable {s : LegacyRelay M} {i : ℕ} {thread : RelayThread M} {put taken put' taken' : ℕ}

theorem Counted.set (h : s.Counted put taken) (hfound : s.threads[i]? = some thread)
    {moved : RelayThread M} {service : RelayService M} {stopEvents : List ℕ}
    (hclears : moved.clears = false)
    (henqueued : service.enqueuedCount + put + (if moved.isCounting then 1 else 0) =
      s.service.enqueuedCount + put' + if thread.isCounting then 1 else 0)
    (hsent : service.sentCount + taken + (if moved.isSending then 1 else 0) =
      s.service.sentCount + taken' + if thread.isSending then 1 else 0) :
    Counted
      { service := service
        threads := s.threads.set i moved
        stopEvents := stopEvents } put' taken' := by
  have hcounting := @Crew.countP_set_add _ s.threads i thread moved RelayThread.isCounting hfound
  have hsending := @Crew.countP_set_add _ s.threads i thread moved RelayThread.isSending hfound
  have hput := h.enqueued
  have htaken := h.sent
  constructor
  case uncleared => exact Crew.forall_set h.uncleared hclears
  case enqueued =>
    show service.enqueuedCount + (s.threads.set i moved).countP RelayThread.isCounting = put'
    omega
  case sent =>
    show service.sentCount + (s.threads.set i moved).countP RelayThread.isSending = taken'
    omega

/-- A step that has nothing to do with the counters. -/
theorem Counted.set_of_same (h : s.Counted put taken) (hfound : s.threads[i]? = some thread)
    {moved : RelayThread M} {service : RelayService M} {stopEvents : List ℕ}
    (hclears : moved.clears = false)
    (henqueued : service.enqueuedCount = s.service.enqueuedCount)
    (hsent : service.sentCount = s.service.sentCount)
    (hcounting : moved.isCounting = thread.isCounting)
    (hsending : moved.isSending = thread.isSending) :
    Counted
      { service := service
        threads := s.threads.set i moved
        stopEvents := stopEvents } put taken := by
  refine h.set hfound hclears ?_ ?_
  · rw [henqueued, hcounting]
  · rw [hsent, hsending]

theorem Counted.snoc (h : s.Counted put taken) {joined : RelayThread M}
    (hclears : joined.clears = false) (hcounting : joined.isCounting = false)
    (hsending : joined.isSending = false) :
    Counted { s with threads := s.threads ++ [joined] } put taken := by
  constructor
  case uncleared => exact Crew.forall_snoc h.uncleared hclears
  case enqueued =>
    show _ + (s.threads ++ [joined]).countP RelayThread.isCounting = _
    rw [Crew.countP_snoc_of_false hcounting]
    exact h.enqueued
  case sent =>
    show _ + (s.threads ++ [joined]).countP RelayThread.isSending = _
    rw [Crew.countP_snoc_of_false hsending]
    exact h.sent

theorem Counted.doneTask (h : s.Counted put taken) (hfound : s.threads[i]? = some thread)
    {moved : RelayThread M} (hclears : moved.clears = false)
    (hcounting : moved.isCounting = thread.isCounting)
    (hsending : moved.isSending = thread.isSending) (hthread : thread.isCounting = false)
    (hthread' : thread.isSending = false) : (s.doneTask i moved).Counted put taken := by
  unfold LegacyRelay.doneTask
  cases s.service.queue.taskDone with
  | none => exact h.set_of_same hfound rfl rfl rfl hthread.symm hthread'.symm
  | some queue => exact h.set_of_same hfound hclears rfl rfl hcounting hsending

variable [RelayMessage M]

/-- One step of a thread that does not clear. -/
theorem Counted.stepThread (h : s.Counted put taken) (hfound : s.threads[i]? = some thread)
    (event : RelayEvent) (input : RelayOp M) :
    (s.stepThread i thread event).1.Counted
      (put + (RelayExchange.put ⟨s, input, (s.stepThread i thread event).2,
        (s.stepThread i thread event).1⟩).length)
      (taken + (RelayExchange.taken ⟨s, input, (s.stepThread i thread event).2,
        (s.stepThread i thread event).1⟩).length) := by
  have hclears := h.uncleared thread (Crew.mem_of_found hfound)
  have hsame : ∀ {moved : RelayThread M} {service : RelayService M} {stopEvents : List ℕ},
      moved.clears = false → service.enqueuedCount = s.service.enqueuedCount →
      service.sentCount = s.service.sentCount → moved.isCounting = thread.isCounting →
      moved.isSending = thread.isSending →
      Counted { service := service, threads := s.threads.set i moved, stopEvents := stopEvents }
        put taken := h.set_of_same hfound
  unfold LegacyRelay.stepThread
  cases thread with
  | putting message => exact h.set hfound rfl rfl rfl
  | counting message =>
      refine h.set hfound rfl ?_ rfl
      show s.service.enqueuedCount + 1 + put + 0 = s.service.enqueuedCount + (put + 0) + 1
      omega
  | starting =>
      have hmoved : Counted
          { s with
            service := { s.service with lastError := none }
            threads := s.threads.set i (.publishing s.threads.length) } put taken :=
        hsame rfl rfl rfl rfl rfl
      exact hmoved.snoc (rfl : (RelayThread.looping : RelayThread M).clears = false) rfl rfl
  | publishing worker => exact hsame rfl rfl rfl rfl rfl
  | looping =>
      dsimp only
      split <;> exact hsame rfl rfl rfl rfl rfl
  | connecting =>
      have hcalls := (hsame rfl rfl rfl rfl rfl :
        Counted { s with threads := s.threads.set i .calling } put taken).snoc
          (rfl : (RelayThread.unstarted i : RelayThread M).clears = false) rfl rfl
      cases event with
      | raised text => exact hsame rfl rfl rfl rfl rfl
      | proceed => exact hcalls
      | acknowledged ack => exact hcalls
      | close => exact hcalls
  | calling =>
      cases event with
      | raised text => exact hsame rfl rfl rfl rfl rfl
      | acknowledged ack => exact hsame rfl rfl rfl rfl rfl
      | proceed => exact h
      | close => exact h
  | waiting =>
      dsimp only
      split <;> exact hsame rfl rfl rfl rfl rfl
  | stopped acknowledged => exact h
  | unstarted worker => cases event <;> exact hsame rfl rfl rfl rfl rfl
  | polling worker =>
      dsimp only
      split <;> exact hsame rfl rfl rfl rfl rfl
  | getting worker =>
      unfold LegacyRelay.take TaskQueue.get
      cases s.service.queue.items with
      | nil => exact hsame rfl rfl rfl rfl rfl
      | cons message items => exact h.set hfound rfl rfl rfl
  | sending worker message =>
      refine h.set hfound rfl rfl ?_
      show s.service.sentCount + 1 + taken + 0 = s.service.sentCount + (taken + 0) + 1
      omega
  | yielded worker message => cases event <;> exact h.doneTask hfound rfl rfl rfl rfl rfl
  | exhausted worker => exact h
  | closed => exact h
  | stopping clears =>
      obtain rfl : clears = false := hclears
      dsimp only
      cases s.service.runtime <;> exact hsame rfl rfl rfl rfl rfl
  | forgetting clears =>
      obtain rfl : clears = false := hclears
      exact hsame rfl rfl rfl rfl rfl
  | draining => cases hclears
  | drained message => cases hclears
  | resetting => cases hclears
  | returned => exact h
  | overdone => exact h

theorem Counted.step (h : s.Counted put taken) {op : RelayOp M} (hop : op ≠ .clear) :
    (relayStep s op).1.Counted
      (put + (RelayExchange.put (Machine.exchange relayStep s op)).length)
      (taken + (RelayExchange.taken (Machine.exchange relayStep s op)).length) := by
  unfold Machine.exchange
  cases op with
  | configure target enabled => exact ⟨h.uncleared, h.enqueued, h.sent⟩
  | enqueue message =>
      unfold relayStep
      dsimp only
      split
      · exact h.snoc rfl rfl rfl
      · exact h
  | start =>
      unfold relayStep
      dsimp only
      split
      · exact h.snoc rfl rfl rfl
      · exact h
  | stop => exact h.snoc rfl rfl rfl
  | clear => exact absurd rfl hop
  | step i event =>
      unfold relayStep
      dsimp only
      cases hfound : s.threads[i]? with
      | none => exact h
      | some thread => exact h.stepThread hfound event (.step i event)

theorem Counted.after (h : s.Counted put taken) {ops : List (RelayOp M)}
    (hops : ∀ op ∈ ops, op ≠ .clear) :
    (Machine.after relayStep s ops).Counted
      (put + ((Machine.history relayStep s ops).flatMap RelayExchange.put).length)
      (taken + ((Machine.history relayStep s ops).flatMap RelayExchange.taken).length) := by
  induction ops generalizing s put taken with
  | nil => exact h
  | cons op ops ih =>
      have hnext := ih (h.step (hops op List.mem_cons_self)) fun other hother =>
        hops other (List.mem_cons_of_mem _ hother)
      rw [Machine.after_cons, Machine.history, List.flatMap_cons, List.flatMap_cons,
        List.length_append, List.length_append, ← Nat.add_assoc, ← Nat.add_assoc]
      exact hnext

end LegacyRelay

/-! ## Runs -/

/-- **The legacy relay keeps its messages.** In every interleaving of producers, workers, the
generators of their calls and operators: what has been taken from the queue, in the order of
taking, followed by what is in it, is what has been put into it, in the order of putting. Each
message is in the queue, in the hands of one thread, or done, so `task_done` never raises. A
worker that has no acknowledgement, and a generator that has not been closed, end only after the
worker's stop event was set. And until somebody clears, the counters are exact. -/
theorem legacy_relay_keeps_messages [RelayMessage M] (ops : List (RelayOp M)) :
    let history := Machine.history relayStep ({} : LegacyRelay M) ops
    let s := Machine.after relayStep ({} : LegacyRelay M) ops
    history.flatMap RelayExchange.put = history.flatMap RelayExchange.taken ++ s.queued ∧
    s.service.queue.unfinishedTasks = s.queued.length + s.threads.countP RelayThread.holds ∧
    (∀ i thread, s.threads[i]? = some thread → s.MayEnd i thread) ∧
    ((∀ op ∈ ops, op ≠ .clear) →
      s.service.enqueuedCount + s.threads.countP RelayThread.isCounting =
        (history.flatMap RelayExchange.put).length ∧
      s.service.sentCount + s.threads.countP RelayThread.isSending =
        (history.flatMap RelayExchange.taken).length) := by
  intro history s
  have hempty : LegacyRelay.Sound ({} : LegacyRelay M) := ⟨rfl, fun i thread h => by cases h⟩
  have hsound := hempty.after ops
  have hcounted : LegacyRelay.Counted ({} : LegacyRelay M) 0 0 :=
    ⟨fun _ h => (by cases h), rfl, rfl⟩
  refine ⟨?_, hsound.tasks, hsound.ends, fun hops => ?_⟩
  · exact Fifo.history_balance relayStep_moves ({} : LegacyRelay M) ops
  · have hcounts := hcounted.after hops
    rw [Nat.zero_add, Nat.zero_add] at hcounts
    exact ⟨hcounts.enqueued, hcounts.sent⟩

end ImageStream
