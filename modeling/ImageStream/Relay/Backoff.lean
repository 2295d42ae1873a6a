/-
# Successful connections and the backoff

The worker counts its failed attempts, and the count is the exponent of the next wait. It
is to start again after a connection that has been accepted and after a poll that has found
nothing to send. `_run` learns of an acceptance by the value that `_run_connection`
returns, so a connection that has been accepted and then raises does not reset the count.

Each turn of the worker runs a whole connection here, on the store that ingest threads
change in between.
-/

import ImageStream.Relay.ConnectionRuns
import ImageStream.Relay.Lease
import ImageStream.Relay.Reconnect

namespace ImageStream

open Base LatestLive

/-! ## The attempt of a wait -/

namespace Worker

/-- The attempt number that a turn hands to `delay`, if it comes to a wait. -/
def delayAttempt? (worker : Worker) (turn : Turn) : Option ℕ :=
  if worker.status ≠ .running ∨ turn.stoppedBefore ∨ turn.stoppedAfter then
    none
  else
    match turn.result with
    | .nothingToSend | .permanentRelayError _ => none
    | .ended true => some 0
    | .ended false | .exception _ _ => some worker.attempt

variable (backoff : ReconnectBackoff) {worker : Worker} {turn : Turn}

theorem reconnect_wait : (worker.reconnect backoff turn).2 =
    if turn.stoppedAfter then none
    else (backoff.delay worker.attempt turn.randomValue).toOption := by
  unfold reconnect
  split
  · rfl
  · dsimp only
    cases backoff.delay worker.attempt turn.randomValue <;> rfl

/-- A worker that goes on after a connection has waited and counts one attempt more. -/
theorem reconnect_running (h : (worker.reconnect backoff turn).1.status = .running) :
    turn.stoppedAfter = false ∧ (worker.reconnect backoff turn).1.attempt = worker.attempt + 1 := by
  unfold reconnect at h ⊢
  cases hafter : turn.stoppedAfter with
  | true =>
      rw [hafter] at h
      cases h
  | false =>
      rw [hafter] at h
      dsimp only at h ⊢
      cases hdelay : backoff.delay worker.attempt turn.randomValue with
      | error e =>
          rw [hdelay] at h
          cases h
      | ok wait => exact ⟨rfl, rfl⟩

/-- The wait of a turn is the delay of that attempt. -/
theorem run_wait : (worker.run backoff turn).2 =
    (worker.delayAttempt? turn).bind fun attempt =>
      (backoff.delay attempt turn.randomValue).toOption := by
  unfold run delayAttempt?
  by_cases hrunning : worker.status = .running
  · cases hbefore : turn.stoppedBefore with
    | true => simp [hrunning]
    | false =>
        cases hafter : turn.stoppedAfter <;> cases turn.result with
        | nothingToSend => simp [hrunning]
        | permanentRelayError message => simp [hrunning]
        | ended connected => cases connected <;> simp [hrunning, reconnect_wait, hafter]
        | exception typeName message => simp [hrunning, reconnect_wait, hafter]
  · simp [hrunning]

/-- A worker that goes on after a turn has found nothing to send, or it counts the attempt of
its wait. -/
theorem run_running (h : (worker.run backoff turn).1.status = .running) :
    worker.status = .running ∧ turn.stoppedBefore = false ∧
      (turn.result = .nothingToSend ∧ (worker.run backoff turn).1.attempt = 0 ∨
        ∃ attempt, worker.delayAttempt? turn = some attempt ∧
          (worker.run backoff turn).1.attempt = attempt + 1) := by
  have hrunning : worker.status = .running := by
    by_contra hended
    rw [run_of_ended backoff hended] at h
    exact hended h
  refine ⟨hrunning, ?_⟩
  unfold run delayAttempt? at *
  cases hbefore : turn.stoppedBefore with
  | true => simp [hrunning, hbefore] at h
  | false =>
      cases hresult : turn.result with
      | nothingToSend => exact ⟨rfl, Or.inl ⟨rfl, by simp [hrunning]⟩⟩
      | permanentRelayError message => simp [hrunning, hbefore, hresult] at h
      | ended connected =>
          cases connected <;> simp [hrunning, hbefore, hresult] at h ⊢ <;>
            exact reconnect_running backoff h
      | exception typeName message =>
          simp [hrunning, hbefore, hresult] at h ⊢
          exact reconnect_running backoff h

end Worker

namespace RelayClient

/-! ## Accepted connections -/

section Connections

variable (env : Surroundings) (client : RelayClient)

/-- Whether the first response that a connection reads accepts its hello. -/
def Opened.accepted (opened : Opened) (s : Relaying) : List ProcessorEnvelope → Bool
  | [] => false
  | envelope :: _ => !env.stopped s.moment && (acceptHello envelope opened.config).isOk

/-- Whether the hello is accepted in a call of `_run_connection`. -/
def helloAccepted (s : Relaying) (responses : Responses) : Bool :=
  match openConnection env client s with
  | .ok (.opened opened) s' => opened.accepted env s' responses.envelopes
  | _ => false

/-- A connection that has been accepted and goes on, has met the stop event, or has raised. -/
inductive Established (connection : Connection) : Prop
  | lasting (session : connection.loop.session ≠ none) (connected : connection.loop.connected = true)
      (left : connection.left = none ∨ connection.left = some .stopped)
  | raised (e : RelayError) (left : connection.left = some (.raised e))

/-- A connection that has been left without having been accepted. -/
structure Failed (connection : Connection) : Prop where
  connected : connection.loop.connected = false
  left : connection.left ≠ none

variable {env client} {opened : Opened} {connection : Connection}
  {envelope : ProcessorEnvelope}

theorem Established.step (h : Established connection) (envelope : ProcessorEnvelope) :
    Established (envelopeStep env client opened connection envelope).1 := by
  have hcases := envelopeStep_cases env client opened connection envelope
  generalize envelopeStep env client opened connection envelope = result at hcases ⊢
  obtain ⟨after, handling⟩ := result
  cases hcases with
  | unread => exact h
  | raised => exact .raised _ rfl
  | continued was effect =>
      cases h with
      | raised e left => cases left.symm.trans was
      | lasting session connected left =>
          cases effect with
          | accepted first => exact absurd first session
          | reconciled => exact .lasting session connected (Or.inl rfl)
          | reported => exact .lasting session connected (Or.inl rfl)
          | credited => exact .lasting session connected (Or.inl rfl)
  | stopped was =>
      cases h with
      | raised e left => cases left.symm.trans was
      | lasting session connected left => exact .lasting session connected (Or.inr rfl)
  | retired was effect =>
      cases h with
      | raised e left => cases left.symm.trans was
      | lasting session connected left =>
          cases effect with
          | retired first => exact absurd first session

/-- A connection that has been left stays as it is. -/
theorem envelopeStep_of_left (h : connection.left ≠ none) :
    (envelopeStep env client opened connection envelope).1 = connection := by
  unfold envelopeStep
  cases hleft : connection.left with
  | none => exact absurd hleft h
  | some handling => rfl

/-- The first response meets the stop event, is a final rejection, or is to be an acceptance. -/
theorem handleEnvelope_first {loop : Loop} (hfirst : loop.session = none) (s : Relaying) :
    handleEnvelope env client opened loop envelope s =
      if env.stopped s.moment then .ok .stopped (tested s)
      else
        match finalRejection? envelope with
        | some rejected => rejectHello env opened rejected (tested s)
        | none => acceptSession env opened loop envelope (tested s) := by
  unfold handleEnvelope
  simp only [bind, EStateM.bind, observe, hfirst]
  cases env.stopped s.moment with
  | true => rfl
  | false => cases finalRejection? envelope <;> rfl

theorem finalRejection?_of_accepts {session : NegotiatedSession}
    (h : acceptHello envelope opened.config = .ok session) : finalRejection? envelope = none := by
  obtain ⟨accepted, rfl, -⟩ := acceptHello_eq_ok h
  rfl

/-- What a response leaves, from what its handling ensures. -/
theorem envelopeStep_of_ensures {P : Connection → Prop} {Q : Turned → Relaying → Prop}
    (hleft : connection.left = none)
    (h : Ensures (handleEnvelope env client opened connection.loop envelope) connection.relaying Q
      fun _ _ => True)
    (hnext : ∀ loop relaying, Q (.next loop) relaying → P { relaying := relaying, loop := loop })
    (hstopped : ∀ relaying, Q .stopped relaying →
      P { connection with relaying := relaying, left := some .stopped })
    (hretired : ∀ relaying, Q .retired relaying →
      P { connection with relaying := relaying, left := some .retired })
    (hraised : ∀ e relaying, P { connection with relaying := relaying, left := some (.raised e) }) :
    P (envelopeStep env client opened connection envelope).1 := by
  unfold envelopeStep
  rw [hleft]
  dsimp only
  cases hturn : handleEnvelope env client opened connection.loop envelope connection.relaying with
  | error e relaying => exact hraised e relaying
  | ok turned relaying =>
      have hQ := h.ok hturn
      cases turned with
      | next loop => exact hnext loop relaying hQ
      | stopped => exact hstopped relaying hQ
      | retired => exact hretired relaying hQ

theorem established_first {s : Relaying} {rest : List ProcessorEnvelope}
    (h : opened.accepted env s (envelope :: rest) = true) :
    Established (envelopeStep env client opened (opened.start s) envelope).1 := by
  obtain ⟨hstopped, haccepts⟩ := Bool.and_eq_true_iff.mp h
  have hstopped : env.stopped s.moment = false := by simpa using hstopped
  have hhandled : Ensures (handleEnvelope env client opened (opened.start s).loop envelope) s
      (fun turned _ => ∃ loop : Loop, turned = .next loop ∧ loop.session ≠ none ∧
        loop.connected = true) fun _ _ => True := by
    cases haccept : acceptHello envelope opened.config with
    | error e =>
        rw [haccept] at haccepts
        cases haccepts
    | ok session =>
        unfold Ensures
        rw [handleEnvelope_first rfl, hstopped, if_neg Bool.false_ne_true,
          finalRejection?_of_accepts haccept]
        apply (acceptSession_spec env opened (opened.start s).loop envelope (tested s)).imp
        · rintro _ _ ⟨session, loop, rfl, haccepted⟩
          refine ⟨loop, rfl, ?_, haccepted.connected⟩
          rw [haccepted.session]
          exact Option.some_ne_none session
        · exact fun _ _ _ => trivial
  apply envelopeStep_of_ensures rfl hhandled
  · rintro _ _ ⟨loop, heq, hsession, hconnected⟩
    cases heq
    exact .lasting hsession hconnected (Or.inl rfl)
  · rintro _ ⟨_, heq, -⟩
    cases heq
  · rintro _ ⟨_, heq, -⟩
    cases heq
  · exact fun e _ => .raised e rfl

theorem failed_first {s : Relaying} {rest : List ProcessorEnvelope}
    (h : opened.accepted env s (envelope :: rest) = false) :
    Failed (envelopeStep env client opened (opened.start s) envelope).1 := by
  have hhandled : Ensures (handleEnvelope env client opened (opened.start s).loop envelope) s
      (fun turned _ => ∀ loop, turned ≠ .next loop) fun _ _ => True := by
    unfold Ensures
    rw [handleEnvelope_first rfl]
    cases hstopped : env.stopped s.moment with
    | true => exact fun _ => nofun
    | false =>
        rw [if_neg Bool.false_ne_true]
        cases finalRejection? envelope with
        | some rejected =>
            apply (rejectHello_idles env opened rejected (tested s)).imp
            · rintro _ _ ⟨rfl, -⟩
              exact fun _ => nofun
            · exact fun _ _ _ => trivial
        | none =>
            apply (acceptSession_spec env opened (opened.start s).loop envelope (tested s)).imp
            · rintro _ _ ⟨session, loop, -, haccepted⟩
              have haccepts : opened.accepted env s (envelope :: rest) = true := by
                simp [Opened.accepted, hstopped, haccepted.accepted, Except.isOk, Except.toBool]
              rw [haccepts] at h
              cases h
            · exact fun _ _ _ => trivial
  apply envelopeStep_of_ensures rfl hhandled
  · exact fun loop _ hnot => absurd rfl (hnot loop)
  · exact fun _ _ => ⟨rfl, nofun⟩
  · exact fun _ _ => ⟨rfl, nofun⟩
  · exact fun _ _ => ⟨rfl, nofun⟩

theorem established_after {s : Relaying} {envelopes : List ProcessorEnvelope}
    (h : opened.accepted env s envelopes = true) :
    Established (Machine.after (envelopeStep env client opened) (opened.start s) envelopes) := by
  cases envelopes with
  | nil => cases h
  | cons envelope rest =>
      exact Machine.invariant_after _ (established_first h)
        (fun connection envelope hconnection => hconnection.step envelope) rest

theorem connected_after {s : Relaying} {envelopes : List ProcessorEnvelope}
    (h : opened.accepted env s envelopes = false) :
    (Machine.after (envelopeStep env client opened) (opened.start s) envelopes).loop.connected =
      false := by
  cases envelopes with
  | nil => rfl
  | cons envelope rest =>
      have hfailed := Machine.invariant_after (envelopeStep env client opened)
        (@failed_first env client opened envelope s rest h)
        (fun connection envelope hconnection => by
          rw [envelopeStep_of_left hconnection.left]
          exact hconnection) rest
      exact hfailed.connected

theorem Established.outcome (h : Established connection) (failure : Option RelayError) :
    connection.outcome failure = .ended true ∨ ∃ e, connection.outcome failure = .raised e := by
  unfold Connection.outcome
  cases h with
  | raised e left =>
      rw [left]
      exact Or.inr ⟨e, rfl⟩
  | lasting session connected left =>
      rcases left with hleft | hleft
      · rw [hleft]
        cases failure with
        | none => exact Or.inl (congrArg _ connected)
        | some e => exact Or.inr ⟨e, rfl⟩
      · rw [hleft]
        exact Or.inl (congrArg _ connected)

theorem outcome_of_unconnected (h : connection.loop.connected = false)
    (failure : Option RelayError) : connection.outcome failure ≠ .ended true := by
  unfold Connection.outcome
  split
  · exact nofun
  · exact nofun
  · exact nofun
  · rw [h]
    exact nofun

/-- A call in which the hello is accepted says so, or it raises. -/
theorem runConnection_of_accepted {s : Relaying} {responses : Responses}
    (h : helloAccepted env client s responses = true) :
    (runConnection env client s responses).2 = .ended true ∨
      ∃ e, (runConnection env client s responses).2 = .raised e := by
  unfold helloAccepted at h
  unfold runConnection
  split at h
  · rename_i opened s' hopened
    rw [hopened]
    dsimp only
    cases closeConnection env (Machine.after (envelopeStep env client opened) (opened.start s')
      responses.envelopes).relaying with
    | error e _ => exact Or.inr ⟨e, rfl⟩
    | ok _ _ => exact (established_after h).outcome responses.failure
  · cases h

/-- Only such a call says so. -/
theorem accepted_of_runConnection {s : Relaying} {responses : Responses}
    (h : (runConnection env client s responses).2 = .ended true) :
    helloAccepted env client s responses = true := by
  unfold runConnection at h
  unfold helloAccepted
  cases hopening : openConnection env client s with
  | error e s' =>
      rw [hopening] at h
      cases h
  | ok opening s' =>
      rw [hopening] at h
      cases opening with
      | nothingEligible => cases h
      | sessionInactive => cases h
      | stopped => cases h
      | opened opened =>
          by_contra haccepted
          have hunconnected := @connected_after env client opened s' responses.envelopes
            (Bool.not_eq_true _ ▸ haccepted)
          dsimp only at h
          cases hclosed : closeConnection env (Machine.after (envelopeStep env client opened)
            (opened.start s') responses.envelopes).relaying with
          | error e _ =>
              rw [hclosed] at h
              cases h
          | ok _ _ =>
              rw [hclosed] at h
              exact outcome_of_unconnected hunconnected responses.failure h

end Connections

/-! ## The worker over its connections -/

/-- What a turn of `_run` meets: the responses to its connection and the random value of its
wait. -/
structure RelayTurn where
  responses : Responses
  randomValue : ℚ

structure RelayWorker where
  worker : Worker := {}
  relaying : Relaying

/-- How `_run` sees the end of a connection. `described` gives an exception's class and text. -/
def Outcome.result (described : RelayError → String × String) : Outcome → ConnectionResult
  | .idle | .retryAtOnce => .nothingToSend
  | .ended connected => .ended connected
  | .raised (.permanentRelayError message) => .permanentRelayError message
  | .raised e => .exception (described e).1 (described e).2

/-- How a turn's call of `_run_connection` counts. -/
inductive CallEnd
  /-- The worker has ended, or the stop event is set. -/
  | uncalled
  /-- It returns `None`: there is nothing to connect for. -/
  | idlePoll
  /-- The hello has been accepted, however the connection has ended. -/
  | accepted
  | failed
  deriving DecidableEq, Repr

/-- The number of calls that have failed since the last accepted hello or idle poll, with the
latest call first. A connection whose hello was accepted is over since then, and counts. -/
def failuresSince : List CallEnd → ℕ
  | [] => 0
  | .uncalled :: calls => failuresSince calls
  | .idlePoll :: _ => 0
  | .accepted :: _ => 1
  | .failed :: calls => failuresSince calls + 1

namespace RelayWorker

section Turns

variable (described : RelayError → String × String) (env : Surroundings) (client : RelayClient)
  (backoff : ReconnectBackoff)

/-- The state in which a turn calls `_run_connection`, with a queue of its own. -/
def called (w : RelayWorker) : Relaying :=
  { w.relaying with outgoing := [], moment := w.relaying.moment + 1 }

/-- The connection of a turn. -/
def connection (w : RelayWorker) (turn : RelayTurn) : Relaying × Outcome :=
  runConnection env client w.called turn.responses

/-- A turn, with what its connection comes to. -/
def met (w : RelayWorker) (turn : RelayTurn) : Turn where
  stoppedBefore := env.stopped w.relaying.moment
  result := (w.connection env client turn).2.result described
  stoppedAfter := env.stopped (w.connection env client turn).1.moment
  randomValue := turn.randomValue

/-- Whether a turn calls `_run_connection`. -/
def calls (w : RelayWorker) : Bool :=
  w.worker.status = .running && !env.stopped w.relaying.moment

/-- One turn of `_run`, with the wait at its end. -/
def run (w : RelayWorker) (turn : RelayTurn) : RelayWorker × Option ℚ :=
  let ran := w.worker.run backoff (w.met described env client turn)
  let left := (w.connection env client turn).1
  ({ worker := ran.1
     relaying := if w.calls env then { left with moment := left.moment + 1 } else w.relaying },
    ran.2)

def callEnd (w : RelayWorker) (turn : RelayTurn) : CallEnd :=
  if ¬w.calls env then
    .uncalled
  else if helloAccepted env client w.called turn.responses then
    .accepted
  else
    match (w.connection env client turn).2 with
    | .idle | .retryAtOnce => .idlePoll
    | _ => .failed

/-- The calls of earlier turns, latest first. -/
def callEnds (past : List (Exchange RelayWorker RelayTurn (Option ℚ))) : List CallEnd :=
  (past.map fun e => e.before.callEnd env client e.input).reverse

/-- The attempt number of a turn's wait is 0 after an accepted hello, and the number of failed
calls since then, or since the last idle poll, otherwise. -/
def CountsFailures (past : List (Exchange RelayWorker RelayTurn (Option ℚ))) (w : RelayWorker)
    (turn : RelayTurn) : Prop :=
  ∀ attempt, w.worker.delayAttempt? (w.met described env client turn) = some attempt →
    attempt = if w.callEnd env client turn = .accepted then 0
      else failuresSince (callEnds env client past)

/-- A connection whose hello is accepted does not raise and then wait, unless there is no failed
call to forget. -/
def KeepsAcceptance (past : List (Exchange RelayWorker RelayTurn (Option ℚ))) (w : RelayWorker)
    (turn : RelayTurn) : Prop :=
  w.callEnd env client turn = .accepted →
    (∃ typeName message,
      (w.met described env client turn).result = .exception typeName message) →
    (w.met described env client turn).stoppedAfter = false →
    failuresSince (callEnds env client past) = 0

/-- A running worker's attempt number is the number of failed calls. -/
def Counting (past : List (Exchange RelayWorker RelayTurn (Option ℚ))) (w : RelayWorker) : Prop :=
  w.worker.status = .running → w.worker.attempt = failuresSince (callEnds env client past)

end Turns

section Run

variable {described : RelayError → String × String} {env : Surroundings} {client : RelayClient}
  {backoff : ReconnectBackoff} {w : RelayWorker} {turn : RelayTurn}
  {past : List (Exchange RelayWorker RelayTurn (Option ℚ))}

theorem callEnd_of_calls (hcalls : w.calls env = true) :
    w.callEnd env client turn =
      if helloAccepted env client w.called turn.responses then .accepted
      else
        match (w.connection env client turn).2 with
        | .idle | .retryAtOnce => .idlePoll
        | _ => .failed :=
  if_neg (not_not.mpr hcalls)

/-- An accepted call is an end that says so, or an exception. -/
theorem met_of_accepted (h : w.callEnd env client turn = .accepted) :
    (w.met described env client turn).result = .ended true ∨
      (∃ message, (w.met described env client turn).result = .permanentRelayError message) ∨
      ∃ typeName message,
        (w.met described env client turn).result = .exception typeName message := by
  unfold callEnd at h
  split at h
  · cases h
  split at h
  · rename_i haccepted
    rcases runConnection_of_accepted haccepted with hended | ⟨e, hraised⟩
    · exact Or.inl (congrArg (Outcome.result described) hended)
    · have hresult : (w.met described env client turn).result =
        Outcome.result described (.raised e) := congrArg (Outcome.result described) hraised
      rw [hresult]
      cases e with
      | permanentRelayError message => exact Or.inr (Or.inl ⟨message, rfl⟩)
      | _ => exact Or.inr (Or.inr ⟨_, _, rfl⟩)
  · split at h <;> cases h

/-- A call that says so is accepted. -/
theorem callEnd_of_ended (hcalls : w.calls env = true)
    (h : (w.met described env client turn).result = .ended true) :
    w.callEnd env client turn = .accepted := by
  have hended : (w.connection env client turn).2 = .ended true := by
    have hresult : (w.connection env client turn).2.result described = .ended true := h
    cases houtcome : (w.connection env client turn).2 with
    | idle => rw [houtcome] at hresult; cases hresult
    | retryAtOnce => rw [houtcome] at hresult; cases hresult
    | ended connected =>
        rw [houtcome] at hresult
        cases hresult
        rfl
    | raised e =>
        rw [houtcome] at hresult
        cases e <;> cases hresult
  rw [callEnd_of_calls hcalls, if_pos (accepted_of_runConnection hended)]

theorem callEnd_of_nothingToSend (hcalls : w.calls env = true)
    (h : (w.met described env client turn).result = .nothingToSend) :
    w.callEnd env client turn = .idlePoll := by
  have hresult : (w.connection env client turn).2.result described = .nothingToSend := h
  have hnot : ¬helloAccepted env client w.called turn.responses = true := by
    intro haccepted
    have hcallEnd : w.callEnd env client turn = .accepted := by
      rw [callEnd_of_calls hcalls, if_pos haccepted]
    rcases @met_of_accepted described env client w turn hcallEnd with
      hended | ⟨_, hpermanent⟩ | ⟨_, _, hraised⟩
    · cases h.symm.trans hended
    · cases h.symm.trans hpermanent
    · cases h.symm.trans hraised
  rw [callEnd_of_calls hcalls, if_neg hnot]
  cases houtcome : (w.connection env client turn).2 with
  | idle => rfl
  | retryAtOnce => rfl
  | ended connected => rw [houtcome] at hresult; cases hresult
  | raised e =>
      rw [houtcome] at hresult
      cases e <;> cases hresult

theorem nothingToSend_of_idlePoll (h : w.callEnd env client turn = .idlePoll) :
    (w.met described env client turn).result = .nothingToSend := by
  unfold callEnd at h
  split at h
  · cases h
  split at h
  · cases h
  split at h
  · rename_i houtcome
    exact congrArg (Outcome.result described) houtcome
  · rename_i houtcome
    exact congrArg (Outcome.result described) houtcome
  · cases h

/-- What a turn with a wait is: its call was made, and it has ended or raised. -/
theorem calls_of_delayAttempt {attempt : ℕ}
    (h : w.worker.delayAttempt? (w.met described env client turn) = some attempt) :
    w.calls env = true ∧ (w.met described env client turn).stoppedAfter = false ∧
      ((w.met described env client turn).result = .ended true ∧ attempt = 0 ∨
        (w.met described env client turn).result = .ended false ∧ attempt = w.worker.attempt ∨
        (∃ typeName message,
          (w.met described env client turn).result = .exception typeName message) ∧
            attempt = w.worker.attempt) := by
  unfold Worker.delayAttempt? at h
  split at h
  · cases h
  rename_i hnot
  push Not at hnot
  obtain ⟨hrunning, hbefore, hafter⟩ := hnot
  have hbefore : env.stopped w.relaying.moment = false := by simpa [met] using hbefore
  refine ⟨by simp [calls, hrunning, hbefore], by simpa using hafter, ?_⟩
  split at h
  · cases h
  · cases h
  · rename_i hresult
    exact Or.inl ⟨hresult, (Option.some.inj h).symm⟩
  · rename_i hresult
    exact Or.inr (Or.inl ⟨hresult, (Option.some.inj h).symm⟩)
  · rename_i typeName message hresult
    exact Or.inr (Or.inr ⟨⟨typeName, message, hresult⟩, (Option.some.inj h).symm⟩)

/-- A connection that raises is waited for by the worker's attempt number. -/
theorem delayAttempt_of_exception (hcalls : w.calls env = true) {typeName message : String}
    (hraised : (w.met described env client turn).result = .exception typeName message)
    (hafter : (w.met described env client turn).stoppedAfter = false) :
    w.worker.delayAttempt? (w.met described env client turn) = some w.worker.attempt := by
  obtain ⟨hrunning, hbefore⟩ := Bool.and_eq_true_iff.mp hcalls
  have hrunning := of_decide_eq_true hrunning
  have hbefore : env.stopped w.relaying.moment = false := by simpa using hbefore
  unfold Worker.delayAttempt?
  rw [if_neg, hraised]
  rintro (hended | hstopped | hstopped)
  · exact hended hrunning
  · exact Bool.false_ne_true (hbefore.symm.trans hstopped)
  · exact Bool.false_ne_true (hafter.symm.trans hstopped)

/-- While the worker counts, a turn's wait is right exactly if no acceptance is forgotten. -/
theorem countsFailures_iff (hcounting : Counting env client past w) :
    CountsFailures described env client past w turn ↔
      KeepsAcceptance described env client past w turn := by
  constructor
  · rintro h haccepted ⟨typeName, message, hraised⟩ hafter
    have hcalls : w.calls env = true := by
      by_contra hnot
      unfold callEnd at haccepted
      rw [if_pos hnot] at haccepted
      cases haccepted
    have hrunning := of_decide_eq_true (Bool.and_eq_true_iff.mp hcalls).1
    have hattempt := delayAttempt_of_exception hcalls hraised hafter
    have hzero := h _ hattempt
    rw [if_pos haccepted] at hzero
    exact (hcounting hrunning).symm.trans hzero
  · intro h attempt hattempt
    obtain ⟨hcalls, hafter, hended | ⟨hended, rfl⟩ | ⟨hraised, rfl⟩⟩ :=
      calls_of_delayAttempt hattempt
    · rw [if_pos (callEnd_of_ended hcalls hended.1)]
      exact hended.2
    all_goals
      have hrunning := of_decide_eq_true (Bool.and_eq_true_iff.mp hcalls).1
    · have hnot : w.callEnd env client turn ≠ .accepted := by
        intro haccepted
        rcases @met_of_accepted described env client w turn haccepted with
          htrue | ⟨_, hpermanent⟩ | ⟨_, _, hraised⟩
        · cases hended.symm.trans htrue
        · cases hended.symm.trans hpermanent
        · cases hended.symm.trans hraised
      rw [if_neg hnot]
      exact hcounting hrunning
    · split
      · rename_i haccepted
        exact (hcounting hrunning).trans (h haccepted hraised hafter)
      · exact hcounting hrunning

theorem callEnds_snoc (e : Exchange RelayWorker RelayTurn (Option ℚ)) :
    callEnds env client (past ++ [e]) =
      e.before.callEnd env client e.input :: callEnds env client past := by
  simp [callEnds]

/-- A turn that keeps the acceptance leaves a worker that counts. -/
theorem Counting.step (hcounting : Counting env client past w)
    (h : KeepsAcceptance described env client past w turn) :
    Counting env client
      (past ++ [Machine.exchange (run described env client backoff) w turn])
      (w.run described env client backoff turn).1 := by
  intro hrunning
  rw [callEnds_snoc]
  show (w.worker.run backoff (w.met described env client turn)).1.attempt =
    failuresSince (w.callEnd env client turn :: callEnds env client past)
  obtain ⟨hwas, hbefore, ⟨hnothing, hattempt⟩ | ⟨attempt, hwait, hattempt⟩⟩ :=
    Worker.run_running backoff hrunning
  · have hcalls : w.calls env = true := by
      have hbefore : env.stopped w.relaying.moment = false := hbefore
      simp [calls, hwas, hbefore]
    rw [hattempt, callEnd_of_nothingToSend hcalls hnothing]
    rfl
  · rw [hattempt, (countsFailures_iff hcounting).mpr h attempt hwait]
    obtain ⟨hcalls, -, hended⟩ := calls_of_delayAttempt hwait
    cases hcallEnd : w.callEnd env client turn with
    | accepted => rfl
    | failed => rfl
    | uncalled =>
        rw [callEnd_of_calls hcalls] at hcallEnd
        split at hcallEnd
        · cases hcallEnd
        split at hcallEnd <;> cases hcallEnd
    | idlePoll =>
        have hnothing := @nothingToSend_of_idlePoll described env client w turn hcallEnd
        rcases hended with ⟨htrue, -⟩ | ⟨hfalse, -⟩ | ⟨⟨_, _, hraised⟩, -⟩
        · cases hnothing.symm.trans htrue
        · cases hnothing.symm.trans hfalse
        · cases hnothing.symm.trans hraised

end Run

/-- **An acceptance is forgotten exactly by an exception.** Along every run of `_run`, the
attempt number of each wait is 0 after an accepted hello, and otherwise the number of failed
calls since the last accepted hello or idle poll, if and only if no connection whose hello was
accepted ends by an exception when there are failed calls to forget. -/
theorem countsFailures_run_iff (described : RelayError → String × String) (env : Surroundings)
    (client : RelayClient) (backoff : ReconnectBackoff) (s : Relaying) (turns : List RelayTurn) :
    Machine.EachStep (run described env client backoff) (CountsFailures described env client)
        { relaying := s } turns ↔
      Machine.EachStep (run described env client backoff) (KeepsAcceptance described env client)
        { relaying := s } turns :=
  Machine.eachStep_iff_of_invariant (run described env client backoff)
    (I := Counting env client) (fun _ => rfl)
    (fun _ _ _ hcounting h => hcounting.step h) (fun _ _ _ => countsFailures_iff) turns

/-! ### A store in which nothing has been offered -/

/-- What a client state is written to, so many moments later. -/
def written (s : Relaying) (state : RelayV2ClientState) (moments : ℕ) : Relaying :=
  { s with db := { s.db with clientState := some state }, moment := s.moment + moments }

section Unoffered

variable {env : Surroundings} {client : RelayClient} {snapshot : ClaimedFrameSet}
  {config : ProtocolConfig} {s : Relaying} {message : ProducerEnvelope}

theorem unresolvedKeys_of_unoffered {db : Database} (h : db.clientState = none) :
    unresolvedKeys db = .ok [] := by
  unfold unresolvedKeys currentInFlight Database.inFlight? Database.client
  rw [h]
  rfl

theorem ingested_of_quiet {moment : ℕ} (h : env.ingest moment = []) (db : Database) :
    ingested db (env.ingest moment) = db := by
  rw [h]
  rfl

/-- The hello of such a store. -/
theorem announce_eq_ok (hingest : ∀ moment < s.moment + 4, env.ingest moment = [])
    (hunoffered : s.db.clientState = none)
    (hbuilt : buildProducerHello client.codec config snapshot none [] snapshot.processingJobId
      (env.utcNowMs (s.moment + 3)) = .ok message) :
    announce env client snapshot config none s =
      .ok ⟨⟩ { s with outgoing := s.outgoing ++ [message], moment := s.moment + 4 } := by
  have hwatermark : offeredWatermark s.db = none := by
    unfold offeredWatermark Database.client
    rw [hunoffered]
    rfl
  have hjob : processingJobFor s.db snapshot.key.captureRunId = none := by
    unfold processingJobFor
    rw [hunoffered]
  have hmessage : buildProducerHello client.codec config snapshot none []
      (if truthy none then none else snapshot.processingJobId) (env.utcNowMs (s.moment + 1 + 1 + 1)) =
        .ok message := hbuilt
  have hquiet : ∀ moment < s.moment + 4, ingested s.db (env.ingest moment) = s.db :=
    fun moment hlt => ingested_of_quiet (hingest moment hlt) s.db
  unfold announce
  simp (disch := omega) only [bind, EStateM.bind, Action.ofExcept, bindRelayScope, pure,
    EStateM.pure, consult, transact, observe, hquiet, hwatermark,
    unresolvedKeys_of_unoffered hunoffered, hjob, hmessage]
  rfl

/-- A connection to the processor is opened. -/
theorem openConnection_eq (hingest : ∀ moment < s.moment + 8, env.ingest moment = [])
    (hchannel : ∀ moment, env.channelError moment = none)
    (hrunning : ∀ moment, env.stopped moment = false) (hunoffered : s.db.clientState = none)
    (hsnapshot : snapshotForHello s.db = .ok (some snapshot))
    (hconfig : bindAuthorizedClaim client.protocolConfig snapshot = .ok config)
    (hjob : truthy snapshot.processingJobId = false)
    (hbuilt : buildProducerHello client.codec config snapshot none [] snapshot.processingJobId
      (env.utcNowMs (s.moment + 4)) = .ok message) :
    openConnection env client s = .ok
      (.opened
        { helloSnapshot := snapshot
          config := config
          authenticated := false
          relayScope := none
          reconciled := true })
      { s with outgoing := s.outgoing ++ [message], moment := s.moment + 8 } := by
  have hquiet : ∀ moment < s.moment + 8, ingested s.db (env.ingest moment) = s.db :=
    fun moment hlt => ingested_of_quiet (hingest moment hlt) s.db
  have hannounce := @announce_eq_ok env client snapshot config { s with moment := s.moment + 1 }
    message (fun moment hlt => hingest moment (by dsimp only at hlt; omega)) hunoffered hbuilt
  unfold openConnection resolveCredential connect
  simp (disch := omega) only [bind, EStateM.bind, Action.ofExcept, pure, EStateM.pure, consult,
    transact, observe, hquiet, hsnapshot, hconfig, hjob, Bool.false_eq_true, if_false, hannounce,
    hchannel, hrunning, unresolvedKeys_of_unoffered hunoffered]
  rfl

/-- A connection with nothing in flight is closed without a write. -/
theorem closeConnection_eq (hingest : env.ingest s.moment = [])
    (hnone : s.db.inFlight? = none) :
    closeConnection env s = .ok ⟨⟩ { s with moment := s.moment + 1 } := by
  have hcurrent : currentInFlight s.db = .ok none := by
    unfold currentInFlight
    rw [hnone]
  unfold closeConnection
  simp only [bind, EStateM.bind, consult, transact, ingested_of_quiet hingest, hcurrent, pure,
    EStateM.pure]

theorem bindProcessingJob_of_unoffered {db : Database} (h : db.clientState = none)
    {captureRunId processingJobId : String} (hrun : captureRunId ≠ "")
    (hjob : processingJobId ≠ "") (timestampMs : ℤ) :
    ∃ state : RelayV2ClientState, state.inFlightFrameSetUid = none ∧
      state.watermarkFrameSetUid = none ∧
        bindProcessingJob db captureRunId processingJobId timestampMs =
          ({ db with clientState := some state }, .ok ()) := by
  unfold bindProcessingJob ensureStateRow Database.client
  rw [if_neg (by rintro (h | h); exacts [hrun h, hjob h]), h]
  dsimp only [Option.getD_some]
  rw [if_neg fun h => absurd h.1.symm (Option.some_ne_none _)]
  exact ⟨_, rfl, rfl, rfl⟩

/-- A session that is accepted, when nothing is in flight and nothing is to be reconciled. -/
theorem acceptSession_eq {opened : Opened} {loop : Loop} {envelope : ProcessorEnvelope}
    {session : NegotiatedSession} (hingest : ∀ moment < s.moment + 3, env.ingest moment = [])
    (hunoffered : s.db.clientState = none)
    (haccepts : acceptHello envelope opened.config = .ok session)
    (hrun : opened.helloSnapshot.key.captureRunId ≠ "") (hjob : session.processingJobId ≠ "")
    (hwanted : reconciliationWanted envelope = (false, "")) :
    ∃ state : RelayV2ClientState, state.inFlightFrameSetUid = none ∧
      state.watermarkFrameSetUid = none ∧
        acceptSession env opened loop envelope s =
          .ok (.next { loop with session := some session, connected := true })
            (written s state 3) := by
  obtain ⟨state, hnone, hwatermark, hbind⟩ :=
    bindProcessingJob_of_unoffered hunoffered hrun hjob (env.utcNowMs s.moment)
  have hquiet : ∀ moment < s.moment + 3, ∀ db, ingested db (env.ingest moment) = db :=
    fun moment hlt => ingested_of_quiet (hingest moment hlt)
  have hunresolved : unresolvedKeys { s.db with clientState := some state } = .ok [] := by
    unfold unresolvedKeys currentInFlight Database.inFlight? Database.client
    dsimp only [Option.getD_some]
    rw [hnone]
    rfl
  refine ⟨state, hnone, hwatermark, ?_⟩
  unfold acceptSession
  simp (disch := omega) only [bind, EStateM.bind, Action.ofExcept, haccepts, pure, EStateM.pure,
    observe, transact, consult, hquiet, hbind, hunresolved, hwanted, Bool.false_eq_true, ne_eq,
    not_true_eq_false, or_self, if_false]
  rfl

variable {opened : Opened} {s₁ : Relaying}

/-- A stream that fails before its first response. -/
theorem runConnection_of_failure (hingest : ∀ moment, env.ingest moment = [])
    (hopened : openConnection env client s = .ok (.opened opened) s₁)
    (hnone : s₁.db.inFlight? = none) (e : RelayError) :
    runConnection env client s { envelopes := [], failure := some e } =
      ({ s₁ with moment := s₁.moment + 1 }, .raised e) := by
  have hclosed : closeConnection env (opened.start s₁).relaying = _ :=
    closeConnection_eq (hingest _) hnone
  unfold runConnection
  rw [hopened]
  simp only [Machine.after, hclosed]
  rfl

/-- The step of the first response, when it accepts the hello. -/
theorem envelopeStep_of_acceptance {envelope : ProcessorEnvelope} {session : NegotiatedSession}
    (hingest : ∀ moment < s₁.moment + 4, env.ingest moment = [])
    (hrunning : env.stopped s₁.moment = false) (hunoffered : s₁.db.clientState = none)
    (haccepts : acceptHello envelope opened.config = .ok session)
    (hrun : opened.helloSnapshot.key.captureRunId ≠ "") (hjob : session.processingJobId ≠ "")
    (hwanted : reconciliationWanted envelope = (false, "")) :
    ∃ state : RelayV2ClientState, state.inFlightFrameSetUid = none ∧
      state.watermarkFrameSetUid = none ∧
        (envelopeStep env client opened (opened.start s₁) envelope).1 =
          { relaying := written s₁ state 4
            loop := { reconciled := opened.reconciled, session := some session,
                      connected := true } } := by
  obtain ⟨state, hnone, hwatermark, hsession⟩ := @acceptSession_eq env (tested s₁) opened
    (opened.start s₁).loop envelope session
    (fun moment hlt => hingest moment (by dsimp only [tested] at hlt; omega)) hunoffered haccepts
    hrun hjob hwanted
  have hhandled := @handleEnvelope_first env client opened envelope (opened.start s₁).loop rfl s₁
  rw [hrunning, if_neg Bool.false_ne_true, finalRejection?_of_accepts haccepts] at hhandled
  have hturn : handleEnvelope env client opened (opened.start s₁).loop envelope
      (opened.start s₁).relaying = _ := hhandled.trans hsession
  refine ⟨state, hnone, hwatermark, ?_⟩
  unfold envelopeStep
  dsimp only [Opened.start] at hturn ⊢
  rw [hturn]
  rfl

/-- A stream that fails after the hello has been accepted. -/
theorem runConnection_of_acceptance {envelope : ProcessorEnvelope} {session : NegotiatedSession}
    (hingest : ∀ moment, env.ingest moment = [])
    (hrunning : ∀ moment, env.stopped moment = false)
    (hopened : openConnection env client s = .ok (.opened opened) s₁)
    (hunoffered : s₁.db.clientState = none)
    (haccepts : acceptHello envelope opened.config = .ok session)
    (hrun : opened.helloSnapshot.key.captureRunId ≠ "") (hjob : session.processingJobId ≠ "")
    (hwanted : reconciliationWanted envelope = (false, "")) (e : RelayError) :
    helloAccepted env client s { envelopes := [envelope], failure := some e } = true ∧
      (runConnection env client s { envelopes := [envelope], failure := some e }).2 =
        .raised e := by
  have hhello : helloAccepted env client s { envelopes := [envelope], failure := some e } = true := by
    simp [helloAccepted, hopened, Opened.accepted, hrunning, haccepts, Except.isOk, Except.toBool]
  refine ⟨hhello, ?_⟩
  obtain ⟨state, hnone, -, hstep⟩ := @envelopeStep_of_acceptance env client opened s₁ envelope
    session (fun moment _ => hingest moment) (hrunning _) hunoffered haccepts hrun hjob hwanted
  have hclosed := @closeConnection_eq env (written s₁ state 4) (hingest _) hnone
  unfold runConnection
  rw [hopened]
  simp only [Machine.after, hstep, hclosed]
  rfl

end Unoffered

/-! ### A processor that comes back -/

/-- A claim whose manifest can be read is announced. -/
theorem exists_hello {codec : Codec} {claim : ClaimedFrameSet}
    {configs : List CaptureConfigSnapshot} {metadataByCamera : Dict String JsonFields}
    (hmanifest : manifestMembers codec claim = .ok (configs, metadataByCamera))
    (job : Option String) : ∃ hello,
    buildProducerHello codec storyConfig claim none [] job 2000 = .ok (.hello hello) ∧
      hello.captureRunId = claim.key.captureRunId := by
  unfold buildProducerHello
  exact ⟨_, bind_eq_ok.mpr ⟨_, hmanifest, bind_eq_ok.mpr
    ⟨_, construct_eq_ok_iff.mpr ⟨rfl, rfl⟩, rfl⟩⟩, rfl⟩

/-- The store with the set, at some moment of the connection. -/
def storyAt (outgoing : List ProducerEnvelope) (moment : ℕ) : Relaying where
  db := firstStored storySet 3000
  outgoing := outgoing
  moment := moment

theorem openConnection_story (moment : ℕ) : ∃ message,
    openConnection slowSurroundings storyClient (storyAt [] moment) =
      .ok (.opened storyOpened) (storyAt [message] (moment + 8)) := by
  have hstory := claimsStory_snapshot ⟨"", "", ""⟩ 0
  obtain ⟨configs, hmanifest⟩ := manifestMembers_story readsStory_storyCodec hstory.manifestJson
    hstory.members
  obtain ⟨hello, hbuilt, -⟩ := exists_hello hmanifest storySnapshot.processingJobId
  obtain ⟨-, -, -, -, -, -, -, -, -, hjob, hprofile⟩ := header_storySet
  have hconfig := @bindAuthorizedClaim_story storySnapshot hprofile
  have hjob : truthy storySnapshot.processingJobId = false := by
    show truthy storySet.processingJobId = false
    rw [hjob]
    rfl
  exact ⟨.hello hello, openConnection_eq (fun _ _ => rfl) (fun _ => rfl) (fun _ => rfl) rfl
    (snapshotForHello_firstStored inserts_storySet 3000) hconfig hjob hbuilt⟩

def storyAccepted : HelloAccepted where
  protocolVersion := 2
  schemaVersion := 1
  processingJobId := "job"
  processorInstanceId := "processor"
  streamEpoch := "epoch"
  maximumPayloadBytes := 4096
  processingProfileDigest := "profile"
  reconciliationRequired := false
  reconciliationResumeToken := ""

theorem acceptHello_story :
    acceptHello (.helloAccepted storyAccepted) storyConfig = .ok storySession := by
  simp [acceptHello, storyAccepted, storyConfig, storySession]

/-- The processor is not there. -/
def unavailableTurn : RelayTurn where
  responses := { envelopes := [], failure := some (.rpcError "UNAVAILABLE") }
  randomValue := 1 / 2

/-- It accepts the hello, and the stream fails afterwards. -/
def acceptedTurn : RelayTurn where
  responses :=
    { envelopes := [.helloAccepted storyAccepted], failure := some (.rpcError "UNAVAILABLE") }
  randomValue := 1 / 2

def describeRpc : RelayError → String × String := fun _ => ("RpcError", "UNAVAILABLE")

theorem met_of_connection {described : RelayError → String × String} {env : Surroundings}
    {client : RelayClient} {w : RelayWorker} {turn : RelayTurn} {left : Relaying}
    {outcome : Outcome} (h : w.connection env client turn = (left, outcome)) :
    w.met described env client turn =
      { stoppedBefore := env.stopped w.relaying.moment
        result := outcome.result described
        stoppedAfter := env.stopped left.moment
        randomValue := turn.randomValue } := by
  unfold met
  rw [h]

section Turn

variable {described : RelayError → String × String} {env : Surroundings} {client : RelayClient}
  {w : RelayWorker} {turn : RelayTurn}

theorem worker_run (backoff : ReconnectBackoff) :
    (w.run described env client backoff turn).1.worker =
      (w.worker.run backoff (w.met described env client turn)).1 := rfl

theorem relaying_run_of_calls (backoff : ReconnectBackoff) (hcalls : w.calls env = true)
    {left : Relaying} {outcome : Outcome}
    (hconnection : w.connection env client turn = (left, outcome)) :
    (w.run described env client backoff turn).1.relaying =
      { left with moment := left.moment + 1 } := by
  unfold run
  dsimp only
  rw [if_pos hcalls, hconnection]

end Turn

/-- The worker before its first turn. -/
def storyWorker : RelayWorker where
  relaying := storyAt [] 0

/-- The first turn fails, and the worker counts it. -/
theorem run_unavailable : ∃ message,
    ((storyWorker.run describeRpc slowSurroundings storyClient {} unavailableTurn).1).relaying =
        storyAt [message] 11 ∧
      ((storyWorker.run describeRpc slowSurroundings storyClient {} unavailableTurn).1).worker.status =
        .running ∧
      ((storyWorker.run describeRpc slowSurroundings storyClient {} unavailableTurn).1).worker.attempt =
        1 := by
  obtain ⟨message, hopened⟩ := openConnection_story 1
  have hconnection : storyWorker.connection slowSurroundings storyClient unavailableTurn =
      (storyAt [message] 10, .raised (.rpcError "UNAVAILABLE")) :=
    runConnection_of_failure (fun _ => rfl) hopened rfl _
  have hfails : (storyWorker.met describeRpc slowSurroundings storyClient unavailableTurn).Fails := by
    rw [met_of_connection hconnection]
    exact ⟨rfl, ⟨_, _, rfl⟩, rfl, by norm_num [unavailableTurn]⟩
  refine ⟨message, relaying_run_of_calls {} rfl hconnection, ?_⟩
  rw [worker_run]
  rcases @run_of_fails {} storyWorker.worker _ rfl hfails with
    ⟨-, hrunning, hattempt, -⟩ | ⟨hmany, -⟩
  · exact ⟨hrunning, hattempt⟩
  · exact absurd hmany (by decide)

/-- The acceptance does not reset the count. -/
theorem not_countsFailures_accepted {past : List (Exchange RelayWorker RelayTurn (Option ℚ))}
    {w : RelayWorker} {outgoing : List ProducerEnvelope} {moment : ℕ}
    (hrelaying : w.relaying = storyAt outgoing moment) (hrunning : w.worker.status = .running)
    (hattempt : w.worker.attempt ≠ 0) :
    ¬CountsFailures describeRpc slowSurroundings storyClient past w acceptedTurn := by
  intro h
  have hcalls : w.calls slowSurroundings = true := by
    unfold calls
    rw [hrunning]
    rfl
  have hcalled : w.called = storyAt [] (moment + 1) := by
    unfold called
    rw [hrelaying]
    rfl
  obtain ⟨message, hopened⟩ := openConnection_story (moment + 1)
  have hrun : storyOpened.helloSnapshot.key.captureRunId ≠ "" := by
    show storySet.captureRunId.getD "" ≠ ""
    rw [header_storySet.2.2.2.1]
    decide
  obtain ⟨haccepted, hraised⟩ := @runConnection_of_acceptance slowSurroundings
    _ _ _ _ (.helloAccepted storyAccepted) storySession (fun _ => rfl)
    (fun _ => rfl) hopened rfl acceptHello_story hrun (by decide) rfl
    (.rpcError "UNAVAILABLE")
  rw [← hcalled] at haccepted hraised
  have hend : w.callEnd slowSurroundings storyClient acceptedTurn = .accepted := by
    rw [callEnd_of_calls hcalls]
    exact if_pos haccepted
  have hresult : (w.met describeRpc slowSurroundings storyClient acceptedTurn).result =
      .exception "RpcError" "UNAVAILABLE" := congrArg (Outcome.result describeRpc) hraised
  have hzero := h _ (delayAttempt_of_exception hcalls hresult rfl)
  rw [if_pos hend] at hzero
  exact hattempt hzero

/-- After one failure and one acceptance the worker waits as after two failures. -/
theorem not_countsFailures_story :
    ¬Machine.EachStep (run describeRpc slowSurroundings storyClient {})
      (CountsFailures describeRpc slowSurroundings storyClient) { relaying := storyAt [] 0 }
      [unavailableTurn, acceptedTurn] := by
  intro h
  obtain ⟨message, hrelaying, hrunning, hattempt⟩ := run_unavailable
  apply not_countsFailures_accepted hrelaying hrunning _ (h [unavailableTurn] acceptedTurn [] rfl)
  rw [hattempt]
  decide

end RelayWorker

end RelayClient

end ImageStream
