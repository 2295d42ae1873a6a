/-
# Reconnecting after a failed connection

The relay worker waits between two connection attempts for a time that doubles with
every failure, is capped, and is spread by a random jitter. The power is computed
before it is capped, and outside the block that catches exceptions: a float times an
integer that no float can hold raises, and the exception ends the thread.

Floats are exact rationals here, apart from the conversion of large integers.
-/

import ImageStream.Base.Machine
import Mathlib.Algebra.Order.Field.Rat
import Mathlib.Tactic.Linarith

namespace ImageStream

open Base

/-! ## The wait -/

inductive FloatError
  | overflowError
  deriving DecidableEq, Repr

/-- A float times an integer, which is converted to a float first. -/
def floatMulInt (x : ℚ) (n : ℤ) : Except FloatError ℚ :=
  if 2 ^ 1024 ≤ n then .error .overflowError else .ok (x * n)

structure ReconnectBackoff where
  initialSec : ℚ := 1 / 10
  maximumSec : ℚ := 5
  jitterRatio : ℚ := 1 / 5

namespace ReconnectBackoff

/-- The random value is `random.random()` when none is given. -/
def delay (backoff : ReconnectBackoff) (attempt : ℤ) (randomValue : ℚ) :
    Except FloatError ℚ :=
  match floatMulInt backoff.initialSec (2 ^ (max attempt 0).toNat) with
  | .error e => .error e
  | .ok power =>
      let base := min backoff.maximumSec power
      let jitter := (randomValue * 2 - 1) * backoff.jitterRatio
      .ok (max 0 (base * (1 + jitter)))

/-- The wait is computed exactly below the attempt whose power no float can hold. -/
theorem delay_ok_iff (backoff : ReconnectBackoff) (attempt : ℕ) (randomValue : ℚ) :
    (∃ wait, backoff.delay attempt randomValue = .ok wait) ↔ attempt < 1024 := by
  have hattempt : (max (attempt : ℤ) 0).toNat = attempt := by simp
  dsimp only [delay]
  rw [hattempt, floatMulInt]
  by_cases h : attempt < 1024
  · have hpower : ¬(2 : ℤ) ^ 1024 ≤ 2 ^ attempt := by
      rw [not_le]
      exact pow_lt_pow_right₀ (by norm_num) h
    rw [if_neg hpower]
    exact ⟨fun _ => h, fun _ => ⟨_, rfl⟩⟩
  · have hpower : (2 : ℤ) ^ 1024 ≤ 2 ^ attempt :=
      pow_le_pow_right₀ (by norm_num) (not_lt.mp h)
    rw [if_pos hpower]
    exact ⟨fun ⟨_, hwait⟩ => (nomatch hwait), fun hlt => absurd hlt h⟩

/-- A wait is never negative, and never above the cap with its jitter. -/
theorem delay_bounds {backoff : ReconnectBackoff} (hinitial : 0 ≤ backoff.initialSec)
    (hmaximum : 0 ≤ backoff.maximumSec) (hjitter : 0 ≤ backoff.jitterRatio) {attempt : ℤ}
    {randomValue wait : ℚ} (hrandom : randomValue < 1)
    (h : backoff.delay attempt randomValue = .ok wait) :
    0 ≤ wait ∧ wait ≤ backoff.maximumSec * (1 + backoff.jitterRatio) := by
  dsimp only [delay] at h
  split at h
  · cases h
  rename_i power hpower
  have hbase : 0 ≤ min backoff.maximumSec power := by
    unfold floatMulInt at hpower
    split at hpower
    · cases hpower
    · cases hpower
      exact le_min hmaximum (mul_nonneg hinitial (by positivity))
  have hspread : 1 + (randomValue * 2 - 1) * backoff.jitterRatio ≤ 1 + backoff.jitterRatio := by
    have hle : (randomValue * 2 - 1) * backoff.jitterRatio ≤ 1 * backoff.jitterRatio :=
      mul_le_mul_of_nonneg_right (by linarith) hjitter
    linarith
  cases h
  refine ⟨le_max_left _ _, max_le (mul_nonneg hmaximum (by linarith)) ?_⟩
  calc min backoff.maximumSec power * (1 + (randomValue * 2 - 1) * backoff.jitterRatio)
      ≤ min backoff.maximumSec power * (1 + backoff.jitterRatio) :=
        mul_le_mul_of_nonneg_left hspread hbase
    _ ≤ backoff.maximumSec * (1 + backoff.jitterRatio) :=
        mul_le_mul_of_nonneg_right (min_le_left _ _) (by linarith)

end ReconnectBackoff

/-! ## The worker -/

/-- How `_run_connection` ends. -/
inductive ConnectionResult
  /-- It returns `None`. -/
  | nothingToSend
  /-- It returns whether a session has been accepted. -/
  | ended (connected : Bool)
  | permanentRelayError (message : String)
  | exception (typeName message : String)
  deriving DecidableEq, Repr

/-- One turn of the loop: the stop event where it is tested, the connection and the
random value of the wait. -/
structure Turn where
  stoppedBefore : Bool := false
  result : ConnectionResult
  stoppedAfter : Bool := false
  randomValue : ℚ

inductive WorkerStatus
  | running
  | returned
  /-- An exception has left the loop and ended the thread. -/
  | raised (e : FloatError)
  deriving DecidableEq, Repr

structure Worker where
  status : WorkerStatus := .running
  attempt : ℕ := 0
  lastError : Option String := none
  reconnectCount : ℕ := 0
  deriving DecidableEq

namespace Worker

/-- The part of a turn after a connection that has ended. -/
def reconnect (backoff : ReconnectBackoff) (worker : Worker) (turn : Turn) :
    Worker × Option ℚ :=
  if turn.stoppedAfter then
    ({ worker with status := .returned }, none)
  else
    let counted := { worker with reconnectCount := worker.reconnectCount + 1 }
    match backoff.delay counted.attempt turn.randomValue with
    | .error e => ({ counted with status := .raised e }, none)
    | .ok wait => ({ counted with attempt := counted.attempt + 1 }, some wait)

/-- One turn of `_run`, with the wait at its end. -/
def run (backoff : ReconnectBackoff) (worker : Worker) (turn : Turn) : Worker × Option ℚ :=
  if worker.status ≠ .running then
    (worker, none)
  else if turn.stoppedBefore then
    ({ worker with status := .returned }, none)
  else
    match turn.result with
    | .nothingToSend => ({ worker with attempt := 0 }, none)
    | .ended true => { worker with attempt := 0 }.reconnect backoff turn
    | .ended false => worker.reconnect backoff turn
    | .permanentRelayError message =>
        ({ worker with status := .returned, lastError := some message }, none)
    | .exception typeName message =>
        { worker with lastError := some (typeName ++ ": " ++ message) }.reconnect backoff turn

end Worker

/-- Whether the connection of a turn fails with an ordinary exception. -/
structure Turn.Fails (turn : Turn) : Prop where
  before : turn.stoppedBefore = false
  exception : ∃ typeName message, turn.result = .exception typeName message
  after : turn.stoppedAfter = false
  random : 0 ≤ turn.randomValue ∧ turn.randomValue < 1

section Run

variable (backoff : ReconnectBackoff) {worker : Worker} {turn : Turn}

/-- A failing turn of a running worker waits and counts, or raises. -/
theorem run_of_fails (hrunning : worker.status = .running) (hfails : turn.Fails) :
    (worker.attempt < 1024 ∧ (worker.run backoff turn).1.status = .running ∧
      (worker.run backoff turn).1.attempt = worker.attempt + 1 ∧
      ∃ wait, (worker.run backoff turn).2 = some wait ∧
        backoff.delay worker.attempt turn.randomValue = .ok wait) ∨
    (1024 ≤ worker.attempt ∧
      (worker.run backoff turn).1.status = .raised .overflowError) := by
  obtain ⟨typeName, message, hresult⟩ := hfails.exception
  have hrun : worker.run backoff turn =
      { worker with lastError := some (typeName ++ ": " ++ message) }.reconnect backoff turn := by
    simp [Worker.run, hrunning, hfails.before, hresult]
  rw [hrun]
  dsimp only [Worker.reconnect]
  rw [hfails.after, if_neg Bool.false_ne_true]
  have hdelay := backoff.delay_ok_iff worker.attempt turn.randomValue
  cases hwait : backoff.delay worker.attempt turn.randomValue with
  | error e =>
      rw [hwait] at hdelay
      refine Or.inr ⟨not_lt.mp fun hlt => ?_, rfl⟩
      obtain ⟨wait, h⟩ := hdelay.mpr hlt
      cases h
  | ok wait =>
      rw [hwait] at hdelay
      exact Or.inl ⟨hdelay.mp ⟨wait, rfl⟩, hrunning, rfl, wait, rfl, rfl⟩

/-- A worker that has ended stays as it is. -/
theorem run_of_ended (h : worker.status ≠ .running) : worker.run backoff turn = (worker, none) := by
  unfold Worker.run
  rw [if_pos h]

/-- After a run of failures the worker counts them, or it has raised. -/
theorem after_failures {turns : List Turn} (hfails : ∀ turn ∈ turns, turn.Fails) :
    (turns.length ≤ 1024 ∧ (Machine.after (Worker.run backoff) {} turns).status = .running ∧
      (Machine.after (Worker.run backoff) {} turns).attempt = turns.length) ∨
    (1024 < turns.length ∧
      (Machine.after (Worker.run backoff) {} turns).status = .raised .overflowError) := by
  induction turns using List.reverseRecOn with
  | nil => exact Or.inl ⟨Nat.zero_le _, rfl, rfl⟩
  | append_singleton turns turn ih =>
      rw [Machine.after_snoc, List.length_append, List.length_singleton]
      rcases ih fun turn hturn => hfails turn (List.mem_append_left _ hturn) with
        ⟨hlength, hrunning, hattempt⟩ | ⟨hlength, hended⟩
      · have hturn : turn.Fails := hfails turn (by simp)
        rcases run_of_fails backoff hrunning hturn with
          ⟨hlt, hstatus, hnext, -⟩ | ⟨hle, hstatus⟩
        · rw [hattempt] at hlt hnext
          exact Or.inl ⟨hlt, hstatus, hnext⟩
        · rw [hattempt] at hle
          exact Or.inr ⟨Nat.lt_succ_of_le hle, hstatus⟩
      · rw [run_of_ended backoff (by rw [hended]; exact nofun)]
        exact Or.inr ⟨Nat.lt_succ_of_lt hlength, hended⟩

end Run

/-- **The worker survives exactly 1024 failures in a row.** In a run of nothing but
connections that fail with ordinary exceptions, every turn ends with a wait within the
bounds and the worker goes on if and only if there are at most 1024 of them. -/
theorem survives_failures_iff (turns : List Turn) (hfails : ∀ turn ∈ turns, turn.Fails) :
    ((∀ e ∈ Machine.history (Worker.run {}) {} turns, ∃ wait, e.output = some wait ∧
        0 ≤ wait ∧ wait ≤ ({} : ReconnectBackoff).maximumSec *
          (1 + ({} : ReconnectBackoff).jitterRatio)) ∧
      (Machine.after (Worker.run {}) {} turns).status = .running) ↔
    turns.length ≤ 1024 := by
  constructor
  · rintro ⟨-, hrunning⟩
    rcases after_failures {} hfails with ⟨hlength, -⟩ | ⟨-, hended⟩
    · exact hlength
    · rw [hrunning] at hended
      cases hended
  · intro hlength
    refine ⟨fun e he => ?_, ?_⟩
    · obtain ⟨first, turn, second, rfl, rfl⟩ := Machine.exists_split_of_mem_history _ he
      have hfirst : first.length < 1024 := by
        rw [List.length_append, List.length_cons] at hlength
        omega
      have hturn : turn.Fails := hfails turn (by simp)
      rcases after_failures {}
        (fun (turn : Turn) (hmem : turn ∈ first) => hfails turn (List.mem_append_left _ hmem)) with
        ⟨-, hrunning, hattempt⟩ | ⟨hmany, -⟩
      · rcases run_of_fails {} hrunning hturn with
          ⟨-, -, -, wait, houtput, hdelay⟩ | ⟨hle, -⟩
        · exact ⟨wait, houtput, ReconnectBackoff.delay_bounds (by norm_num) (by norm_num)
            (by norm_num) hturn.random.2 hdelay⟩
        · rw [hattempt] at hle
          omega
      · omega
    · rcases after_failures {} hfails with ⟨-, hrunning, -⟩ | ⟨hmany, -⟩
      · exact hrunning
      · omega

/-! ### A long outage -/

/-- A connection that is refused. -/
def refusedTurn : Turn where
  result := .exception "RpcError" "connection refused"
  randomValue := 1 / 2

theorem refusedTurn_fails : refusedTurn.Fails where
  before := rfl
  exception := ⟨_, _, rfl⟩
  after := rfl
  random := by norm_num [refusedTurn]

theorem refused_replicate_fails (n : ℕ) : ∀ turn ∈ List.replicate n refusedTurn, turn.Fails := by
  intro turn hturn
  rw [List.eq_of_mem_replicate hturn]
  exact refusedTurn_fails

/-- The wait after the 1025th failure in a row is not computed. -/
theorem outage_ends_worker :
    (Machine.after (Worker.run {}) {} (List.replicate 1025 refusedTurn)).status =
      .raised .overflowError := by
  rcases after_failures {} (refused_replicate_fails 1025) with ⟨hlength, -⟩ | ⟨-, hraised⟩
  · rw [List.length_replicate] at hlength
    omega
  · exact hraised

theorem survives_failures_refused :
    (Machine.after (Worker.run {}) {} (List.replicate 1024 refusedTurn)).status = .running :=
  ((survives_failures_iff (List.replicate 1024 refusedTurn)
    (refused_replicate_fails 1024)).mpr (by rw [List.length_replicate])).2

end ImageStream
