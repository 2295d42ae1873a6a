/-
# Sessions of a snapshot camera

A session of a snapshot camera is one loop. Each turn waits for its scheduled instant, downloads
an image, hands it to the ingest and schedules the next turn. A download that fails costs its
slot only; any other exception ends the session.

Whatever the clocks and the world answer, a turn that schedules another one puts it on the grid
of the first instant and after its own end.
-/

import ImageStream.Base.Machine
import ImageStream.Identity
import ImageStream.Ingest.CaptureTiming

namespace ImageStream

open Base

structure CameraInputConfig where
  deviceId : String
  collectIntervalSec : ℚ
  contentType : String

/-- How a download ends. -/
inductive Download
  | image (imageBytes : List UInt8)
  /-- An `Exception`. -/
  | failed
  /-- An exception that the loop does not catch. -/
  | interrupted

/-- An experiment recorder, and which of its two calls return. -/
structure LoopRecorder where
  recordsCapture : Bool
  recordsLag : Bool

/-- What a turn of the loop is answered, in the order in which it asks. -/
structure SnapshotTurn where
  stopRequested : Bool
  wokenAt : ℚ
  readStartedAt : ℚ
  download : Download
  frameReadyAt : ℚ
  /-- The timestamp, unless its factory raises. -/
  timestampMs : Option ℤ
  /-- Whether the ingest returns. -/
  ingests : Bool
  finishedAt : ℚ
  recorder : Option LoopRecorder

inductive SessionEnd
  | stopped
  | reachedMaxFrames
  | raised
  deriving DecidableEq

/-- What a turn hands to the ingest and tells the recorder of it. -/
structure SnapshotCapture where
  deviceId : String
  timestampMs : ℤ
  sequence : ℕ
  contentType : String
  imageBytes : List UInt8
  captureElapsed : ℚ
  saveElapsed : ℚ
  cycleElapsed : ℚ
  scheduledAt : ℚ
  capturedAt : ℚ
  deriving DecidableEq

/-- The choice of the next instant. -/
structure NextCapture where
  finishedAt : ℚ
  nextCaptureAt : ℚ
  lag : Option ScheduleLag
  deriving DecidableEq

/-- What a turn that was not stopped has done. -/
structure ScheduledTurn where
  scheduledAt : ℚ
  sleepSec : ℚ
  capture : Option SnapshotCapture := none
  next : Option NextCapture := none
  deriving DecidableEq

structure SnapshotSession where
  sequence : ℕ := 0
  acceptedCount : ℕ := 0
  nextCaptureAt : ℚ
  ended : Option SessionEnd := none
  deriving DecidableEq

namespace SnapshotSession

/-- End the session. -/
def leave (session : SnapshotSession) (ending : SessionEnd) : SnapshotSession :=
  { session with ended := some ending }

/-- Count a frame. -/
def count (session : SnapshotSession) : SnapshotSession :=
  { session with
    sequence := session.sequence + 1
    acceptedCount := session.acceptedCount + 1 }

/-- End the session that has accepted as many frames as it may. -/
def limit (maxFrames : Option ℤ) (session : SnapshotSession) : SnapshotSession :=
  if session.ended.isNone && maxFrames.any fun count => count ≤ (session.acceptedCount : ℤ) then
    session.leave .reachedMaxFrames
  else session

/-- Schedule the next turn, unless the recorder raises when it is told of a lag. -/
def reschedule (config : CameraInputConfig) (startedAt : ℚ) (session : SnapshotSession)
    (turn : SnapshotTurn) (begun : ScheduledTurn) : SnapshotSession × ScheduledTurn :=
  let (nextCaptureAt, lag) := logScheduleLag session.nextCaptureAt config.collectIntervalSec
    turn.readStartedAt turn.finishedAt (turn.finishedAt - startedAt) (some config.deviceId)
  if lag.isSome && turn.recorder.any fun recorder => !recorder.recordsLag then
    (session.leave .raised, begun)
  else
    ({ session with nextCaptureAt := nextCaptureAt },
      { begun with next := some ⟨turn.finishedAt, nextCaptureAt, lag⟩ })

/-- The turn after a download that has returned an image. -/
def capture (config : CameraInputConfig) (startedAt : ℚ) (maxFrames : Option ℤ)
    (session : SnapshotSession) (turn : SnapshotTurn) (begun : ScheduledTurn)
    (imageBytes : List UInt8) : SnapshotSession × ScheduledTurn :=
  let counted := session.count
  match turn.timestampMs with
  | none => (counted.leave .raised, begun)
  | some timestampMs =>
      let captured := { begun with
        capture := some
          { deviceId := config.deviceId
            timestampMs := timestampMs
            sequence := counted.sequence
            contentType := config.contentType
            imageBytes := imageBytes
            captureElapsed := turn.frameReadyAt - turn.readStartedAt
            saveElapsed := turn.finishedAt - turn.frameReadyAt
            cycleElapsed := turn.finishedAt - turn.readStartedAt
            scheduledAt := session.nextCaptureAt
            capturedAt := turn.frameReadyAt } }
      if !turn.ingests || turn.recorder.any fun recorder => !recorder.recordsCapture then
        (counted.leave .raised, captured)
      else
        let (rescheduled, done) := counted.reschedule config startedAt turn captured
        (rescheduled.limit maxFrames, done)

end SnapshotSession

/-- One turn of the loop, of which there is none after the session has ended. -/
def snapshotStep (config : CameraInputConfig) (startedAt : ℚ) (maxFrames : Option ℤ)
    (session : SnapshotSession) (turn : SnapshotTurn) : SnapshotSession × Option ScheduledTurn :=
  if session.ended.isSome then (session, none)
  else if turn.stopRequested then (session.leave .stopped, none)
  else
    let begun : ScheduledTurn :=
      { scheduledAt := session.nextCaptureAt
        sleepSec := max 0 (session.nextCaptureAt - turn.wokenAt) }
    let (left, done) :=
      match turn.download with
      | .interrupted => (session.leave .raised, begun)
      | .failed => session.reschedule config startedAt turn begun
      | .image imageBytes => session.capture config startedAt maxFrames turn begun imageBytes
    (left, some done)

abbrev SnapshotExchange := Exchange SnapshotSession SnapshotTurn (Option ScheduledTurn)

/-- The turns of a session that begins at an instant. -/
def runSnapshotCameraSession (config : CameraInputConfig) (firstCaptureAt startedAt : ℚ)
    (maxFrames : Option ℤ) (turns : List SnapshotTurn) :
    Except ValueError (List SnapshotExchange) :=
  if config.collectIntervalSec ≤ 0 then
    .error "collect_interval_sec must be greater than 0"
  else
    .ok (Machine.history (snapshotStep config startedAt maxFrames)
      { nextCaptureAt := firstCaptureAt } turns)

/-- The instants for which the turns of a history were scheduled. -/
def scheduledInstants (past : List SnapshotExchange) : List ℚ :=
  past.filterMap fun e => e.output.map ScheduledTurn.scheduledAt

/-! ## What a turn does -/

variable {config : CameraInputConfig} {startedAt : ℚ} {maxFrames : Option ℤ} {instant : ℚ}

/-- What a turn makes of the instant at which the session stands. -/
inductive TurnOutcome (config : CameraInputConfig) (instant : ℚ) :
    SnapshotSession → Option ScheduledTurn → Prop
  /-- No turn is taken, now or later. -/
  | idle (left : SnapshotSession) (hended : left.ended ≠ none)
      (hnext : left.nextCaptureAt = instant) : TurnOutcome config instant left none
  /-- A turn ends the session without scheduling another one. -/
  | ends (left : SnapshotSession) (turn : ScheduledTurn) (hturn : turn.scheduledAt = instant)
      (hnone : turn.next = none) (hended : left.ended ≠ none)
      (hnext : left.nextCaptureAt = instant) : TurnOutcome config instant left (some turn)
  /-- A turn schedules another one. -/
  | schedules (left : SnapshotSession) (turn : ScheduledTurn) (hturn : turn.scheduledAt = instant)
      (next : NextCapture) (hchosen : turn.next = some next) (k : ℤ)
      (hslot : IsNextSlot instant config.collectIntervalSec next.finishedAt k)
      (hnext : next.nextCaptureAt = instant + k * config.collectIntervalSec)
      (hleft : left.nextCaptureAt = next.nextCaptureAt) :
      TurnOutcome config instant left (some turn)

/-- Reaching the number of frames changes neither the turn nor the next instant. -/
theorem TurnOutcome.limit {left : SnapshotSession} {done : Option ScheduledTurn}
    (h : TurnOutcome config instant left done) :
    TurnOutcome config instant (left.limit maxFrames) done := by
  unfold SnapshotSession.limit
  split
  case isFalse => exact h
  case isTrue =>
    have hended : (left.leave .reachedMaxFrames).ended ≠ none := Option.some_ne_none _
    cases h with
    | idle _ hnext => exact .idle _ hended hnext
    | ends turn hturn hnone _ hnext => exact .ends _ turn hturn hnone hended hnext
    | schedules turn hturn next hchosen k hslot hnext hleft =>
        exact .schedules _ turn hturn next hchosen k hslot hnext hleft

theorem reschedule_outcome (hinterval : 0 < config.collectIntervalSec)
    (session : SnapshotSession) (turn : SnapshotTurn) {begun : ScheduledTurn}
    (hbegun : begun.scheduledAt = session.nextCaptureAt) (hnone : begun.next = none) :
    TurnOutcome config session.nextCaptureAt
      (session.reschedule config startedAt turn begun).1
      (some (session.reschedule config startedAt turn begun).2) := by
  obtain ⟨k, hslot, -⟩ := exists_isNextSlot hinterval session.nextCaptureAt turn.finishedAt
  unfold SnapshotSession.reschedule
  rw [logScheduleLag_eq hinterval hslot]
  dsimp only
  generalize (if k = 1 then none else some _ : Option ScheduleLag) = lag
  by_cases hraises : (lag.isSome && turn.recorder.any fun recorder => !recorder.recordsLag) = true
  · rw [if_pos hraises]
    exact .ends _ _ hbegun hnone (Option.some_ne_none _) rfl
  · rw [if_neg hraises]
    exact .schedules _ _ hbegun _ rfl k hslot rfl rfl

theorem capture_outcome (hinterval : 0 < config.collectIntervalSec) (session : SnapshotSession)
    (turn : SnapshotTurn) {begun : ScheduledTurn}
    (hbegun : begun.scheduledAt = session.nextCaptureAt) (hnone : begun.next = none)
    (imageBytes : List UInt8) :
    TurnOutcome config session.nextCaptureAt
      (session.capture config startedAt maxFrames turn begun imageBytes).1
      (some (session.capture config startedAt maxFrames turn begun imageBytes).2) := by
  unfold SnapshotSession.capture
  cases turn.timestampMs with
  | none => exact .ends _ _ hbegun hnone (Option.some_ne_none _) rfl
  | some timestampMs =>
      dsimp only
      split
      case isTrue => exact .ends _ _ hbegun hnone (Option.some_ne_none _) rfl
      case isFalse =>
        refine (reschedule_outcome hinterval session.count turn ?_ ?_).limit
        · exact hbegun
        · exact hnone

theorem snapshotStep_outcome (hinterval : 0 < config.collectIntervalSec)
    (session : SnapshotSession) (turn : SnapshotTurn) :
    TurnOutcome config session.nextCaptureAt
      (snapshotStep config startedAt maxFrames session turn).1
      (snapshotStep config startedAt maxFrames session turn).2 := by
  unfold snapshotStep
  split
  case isTrue hended => exact .idle _ (Option.isSome_iff_ne_none.mp hended) rfl
  case isFalse =>
    split
    case isTrue => exact .idle _ (Option.some_ne_none _) rfl
    case isFalse =>
      cases turn.download with
      | interrupted => exact .ends _ _ rfl rfl (Option.some_ne_none _) rfl
      | failed => exact reschedule_outcome hinterval session turn rfl rfl
      | image imageBytes => exact capture_outcome hinterval session turn rfl rfl imageBytes

/-- An ended session stays as it is. -/
theorem snapshotStep_of_ended {session : SnapshotSession} (h : session.ended ≠ none)
    (turn : SnapshotTurn) :
    snapshotStep config startedAt maxFrames session turn = (session, none) := by
  rw [snapshotStep, if_pos (Option.isSome_iff_ne_none.mpr h)]

/-! ## A session -/

/-- How the scheduled instants of a session lie: in order, on the grid of the first one, and each
after the end of the turn that has chosen it. -/
structure KeepsGrid (config : CameraInputConfig) (firstCaptureAt : ℚ)
    (past : List SnapshotExchange) : Prop where
  increasing : (scheduledInstants past).Pairwise (· < ·)
  first : ∀ instant ∈ (scheduledInstants past).head?, instant = firstCaptureAt
  onGrid : ∀ instant ∈ scheduledInstants past,
    OnGrid firstCaptureAt config.collectIntervalSec instant
  ahead : ∀ e ∈ past, ∀ turn ∈ e.output, ∀ next ∈ turn.next,
    next.finishedAt < next.nextCaptureAt ∧ e.after.nextCaptureAt = next.nextCaptureAt

/-- A session that keeps the grid and has not ended stands at an instant of its own. -/
structure Scheduling (config : CameraInputConfig) (firstCaptureAt : ℚ)
    (past : List SnapshotExchange) (session : SnapshotSession) : Prop where
  keeps : KeepsGrid config firstCaptureAt past
  standing : OnGrid firstCaptureAt config.collectIntervalSec session.nextCaptureAt
  later : session.ended = none → ∀ instant ∈ scheduledInstants past,
    instant < session.nextCaptureAt
  begun : scheduledInstants past = [] → session.nextCaptureAt = firstCaptureAt

variable {firstCaptureAt : ℚ} {past : List SnapshotExchange} {session : SnapshotSession}

theorem scheduling_begun (config : CameraInputConfig) (firstCaptureAt : ℚ) :
    Scheduling config firstCaptureAt [] { nextCaptureAt := firstCaptureAt } where
  keeps :=
    { increasing := .nil
      first := fun _ h => by cases h
      onGrid := fun _ h => by cases h
      ahead := fun _ h => by cases h }
  standing := onGrid_self
  later _ _ h := by cases h
  begun _ := rfl

theorem scheduledInstants_snoc (past : List SnapshotExchange) (e : SnapshotExchange) :
    scheduledInstants (past ++ [e]) =
      scheduledInstants past ++ (e.output.map ScheduledTurn.scheduledAt).toList := by
  rw [scheduledInstants, List.filterMap_append]
  rfl

/-- A turn that has been taken adds the instant at which the session stood. -/
theorem Scheduling.keeps_snoc (h : Scheduling config firstCaptureAt past session)
    (hrunning : session.ended = none) {e : SnapshotExchange} {turn : ScheduledTurn}
    (houtput : e.output = some turn) (hturn : turn.scheduledAt = session.nextCaptureAt)
    (hahead : ∀ next ∈ turn.next,
      next.finishedAt < next.nextCaptureAt ∧ e.after.nextCaptureAt = next.nextCaptureAt) :
    KeepsGrid config firstCaptureAt (past ++ [e]) := by
  have hinstants : scheduledInstants (past ++ [e]) =
      scheduledInstants past ++ [session.nextCaptureAt] := by
    rw [scheduledInstants_snoc, houtput, ← hturn]
    rfl
  constructor
  case increasing =>
    rw [hinstants, List.pairwise_append]
    refine ⟨h.keeps.increasing, List.pairwise_singleton _ _, fun instant hinstant last hlast => ?_⟩
    rw [List.mem_singleton.mp hlast]
    exact h.later hrunning instant hinstant
  case first =>
    rw [hinstants]
    cases hpast : scheduledInstants past with
    | nil =>
        intro instant hinstant
        cases hinstant
        exact h.begun hpast
    | cons first rest =>
        intro instant hinstant
        cases hinstant
        exact h.keeps.first first (by rw [hpast]; rfl)
  case onGrid =>
    rw [hinstants]
    intro instant hinstant
    rcases List.mem_append.mp hinstant with hold | hlast
    · exact h.keeps.onGrid instant hold
    · rw [List.mem_singleton.mp hlast]
      exact h.standing
  case ahead =>
    intro e' he' turn' hturn'
    rcases List.mem_append.mp he' with hold | hlast
    · exact h.keeps.ahead e' hold turn' hturn'
    · rw [List.mem_singleton.mp hlast, houtput] at hturn'
      cases hturn'
      rw [List.mem_singleton.mp hlast]
      exact hahead

/-- No turn is taken. -/
theorem Scheduling.idle (h : Scheduling config firstCaptureAt past session)
    {e : SnapshotExchange} (houtput : e.output = none) {left : SnapshotSession}
    (hended : left.ended ≠ none) (hnext : left.nextCaptureAt = session.nextCaptureAt) :
    Scheduling config firstCaptureAt (past ++ [e]) left := by
  have hsame : scheduledInstants (past ++ [e]) = scheduledInstants past := by
    rw [scheduledInstants_snoc, houtput]
    exact List.append_nil _
  constructor
  case keeps =>
    constructor
    case increasing => rw [hsame]; exact h.keeps.increasing
    case first => rw [hsame]; exact h.keeps.first
    case onGrid => rw [hsame]; exact h.keeps.onGrid
    case ahead =>
      intro e' he' turn hturn
      rcases List.mem_append.mp he' with hold | hlast
      · exact h.keeps.ahead e' hold turn hturn
      · rw [List.mem_singleton.mp hlast, houtput] at hturn
        cases hturn
  case standing => rw [hnext]; exact h.standing
  case later => exact fun hnone => absurd hnone hended
  case begun => rw [hsame, hnext]; exact h.begun

theorem Scheduling.step (h : Scheduling config firstCaptureAt past session)
    (hinterval : 0 < config.collectIntervalSec) (turn : SnapshotTurn) :
    Scheduling config firstCaptureAt
      (past ++ [Machine.exchange (snapshotStep config startedAt maxFrames) session turn])
      (snapshotStep config startedAt maxFrames session turn).1 := by
  have houtcome : TurnOutcome config session.nextCaptureAt
      (snapshotStep config startedAt maxFrames session turn).1 _ :=
    snapshotStep_outcome hinterval session turn
  have hrunning : session.ended ≠ none →
      (snapshotStep config startedAt maxFrames session turn).2 = none := fun hended => by
    rw [snapshotStep_of_ended hended]
  unfold Machine.exchange
  generalize snapshotStep config startedAt maxFrames session turn = answer at houtcome hrunning ⊢
  obtain ⟨left, output⟩ := answer
  cases houtcome with
  | idle hended hnext => exact h.idle rfl hended hnext
  | ends done hdone hnone hended hnext =>
      have hbefore : session.ended = none := by
        by_contra hnot
        exact Option.some_ne_none done (hrunning hnot)
      constructor
      case keeps =>
        refine h.keeps_snoc hbefore rfl hdone fun next hchosen => ?_
        rw [hnone] at hchosen
        cases hchosen
      case standing => rw [hnext]; exact h.standing
      case later => exact fun hnone => absurd hnone hended
      case begun =>
        rw [scheduledInstants_snoc]
        exact fun hempty => absurd hempty (List.append_ne_nil_of_right_ne_nil _ (by simp))
  | schedules done hdone next hchosen k hslot hnext hleft =>
      have hbefore : session.ended = none := by
        by_contra hnot
        exact Option.some_ne_none done (hrunning hnot)
      have hlater : session.nextCaptureAt < left.nextCaptureAt := by
        rw [hleft, hnext]
        exact lt_later hinterval hslot.1.1
      constructor
      case keeps =>
        refine h.keeps_snoc hbefore rfl hdone fun next' hchosen' => ?_
        rw [hchosen] at hchosen'
        cases hchosen'
        refine ⟨?_, hleft⟩
        rw [hnext]
        exact hslot.1.2
      case standing =>
        rw [hleft, hnext]
        exact h.standing.later hslot.1.1
      case later =>
        rw [scheduledInstants_snoc]
        intro _ instant hinstant
        rcases List.mem_append.mp hinstant with hold | hlast
        · exact (h.later hbefore instant hold).trans hlater
        · rw [List.mem_singleton.mp hlast, hdone]
          exact hlater
      case begun =>
        rw [scheduledInstants_snoc]
        exact fun hempty => absurd hempty (List.append_ne_nil_of_right_ne_nil _ (by simp))

/-- **The capture schedule keeps its grid.** The next capture is at the first slot that is later
than now, and the lag that is reported counts the slots between. In every session the scheduled
instants lie on the grid of the first one, one after the other, each later than the end of the
turn that has chosen it. -/
theorem schedule_keeps_grid {intervalSec : ℚ} (hinterval : 0 < intervalSec) :
    (∀ scheduledAt now : ℚ, ∃ k, IsNextSlot scheduledAt intervalSec now k ∧
      calculateNextCaptureAt scheduledAt intervalSec now = scheduledAt + k * intervalSec ∧
      ∀ loopStartedAt runtimeElapsed deviceId,
        logScheduleLag scheduledAt intervalSec loopStartedAt now runtimeElapsed deviceId =
          (scheduledAt + k * intervalSec,
            if k = 1 then none
            else some ⟨runtimeElapsed, k - 1, now - loopStartedAt, deviceId⟩)) ∧
    ∀ (config : CameraInputConfig) (firstCaptureAt startedAt : ℚ) (maxFrames : Option ℤ)
      (turns : List SnapshotTurn), config.collectIntervalSec = intervalSec →
      ∃ history, runSnapshotCameraSession config firstCaptureAt startedAt maxFrames turns =
          .ok history ∧
        (scheduledInstants history).Pairwise (· < ·) ∧
        (∀ first ∈ (scheduledInstants history).head?, first = firstCaptureAt) ∧
        (∀ instant ∈ scheduledInstants history, OnGrid firstCaptureAt intervalSec instant) ∧
        ∀ e ∈ history, ∀ turn ∈ e.output, ∀ next ∈ turn.next,
          next.finishedAt < next.nextCaptureAt ∧ e.after.nextCaptureAt = next.nextCaptureAt := by
  constructor
  · intro scheduledAt now
    obtain ⟨k, hslot, hnext⟩ := exists_isNextSlot hinterval scheduledAt now
    exact ⟨k, hslot, hnext, fun _ _ _ => logScheduleLag_eq hinterval hslot _ _⟩
  · rintro config firstCaptureAt startedAt maxFrames turns rfl
    have hkeeps := (Machine.history_invariant (snapshotStep config startedAt maxFrames)
      (scheduling_begun config firstCaptureAt)
      (fun _ _ turn h => h.step hinterval turn) turns).keeps
    refine ⟨_, ?_, hkeeps.increasing, hkeeps.first, hkeeps.onGrid, hkeeps.ahead⟩
    rw [runSnapshotCameraSession, if_neg (not_le.mpr hinterval)]

def tenSecondCamera : CameraInputConfig where
  deviceId := "camera-1"
  collectIntervalSec := 10
  contentType := "image/jpeg"

/-- A turn that ends at a time. -/
def turnUntil (finishedAt : ℚ) (download : Download) : SnapshotTurn where
  stopRequested := false
  wokenAt := 0
  readStartedAt := 0
  download := download
  frameReadyAt := finishedAt
  timestampMs := some 1000
  ingests := true
  finishedAt := finishedAt
  recorder := none

/-- A download that takes until the third slot, and a second one that fails. -/
def slowTurns : List SnapshotTurn := [turnUntil 20 (.image [1]), turnUntil 35 .failed]

theorem schedule_keeps_grid_slow :
    ∃ history, runSnapshotCameraSession tenSecondCamera 0 0 none slowTurns = .ok history ∧
      scheduledInstants history = [0, 30] ∧ (scheduledInstants history).Pairwise (· < ·) := by
  obtain ⟨history, hrun, hincreasing, -⟩ :=
    (schedule_keeps_grid (by decide : (0 : ℚ) < 10)).2 tenSecondCamera 0 0 none slowTurns rfl
  refine ⟨history, hrun, ?_, hincreasing⟩
  have hinstants : (runSnapshotCameraSession tenSecondCamera 0 0 none slowTurns).map
      scheduledInstants = .ok [0, 30] := by
    decide +kernel
  rw [hrun] at hinstants
  exact Except.ok.inj hinstants

end ImageStream
