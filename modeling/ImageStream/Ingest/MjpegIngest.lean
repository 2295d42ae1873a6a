/-
# Sessions of an MJPEG camera

A session of an MJPEG camera reads the frames of one response as they come. A frame that is ready
before the next scheduled instant is dropped. The others are counted and handed to the ingest, and
the next instant is chosen after that: the clock itself where the interval is zero, the first slot
to come otherwise. Any exception ends the session.

The frames that are handed over are pieces of the response in their order, whatever the chunks are
in which it comes and whatever is dropped, and with an interval there is at most one for each slot.
-/

import ImageStream.Base.Machine
import ImageStream.Base.Pieces
import ImageStream.Ingest.Mjpeg
import ImageStream.Ingest.SnapshotIngest

namespace ImageStream

open Base

/-- What a turn of the loop is answered, in the order in which it asks. -/
structure MjpegTurn where
  stopRequested : Bool
  readStartedAt : ℚ
  /-- Whether the response is read up to the next frame or its end without an exception. -/
  reads : Bool
  frameReadyAt : ℚ
  /-- The timestamp, unless its factory raises. -/
  timestampMs : Option ℤ
  /-- Whether the ingest returns. -/
  ingests : Bool
  ingestedAt : ℚ
  recorder : Option LoopRecorder
  /-- What the clock says after that, which only a session without an interval asks. -/
  againAt : ℚ

inductive MjpegEnd
  | stopped
  | exhausted
  | reachedMaxFrames
  | raised
  deriving DecidableEq

/-- What a turn that has read a frame has done. -/
structure MjpegRead where
  imageBytes : List UInt8
  scheduledAt : ℚ
  frameReadyAt : ℚ
  capture : Option SnapshotCapture := none
  next : Option NextCapture := none
  deriving DecidableEq

structure MjpegSession where
  /-- The frames that the iterator has still to yield. -/
  frames : List (List UInt8)
  sequence : ℕ := 0
  acceptedCount : ℕ := 0
  nextCaptureAt : ℚ
  ended : Option MjpegEnd := none
  deriving DecidableEq

namespace MjpegSession

/-- End the session. -/
def leave (session : MjpegSession) (ending : MjpegEnd) : MjpegSession :=
  { session with ended := some ending }

/-- Count a frame. -/
def count (session : MjpegSession) : MjpegSession :=
  { session with
    sequence := session.sequence + 1
    acceptedCount := session.acceptedCount + 1 }

/-- End the session that has accepted as many frames as it may. -/
def limit (maxFrames : Option ℤ) (session : MjpegSession) : MjpegSession :=
  if session.ended.isNone && maxFrames.any fun count => count ≤ (session.acceptedCount : ℤ) then
    session.leave .reachedMaxFrames
  else session

/-- Choose the next instant, unless the recorder raises when it is told of a lag. -/
def reschedule (config : CameraInputConfig) (startedAt : ℚ) (session : MjpegSession)
    (turn : MjpegTurn) (captured : MjpegRead) : MjpegSession × MjpegRead :=
  if config.collectIntervalSec = 0 then
    ({ session with nextCaptureAt := turn.againAt },
      { captured with next := some ⟨turn.ingestedAt, turn.againAt, none⟩ })
  else
    let (nextCaptureAt, lag) := logScheduleLag session.nextCaptureAt config.collectIntervalSec
      turn.readStartedAt turn.ingestedAt (turn.ingestedAt - startedAt) (some config.deviceId)
    if lag.isSome && turn.recorder.any fun recorder => !recorder.recordsLag then
      (session.leave .raised, captured)
    else
      ({ session with nextCaptureAt := nextCaptureAt },
        { captured with next := some ⟨turn.ingestedAt, nextCaptureAt, lag⟩ })

/-- The turn after a frame that is due. -/
def capture (config : CameraInputConfig) (startedAt : ℚ) (maxFrames : Option ℤ)
    (session : MjpegSession) (turn : MjpegTurn) (read : MjpegRead) : MjpegSession × MjpegRead :=
  let counted := session.count
  match turn.timestampMs with
  | none => (counted.leave .raised, read)
  | some timestampMs =>
      let captured := { read with
        capture := some
          { deviceId := config.deviceId
            timestampMs := timestampMs
            sequence := counted.sequence
            contentType := config.contentType
            imageBytes := read.imageBytes
            captureElapsed := turn.frameReadyAt - turn.readStartedAt
            saveElapsed := turn.ingestedAt - turn.frameReadyAt
            cycleElapsed := turn.ingestedAt - turn.readStartedAt
            scheduledAt := session.nextCaptureAt
            capturedAt := turn.frameReadyAt } }
      if !turn.ingests || turn.recorder.any fun recorder => !recorder.recordsCapture then
        (counted.leave .raised, captured)
      else
        let (rescheduled, done) := counted.reschedule config startedAt turn captured
        (rescheduled.limit maxFrames, done)

end MjpegSession

/-- One turn of the loop, of which there is none after the session has ended. -/
def mjpegStep (config : CameraInputConfig) (startedAt : ℚ) (maxFrames : Option ℤ)
    (session : MjpegSession) (turn : MjpegTurn) : MjpegSession × Option MjpegRead :=
  if session.ended.isSome then (session, none)
  else if turn.stopRequested then (session.leave .stopped, none)
  else if !turn.reads then (session.leave .raised, none)
  else
    match session.frames with
    | [] => (session.leave .exhausted, none)
    | imageBytes :: frames =>
        let waiting := { session with frames := frames }
        let read : MjpegRead :=
          { imageBytes := imageBytes
            scheduledAt := session.nextCaptureAt
            frameReadyAt := turn.frameReadyAt }
        if turn.frameReadyAt < session.nextCaptureAt then (waiting, some read)
        else
          let (left, done) := waiting.capture config startedAt maxFrames turn read
          (left, some done)

abbrev MjpegExchange := Exchange MjpegSession MjpegTurn (Option MjpegRead)

/-- The turns of a session over the chunks of a response, from an instant on. -/
def runMjpegCameraSession (config : CameraInputConfig) (chunks : List (List UInt8))
    (firstCaptureAt startedAt : ℚ) (maxFrames : Option ℤ) (turns : List MjpegTurn) :
    Except ValueError (List MjpegExchange) :=
  if config.collectIntervalSec < 0 then
    .error "collect_interval_sec must be greater than or equal to 0"
  else
    .ok (Machine.history (mjpegStep config startedAt maxFrames)
      { frames := iterMjpegFrames [] chunks, nextCaptureAt := firstCaptureAt } turns)

/-- The frames that a history has read. -/
def readFrames (past : List MjpegExchange) : List (List UInt8) :=
  past.filterMap fun e => e.output.map MjpegRead.imageBytes

/-- What a history has handed to the ingest. -/
def handedOver (past : List MjpegExchange) : List SnapshotCapture :=
  past.filterMap fun e => e.output.bind MjpegRead.capture

/-! ## What a turn does -/

variable {config : CameraInputConfig} {startedAt : ℚ} {maxFrames : Option ℤ}
  {session : MjpegSession} {turn : MjpegTurn}

/-- Whether an instant may follow another one, for a turn that has handed a frame over. -/
def InstantFollows (config : CameraInputConfig) (turn : MjpegTurn) (instant following : ℚ) : Prop :=
  if config.collectIntervalSec = 0 then following = turn.againAt
  else ∃ k, IsNextSlot instant config.collectIntervalSec turn.ingestedAt k ∧
    following = instant + k * config.collectIntervalSec

/-- Whether a turn has handed the frame over that it has read. -/
structure HandsOver (session : MjpegSession) (turn : MjpegTurn) (capture : SnapshotCapture)
    (read : MjpegRead) : Prop where
  handed : read.capture = some capture
  image : capture.imageBytes = read.imageBytes
  sequence : capture.sequence = session.sequence + 1
  scheduled : capture.scheduledAt = session.nextCaptureAt
  captured : capture.capturedAt = turn.frameReadyAt
  due : session.nextCaptureAt ≤ turn.frameReadyAt

/-- What a turn makes of a session. -/
inductive MjpegOutcome (config : CameraInputConfig) (maxFrames : Option ℤ)
    (session : MjpegSession) (turn : MjpegTurn) : MjpegSession → Option MjpegRead → Prop
  /-- No frame is read, now or later. -/
  | idle (left : MjpegSession) (hended : left.ended ≠ none)
      (hframes : left.frames = session.frames) :
      MjpegOutcome config maxFrames session turn left none
  /-- A frame is dropped. -/
  | drops (left : MjpegSession) (read : MjpegRead)
      (hframes : session.frames = read.imageBytes :: left.frames) (hnone : read.capture = none)
      (hscheduled : read.scheduledAt = session.nextCaptureAt)
      (hready : read.frameReadyAt = turn.frameReadyAt)
      (hearly : turn.frameReadyAt < session.nextCaptureAt) (hrunning : session.ended = none)
      (hcounts : left.sequence = session.sequence ∧ left.acceptedCount = session.acceptedCount)
      (hnext : left.nextCaptureAt = session.nextCaptureAt) :
      MjpegOutcome config maxFrames session turn left (some read)
  /-- A frame is not handed over, because there is no timestamp for it. -/
  | fails (left : MjpegSession) (read : MjpegRead)
      (hframes : session.frames = read.imageBytes :: left.frames) (hnone : read.capture = none)
      (hended : left.ended = some .raised) (hrunning : session.ended = none) :
      MjpegOutcome config maxFrames session turn left (some read)
  /-- A frame is handed over, and the session ends or goes on at the instant that follows. -/
  | hands (left : MjpegSession) (read : MjpegRead) (capture : SnapshotCapture)
      (hframes : session.frames = read.imageBytes :: left.frames)
      (hcapture : HandsOver session turn capture read) (hrunning : session.ended = none)
      (hcount : left.sequence = session.sequence + 1)
      (haccepted : left.acceptedCount = session.acceptedCount + 1)
      (hleft : left.ended = none →
        (∀ count ∈ maxFrames, (left.acceptedCount : ℤ) < count) ∧
          InstantFollows config turn session.nextCaptureAt left.nextCaptureAt) :
      MjpegOutcome config maxFrames session turn left (some read)

/-- What the choice of the next instant makes of a session that has captured a frame. -/
structure Rescheduled (config : CameraInputConfig) (session : MjpegSession) (turn : MjpegTurn)
    (captured : MjpegRead) (left : MjpegSession) (done : MjpegRead) : Prop where
  session_eq : left = { session with nextCaptureAt := left.nextCaptureAt, ended := left.ended }
  read_eq : done = { captured with next := done.next }
  follows : left.ended = none → InstantFollows config turn session.nextCaptureAt left.nextCaptureAt

theorem instantFollows_of_zero (hzero : config.collectIntervalSec = 0) (instant : ℚ) :
    InstantFollows config turn instant turn.againAt := by
  rw [InstantFollows, if_pos hzero]

theorem instantFollows_of_slot (hinterval : 0 < config.collectIntervalSec) {instant : ℚ} {k : ℤ}
    (hslot : IsNextSlot instant config.collectIntervalSec turn.ingestedAt k) :
    InstantFollows config turn instant (instant + k * config.collectIntervalSec) := by
  rw [InstantFollows, if_neg hinterval.ne']
  exact ⟨k, hslot, rfl⟩

theorem rescheduled_reschedule (hinterval : 0 ≤ config.collectIntervalSec) (startedAt : ℚ)
    (session : MjpegSession) (turn : MjpegTurn) (captured : MjpegRead) :
    Rescheduled config session turn captured
      (session.reschedule config startedAt turn captured).1
      (session.reschedule config startedAt turn captured).2 := by
  unfold MjpegSession.reschedule
  by_cases hzero : config.collectIntervalSec = 0
  · rw [if_pos hzero]
    exact ⟨rfl, rfl, fun _ => instantFollows_of_zero hzero _⟩
  · have hpositive : 0 < config.collectIntervalSec := lt_of_le_of_ne hinterval (Ne.symm hzero)
    obtain ⟨k, hslot, -⟩ := exists_isNextSlot hpositive session.nextCaptureAt turn.ingestedAt
    rw [if_neg hzero, logScheduleLag_eq hpositive hslot]
    dsimp only
    generalize (if k = 1 then none else some _ : Option ScheduleLag) = lag
    by_cases hraises :
        (lag.isSome && turn.recorder.any fun recorder => !recorder.recordsLag) = true
    · rw [if_pos hraises]
      exact ⟨rfl, rfl, fun hnone => absurd hnone (Option.some_ne_none _)⟩
    · rw [if_neg hraises]
      exact ⟨rfl, rfl, fun _ => instantFollows_of_slot hpositive hslot⟩

theorem limit_eq (maxFrames : Option ℤ) (session : MjpegSession) :
    session.limit maxFrames = { session with ended := (session.limit maxFrames).ended } := by
  unfold MjpegSession.limit
  split <;> rfl

/-- A session that goes on has not reached its number of frames. -/
theorem limit_of_running (h : (session.limit maxFrames).ended = none) :
    session.limit maxFrames = session ∧
      ∀ count ∈ maxFrames, (session.acceptedCount : ℤ) < count := by
  unfold MjpegSession.limit at h ⊢
  split at h
  case isTrue => exact absurd h (Option.some_ne_none _)
  case isFalse hfree =>
    rw [if_neg hfree]
    refine ⟨rfl, fun count hcount => ?_⟩
    rw [Option.mem_def.mp hcount, h] at hfree
    simpa using hfree

theorem reschedule_outcome_hands (hinterval : 0 ≤ config.collectIntervalSec)
    {captured : MjpegRead} {frames : List (List UInt8)}
    (hframes : session.frames = captured.imageBytes :: frames)
    (hcapture : ∃ capture, HandsOver session turn capture captured)
    (hrunning : session.ended = none) {counted : MjpegSession}
    (hcounted : counted = MjpegSession.count { session with frames := frames }) :
    MjpegOutcome config maxFrames session turn
      ((counted.reschedule config startedAt turn captured).1.limit maxFrames)
      (some (counted.reschedule config startedAt turn captured).2) := by
  obtain ⟨capture, hcapture⟩ := hcapture
  obtain ⟨hsession, hread, hfollows⟩ :=
    rescheduled_reschedule hinterval startedAt counted turn captured
  generalize counted.reschedule config startedAt turn captured = answer at *
  obtain ⟨left, done⟩ := answer
  dsimp only at *
  have hlimit := limit_eq maxFrames left
  have hkept : (left.limit maxFrames).frames = frames ∧
      (left.limit maxFrames).sequence = session.sequence + 1 ∧
      (left.limit maxFrames).acceptedCount = session.acceptedCount + 1 := by
    rw [hlimit, hsession, hcounted]
    exact ⟨rfl, rfl, rfl⟩
  have hcapture' : HandsOver session turn capture done := by
    rw [hread]
    exact ⟨hcapture.handed, hcapture.image, hcapture.sequence, hcapture.scheduled,
      hcapture.captured, hcapture.due⟩
  refine .hands _ done capture ?_ hcapture' hrunning hkept.2.1 hkept.2.2 fun hleft => ?_
  · rw [hframes, hkept.1, hread]
  · obtain ⟨hsame, hfew⟩ := limit_of_running hleft
    rw [hsame] at hleft ⊢
    refine ⟨hfew, ?_⟩
    have hfollows' := hfollows hleft
    rw [hcounted] at hfollows'
    exact hfollows'

theorem capture_outcome_hands (hinterval : 0 ≤ config.collectIntervalSec) {read : MjpegRead}
    {frames : List (List UInt8)} (hframes : session.frames = read.imageBytes :: frames)
    (hnone : read.capture = none) (hrunning : session.ended = none)
    (hdue : session.nextCaptureAt ≤ turn.frameReadyAt) :
    MjpegOutcome config maxFrames session turn
      (MjpegSession.capture config startedAt maxFrames { session with frames := frames } turn
        read).1
      (some (MjpegSession.capture config startedAt maxFrames { session with frames := frames } turn
        read).2) := by
  unfold MjpegSession.capture
  cases turn.timestampMs with
  | none => exact .fails _ _ hframes hnone rfl hrunning
  | some timestampMs =>
      dsimp only
      split
      case isTrue =>
        exact .hands _ _ _ hframes ⟨rfl, rfl, rfl, rfl, rfl, hdue⟩ hrunning rfl rfl
          fun hleft => absurd hleft (Option.some_ne_none _)
      case isFalse =>
        refine reschedule_outcome_hands hinterval ?_ ?_ hrunning rfl
        · exact hframes
        · exact ⟨_, rfl, rfl, rfl, rfl, rfl, hdue⟩

theorem mjpegStep_outcome (hinterval : 0 ≤ config.collectIntervalSec) (session : MjpegSession)
    (turn : MjpegTurn) :
    MjpegOutcome config maxFrames session turn
      (mjpegStep config startedAt maxFrames session turn).1
      (mjpegStep config startedAt maxFrames session turn).2 := by
  unfold mjpegStep
  split
  case isTrue hended => exact .idle _ (Option.isSome_iff_ne_none.mp hended) rfl
  case isFalse hopen =>
    have hrunning : session.ended = none := by simpa using hopen
    split
    case isTrue => exact .idle _ (Option.some_ne_none _) rfl
    case isFalse =>
      split
      case isTrue => exact .idle _ (Option.some_ne_none _) rfl
      case isFalse =>
        cases hframes : session.frames with
        | nil => exact .idle _ (Option.some_ne_none _) rfl
        | cons imageBytes frames =>
            dsimp only
            split
            case isTrue hearly =>
              exact .drops _ _ hframes rfl rfl rfl hearly hrunning ⟨rfl, rfl⟩ rfl
            case isFalse hdue =>
              exact capture_outcome_hands hinterval hframes rfl hrunning (not_lt.mp hdue)

/-! ## What is handed over in a session -/

theorem readFrames_snoc (past : List MjpegExchange) (e : MjpegExchange) :
    readFrames (past ++ [e]) = readFrames past ++ (e.output.map MjpegRead.imageBytes).toList := by
  rw [readFrames, List.filterMap_append]
  cases houtput : e.output <;> simp [houtput, readFrames]

theorem handedOver_snoc (past : List MjpegExchange) (e : MjpegExchange) :
    handedOver (past ++ [e]) = handedOver past ++ (e.output.bind MjpegRead.capture).toList := by
  rw [handedOver, List.filterMap_append]
  cases houtput : e.output.bind MjpegRead.capture <;> simp [houtput, handedOver]

/-- What a session has read and handed over, and what it counts. -/
structure MjpegAccount (maxFrames : Option ℤ) (frames : List (List UInt8))
    (past : List MjpegExchange) (session : MjpegSession) : Prop where
  all : readFrames past ++ session.frames = frames
  images : ((handedOver past).map SnapshotCapture.imageBytes).Sublist (readFrames past)
  sequences : (handedOver past).map SnapshotCapture.sequence =
    List.range' 1 (handedOver past).length
  few : ∀ count ∈ maxFrames, ((handedOver past).length : ℤ) ≤ max 1 count
  counted : session.ended = none → session.sequence = (handedOver past).length ∧
    session.acceptedCount = (handedOver past).length
  fewer : session.ended = none → ∀ count ∈ maxFrames,
    handedOver past = [] ∨ ((handedOver past).length : ℤ) < count

variable {frames : List (List UInt8)} {past : List MjpegExchange}

theorem mjpegAccount_begun (frames : List (List UInt8)) (firstCaptureAt : ℚ) :
    MjpegAccount maxFrames frames [] { frames := frames, nextCaptureAt := firstCaptureAt } where
  all := rfl
  images := .slnil
  sequences := rfl
  few count _ := le_trans (by decide) (le_max_left 1 count)
  counted _ := ⟨rfl, rfl⟩
  fewer _ _ _ := Or.inl rfl

/-- A turn that hands nothing over. -/
theorem MjpegAccount.without (h : MjpegAccount maxFrames frames past session) {e : MjpegExchange}
    (houtput : e.output.bind MjpegRead.capture = none)
    (hframes : session.frames = (e.output.map MjpegRead.imageBytes).toList ++ e.after.frames)
    (hcounted : e.after.ended = none → session.ended = none ∧
      e.after.sequence = session.sequence ∧ e.after.acceptedCount = session.acceptedCount) :
    MjpegAccount maxFrames frames (past ++ [e]) e.after := by
  have hsame : handedOver (past ++ [e]) = handedOver past := by
    rw [handedOver_snoc, houtput]
    exact List.append_nil _
  constructor
  case all => rw [readFrames_snoc, List.append_assoc, ← hframes, h.all]
  case images =>
    rw [hsame, readFrames_snoc]
    exact h.images.trans (List.sublist_append_left _ _)
  case sequences => rw [hsame, h.sequences]
  case few => rw [hsame]; exact h.few
  case counted =>
    intro hrunning
    obtain ⟨hbefore, hsequence, haccepted⟩ := hcounted hrunning
    rw [hsame, hsequence, haccepted]
    exact h.counted hbefore
  case fewer =>
    rw [hsame]
    exact fun hrunning => h.fewer (hcounted hrunning).1

/-- A turn that hands a frame over. -/
theorem MjpegAccount.hands (h : MjpegAccount maxFrames frames past session)
    (hrunning : session.ended = none) {e : MjpegExchange} {read : MjpegRead}
    {capture : SnapshotCapture} (houtput : e.output = some read)
    (hframes : session.frames = read.imageBytes :: e.after.frames) {turn : MjpegTurn}
    (hcapture : HandsOver session turn capture read)
    (hcount : e.after.sequence = session.sequence + 1)
    (haccepted : e.after.acceptedCount = session.acceptedCount + 1)
    (hleft : e.after.ended = none →
      ∀ count ∈ maxFrames, (e.after.acceptedCount : ℤ) < count) :
    MjpegAccount maxFrames frames (past ++ [e]) e.after := by
  obtain ⟨hsequence, haccept⟩ := h.counted hrunning
  have hmore : handedOver (past ++ [e]) = handedOver past ++ [capture] := by
    rw [handedOver_snoc, houtput, Option.bind_some, hcapture.handed]
    rfl
  have hread : readFrames (past ++ [e]) = readFrames past ++ [read.imageBytes] := by
    rw [readFrames_snoc, houtput]
    rfl
  have hlength : (handedOver (past ++ [e])).length = (handedOver past).length + 1 := by
    rw [hmore, List.length_append, List.length_singleton]
  constructor
  case all => rw [hread, List.append_assoc, List.singleton_append, ← hframes, h.all]
  case images =>
    rw [hmore, hread, List.map_append, List.map_singleton, hcapture.image]
    exact h.images.append (List.Sublist.refl _)
  case sequences =>
    rw [hlength, hmore, List.map_append, List.map_singleton, h.sequences, List.range'_concat,
      hcapture.sequence, hsequence, Nat.one_mul, Nat.add_comm 1]
  case few =>
    intro count hcount'
    rw [hlength]
    rcases h.fewer hrunning count hcount' with hempty | hless
    · rw [hempty]
      exact le_max_left 1 count
    · exact le_trans (by push_cast; omega) (le_max_right 1 count)
  case counted =>
    intro _
    rw [hlength, hcount, haccepted, hsequence, haccept]
    exact ⟨rfl, rfl⟩
  case fewer =>
    intro hgoes count hcount'
    right
    rw [hlength, ← haccept, ← haccepted]
    exact hleft hgoes count hcount'

theorem MjpegAccount.step (h : MjpegAccount maxFrames frames past session)
    (hinterval : 0 ≤ config.collectIntervalSec) (turn : MjpegTurn) :
    MjpegAccount maxFrames frames
      (past ++ [Machine.exchange (mjpegStep config startedAt maxFrames) session turn])
      (mjpegStep config startedAt maxFrames session turn).1 := by
  have houtcome : MjpegOutcome config maxFrames session turn
      (mjpegStep config startedAt maxFrames session turn).1 _ :=
    mjpegStep_outcome hinterval session turn
  unfold Machine.exchange
  generalize mjpegStep config startedAt maxFrames session turn = answer at houtcome ⊢
  obtain ⟨left, output⟩ := answer
  cases houtcome with
  | idle hended hframes => exact h.without rfl hframes.symm fun hrunning => absurd hrunning hended
  | drops read hframes hnone _ _ _ hrunning hcounts =>
      exact h.without hnone hframes fun _ => ⟨hrunning, hcounts⟩
  | fails read hframes hnone hended =>
      exact h.without hnone hframes fun hrunning =>
        absurd (hended.symm.trans hrunning) (Option.some_ne_none _)
  | hands read capture hframes hcapture hrunning hcount haccepted hleft =>
      exact h.hands hrunning rfl hframes hcapture hcount haccepted fun hgoes => (hleft hgoes).1

/-! ## When frames are handed over -/

/-- With an interval, the frames of a session are handed over for instants of one grid, one after
the other, and the instant at which a session stands is a later one. -/
structure MjpegPacing (config : CameraInputConfig) (firstCaptureAt : ℚ)
    (past : List MjpegExchange) (session : MjpegSession) : Prop where
  increasing : ((handedOver past).map SnapshotCapture.scheduledAt).Pairwise (· < ·)
  onGrid : ∀ capture ∈ handedOver past,
    OnGrid firstCaptureAt config.collectIntervalSec capture.scheduledAt ∧
      capture.scheduledAt ≤ capture.capturedAt
  standing : session.ended = none →
    OnGrid firstCaptureAt config.collectIntervalSec session.nextCaptureAt ∧
      ∀ capture ∈ handedOver past, capture.scheduledAt < session.nextCaptureAt

variable {firstCaptureAt : ℚ}

theorem mjpegPacing_begun (config : CameraInputConfig) (firstCaptureAt : ℚ) :
    MjpegPacing config firstCaptureAt [] { frames := frames, nextCaptureAt := firstCaptureAt } where
  increasing := .nil
  onGrid _ h := by cases h
  standing _ := ⟨onGrid_self, fun _ h => by cases h⟩

/-- A turn that hands nothing over. -/
theorem MjpegPacing.without (h : MjpegPacing config firstCaptureAt past session)
    {e : MjpegExchange} (houtput : e.output.bind MjpegRead.capture = none)
    (hnext : e.after.ended = none →
      session.ended = none ∧ e.after.nextCaptureAt = session.nextCaptureAt) :
    MjpegPacing config firstCaptureAt (past ++ [e]) e.after := by
  have hsame : handedOver (past ++ [e]) = handedOver past := by
    rw [handedOver_snoc, houtput]
    exact List.append_nil _
  constructor
  case increasing => rw [hsame]; exact h.increasing
  case onGrid => rw [hsame]; exact h.onGrid
  case standing =>
    intro hrunning
    obtain ⟨hbefore, hinstant⟩ := hnext hrunning
    rw [hsame, hinstant]
    exact h.standing hbefore

/-- A turn that hands a frame over. -/
theorem MjpegPacing.hands (h : MjpegPacing config firstCaptureAt past session)
    (hinterval : 0 < config.collectIntervalSec) (hrunning : session.ended = none)
    {e : MjpegExchange} {read : MjpegRead} {capture : SnapshotCapture}
    (houtput : e.output = some read) {turn : MjpegTurn}
    (hcapture : HandsOver session turn capture read)
    (hleft : e.after.ended = none →
      InstantFollows config turn session.nextCaptureAt e.after.nextCaptureAt) :
    MjpegPacing config firstCaptureAt (past ++ [e]) e.after := by
  obtain ⟨hgrid, hlater⟩ := h.standing hrunning
  have hmore : handedOver (past ++ [e]) = handedOver past ++ [capture] := by
    rw [handedOver_snoc, houtput, Option.bind_some, hcapture.handed]
    rfl
  constructor
  case increasing =>
    rw [hmore, List.map_append, List.map_singleton, List.pairwise_append]
    refine ⟨h.increasing, List.pairwise_singleton _ _, fun instant hinstant last hlast => ?_⟩
    obtain ⟨earlier, hearlier, rfl⟩ := List.mem_map.mp hinstant
    rw [List.mem_singleton.mp hlast, hcapture.scheduled]
    exact hlater earlier hearlier
  case onGrid =>
    rw [hmore, List.forall_mem_append, List.forall_mem_singleton, hcapture.scheduled,
      hcapture.captured]
    exact ⟨h.onGrid, hgrid, hcapture.due⟩
  case standing =>
    intro hgoes
    obtain ⟨k, hslot, hnext⟩ := (if_neg hinterval.ne').mp (hleft hgoes)
    have hpast : session.nextCaptureAt < e.after.nextCaptureAt := by
      rw [hnext]
      exact lt_later hinterval hslot.1.1
    refine ⟨?_, ?_⟩
    · rw [hnext]
      exact hgrid.later hslot.1.1
    · rw [hmore, List.forall_mem_append, List.forall_mem_singleton, hcapture.scheduled]
      exact ⟨fun earlier hearlier => (hlater earlier hearlier).trans hpast, hpast⟩

theorem MjpegPacing.step (h : MjpegPacing config firstCaptureAt past session)
    (hinterval : 0 < config.collectIntervalSec) (turn : MjpegTurn) :
    MjpegPacing config firstCaptureAt
      (past ++ [Machine.exchange (mjpegStep config startedAt maxFrames) session turn])
      (mjpegStep config startedAt maxFrames session turn).1 := by
  have houtcome : MjpegOutcome config maxFrames session turn
      (mjpegStep config startedAt maxFrames session turn).1 _ :=
    mjpegStep_outcome hinterval.le session turn
  unfold Machine.exchange
  generalize mjpegStep config startedAt maxFrames session turn = answer at houtcome ⊢
  obtain ⟨left, output⟩ := answer
  cases houtcome with
  | idle hended => exact h.without rfl fun hrunning => absurd hrunning hended
  | drops read _ hnone _ _ _ hrunning _ hnext =>
      exact h.without hnone fun _ => ⟨hrunning, hnext⟩
  | fails read _ hnone hended =>
      exact h.without hnone fun hrunning => absurd (hended.symm.trans hrunning) (Option.some_ne_none _)
  | hands read capture _ hcapture hrunning _ _ hleft =>
      exact h.hands hinterval hrunning rfl hcapture fun hgoes => (hleft hgoes).2

/-- Without an interval, a session stands at its first instant or at one that a turn has read. -/
def StandsAtReading (firstCaptureAt : ℚ) (past : List MjpegExchange) (session : MjpegSession) :
    Prop :=
  session.ended = none → session.nextCaptureAt = firstCaptureAt ∨
    ∃ e ∈ past, session.nextCaptureAt = e.input.againAt

theorem StandsAtReading.step (h : StandsAtReading firstCaptureAt past session)
    (hzero : config.collectIntervalSec = 0) (turn : MjpegTurn) :
    StandsAtReading firstCaptureAt
      (past ++ [Machine.exchange (mjpegStep config startedAt maxFrames) session turn])
      (mjpegStep config startedAt maxFrames session turn).1 := by
  have houtcome : MjpegOutcome config maxFrames session turn
      (mjpegStep config startedAt maxFrames session turn).1 _ :=
    mjpegStep_outcome hzero.ge session turn
  unfold Machine.exchange
  generalize mjpegStep config startedAt maxFrames session turn = answer at houtcome ⊢
  obtain ⟨left, output⟩ := answer
  intro hgoes
  cases houtcome with
  | idle hended => exact absurd hgoes hended
  | fails read _ _ hended => exact absurd (hended.symm.trans hgoes) (Option.some_ne_none _)
  | drops read _ _ _ _ _ hrunning _ hnext =>
      rcases h hrunning with hfirst | ⟨e, he, hagain⟩
      · exact Or.inl (hnext.trans hfirst)
      · exact Or.inr ⟨e, List.mem_append_left _ he, hnext.trans hagain⟩
  | hands read capture _ _ _ _ _ hleft =>
      refine Or.inr ⟨_, List.mem_append_right _ List.mem_cons_self, ?_⟩
      exact (if_pos hzero).mp (hleft hgoes).2

/-- A frame that is not handed over came too early, unless it has ended the session. -/
theorem early_of_not_handedOver (hinterval : 0 ≤ config.collectIntervalSec) {e : MjpegExchange}
    (he : e = Machine.exchange (mjpegStep config startedAt maxFrames) session turn)
    {read : MjpegRead} (hread : read ∈ e.output) (hnone : read.capture = none) :
    (read.frameReadyAt < read.scheduledAt ∧ read.scheduledAt = session.nextCaptureAt ∧
        read.frameReadyAt = turn.frameReadyAt ∧ session.ended = none) ∨
      e.after.ended = some .raised := by
  have houtcome : MjpegOutcome config maxFrames session turn
      (mjpegStep config startedAt maxFrames session turn).1 _ :=
    mjpegStep_outcome hinterval session turn
  subst he
  have houtput : (mjpegStep config startedAt maxFrames session turn).2 = some read := hread
  rw [Machine.exchange]
  generalize mjpegStep config startedAt maxFrames session turn = answer at houtcome houtput ⊢
  obtain ⟨left, output⟩ := answer
  obtain rfl : output = some read := houtput
  cases houtcome with
  | drops _ hframes _ hscheduled hready hearly hrunning =>
      refine Or.inl ⟨?_, hscheduled, hready, hrunning⟩
      rw [hscheduled, hready]
      exact hearly
  | fails _ hframes _ hended => exact Or.inr hended
  | hands _ capture hframes hcapture =>
      exact absurd (hcapture.handed.symm.trans hnone) (Option.some_ne_none _)

/-- Without an interval and with a clock that does not go back, no frame comes too early. -/
theorem handedOver_of_zero (hzero : config.collectIntervalSec = 0) {turns : List MjpegTurn}
    (hfirst : ∀ turn ∈ turns, firstCaptureAt ≤ turn.frameReadyAt)
    (hclock : turns.Pairwise fun earlier later => earlier.againAt ≤ later.frameReadyAt)
    {e : MjpegExchange}
    (he : e ∈ Machine.history (mjpegStep config startedAt maxFrames)
      { frames := frames, nextCaptureAt := firstCaptureAt } turns)
    {read : MjpegRead} (hread : read ∈ e.output) (hnone : read.capture = none) :
    e.after.ended = some .raised := by
  obtain ⟨before, turn, rest, rfl, hexchange⟩ := Machine.exists_split_of_mem_history _ he
  refine (early_of_not_handedOver hzero.ge hexchange hread hnone).resolve_left ?_
  rintro ⟨hearly, hscheduled, hready, hrunning⟩
  rw [hscheduled, hready] at hearly
  have hstands : StandsAtReading firstCaptureAt _ _ :=
    Machine.history_invariant (mjpegStep config startedAt maxFrames)
      (s := { frames := frames, nextCaptureAt := firstCaptureAt }) (fun _ => Or.inl rfl)
      (fun _ _ turn h => h.step hzero turn) before
  rcases hstands hrunning with hbegin | ⟨earlier, hearlier, hagain⟩
  · rw [hbegin] at hearly
    exact absurd hearly (not_lt.mpr (hfirst turn (by simp)))
  · rw [hagain] at hearly
    obtain ⟨first, turn', second, hsplit, rfl⟩ := Machine.exists_split_of_mem_history _ hearlier
    have hmember : turn' ∈ before := by
      rw [hsplit]
      simp
    have hforward : turn'.againAt ≤ turn.frameReadyAt :=
      (List.pairwise_append.mp hclock).2.2 turn' hmember turn (by simp)
    exact absurd hearly (not_lt.mpr hforward)

/-- A turn whose frame is ready at a time and is ingested at once. -/
def readyAt (frameReadyAt : ℚ) : MjpegTurn where
  stopRequested := false
  readStartedAt := frameReadyAt
  reads := true
  frameReadyAt := frameReadyAt
  timestampMs := some 1000
  ingests := true
  ingestedAt := frameReadyAt
  recorder := none
  againAt := frameReadyAt

/-- Three frames, of which the second one comes in two chunks. -/
def twoChunks : List (List UInt8) :=
  [[0xff, 0xd8, 1, 0xff, 0xd9, 0xff, 0xd8, 2, 0xff], [0xd9, 0xff, 0xd8, 3, 0xff, 0xd9]]

end ImageStream
