/-
# The time of the next capture

Captures are scheduled on a grid. A capture that has taken longer than an interval skips the
slots it has missed, and the lag that is reported counts them. Times are exact rationals.
-/

import Mathlib.Data.Rat.Floor
import Mathlib.Tactic.NormNum
import ImageStream.Base.Grid

namespace ImageStream

open Base

/-- `calculate_next_capture_at`, where `//` divides and rounds down. -/
def calculateNextCaptureAt (scheduledAt intervalSec now : ℚ) : ℚ :=
  let nextCaptureAt := scheduledAt + intervalSec
  if now < nextCaptureAt then nextCaptureAt
  else
    let missedIntervals := ⌊(now - nextCaptureAt) / intervalSec⌋ + 1
    nextCaptureAt + missedIntervals * intervalSec

/-- `round`, which takes the even one of two integers that are equally near. -/
def roundHalfEven (x : ℚ) : ℤ :=
  let rest := x - ⌊x⌋
  if rest < 1 / 2 then ⌊x⌋
  else if 1 / 2 < rest then ⌊x⌋ + 1
  else if ⌊x⌋ % 2 = 0 then ⌊x⌋
  else ⌊x⌋ + 1

/-- What is printed of a lag. A recorder, if there is one, is told the last three. -/
structure ScheduleLag where
  runtimeElapsed : ℚ
  skipped : ℤ
  loopElapsed : ℚ
  deviceId : Option String
  deriving DecidableEq

/-- The time of the next capture, and the lag that is reported if there is one. -/
def logScheduleLag (scheduledAt intervalSec loopStartedAt loopFinishedAt runtimeElapsed : ℚ)
    (deviceId : Option String) : ℚ × Option ScheduleLag :=
  let adjustedNextCaptureAt := calculateNextCaptureAt scheduledAt intervalSec loopFinishedAt
  let skipped :=
    roundHalfEven ((adjustedNextCaptureAt - (scheduledAt + intervalSec)) / intervalSec)
  (adjustedNextCaptureAt,
    if scheduledAt + intervalSec < adjustedNextCaptureAt ∧ 0 < skipped then
      some
        { runtimeElapsed := runtimeElapsed
          skipped := skipped
          loopElapsed := loopFinishedAt - loopStartedAt
          deviceId := deviceId }
    else none)

variable {scheduledAt intervalSec now : ℚ}

/-- The next capture is at the first slot that is later than now. -/
theorem exists_isNextSlot (hinterval : 0 < intervalSec) (scheduledAt now : ℚ) :
    ∃ k, IsNextSlot scheduledAt intervalSec now k ∧
      calculateNextCaptureAt scheduledAt intervalSec now = scheduledAt + k * intervalSec := by
  unfold calculateNextCaptureAt
  by_cases hahead : now < scheduledAt + intervalSec
  · refine ⟨1, isNextSlot_one hahead, ?_⟩
    dsimp only
    rw [if_pos hahead, Int.cast_one, one_mul]
  · refine ⟨_, isNextSlot_of_missed hinterval (not_lt.mp hahead), ?_⟩
    dsimp only
    rw [if_neg hahead]
    push_cast
    ring

theorem roundHalfEven_intCast (n : ℤ) : roundHalfEven n = n := by
  unfold roundHalfEven
  dsimp only
  rw [Int.floor_intCast, sub_self, if_pos (by norm_num)]

/-- The report of a lag tells the number of the slots that are skipped. -/
theorem logScheduleLag_eq (hinterval : 0 < intervalSec) {k : ℤ}
    {loopStartedAt loopFinishedAt : ℚ} (hk : IsNextSlot scheduledAt intervalSec loopFinishedAt k)
    (runtimeElapsed : ℚ) (deviceId : Option String) :
    logScheduleLag scheduledAt intervalSec loopStartedAt loopFinishedAt runtimeElapsed deviceId =
      (scheduledAt + k * intervalSec,
        if k = 1 then none
        else some ⟨runtimeElapsed, k - 1, loopFinishedAt - loopStartedAt, deviceId⟩) := by
  obtain ⟨j, hj, hnext⟩ := exists_isNextSlot hinterval scheduledAt loopFinishedAt
  obtain rfl := hj.unique hk
  have hskipped : roundHalfEven ((scheduledAt + j * intervalSec - (scheduledAt + intervalSec)) /
      intervalSec) = j - 1 := by
    have hcount : (scheduledAt + j * intervalSec - (scheduledAt + intervalSec)) / intervalSec =
        ((j - 1 : ℤ) : ℚ) := by
      rw [div_eq_iff hinterval.ne']
      push_cast
      ring
    rw [hcount, roundHalfEven_intCast]
  unfold logScheduleLag
  dsimp only
  rw [hnext, hskipped]
  have hpositive : 1 ≤ j := hj.1.1
  by_cases hnone : j = 1
  · rw [if_pos hnone, if_neg fun hlag => by omega]
  · have hlater : scheduledAt + intervalSec < scheduledAt + j * intervalSec := by
      have hmany : (1 : ℚ) < j := by exact_mod_cast hpositive.lt_of_ne' hnone
      linarith [lt_mul_of_one_lt_left hinterval hmany]
    rw [if_neg hnone, if_pos ⟨hlater, by omega⟩]

end ImageStream
