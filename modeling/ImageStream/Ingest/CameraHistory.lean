/-
# What the camera state tells

Whatever cameras send in between, the state of a camera is a summary of its own frames since
the state was cleared: the last one, how many there were, and the times of the last three
hundred. Its gap count covers every sequence number that has not arrived, and is exact while
the numbers ascend.
-/

import ImageStream.Base.ByKey
import ImageStream.Base.Gaps
import ImageStream.Base.Machine
import ImageStream.Base.Standing
import ImageStream.Ingest.CameraState

namespace ImageStream

open Base

/-- A call of `StreamState`. -/
inductive CameraCall
  | updateFrame (frame : StreamFrameState)
  | getCamera (deviceId : String)
  | clear

def CameraCall.frame? : CameraCall → Option StreamFrameState
  | .updateFrame frame => some frame
  | _ => none

def CameraCall.isClear : CameraCall → Bool
  | .clear => true
  | _ => false

/-- What a call leaves, with the copy that it answers with. -/
def cameraStep (cameras : CameraStates) : CameraCall → CameraStates × Option CameraStreamState
  | .updateFrame frame =>
      let (after, camera) := cameras.updateFrame frame
      (after, some camera)
  | .getCamera deviceId => (cameras, cameras.get? deviceId)
  | .clear => (.empty, none)

/-- The frames that have come since the state was cleared. -/
def framesSince (calls : List CameraCall) : List StreamFrameState :=
  (sinceLast CameraCall.isClear calls).filterMap CameraCall.frame?

def deviceSequences (frames : List StreamFrameState) : List ℤ :=
  frames.filterMap StreamFrameState.sequence

/-- The state of a camera that has sent these frames. -/
def CameraStreamState.summary (deviceId : String) (frames : List StreamFrameState) :
    CameraStreamState where
  deviceId := deviceId
  latestFrame := frames.getLast?
  frameCount := frames.length
  sequenceGapCount := totalSkipped (deviceSequences frames)
  lastSequence := (deviceSequences frames).getLast?
  recentTimestampsMs := (frames.map StreamFrameState.timestamp).rtake 300
  recentReceivedAtMs := (frames.map StreamFrameState.receivedAtMs).rtake 300

/-! ## One camera -/

theorem pushBounded_eq_rtake {α : Type} (maxlen : ℕ) (items : List α) (item : α) :
    pushBounded maxlen items item = (items ++ [item]).rtake maxlen := by
  rw [pushBounded, List.rtake, List.length_append, List.length_singleton]

theorem pushBounded_rtake {α : Type} (maxlen : ℕ) (items : List α) (item : α) :
    pushBounded maxlen (items.rtake maxlen) item = (items ++ [item]).rtake maxlen := by
  rw [pushBounded_eq_rtake, rtake_rtake_concat]

theorem deviceSequences_concat (frames : List StreamFrameState) (frame : StreamFrameState) :
    deviceSequences (frames ++ [frame]) = deviceSequences frames ++ frame.sequence.toList := by
  unfold deviceSequences
  rw [List.filterMap_append]
  cases hsequence : frame.sequence <;> simp [hsequence]

theorem CameraStreamState.gap_summary (deviceId : String) (frames : List StreamFrameState)
    (frame : StreamFrameState) :
    totalSkipped (deviceSequences (frames ++ [frame])) =
      totalSkipped (deviceSequences frames) + (summary deviceId frames).gap frame.sequence := by
  rw [deviceSequences_concat]
  cases hsequence : frame.sequence with
  | none =>
      rw [Option.toList_none, List.append_nil]
      exact (add_zero _).symm
  | some sequence =>
      rw [Option.toList_some, totalSkipped_concat]
      unfold gap summary
      cases (deviceSequences frames).getLast? with
      | none => rfl
      | some lastSequence => rfl

theorem CameraStreamState.update_summary (deviceId : String) (frames : List StreamFrameState)
    (frame : StreamFrameState) :
    (summary deviceId frames).update frame = summary deviceId (frames ++ [frame]) := by
  have hlast : (deviceSequences (frames ++ [frame])).getLast? =
      frame.sequence.or (deviceSequences frames).getLast? := by
    rw [deviceSequences_concat, List.getLast?_append]
    cases frame.sequence with
    | none => rfl
    | some sequence => rfl
  have hgap : (summary deviceId frames).sequenceGapCount +
      (summary deviceId frames).gap frame.sequence =
        totalSkipped (deviceSequences (frames ++ [frame])) :=
    (gap_summary deviceId frames frame).symm
  unfold update
  rw [hgap]
  simp only [summary, hlast, pushBounded_rtake, List.map_append, List.map_cons, List.map_nil,
    List.getLast?_concat, List.length_append, List.length_singleton]

theorem CameraStreamState.foldl_update (deviceId : String) (frames : List StreamFrameState) :
    frames.foldl update { deviceId := deviceId } = summary deviceId frames := by
  induction frames using List.reverseRecOn with
  | nil => rfl
  | append_singleton frames frame ih =>
      rw [List.foldl_append, ih, List.foldl_cons, List.foldl_nil, update_summary]

/-! ## All cameras -/

/-- The state that some frames leave. -/
def CameraStates.ofFrames (frames : List StreamFrameState) : CameraStates :=
  frames.foldl (Dict.absorb StreamFrameState.deviceId (fun deviceId => { deviceId := deviceId })
    CameraStreamState.update) .empty

theorem framesSince_concat {call : CameraCall} (h : call.isClear = false)
    (calls : List CameraCall) :
    framesSince (calls ++ [call]) = framesSince calls ++ call.frame?.toList := by
  rw [framesSince, sinceLast_concat h, List.filterMap_append]
  cases call <;> rfl

theorem after_eq_ofFrames (calls : List CameraCall) :
    Machine.after cameraStep .empty calls = CameraStates.ofFrames (framesSince calls) := by
  induction calls using List.reverseRecOn with
  | nil => rfl
  | append_singleton calls call ih =>
      rw [Machine.after_snoc, ih]
      cases call with
      | updateFrame frame =>
          rw [framesSince_concat rfl]
          unfold CameraStates.ofFrames
          rw [List.foldl_append]
          rfl
      | getCamera deviceId =>
          have hnone : (CameraCall.getCamera deviceId).frame? = none := rfl
          rw [framesSince_concat rfl, hnone, Option.toList_none, List.append_nil]
          rfl
      | clear =>
          unfold framesSince
          rw [sinceLast_concat_marked rfl]
          rfl

theorem get?_ofFrames (frames : List StreamFrameState) (deviceId : String) :
    (CameraStates.ofFrames frames).get? deviceId =
      if (frames.filter fun frame => deviceId = frame.deviceId) = [] then none
      else some (.summary deviceId (frames.filter fun frame => deviceId = frame.deviceId)) := by
  rw [CameraStates.ofFrames, Dict.get?_foldl_absorb, CameraStreamState.foldl_update]
  by_cases hnone : (frames.filter fun frame => deviceId = frame.deviceId) = []
  · rw [if_pos hnone, if_neg]
    simpa [List.filter_eq_nil_iff] using hnone
  · rw [if_neg hnone, if_pos]
    simpa [List.filter_eq_nil_iff] using hnone

/-- **The camera state tells a camera's history.** After any calls a device has no state if it
has sent nothing since the last clear, and otherwise the summary of its own frames since then.
The gap count is at least the number of sequence numbers between its first one and any other
one that have not arrived, and exactly the number of those missing while its sequence numbers
ascend. -/
theorem camera_state_tells_history (calls : List CameraCall) (deviceId : String) :
    let frames := (framesSince calls).filter fun frame => deviceId = frame.deviceId
    let camera? := (Machine.after cameraStep .empty calls).get? deviceId
    (camera? = if frames = [] then none else some (.summary deviceId frames)) ∧
    ∀ camera ∈ camera?, ∀ first rest, deviceSequences frames = first :: rest →
      (∀ bound ∈ rest, ((missing first rest bound).card : ℤ) ≤ camera.sequenceGapCount) ∧
      ((first :: rest).Pairwise (· < ·) → ∀ lastSequence ∈ camera.lastSequence,
        camera.sequenceGapCount = (missing first rest lastSequence).card) := by
  intro frames camera?
  have hcamera : camera? = if frames = [] then none else some (.summary deviceId frames) := by
    show (Machine.after cameraStep .empty calls).get? deviceId = _
    rw [after_eq_ofFrames]
    exact get?_ofFrames _ _
  refine ⟨hcamera, fun camera hmem first rest hsequences => ?_⟩
  have hsummary : camera = .summary deviceId frames := by
    rw [Option.mem_def, hcamera] at hmem
    split at hmem
    · cases hmem
    · exact (Option.some.inj hmem).symm
  have hgaps : camera.sequenceGapCount = totalSkipped (first :: rest) := by
    rw [hsummary, ← hsequences]
    rfl
  rw [hgaps]
  refine ⟨fun bound hbound => card_missing_le_totalSkipped hbound, ?_⟩
  intro hascending lastSequence hlast
  rw [hsummary] at hlast
  exact totalSkipped_of_ascending hascending (by rw [← hsequences]; exact hlast)

end ImageStream
