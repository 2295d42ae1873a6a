/-
# The state of the cameras

`StreamState` keeps for every device what monitoring shows: how many frames it has sent,
how many sequence numbers it has skipped, its latest frame and the times of its last
frames. The dictionary of cameras is behind one lock, and what `update_frame` returns is a
copy.
-/

import ImageStream.Base.Deque
import ImageStream.Sync.FrameBuffer

namespace ImageStream

open Base

structure StreamFrameState where
  frameId : Option ℤ
  deviceId : String
  timestamp : ℤ
  sequence : Option ℤ
  filePath : Option String
  contentType : String
  imageBytesSize : ℕ
  receivedAtMs : ℤ
  archiveState : ArchiveState := .pending
  archiveError : Option String := none
  deriving DecidableEq

structure CameraStreamState where
  deviceId : String
  latestFrame : Option StreamFrameState := none
  frameCount : ℕ := 0
  sequenceGapCount : ℤ := 0
  lastSequence : Option ℤ := none
  recentTimestampsMs : List ℤ := []
  recentReceivedAtMs : List ℤ := []
  deriving DecidableEq

abbrev CameraStates := Dict String CameraStreamState

namespace CameraStreamState

/-- How many sequence numbers a frame skips. -/
def gap (camera : CameraStreamState) (sequence : Option ℤ) : ℤ :=
  match sequence, camera.lastSequence with
  | some sequence, some lastSequence =>
      if lastSequence + 1 < sequence then sequence - lastSequence - 1 else 0
  | _, _ => 0

def update (camera : CameraStreamState) (frame : StreamFrameState) : CameraStreamState :=
  { camera with
    sequenceGapCount := camera.sequenceGapCount + camera.gap frame.sequence
    lastSequence := frame.sequence.or camera.lastSequence
    frameCount := camera.frameCount + 1
    recentTimestampsMs := pushBounded 300 camera.recentTimestampsMs frame.timestamp
    recentReceivedAtMs := pushBounded 300 camera.recentReceivedAtMs frame.receivedAtMs
    latestFrame := some frame }

end CameraStreamState

namespace CameraStates

/-- `setdefault` for a device. -/
def cameraOf (cameras : CameraStates) (deviceId : String) : CameraStreamState :=
  (cameras.get? deviceId).getD { deviceId := deviceId }

def updateFrame (cameras : CameraStates) (frame : StreamFrameState) :
    CameraStates × CameraStreamState :=
  let updated := (cameras.cameraOf frame.deviceId).update frame
  (cameras.set frame.deviceId updated, updated)

end CameraStates

end ImageStream
