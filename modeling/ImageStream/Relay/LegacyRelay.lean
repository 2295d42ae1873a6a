/-
# The legacy relay

`ProcessingRelayService` and `ProcessingFrameSetRelayService` queue messages for a worker that
streams them to the processor. The two classes are the same but for their messages and for
the id of the last frame set, which only the second one keeps, so they are one structure
over the type of the messages.

Every thread that enqueues, sends or clears takes its steps at the queue and at the lock of
the counters; between them any other thread may run. `queue.Queue` counts its unfinished
tasks: a `put` adds one, a `task_done` takes one away and raises if there is none.
-/

import ImageStream.Relay.Messages
import ImageStream.Sync.Models

namespace ImageStream

open Base

/-! ## Messages -/

structure RelayFrame where
  deviceId : String
  timestampMs : ℤ
  sequence : ℤ
  contentType : String
  imageBytes : List UInt8
  filePath : Option String
  deriving DecidableEq

structure RelayFrameSetFrame extends RelayFrame where
  frameId : Option ℤ
  deriving DecidableEq

structure RelayFrameSet where
  frameSetId : ℤ
  anchorTimestampMs : ℤ
  maxDeltaMs : ℤ
  frames : List RelayFrameSetFrame
  deriving DecidableEq

/-- Whether protobuf takes the numbers of a frame. A frame id is the row id of an archived
frame and always fits. -/
def RelayFrame.fits (frame : RelayFrame) : Bool :=
  isInt64 frame.timestampMs && isUint64 frame.sequence

def RelayFrameSet.fits (frameSet : RelayFrameSet) : Bool :=
  isUint64 frameSet.frameSetId && isInt64 frameSet.anchorTimestampMs &&
    isInt64 frameSet.maxDeltaMs && frameSet.frames.all fun frame => frame.fits

/-- The fields that both kinds of messages give a frame. -/
def relayFrameOf (frame : SyncInputFrame) : RelayFrame where
  deviceId := frame.deviceId
  timestampMs := frame.timestampMs
  sequence := frame.sequence.getD 0
  contentType := frame.contentType
  imageBytes := frame.imageBytes
  filePath := frame.filePath

def buildRawRelayFrame (frame : SyncInputFrame) : Except RelayError RelayFrame :=
  construct (relayFrameOf frame).fits (relayFrameOf frame)

def buildRelayFrameSetFrame (frame : StoredSyncFrame) : RelayFrameSetFrame :=
  { relayFrameOf frame.toSyncInputFrame with frameId := frame.frameId }

/-- `sorted(frame_set.frames.items())`; no two entries have the same device. -/
def sortedFrames (frameSet : SynchronizedFrameSet) : List (String × StoredSyncFrame) :=
  frameSet.frames.rows.insertionSort fun first second => first.1 ≤ second.1

def buildRelayFrameSet (frameSet : SynchronizedFrameSet) : Except RelayError RelayFrameSet :=
  let message : RelayFrameSet :=
    { frameSetId := frameSet.frameSetId
      anchorTimestampMs := frameSet.anchorTimestampMs
      maxDeltaMs := frameSet.maxDeltaMs
      frames := (sortedFrames frameSet).map fun entry => buildRelayFrameSetFrame entry.2 }
  construct message.fits message

structure RelayAck where
  success : Bool
  receivedCount : ℕ
  message : String

/-! ## The service -/

/-- `queue.Queue`. -/
structure TaskQueue (M : Type) where
  items : List M := []
  unfinishedTasks : ℕ := 0

namespace TaskQueue

variable {M : Type}

def put (queue : TaskQueue M) (message : M) : TaskQueue M where
  items := queue.items ++ [message]
  unfinishedTasks := queue.unfinishedTasks + 1

/-- `get_nowait`, or a `get` whose time has not run out. -/
def get (queue : TaskQueue M) : Option (M × TaskQueue M) :=
  match queue.items with
  | [] => none
  | message :: items => some (message, { queue with items := items })

/-- `none` where it raises. -/
def taskDone (queue : TaskQueue M) : Option (TaskQueue M) :=
  match queue.unfinishedTasks with
  | 0 => none
  | unfinished + 1 => some { queue with unfinishedTasks := unfinished }

end TaskQueue

structure RelayService (M : Type) where
  queue : TaskQueue M := {}
  /-- The worker that `start` has made last, until `stop` forgets it. -/
  runtime : Option ℕ := none
  target : Option String := none
  enabled : Bool := false
  enqueuedCount : ℕ := 0
  sentCount : ℕ := 0
  ackReceivedCount : ℕ := 0
  errorCount : ℕ := 0
  lastError : Option String := none
  lastAckSuccess : Option Bool := none
  lastAckReceivedCount : Option ℕ := none
  lastFrameSetId : Option ℤ := none

/-- What the service of frame sets keeps of the last message. -/
class RelayMessage (M : Type) where
  frameSetId? : M → Option ℤ

instance : RelayMessage RelayFrame where
  frameSetId? _ := none

instance : RelayMessage RelayFrameSet where
  frameSetId? frameSet := some frameSet.frameSetId

namespace RelayService

variable {M : Type}

def put (service : RelayService M) (message : M) : RelayService M :=
  { service with queue := service.queue.put message }

/-- The locked part of `enqueue`. -/
def countEnqueued [RelayMessage M] (service : RelayService M) (message : M) : RelayService M :=
  { service with
    enqueuedCount := service.enqueuedCount + 1
    lastFrameSetId := (RelayMessage.frameSetId? message).or service.lastFrameSetId }

def enqueue [RelayMessage M] (service : RelayService M) (message : M) : RelayService M × Bool :=
  if service.enabled then ((service.put message).countEnqueued message, true)
  else (service, false)

end RelayService

end ImageStream
