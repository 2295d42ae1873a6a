/-
# The identity of a source frame

A frame is identified by its source session, its device, its camera and its sequence
number. The uid is made of the session, of one text for the device and its camera, and of
the number. The text is the device id alone for the default camera and the two ids with a
slash between them for any other, so a device id that has a slash in it can be read in two
ways. Two frames are told apart by their uids exactly when neither reading is the other.
-/

import ImageStream.Base.Canonical
import ImageStream.Frames.Service

namespace ImageStream

open Base Digest

/-! ## The text of a camera -/

/-- The text of a device and of its camera, if that is not the default one. -/
def joinedCamera (device : String) : Option String → String
  | some camera => device ++ "/" ++ camera
  | none => device

/-- Whether the text of a device and its camera is also that of a longer device id. -/
def SplitsInto (device : String) (camera : Option String) (device' : String)
    (camera' : Option String) : Prop :=
  ∃ middle, device' = device ++ "/" ++ middle ∧ camera = some (joinedCamera middle camera')

theorem SplitsInto.joinedCamera_eq {device device' : String} {camera camera' : Option String}
    (h : SplitsInto device camera device' camera') :
    joinedCamera device camera = joinedCamera device' camera' := by
  obtain ⟨middle, rfl, rfl⟩ := h
  cases camera' with
  | none => rfl
  | some camera' => simp [joinedCamera, String.append_assoc]

theorem SplitsInto.device_ne {device device' : String} {camera camera' : Option String}
    (h : SplitsInto device camera device' camera') : device ≠ device' := by
  obtain ⟨middle, rfl, -⟩ := h
  intro heq
  have hlength := congrArg (fun s => s.toList.length) heq
  simp at hlength

/-- Two texts with a slash are equal only if they are split at the same place, or the second
is split at a later slash, or the first is. -/
theorem splitsInto_of_append_eq {device device' camera camera' : String}
    (h : device ++ "/" ++ camera = device' ++ "/" ++ camera') :
    (device = device' ∧ camera = camera') ∨
      SplitsInto device (some camera) device' (some camera') ∨
        SplitsInto device' (some camera') device (some camera) := by
  have hsplit : ∀ {first second rest rest' between : List Char},
      second = first ++ between → '/' :: rest = between ++ '/' :: rest' →
      (first = second ∧ rest = rest') ∨
        ∃ middle, second = first ++ '/' :: middle ∧ rest = middle ++ '/' :: rest' := by
    intro first second rest rest' between hsecond hrest
    cases between with
    | nil =>
        rw [List.append_nil] at hsecond
        exact Or.inl ⟨hsecond.symm, (List.cons.inj hrest).2⟩
    | cons c middle =>
        obtain ⟨rfl, htail⟩ := List.cons.inj hrest
        exact Or.inr ⟨middle, hsecond, htail⟩
  have hof : ∀ {first second rest rest' : String} {middle : List Char},
      second.toList = first.toList ++ '/' :: middle →
      rest.toList = middle ++ '/' :: rest'.toList →
      SplitsInto first (some rest) second (some rest') := by
    intro first second rest rest' middle hsecond hrest
    refine ⟨String.ofList middle, ?_, congrArg some ?_⟩
    · apply String.toList_inj.mp
      simp [hsecond]
    · apply String.toList_inj.mp
      simp [joinedCamera, hrest]
  have hlist := congrArg String.toList h
  simp only [String.toList_append, List.append_assoc] at hlist
  rcases List.append_eq_append_iff.mp hlist with ⟨between, hdevice, hrest⟩ | ⟨between, hdevice, hrest⟩
  · rcases hsplit hdevice hrest with ⟨hsame, hcamera⟩ | ⟨middle, hmiddle, htail⟩
    · exact Or.inl ⟨String.toList_inj.mp hsame, String.toList_inj.mp hcamera⟩
    · exact Or.inr (Or.inl (hof hmiddle htail))
  · rcases hsplit hdevice hrest with ⟨hsame, hcamera⟩ | ⟨middle, hmiddle, htail⟩
    · exact Or.inl ⟨(String.toList_inj.mp hsame).symm, (String.toList_inj.mp hcamera).symm⟩
    · exact Or.inr (Or.inr (hof hmiddle htail))

/-- Two cameras have the same text exactly when they are the same or the text of one is also
that of a longer device id. -/
theorem joinedCamera_eq_iff {device device' : String} {camera camera' : Option String} :
    joinedCamera device camera = joinedCamera device' camera' ↔
      (device = device' ∧ camera = camera') ∨
        SplitsInto device camera device' camera' ∨ SplitsInto device' camera' device camera := by
  constructor
  · intro h
    cases camera with
    | none =>
        cases camera' with
        | none => exact Or.inl ⟨h, rfl⟩
        | some camera' => exact Or.inr (Or.inr ⟨camera', h, rfl⟩)
    | some camera =>
        cases camera' with
        | none => exact Or.inr (Or.inl ⟨camera, h.symm, rfl⟩)
        | some camera' => simpa using splitsInto_of_append_eq h
  · rintro (⟨rfl, rfl⟩ | h | h)
    · rfl
    · exact h.joinedCamera_eq
    · exact h.joinedCamera_eq.symm

/-! ## What identifies a frame -/

/-- The arguments that a frame's uid is made of. -/
structure FrameSource where
  sourceSessionId : String
  deviceId : String
  cameraId : Option String := none
  frameSequence : ℤ

namespace FrameSource

/-- The uid that `ingest_frame` gives a frame. -/
def sourceFrameUid (source : FrameSource) : Except ValueError String := do
  let cameraStreamId ← canonicalCameraStreamId source.deviceId source.cameraId
  buildSourceFrameUid source.sourceSessionId cameraStreamId source.frameSequence

/-- Neither the session nor the device is blank, and the number is not negative. -/
structure Valid (source : FrameSource) : Prop where
  session : strip source.sourceSessionId ≠ ""
  device : strip source.deviceId ≠ ""
  sequence : 0 ≤ source.frameSequence

/-- The camera, without blanks around it; none for the default camera of the device. -/
def camera (source : FrameSource) : Option String :=
  let camera := strip (source.cameraId.getD "")
  if camera ≠ "" ∧ camera ≠ strip source.deviceId then some camera else none

/-- Whether two frames have one session, device, camera and number. -/
structure SameFrame (first second : FrameSource) : Prop where
  session : strip first.sourceSessionId = strip second.sourceSessionId
  device : strip first.deviceId = strip second.deviceId
  camera : first.camera = second.camera
  sequence : first.frameSequence = second.frameSequence

/-- Whether two frames of one session and number have cameras whose texts can be read as
each other. -/
structure Confusable (first second : FrameSource) : Prop where
  session : strip first.sourceSessionId = strip second.sourceSessionId
  sequence : first.frameSequence = second.frameSequence
  splits : SplitsInto (strip first.deviceId) first.camera (strip second.deviceId) second.camera ∨
    SplitsInto (strip second.deviceId) second.camera (strip first.deviceId) first.camera

/-- The text that the uid is the digest of. -/
def name (source : FrameSource) : List UInt8 :=
  encodeUtf8 (canonicalJson (.arr
    [.str (strip source.sourceSessionId),
      .str (joinedCamera (strip source.deviceId) source.camera), .int source.frameSequence]))

theorem canonicalCameraStreamId_eq {source : FrameSource} (h : source.Valid) :
    canonicalCameraStreamId source.deviceId source.cameraId =
      .ok (joinedCamera (strip source.deviceId) source.camera) := by
  simp only [canonicalCameraStreamId, requiredText, if_neg h.device, camera, bind, Except.bind,
    pure, Except.pure]
  split <;> rfl

/-- The text of a camera has nothing to strip. -/
theorem strip_joinedCamera {source : FrameSource} (h : source.Valid) :
    strip (joinedCamera (strip source.deviceId) source.camera) =
        joinedCamera (strip source.deviceId) source.camera ∧
      joinedCamera (strip source.deviceId) source.camera ≠ "" := by
  unfold camera
  dsimp only
  split
  case isFalse => exact ⟨strip_strip _, h.device⟩
  case isTrue hcamera =>
    refine ⟨strip_append (strip_strip _) (strip_strip _) h.device hcamera.1, ?_⟩
    intro hempty
    have hlength := congrArg (fun s => s.toList.length) hempty
    simp [joinedCamera] at hlength

theorem sourceFrameUid_eq {source : FrameSource} (h : source.Valid) :
    source.sourceFrameUid = .ok (Uuid.text (uuid5 sourceFrameNamespace source.name)) := by
  obtain ⟨hstrip, hne⟩ := strip_joinedCamera h
  have hsequence : ¬source.frameSequence < 0 := not_lt.mpr h.sequence
  rw [sourceFrameUid, canonicalCameraStreamId_eq h]
  simp [buildSourceFrameUid, requiredText, validSequence, h.session, hstrip, hne, hsequence,
    bind, Except.bind, pure, Except.pure, name]

/-- A frame is stored under this uid. -/
theorem resolveFrameIdentity_eq {source : FrameSource} (h : source.Valid)
    (contentDigest : Option String) :
    ∃ cameraStreamId mode,
      canonicalCameraStreamId source.deviceId source.cameraId = .ok cameraStreamId ∧
        resolveFrameIdentity (some source.sourceSessionId) (some cameraStreamId)
          (some source.frameSequence) contentDigest =
            source.sourceFrameUid.map fun uid => (some uid, mode) := by
  obtain ⟨hstrip, hne⟩ := strip_joinedCamera h
  refine ⟨_, if truthy (contentDigest.map strip) then .v2 else .legacy,
    canonicalCameraStreamId_eq h, ?_⟩
  have huid := sourceFrameUid_eq h
  simp only [sourceFrameUid, canonicalCameraStreamId_eq h, bind, Except.bind] at huid ⊢
  simp [resolveFrameIdentity, h.session, hstrip, hne, huid, bind, Except.bind, pure, Except.pure,
    Except.map]

/-- The text of a frame is that of another one only if all its parts are. -/
theorem name_eq_iff {first second : FrameSource} :
    first.name = second.name ↔
      strip first.sourceSessionId = strip second.sourceSessionId ∧
        joinedCamera (strip first.deviceId) first.camera =
          joinedCamera (strip second.deviceId) second.camera ∧
        first.frameSequence = second.frameSequence := by
  constructor
  · intro h
    have hjson := Json.canonicalJson_inj (encodeUtf8_inj h)
    simpa [Json.sorted, Json.sortedItems] using hjson
  · rintro ⟨hsession, hcamera, hsequence⟩
    rw [name, name, hsession, hcamera, hsequence]

/-- **Frame identity.** Where the digest tells two frames' texts apart, both have uids, and
the uids tell the frames apart exactly when they are not confusable. -/
theorem uid_identifies_iff {first second : FrameSource} (hfirst : first.Valid)
    (hsecond : second.Valid)
    (huuid5 : uuid5 sourceFrameNamespace first.name = uuid5 sourceFrameNamespace second.name →
      first.name = second.name) :
    ∃ uid uid', first.sourceFrameUid = .ok uid ∧ second.sourceFrameUid = .ok uid' ∧
      ((uid = uid' ↔ first.SameFrame second) ↔ ¬first.Confusable second) := by
  refine ⟨_, _, sourceFrameUid_eq hfirst, sourceFrameUid_eq hsecond, ?_⟩
  have huid : Uuid.text (uuid5 sourceFrameNamespace first.name) =
      Uuid.text (uuid5 sourceFrameNamespace second.name) ↔ first.name = second.name :=
    ⟨fun h => huuid5 (Uuid.text_inj h), fun h => by rw [h]⟩
  rw [huid, name_eq_iff, joinedCamera_eq_iff]
  constructor
  · rintro h ⟨hsession, hsequence, hsplits⟩
    have hsame := h.mp ⟨hsession, Or.inr hsplits, hsequence⟩
    rcases hsplits with hsplits | hsplits
    · exact hsplits.device_ne hsame.device
    · exact hsplits.device_ne hsame.device.symm
  · intro h
    constructor
    · rintro ⟨hsession, ⟨hdevice, hcamera⟩ | hsplits, hsequence⟩
      · exact ⟨hsession, hdevice, hcamera, hsequence⟩
      · exact absurd ⟨hsession, hsequence, hsplits⟩ h
    · exact fun hsame => ⟨hsame.session, Or.inl ⟨hsame.device, hsame.camera⟩, hsame.sequence⟩

end FrameSource

/-! ### Two cameras of one phone -/

/-- The first frame of a session of a phone's camera. -/
def phoneFrame (cameraId : Option String) : FrameSource where
  sourceSessionId := "session-1"
  deviceId := " phone "
  cameraId := cameraId
  frameSequence := 1

theorem phoneFrame_valid (cameraId : Option String) : (phoneFrame cameraId).Valid where
  session := by
    show strip "session-1" ≠ ""
    decide +kernel
  device := by
    show strip " phone " ≠ ""
    decide +kernel
  sequence := by
    show (0 : ℤ) ≤ 1
    decide

theorem uid_identifies_iff_phone :
    ∃ uid uid', (phoneFrame (some "front")).sourceFrameUid = .ok uid ∧
      (phoneFrame (some "phone")).sourceFrameUid = .ok uid' ∧
        ((uid = uid' ↔ (phoneFrame (some "front")).SameFrame (phoneFrame (some "phone"))) ↔
          ¬(phoneFrame (some "front")).Confusable (phoneFrame (some "phone"))) :=
  FrameSource.uid_identifies_iff (phoneFrame_valid _) (phoneFrame_valid _) (by decide +kernel)

/-- The frame with this number of a device whose id is that of another device and its camera. -/
def slashedFrame : FrameSource where
  sourceSessionId := "session-1"
  deviceId := "phone/front"
  frameSequence := 1

theorem slashed_device_confused :
    slashedFrame.Valid ∧ (phoneFrame (some "front")).Valid ∧
      ¬(slashedFrame.sourceFrameUid = (phoneFrame (some "front")).sourceFrameUid ↔
        slashedFrame.SameFrame (phoneFrame (some "front"))) := by
  have hvalid : slashedFrame.Valid :=
    ⟨by show strip "session-1" ≠ ""; decide +kernel, by show strip "phone/front" ≠ ""; decide +kernel,
      by show (0 : ℤ) ≤ 1; decide⟩
  refine ⟨hvalid, phoneFrame_valid _, fun h => ?_⟩
  have huid : slashedFrame.sourceFrameUid = (phoneFrame (some "front")).sourceFrameUid := by
    decide +kernel
  have hdevice : strip "phone/front" = strip " phone " := (h.mp huid).device
  exact absurd hdevice (by decide +kernel)

end ImageStream
