/-
# Source, session and frame-set identities

Identities are digests of canonical text. Nothing proved here depends on which
digest a value has; what matters is that a digest is never empty and has no blanks
at its ends, because the code tests identities for truth and strips them.
-/

import ImageStream.Base.Digest

namespace ImageStream

open Base Digest

inductive IdentityMode
  | legacy
  | v2
  deriving DecidableEq, Repr

/-- Raised as a `ValueError` with this text. -/
abbrev ValueError := String

def encodeUtf8 (s : String) : List UInt8 := s.toUTF8.toList

theorem toList_loop (bytes : ByteArray) (i : ℕ) (read : List UInt8) :
    ByteArray.toList.loop bytes i read = read.reverse ++ bytes.data.toList.drop i := by
  unfold ByteArray.toList.loop
  split
  · rename_i h
    have hlt : i < bytes.data.toList.length := by simpa using h
    have hget : bytes.get! i = bytes.data.toList[i] := by simp [ByteArray.get!, h]
    rw [toList_loop bytes (i + 1), List.drop_eq_getElem_cons hlt, hget]
    simp
  · rename_i h
    rw [List.drop_eq_nil_of_le (by simpa using h)]
    simp
termination_by bytes.size - i

/-- Each character on its own. -/
theorem encodeUtf8_eq (s : String) : encodeUtf8 s = s.toList.flatMap String.utf8EncodeChar := by
  show ByteArray.toList.loop s.toByteArray 0 [] = _
  rw [toList_loop, ← String.utf8Encode_toList]
  simp [List.utf8Encode]

theorem encodeUtf8_inj {s t : String} (h : encodeUtf8 s = encodeUtf8 t) : s = t := by
  have hread : ∀ u : String, encodeUtf8 u = u.toByteArray.data.toList := by
    intro u
    show ByteArray.toList.loop u.toByteArray 0 [] = _
    rw [toList_loop]
    rfl
  rw [hread, hread, Array.toList_inj] at h
  exact String.toByteArray_inj.mp (ByteArray.ext h)

def requiredText (name value : String) : Except ValueError String :=
  let normalized := strip value
  if normalized = "" then .error (name ++ " must not be empty") else .ok normalized

def validSequence (value : ℤ) : Except ValueError ℤ :=
  if value < 0 then .error "frame_sequence must be greater than or equal to 0" else .ok value

def canonicalCameraStreamId (deviceId : String) (cameraId : Option String) :
    Except ValueError String := do
  let device ← requiredText "device_id" deviceId
  let camera := strip (cameraId.getD "")
  return if camera ≠ "" ∧ camera ≠ device then device ++ "/" ++ camera else device

def sha256Bytes (payload : List UInt8) : String := sha256Hex payload

/-- `uuid.NAMESPACE_URL`. -/
def namespaceUrl : Uuid :=
  [0x6b, 0xa7, 0xb8, 0x11, 0x9d, 0xad, 0x11, 0xd1, 0x80, 0xb4, 0x00, 0xc0, 0x4f, 0xd4, 0x30, 0xc8]

def sourceFrameNamespace : Uuid :=
  uuid5 namespaceUrl (encodeUtf8 "https://geocap.local/identity/source-frame/v2")

def captureSessionNamespace : Uuid :=
  uuid5 namespaceUrl (encodeUtf8 "https://geocap.local/identity/capture-session/v2")

def frameSetNamespace : Uuid :=
  uuid5 namespaceUrl (encodeUtf8 "https://geocap.local/identity/frame-set/v2")

def buildSourceFrameUid (sourceSessionId cameraStreamId : String) (frameSequence : ℤ) :
    Except ValueError String := do
  let session ← requiredText "source_session_id" sourceSessionId
  let camera ← requiredText "camera_stream_id" cameraStreamId
  let sequence ← validSequence frameSequence
  return Uuid.text (uuid5 sourceFrameNamespace
    (encodeUtf8 (canonicalJson (.arr [.str session, .str camera, .int sequence]))))

/-- The order of two-element text lists. -/
def pairLe (first second : String × String) : Bool :=
  first.1 < second.1 || (first.1 == second.1 && first.2 ≤ second.2)

def requiredPairs : List (String × String) → Except ValueError (List (String × String))
  | [] => .ok []
  | (cameraStreamId, sourceSessionId) :: rest => do
      let camera ← requiredText "camera_stream_id" cameraStreamId
      let session ← requiredText "source_session_id" sourceSessionId
      let pairs ← requiredPairs rest
      return (camera, session) :: pairs

def buildCaptureSessionId (sourceSessions : List (String × String)) :
    Except ValueError String := do
  let pairs ← requiredPairs sourceSessions
  let members := pairs.insertionSort fun first second => pairLe first second
  if members = [] then
    .error "source_sessions must not be empty"
  else
    return Uuid.text (uuid5 captureSessionNamespace (encodeUtf8
      (canonicalJson (.arr (members.map fun pair => .arr [.str pair.1, .str pair.2])))))

def buildManifestDigest (payload : Json) : String :=
  sha256Hex (encodeUtf8 (canonicalJson payload))

def buildFrameSetUid (manifestDigest : String) : Except ValueError String := do
  let digest ← requiredText "manifest_digest" manifestDigest
  return Uuid.text (uuid5 frameSetNamespace (encodeUtf8 digest))

theorem buildManifestDigest_ne_empty (payload : Json) : buildManifestDigest payload ≠ "" :=
  sha256Hex_ne_empty _

theorem buildCaptureSessionId_ne_empty {sourceSessions : List (String × String)}
    {captureSessionId : String}
    (h : buildCaptureSessionId sourceSessions = .ok captureSessionId) :
    captureSessionId ≠ "" := by
  unfold buildCaptureSessionId at h
  cases hpairs : requiredPairs sourceSessions with
  | error e => simp [hpairs, bind, Except.bind] at h
  | ok pairs =>
      simp only [hpairs, bind, Except.bind] at h
      split at h
      · cases h
      · cases h
        exact Uuid.text_ne_empty _

/-- The uid of a manifest digest is always there. -/
theorem buildFrameSetUid_buildManifestDigest (payload : Json) :
    buildFrameSetUid (buildManifestDigest payload) =
      .ok (Uuid.text (uuid5 frameSetNamespace (encodeUtf8 (buildManifestDigest payload)))) := by
  have hdigest : requiredText "manifest_digest" (buildManifestDigest payload) =
      .ok (buildManifestDigest payload) := by
    simp [requiredText, buildManifestDigest, strip_sha256Hex, sha256Hex_ne_empty]
  simp [buildFrameSetUid, hdigest, bind, Except.bind, pure, Except.pure]

end ImageStream
