/-
# Archived frames and their files

`persist_frame_archive` writes the payload of a frame and then records the frame. The file
is in place before the row is looked up, so a call that is answered with an older row, or
refused, may have put other bytes under a durable row. And a legacy row that becomes
durable keeps the digest of an earlier payload.

The path of a payload is a function of the frame's device, time, file name and session,
and nobody else touches the files.
-/

import ImageStream.Base.Machine
import ImageStream.Frames.Service

namespace ImageStream

open Base

/-! ## The archive -/

/-- The database and the files, by their paths. -/
structure FrameArchive where
  db : Database := {}
  files : String → Option (List UInt8) := fun _ => none

/-- Where the writing of a payload fails. Before the replacement the old file stays. -/
inductive WriteFault
  | none
  | beforeReplace (text : String)
  | afterReplace (text : String)
  deriving DecidableEq

/-- What fails in one call. -/
structure ArchiveFaults where
  write : WriteFault := .none
  metadata : MetadataFault := .none
  /-- The text of the `IntegrityError` of a row that conflicts with another one. -/
  integrityText : String := ""

/-- `durable_write_bytes`, or a writer in its place. -/
def durableWriteBytes (files : String → Option (List UInt8)) (path : String)
    (payload : List UInt8) : WriteFault → (String → Option (List UInt8)) × Except String Unit
  | .none => (Function.update files path (some payload), .ok ())
  | .beforeReplace text => (files, .error text)
  | .afterReplace text => (Function.update files path (some payload), .error text)

/-- The arguments of `persist_frame_archive`. -/
structure ArchiveRequest where
  deviceId : String
  timestampMs : ℤ
  imageBytes : List UInt8
  savePath : Option String
  sourceSessionId : Option String
  cameraStreamId : Option String
  frameSequence : Option ℤ
  contentDigest : String
  contentType : Option String := none
  receivedAtMs : Option ℤ := none
  captureConfigDigest : Option String := none
  captureMetadataJson : Option String := none
  tenantId : Option String := none
  siteId : Option String := none
  captureSessionId : Option String := none
  processingJobId : Option String := none
  profileDigest : Option String := none
  authorizedSubject : Option String := none
  sessionTokenJti : Option String := none
  authorizedCameraId : Option String := none
  cameraClaimId : Option String := none
  initialError : Option String := none

structure FrameArchiveOutcome where
  frame : Option Frame
  state : ArchiveState
  filePath : Option String
  error : Option String

/-- `errors = [initial_error] if initial_error else []`. -/
def ArchiveRequest.initialErrors (request : ArchiveRequest) : List String :=
  (request.initialError.filter fun error => error ≠ "").toList

/-- The name and the text of an exception. -/
def FrameError.text (integrityText : String) : FrameError → String
  | .valueError reason => "ValueError: " ++ reason
  | .frameIntegrity reason => "FrameIntegrityError: " ++ reason
  | .databaseIntegrity => integrityText
  | .database text => text

/-- `"; ".join(errors) or None`. -/
def joinErrors (errors : List String) : Option String :=
  if errors = [] then none else some (String.intercalate "; " errors)

/-- The files, whether the payload is durable, and the errors so far. -/
def writePayload (files : String → Option (List UInt8)) (fault : WriteFault)
    (request : ArchiveRequest) : (String → Option (List UInt8)) × Bool × List String :=
  match request.savePath, request.initialErrors with
  | some path, [] =>
      match durableWriteBytes files path request.imageBytes fault with
      | (files, .ok ()) => (files, true, [])
      | (files, .error text) => (files, false, ["file archive failed: " ++ text])
  | _, errors => (files, false, errors)

/-- What is recorded of a frame, once its payload has been written or not. -/
def ArchiveRequest.arguments (request : ArchiveRequest) (fileDurable : Bool)
    (errors : List String) : FrameArguments where
  deviceId := request.deviceId
  timestamp := request.timestampMs
  filePath := if fileDurable then request.savePath else none
  sourceSessionId := request.sourceSessionId
  cameraStreamId := request.cameraStreamId
  frameSequence := request.frameSequence
  contentDigest := some request.contentDigest
  archiveState := if fileDurable then .durable else .degradedLiveOnly
  archiveError := joinErrors errors
  fileSize := if fileDurable then some request.imageBytes.length else none
  contentType := request.contentType
  receivedAtMs := request.receivedAtMs
  captureConfigDigest := request.captureConfigDigest
  captureMetadataJson := request.captureMetadataJson
  tenantId := request.tenantId
  siteId := request.siteId
  captureSessionId := request.captureSessionId
  processingJobId := request.processingJobId
  profileDigest := request.profileDigest
  authorizedSubject := request.authorizedSubject
  sessionTokenJti := request.sessionTokenJti
  authorizedCameraId := request.authorizedCameraId
  cameraClaimId := request.cameraClaimId

def persistFrameArchive (archive : FrameArchive) (faults : ArchiveFaults)
    (request : ArchiveRequest) : FrameArchive × FrameArchiveOutcome :=
  let (files, fileDurable, errors) := writePayload archive.files faults.write request
  match createFrame archive.db faults.metadata (request.arguments fileDurable errors) with
  | (db, .error e) =>
      ({ db := db, files := files },
        { frame := none
          state := .degradedLiveOnly
          filePath := none
          error := joinErrors
            (errors ++ ["metadata archive failed: " ++ e.text faults.integrityText]) })
  | (db, .ok frame) =>
      ({ db := db, files := files },
        { frame := some frame
          state := frame.archiveState
          filePath := if frame.archiveState = .durable then frame.filePath else none
          error := frame.archiveError })

/-! ## Calls -/

/-- One call, as `ingest_frame` makes it: the digest is that of the payload, and the path is
there unless it could not be built. -/
structure ArchiveCall where
  deviceId : String
  timestampMs : ℤ
  imageBytes : List UInt8
  filename : String
  sessionId : Option String
  cameraStreamId : Option String
  frameSequence : Option ℤ
  contentType : Option String := none
  receivedAtMs : Option ℤ := none
  captureConfigDigest : Option String := none
  captureMetadataJson : Option String := none
  tenantId : Option String := none
  siteId : Option String := none
  captureSessionId : Option String := none
  processingJobId : Option String := none
  profileDigest : Option String := none
  authorizedSubject : Option String := none
  sessionTokenJti : Option String := none
  authorizedCameraId : Option String := none
  cameraClaimId : Option String := none
  pathError : Option String := none
  faults : ArchiveFaults := {}

/-- `build_frame_path`, where it succeeds. -/
abbrev FramePath : Type := String → ℤ → String → Option String → String

def ArchiveCall.request (buildFramePath : FramePath) (call : ArchiveCall) : ArchiveRequest where
  deviceId := call.deviceId
  timestampMs := call.timestampMs
  imageBytes := call.imageBytes
  savePath :=
    match call.pathError with
    | none => some (buildFramePath call.deviceId call.timestampMs call.filename call.sessionId)
    | some _ => none
  sourceSessionId := call.sessionId
  cameraStreamId := call.cameraStreamId
  frameSequence := call.frameSequence
  contentDigest := sha256Bytes call.imageBytes
  contentType := call.contentType
  receivedAtMs := call.receivedAtMs
  captureConfigDigest := call.captureConfigDigest
  captureMetadataJson := call.captureMetadataJson
  tenantId := call.tenantId
  siteId := call.siteId
  captureSessionId := call.captureSessionId
  processingJobId := call.processingJobId
  profileDigest := call.profileDigest
  authorizedSubject := call.authorizedSubject
  sessionTokenJti := call.sessionTokenJti
  authorizedCameraId := call.authorizedCameraId
  cameraClaimId := call.cameraClaimId
  initialError := call.pathError.map ("archive path failed: " ++ ·)

def archiveStep (buildFramePath : FramePath) (archive : FrameArchive) (call : ArchiveCall) :
    FrameArchive × FrameArchiveOutcome :=
  persistFrameArchive archive call.faults (call.request buildFramePath)

abbrev ArchiveExchange : Type := Exchange FrameArchive ArchiveCall FrameArchiveOutcome

/-! ## Rows and files -/

/-- Whether a row names a file with the size and the digest of the row. -/
def Frame.MatchesFile (files : String → Option (List UInt8)) (row : Frame) : Prop :=
  ∃ path payload, row.filePath = some path ∧ files path = some payload ∧
    row.fileSize = some (payload.length : ℤ) ∧ row.contentDigest = some (sha256Bytes payload)

/-- Whether every durable row matches its file. -/
def FrameArchive.Matches (archive : FrameArchive) : Prop :=
  ∀ row ∈ archive.db.frames.rows, row.archiveState = .durable → row.MatchesFile archive.files

/-- Whether the files of the rows that are durable already stay as they are. -/
def FrameArchive.KeepsFiles (before after : FrameArchive) : Prop :=
  ∀ row ∈ before.db.frames.rows, row.archiveState = .durable →
    ∀ path, row.filePath = some path → after.files path = before.files path

/-- The path whose file a call replaces. -/
def ArchiveCall.replaces? (buildFramePath : FramePath) (call : ArchiveCall) : Option String :=
  match call.pathError, call.faults.write with
  | some _, _ => none
  | none, .beforeReplace _ => none
  | none, _ =>
      some (buildFramePath call.deviceId call.timestampMs call.filename call.sessionId)

/-- A call does no harm when it writes under a durable row what is there, and when a row that
it recovers has been recorded for the same payload. -/
structure ArchiveCall.Harmless (buildFramePath : FramePath) (archive : FrameArchive)
    (call : ArchiveCall) : Prop where
  keeps : ∀ path, call.replaces? buildFramePath = some path →
    ∀ row ∈ archive.db.frames.rows, row.archiveState = .durable → row.filePath = some path →
      archive.files path = some call.imageBytes
  recovers : call.pathError = none → call.faults.write = .none → ∀ row,
    RecoversFrame archive.db call.faults.metadata
        ((call.request buildFramePath).arguments true []) row →
      row.contentDigest = some (sha256Bytes call.imageBytes)

/-! ## One call -/

section Call

variable {buildFramePath : FramePath} {archive : FrameArchive} {call : ArchiveCall}

theorem archiveStep_archive (buildFramePath : FramePath) (archive : FrameArchive)
    (call : ArchiveCall) :
    let written := writePayload archive.files call.faults.write (call.request buildFramePath)
    (archiveStep buildFramePath archive call).1 =
      { db := (createFrame archive.db call.faults.metadata
          ((call.request buildFramePath).arguments written.2.1 written.2.2)).1
        files := written.1 } := by
  intro written
  show (persistFrameArchive archive call.faults (call.request buildFramePath)).1 = _
  unfold persistFrameArchive
  dsimp only
  cases hcreate : createFrame archive.db call.faults.metadata
      ((call.request buildFramePath).arguments written.2.1 written.2.2) with
  | mk db result =>
      cases result with
      | error e => simp only [written] at hcreate ⊢
      | ok frame => simp only [written] at hcreate ⊢

/-- The files after a call. -/
def ArchiveCall.filesAfter (buildFramePath : FramePath) (archive : FrameArchive)
    (call : ArchiveCall) : String → Option (List UInt8) :=
  match call.replaces? buildFramePath with
  | some path => Function.update archive.files path (some call.imageBytes)
  | none => archive.files

/-- What the writing of a payload comes to: the payload is durable when nothing fails. -/
theorem writePayload_request (buildFramePath : FramePath) (archive : FrameArchive)
    (call : ArchiveCall) :
    ∃ fileDurable errors,
      writePayload archive.files call.faults.write (call.request buildFramePath) =
        (call.filesAfter buildFramePath archive, fileDurable, errors) ∧
      (fileDurable = true → call.pathError = none ∧ call.faults.write = .none ∧ errors = []) ∧
      (call.pathError = none → call.faults.write = .none → fileDurable = true) := by
  cases hpath : call.pathError with
  | some text =>
      have hsave : (call.request buildFramePath).savePath = none := by
        simp only [ArchiveCall.request, hpath]
      have hfiles : call.filesAfter buildFramePath archive = archive.files := by
        simp only [ArchiveCall.filesAfter, ArchiveCall.replaces?, hpath]
      refine ⟨false, (call.request buildFramePath).initialErrors, ?_, fun h => (by cases h), fun h => (by cases h)⟩
      rw [hfiles]
      simp only [writePayload, hsave]
  | none =>
      have hsave : (call.request buildFramePath).savePath = some
          (buildFramePath call.deviceId call.timestampMs call.filename call.sessionId) := by
        simp only [ArchiveCall.request, hpath]
      have herrors : (call.request buildFramePath).initialErrors = [] := by
        simp [ArchiveRequest.initialErrors, ArchiveCall.request, hpath]
      have hbytes : (call.request buildFramePath).imageBytes = call.imageBytes := rfl
      cases hwrite : call.faults.write with
      | none =>
          refine ⟨true, [], ?_, fun _ => ⟨rfl, rfl, rfl⟩, fun _ _ => rfl⟩
          simp only [writePayload, hsave, herrors, durableWriteBytes, hbytes,
            ArchiveCall.filesAfter, ArchiveCall.replaces?, hpath, hwrite]
      | beforeReplace text =>
          refine ⟨false, ["file archive failed: " ++ text], ?_, fun h => (by cases h), fun _ h => (by cases h)⟩
          simp only [writePayload, hsave, herrors, durableWriteBytes,
            ArchiveCall.filesAfter, ArchiveCall.replaces?, hpath, hwrite]
      | afterReplace text =>
          refine ⟨false, ["file archive failed: " ++ text], ?_, fun h => (by cases h), fun _ h => (by cases h)⟩
          simp only [writePayload, hsave, herrors, durableWriteBytes, hbytes,
            ArchiveCall.filesAfter, ArchiveCall.replaces?, hpath, hwrite]

variable (buildFramePath archive) in
/-- A durable payload is where its path says. -/
theorem files_of_durable (hpath : call.pathError = none) (hwrite : call.faults.write = .none) :
    (call.request buildFramePath).savePath = call.replaces? buildFramePath ∧
      ∃ path, call.replaces? buildFramePath = some path ∧
        call.filesAfter buildFramePath archive path = some call.imageBytes := by
  have hreplaces : call.replaces? buildFramePath = some
      (buildFramePath call.deviceId call.timestampMs call.filename call.sessionId) := by
    simp only [ArchiveCall.replaces?, hpath, hwrite]
  refine ⟨?_, _, hreplaces, ?_⟩
  · rw [hreplaces]
    simp only [ArchiveCall.request, hpath]
  · unfold ArchiveCall.filesAfter
    rw [hreplaces]
    exact Function.update_self ..

variable (buildFramePath archive call) in
/-- The file at a path is the old one, or the payload of the call. -/
theorem filesAfter_eq (path : String) :
    (call.replaces? buildFramePath = some path ∧
        call.filesAfter buildFramePath archive path = some call.imageBytes) ∨
      call.filesAfter buildFramePath archive path = archive.files path := by
  unfold ArchiveCall.filesAfter
  cases hreplaces : call.replaces? buildFramePath with
  | none => exact .inr rfl
  | some replaced =>
      by_cases hpath : path = replaced
      · left
        rw [hpath]
        exact ⟨rfl, Function.update_self ..⟩
      · right
        exact Function.update_of_ne hpath ..

/-- Only a durable payload is recorded as one. -/
theorem eq_true_of_durable {fileDurable : Bool}
    (h : (if fileDurable then ArchiveState.durable else .degradedLiveOnly) = .durable) :
    fileDurable = true := by
  cases fileDurable with
  | true => rfl
  | false => cases h

/-- A harmless call leaves the files of the durable rows as they were. -/
theorem files_of_harmless (hharmless : call.Harmless buildFramePath archive) {row : Frame}
    (hrow : row ∈ archive.db.frames.rows) (hstate : row.archiveState = .durable) {path : String}
    (hpath : row.filePath = some path) :
    call.filesAfter buildFramePath archive path = archive.files path := by
  rcases filesAfter_eq buildFramePath archive call path with ⟨hreplaces, hfile⟩ | hsame
  · rw [hfile, hharmless.keeps path hreplaces row hrow hstate hpath]
  · exact hsame

theorem matchesFile_of_harmless (hmatches : archive.Matches)
    (hharmless : call.Harmless buildFramePath archive) {row : Frame}
    (hrow : row ∈ archive.db.frames.rows) (hstate : row.archiveState = .durable) :
    row.MatchesFile (call.filesAfter buildFramePath archive) := by
  obtain ⟨path, payload, hpath, hfile, hsize, hdigest⟩ := hmatches row hrow hstate
  refine ⟨path, payload, hpath, ?_, hsize, hdigest⟩
  rw [files_of_harmless hharmless hrow hstate hpath]
  exact hfile

/-- A row that a call makes durable, or adds as a durable one, matches the payload. -/
theorem matchesFile_of_arguments {row : Frame} (hpath : call.pathError = none)
    (hwrite : call.faults.write = .none)
    (hfile : row.filePath = (call.request buildFramePath).savePath)
    (hsize : row.fileSize = some (call.imageBytes.length : ℤ))
    (hdigest : row.contentDigest = some (sha256Bytes call.imageBytes)) :
    row.MatchesFile (call.filesAfter buildFramePath archive) := by
  obtain ⟨hsave, path, hreplaces, hpayload⟩ :=
    files_of_durable buildFramePath archive hpath hwrite
  exact ⟨path, call.imageBytes, hfile.trans (hsave.trans hreplaces), hpayload, hsize, hdigest⟩

/-- **One call.** Where the rows match their files, they do so after a call, with the files of
the durable rows as they were, if and only if the call does no harm. -/
theorem harmless_iff (hmatches : archive.Matches) :
    (archiveStep buildFramePath archive call).1.Matches ∧
        archive.KeepsFiles (archiveStep buildFramePath archive call).1 ↔
      call.Harmless buildFramePath archive := by
  obtain ⟨fileDurable, errors, hwritten, hdurable, hnothing⟩ :=
    writePayload_request buildFramePath archive call
  have hafter := archiveStep_archive buildFramePath archive call
  rw [hwritten] at hafter
  dsimp only at hafter
  rw [hafter]
  have hchange := change_createFrame archive.db call.faults.metadata
    ((call.request buildFramePath).arguments fileDurable errors)
  generalize (createFrame archive.db call.faults.metadata
    ((call.request buildFramePath).arguments fileDurable errors)).1 = db at hchange hafter ⊢
  constructor
  · rintro ⟨hmatches', hkeeps⟩
    constructor
    · intro path hreplaces row hrow hstate hfile
      have hsame : call.filesAfter buildFramePath archive path = archive.files path :=
        hkeeps row hrow hstate path hfile
      rw [← hsame]
      unfold ArchiveCall.filesAfter
      rw [hreplaces]
      exact Function.update_self ..
    · intro hpath hwrite row hrecovers
      obtain rfl := hnothing hpath hwrite
      obtain ⟨-, -, rfl⟩ := hdurable rfl
      cases hchange with
      | recovered found hfound hpresent =>
          obtain rfl := hfound.unique hrecovers
          obtain ⟨path, payload, hfile, hpayload, -, hdigest⟩ := hmatches'
            (found.recovered ((call.request buildFramePath).arguments true []))
            ((Table.mem_put_iff _).mpr (.inl rfl)) rfl
          obtain ⟨hsave, saved, hreplaces, hsaved⟩ :=
            files_of_durable buildFramePath archive hpath hwrite
          have hpaths : some path = some saved := by
            rw [← hfile, ← hreplaces, ← hsave]
            rfl
          cases hpaths
          rw [show call.filesAfter buildFramePath archive path = some payload from hpayload]
            at hsaved
          cases hsaved
          exact hdigest
      | added uid mode hnone => exact absurd hrecovers (hnone row)
      | unchanged hnone => exact absurd hrecovers (hnone row)
  · intro hharmless
    refine ⟨fun row hrow hstate => ?_, fun row hrow hstate path hpath =>
      files_of_harmless hharmless hrow hstate hpath⟩
    cases hchange with
    | recovered found hfound hpresent =>
        rcases (Table.mem_put_iff _).mp hrow with rfl | ⟨hold, -⟩
        · obtain rfl := eq_true_of_durable hfound.durable
          obtain ⟨hpath, hwrite, rfl⟩ := hdurable rfl
          exact matchesFile_of_arguments hpath hwrite rfl rfl
            (hharmless.recovers hpath hwrite found hfound)
        · exact matchesFile_of_harmless hmatches hharmless hold hstate
    | added uid mode hnone =>
        rcases (Table.mem_put_iff _).mp hrow with rfl | ⟨hold, -⟩
        · obtain rfl := eq_true_of_durable hstate
          obtain ⟨hpath, hwrite, rfl⟩ := hdurable rfl
          exact matchesFile_of_arguments hpath hwrite rfl rfl rfl
        · exact matchesFile_of_harmless hmatches hharmless hold hstate
    | unchanged hnone => exact matchesFile_of_harmless hmatches hharmless hrow hstate

end Call

/-! ## Every sequence of calls -/

/-- **The archive and its rows.** Let the rows match their files at first. After every call
of a sequence they match, and no call changes the file of a row that is durable already,
if and only if every call does no harm to the archive that it finds. -/
theorem archive_matches_iff (buildFramePath : FramePath) (archive : FrameArchive)
    (calls : List ArchiveCall) (h : archive.Matches) :
    (∀ e ∈ Machine.history (archiveStep buildFramePath) archive calls,
        e.after.Matches ∧ e.before.KeepsFiles e.after) ↔
      Machine.EachStep (archiveStep buildFramePath)
        (fun _ archive call => call.Harmless buildFramePath archive) archive calls :=
  Machine.forall_history_iff (P := FrameArchive.Matches)
    (Q := fun e => e.before.KeepsFiles e.after) (archiveStep buildFramePath)
    (fun _ _ hmatches => harmless_iff hmatches) h calls

/-- One file for each time. -/
def timePath : FramePath := fun _ timestampMs _ _ => "/archive/" ++ toString timestampMs

/-- A frame of one camera with this payload. -/
def cameraCall (payload : List UInt8) (faults : ArchiveFaults) : ArchiveCall where
  deviceId := "left"
  timestampMs := 1000
  imageBytes := payload
  filename := "left_1000.jpg"
  sessionId := some "session"
  cameraStreamId := some "left"
  frameSequence := some 1
  faults := faults

/-- The second payload of one source frame is refused, and overwrites the first one. -/
theorem refused_call_overwrites :
    ¬(Machine.after (archiveStep timePath) {}
      [cameraCall [1] {}, cameraCall [2] {}]).Matches := by
  have hrows : (Machine.after (archiveStep timePath) {}
      [cameraCall [1] {}, cameraCall [2] {}]).db.frames.rows.map
        (fun row => (row.archiveState, row.filePath, row.contentDigest)) =
      [(.durable, some "/archive/1000", some (sha256Bytes [1]))] := by
    decide +kernel
  have hfile : (Machine.after (archiveStep timePath) {}
      [cameraCall [1] {}, cameraCall [2] {}]).files "/archive/1000" = some [2] := by
    decide +kernel
  have hdigests : sha256Bytes [1] ≠ sha256Bytes [2] := by
    decide +kernel
  generalize Machine.after (archiveStep timePath) {}
    [cameraCall [1] {}, cameraCall [2] {}] = archive at hrows hfile ⊢
  intro hmatches
  obtain ⟨row, hrow, hview⟩ := List.mem_map.mp (hrows ▸ List.mem_singleton.mpr rfl)
  obtain ⟨hstate, hview⟩ := Prod.mk.inj hview
  obtain ⟨hpath, hdigest⟩ := Prod.mk.inj hview
  obtain ⟨path, payload, hpath', hpayload, -, hdigest'⟩ := hmatches row hrow hstate
  rw [hpath] at hpath'
  cases hpath'
  rw [hfile] at hpayload
  cases hpayload
  rw [hdigest] at hdigest'
  exact hdigests (Option.some.inj hdigest')

/-- A frame whose file cannot be written. -/
def failedCall : ArchiveCall :=
  cameraCall [1] { write := .beforeReplace "OSError: temporary disk failure" }

/-- The same frame once more makes its row durable. -/
theorem retried_matches :
    ({} : FrameArchive).Matches ∧
      ∀ e ∈ Machine.history (archiveStep timePath) {} [failedCall, cameraCall [1] {}],
        e.after.Matches ∧ e.before.KeepsFiles e.after := by
  have hempty : ({} : FrameArchive).Matches := by
    intro row hrow
    cases hrow
  refine ⟨hempty, ?_⟩
  apply (archive_matches_iff timePath {} [failedCall, cameraCall [1] {}] hempty).mpr
  have hsplit : [failedCall, cameraCall [1] {}] = [] ++ [failedCall] ++ [cameraCall [1] {}] := rfl
  rw [hsplit, Machine.eachStep_snoc, Machine.eachStep_snoc]
  refine ⟨⟨Machine.eachStep_nil _, ⟨fun _ h => (by cases h), fun _ h => (by cases h)⟩⟩, ?_⟩
  have hrows : (Machine.after (archiveStep timePath) {} [failedCall]).db.frames.rows.map
      (fun row => (row.archiveState, row.contentDigest)) =
        [(.degradedLiveOnly, some (sha256Bytes [1]))] := by
    decide +kernel
  have hview : ∀ row ∈ (Machine.after (archiveStep timePath) {} [failedCall]).db.frames.rows,
      row.archiveState = .degradedLiveOnly ∧ row.contentDigest = some (sha256Bytes [1]) := by
    intro row hrow
    have hmem := List.mem_map_of_mem (f := fun row : Frame =>
      (row.archiveState, row.contentDigest)) hrow
    rw [hrows] at hmem
    exact Prod.mk.inj (List.mem_singleton.mp hmem)
  rw [List.nil_append]
  generalize Machine.after (archiveStep timePath) {} [failedCall] = archive at hview ⊢
  constructor
  · intro path _ row hrow hstate
    rw [(hview row hrow).1] at hstate
    cases hstate
  · intro _ _ row hrow
    obtain ⟨uid, mode, -, hfound⟩ := hrow.found
    exact (hview row (mem_of_findExistingFrame hfound)).2

end ImageStream
