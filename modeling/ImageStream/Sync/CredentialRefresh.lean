/-
# Refreshing the credentials of a camera

A camera's ingest credential is short-lived, so the subject and the token id of its frames
change while it captures. Where all frames name a camera claim, the two fields belong to a
member and not to the capture: they are part of no key of the buffers, the scope check only
asks whether they are there, and they stay out of the authorization key of a set.

Two runs whose frames differ in these fields are compared. Blotting the fields out leaves
both with the same buffers, and a matcher reads the same decisions from them.
-/

import ImageStream.Sync.Availability
import ImageStream.Sync.FrameMaps

namespace ImageStream

open Base

/-! ## Frames with other credentials -/

/-- A frame that was sent under another subject and token id. -/
def SyncInputFrame.withCredential (frame : SyncInputFrame)
    (authorizedSubject sessionTokenJti : Option String) : SyncInputFrame :=
  { frame with
    authorizedSubject := authorizedSubject
    sessionTokenJti := sessionTokenJti }

def StoredSyncFrame.withCredential (frame : StoredSyncFrame)
    (authorizedSubject sessionTokenJti : Option String) : StoredSyncFrame :=
  { frame with
    authorizedSubject := authorizedSubject
    sessionTokenJti := sessionTokenJti }

/-- One credential in the place of every frame's own. -/
def credentialMap (authorizedSubject sessionTokenJti : Option String) : FrameMap where
  toFun frame := frame.withCredential authorizedSubject sessionTokenJti
  deviceId _ := rfl
  timestampMs _ := rfl
  sequence _ := rfl
  source _ := rfl
  identityMode _ := rfl
  bufferKey _ := rfl

/-- The credentials blotted out. -/
abbrev blotted : FrameMap := credentialMap none none

/-- Whoever replaces the credentials does not see which ones were there. -/
theorem credentialMap_comp_blotted (authorizedSubject sessionTokenJti : Option String) :
    (credentialMap authorizedSubject sessionTokenJti).toFun ∘ blotted.toFun =
      (credentialMap authorizedSubject sessionTokenJti).toFun := rfl

/-- A frame of a claimed camera, sent under a credential. -/
structure SyncInputFrame.Claimed (frame : SyncInputFrame) : Prop where
  cameraClaimId : truthy frame.cameraClaimId
  authorizedSubject : truthy frame.authorizedSubject
  sessionTokenJti : truthy frame.sessionTokenJti

/-! ## The scope check -/

section Scope

variable {frames : List StoredSyncFrame} {authorizedSubject sessionTokenJti : Option String}

theorem carriesScope_of_claimed {frame : StoredSyncFrame} (h : frame.Claimed) :
    frame.carriesScope := by
  simp [StoredSyncFrame.carriesScope, StoredSyncFrame.scopeFields, h.authorizedSubject]

theorem claimed_withCredential {frame : StoredSyncFrame} (h : frame.Claimed)
    (hsubject : truthy authorizedSubject) (hjti : truthy sessionTokenJti) :
    (frame.withCredential authorizedSubject sessionTokenJti).Claimed :=
  ⟨h.cameraClaimId, hsubject, hjti⟩

theorem scopeComplete_withCredential {frame : StoredSyncFrame} (h : frame.Claimed)
    (hsubject : truthy authorizedSubject) (hjti : truthy sessionTokenJti) :
    (frame.withCredential authorizedSubject sessionTokenJti).scopeComplete =
      frame.scopeComplete := by
  simp [StoredSyncFrame.scopeComplete, StoredSyncFrame.scopeFields,
    StoredSyncFrame.withCredential, hsubject, hjti, h.authorizedSubject, h.sessionTokenJti]

/-- The participants of claimed frames stay out of the key that a set agrees on. -/
theorem common_of_claimed (hclaimed : ∀ frame ∈ frames, frame.Claimed) (hne : frames ≠ []) :
    (frames.any fun frame => truthy frame.cameraClaimId) = true ∧
      (frames.any fun frame => !truthy frame.cameraClaimId) = false := by
  constructor
  · obtain ⟨frame, hframe⟩ := List.exists_mem_of_ne_nil _ hne
    exact List.any_eq_true.mpr ⟨frame, hframe, (hclaimed frame hframe).cameraClaimId⟩
  · rw [List.any_eq_false]
    intro frame hframe
    simp [(hclaimed frame hframe).cameraClaimId]

/-- The scope check of claimed frames, which names no participant. -/
theorem resolveAuthorization_of_claimed (hclaimed : ∀ frame ∈ frames, frame.Claimed) :
    resolveAuthorization frames =
      match (frames.map StoredSyncFrame.authorizationGroup).dedup with
      | [] => .ok none
      | group :: others =>
          if others ≠ [] ∨ ¬frames.all StoredSyncFrame.scopeComplete then
            .error (.frameScopeConflict "authorization scope conflict across frame set")
          else if ¬(frames.map (·.authorizedCameraId)).Nodup then
            .error (.frameScopeConflict "authorized camera was reused across frame set")
          else
            .ok (some { group with authorizedSubject := none, sessionTokenJti := none }) := by
  have hcarries : frames.filter StoredSyncFrame.carriesScope = frames :=
    List.filter_eq_self.mpr fun frame hframe => carriesScope_of_claimed (hclaimed frame hframe)
  unfold resolveAuthorization
  rw [hcarries]
  cases hgroups : (frames.map StoredSyncFrame.authorizationGroup).dedup with
  | nil => rfl
  | cons group others =>
      have hne : frames ≠ [] := by
        rintro rfl
        cases hgroups
      obtain ⟨hscoped, hall⟩ := common_of_claimed hclaimed hne
      dsimp only
      rw [hscoped, hall]
      split
      · rfl
      · split
        · rfl
        · rw [if_neg (by simp)]
          split <;> rfl

/-- The scope check of claimed frames only asks whether there are credentials. -/
theorem resolveAuthorization_withCredential (hclaimed : ∀ frame ∈ frames, frame.Claimed)
    (hsubject : truthy authorizedSubject) (hjti : truthy sessionTokenJti) :
    resolveAuthorization
        (frames.map (credentialMap authorizedSubject sessionTokenJti).toFun) =
      resolveAuthorization frames := by
  have hmapped : ∀ frame ∈ frames.map (credentialMap authorizedSubject sessionTokenJti).toFun,
      frame.Claimed := by
    intro frame hframe
    obtain ⟨old, hold, rfl⟩ := List.mem_map.mp hframe
    exact claimed_withCredential (hclaimed old hold) hsubject hjti
  have hcomplete : (frames.map (credentialMap authorizedSubject sessionTokenJti).toFun).all
      StoredSyncFrame.scopeComplete = frames.all StoredSyncFrame.scopeComplete := by
    rw [List.all_map, Bool.eq_iff_iff, List.all_eq_true, List.all_eq_true]
    apply forall₂_congr
    intro frame hframe
    rw [Function.comp_apply]
    exact iff_of_eq (congrArg (· = true)
      (scopeComplete_withCredential (hclaimed frame hframe) hsubject hjti))
  rw [resolveAuthorization_of_claimed hmapped, resolveAuthorization_of_claimed hclaimed,
    hcomplete, List.map_map, List.map_map]
  rfl

/-- The identity of claimed frames does not depend on their credentials. -/
theorem resolveCaptureIdentity_withCredential (hclaimed : ∀ frame ∈ frames, frame.Claimed)
    (hsubject : truthy authorizedSubject) (hjti : truthy sessionTokenJti) :
    resolveCaptureIdentity
        (frames.map (credentialMap authorizedSubject sessionTokenJti).toFun) =
      resolveCaptureIdentity frames := by
  have hconfig : captureConfigKey
      (frames.map (credentialMap authorizedSubject sessionTokenJti).toFun) =
      captureConfigKey frames := by
    unfold captureConfigKey
    rw [List.map_map]
    rfl
  unfold resolveCaptureIdentity
  rw [resolveAuthorization_withCredential hclaimed hsubject hjti, hconfig, List.all_map,
    List.map_map]
  rfl

/-- Claimed frames that are the same but for their credentials have one identity. -/
theorem resolveCaptureIdentity_congr {refreshed : List StoredSyncFrame}
    (hsame : refreshed.map blotted.toFun = frames.map blotted.toFun)
    (hclaimed : ∀ frame ∈ frames, frame.Claimed)
    (hrefreshed : ∀ frame ∈ refreshed, frame.Claimed) :
    resolveCaptureIdentity refreshed = resolveCaptureIdentity frames := by
  have hpresent : truthy (some "credential") = true := by decide
  rw [← resolveCaptureIdentity_withCredential hclaimed hpresent hpresent,
    ← resolveCaptureIdentity_withCredential hrefreshed hpresent hpresent,
    ← credentialMap_comp_blotted, ← List.map_map, ← List.map_map, hsame]

theorem authorizationKey_of_claimed (hclaimed : ∀ frame ∈ frames, frame.Claimed)
    {key : AuthorizationKey} (h : resolveAuthorization frames = .ok (some key)) :
    key.authorizedSubject = none ∧ key.sessionTokenJti = none := by
  rw [resolveAuthorization_of_claimed hclaimed] at h
  split at h
  · cases h
  · split at h
    · cases h
    · split at h
      · cases h
      · cases h
        exact ⟨rfl, rfl⟩

/-- The identity of claimed frames names no participant. -/
theorem identity_of_claimed (hclaimed : ∀ frame ∈ frames, frame.Claimed)
    {identity : CaptureIdentity} (h : resolveCaptureIdentity frames = .ok identity) :
    identity.authorizationKey.bind (·.authorizedSubject) = none ∧
      identity.authorizationKey.bind (·.sessionTokenJti) = none := by
  unfold resolveCaptureIdentity at h
  split at h
  · cases h
    exact ⟨rfl, rfl⟩
  · split at h
    · cases h
    · rename_i key hkey
      cases h
      exact authorizationKey_of_claimed hclaimed hkey
    · split at h
      · cases h
      · cases h
        exact ⟨rfl, rfl⟩

end Scope

/-! ## Sets -/

/-- What of a set is independent of the credentials of its members. The manifest names the
credentials, and the run id is drawn. -/
def SynchronizedFrameSet.withoutCredentials (frameSet : SynchronizedFrameSet) :
    SynchronizedFrameSet :=
  { frameSet with
    frames := frameSet.frames.mapValues blotted.toFun
    captureRunId := none
    frameSetUid := none
    manifestDigest := none
    manifestJson := none }

/-- Two sets that are the same but for the credentials of their members. In particular they
agree in their members up to these, in `frame_set_id` and in `capture_session_id`. -/
structure SynchronizedFrameSet.RefreshedTo (first second : SynchronizedFrameSet) : Prop where
  same : second.withoutCredentials = first.withoutCredentials
  authorizedSubject : first.authorizedSubject = none ∧ second.authorizedSubject = none
  sessionTokenJti : first.sessionTokenJti = none ∧ second.sessionTokenJti = none

theorem SynchronizedFrameSet.RefreshedTo.synchronizedAtMs {first second : SynchronizedFrameSet}
    (h : first.RefreshedTo second) : second.synchronizedAtMs = first.synchronizedAtMs := by
  have hsame := congrArg SynchronizedFrameSet.synchronizedAtMs h.same
  exact hsame

/-- Two answers of which neither or both emit a set, the sets being the same but for the
credentials of their members. -/
inductive SameAnswer : Except ValueError (Option SynchronizedFrameSet) →
    Except ValueError (Option SynchronizedFrameSet) → Prop
  | raised (reason : ValueError) : SameAnswer (.error reason) (.error reason)
  | nothing : SameAnswer (.ok none) (.ok none)
  | emitted {first second : SynchronizedFrameSet} (h : first.RefreshedTo second) :
      SameAnswer (.ok (some first)) (.ok (some second))

/-! ## Matchers that decide alike -/

/-- Every buffered frame is claimed. -/
def SyncFrameBufferManager.AllClaimed (manager : SyncFrameBufferManager) : Prop :=
  ∀ c, ∀ frame ∈ manager.buffered c, frame.Claimed

namespace SyncMatcher

/-- Two matchers in the same place of the same capture. Their runs may have been drawn
differently. -/
structure SameCapture (first second : SyncMatcher) : Prop where
  expectedCameras : second.expectedCameras = first.expectedCameras
  windowMs : second.windowMs = first.windowMs
  nextFrameSetId : second.nextFrameSetId = first.nextFrameSetId
  captureSessionId : second.captureSessionId = first.captureSessionId
  captureConfigKey : second.captureConfigKey = first.captureConfigKey
  authorizationKey : second.authorizationKey = first.authorizationKey
  lastSynchronizedAtMs : second.lastSynchronizedAtMs = first.lastSynchronizedAtMs

variable {first second : SyncMatcher}

namespace SameCapture

theorem of_sameCourse (h : first.SameCourse second) : first.SameCapture second where
  expectedCameras := h.expectedCameras
  windowMs := h.windowMs
  nextFrameSetId := h.nextFrameSetId
  captureSessionId := h.captureSessionId
  captureConfigKey := h.captureConfigKey
  authorizationKey := h.authorizationKey
  lastSynchronizedAtMs := h.lastSynchronizedAtMs

theorem symm (h : first.SameCapture second) : second.SameCapture first :=
  ⟨h.expectedCameras.symm, h.windowMs.symm, h.nextFrameSetId.symm, h.captureSessionId.symm,
    h.captureConfigKey.symm, h.authorizationKey.symm, h.lastSynchronizedAtMs.symm⟩

theorem trans {third : SyncMatcher} (h : first.SameCapture second)
    (h' : second.SameCapture third) : first.SameCapture third where
  expectedCameras := h'.expectedCameras.trans h.expectedCameras
  windowMs := h'.windowMs.trans h.windowMs
  nextFrameSetId := h'.nextFrameSetId.trans h.nextFrameSetId
  captureSessionId := h'.captureSessionId.trans h.captureSessionId
  captureConfigKey := h'.captureConfigKey.trans h.captureConfigKey
  authorizationKey := h'.authorizationKey.trans h.authorizationKey
  lastSynchronizedAtMs := h'.lastSynchronizedAtMs.trans h.lastSynchronizedAtMs

/-- What keeps the course of each of two matchers keeps them in the same place. -/
theorem of_courses {first' second' : SyncMatcher} (h : first.SameCapture second)
    (hfirst : first.SameCourse first') (hsecond : second.SameCourse second') :
    first'.SameCapture second' :=
  ((of_sameCourse hfirst).symm.trans h).trans (of_sameCourse hsecond)

theorem changesCapture (h : first.SameCapture second) (identity : CaptureIdentity) :
    second.changesCapture identity = first.changesCapture identity := by
  unfold SyncMatcher.changesCapture
  rw [h.captureSessionId, h.captureConfigKey, h.authorizationKey]

/-- Two matchers start another run together, each the one that it draws. -/
theorem enterCapture (h : first.SameCapture second) (identity : CaptureIdentity)
    (drawn drawn' : String) :
    (first.enterCapture identity drawn).SameCapture (second.enterCapture identity drawn') := by
  unfold SyncMatcher.enterCapture
  rw [h.changesCapture identity]
  dsimp only
  cases first.changesCapture identity <;> by_cases hsession : identity.captureSessionId = none
  all_goals
    simp only [hsession, ne_eq, not_true_eq_false, not_false_eq_true, if_true, if_false,
      Bool.false_eq_true]
    constructor
    case expectedCameras => exact h.expectedCameras
    case windowMs => exact h.windowMs
    case lastSynchronizedAtMs => exact h.lastSynchronizedAtMs
    all_goals
      first
        | rfl
        | exact h.nextFrameSetId
        | exact h.captureSessionId
        | exact h.captureConfigKey
        | exact h.authorizationKey

theorem recordMatch (h : first.SameCapture second) {frameSet frameSet' : SynchronizedFrameSet}
    (hsame : frameSet'.synchronizedAtMs = frameSet.synchronizedAtMs) :
    (first.recordMatch frameSet).SameCapture (second.recordMatch frameSet') where
  expectedCameras := h.expectedCameras
  windowMs := h.windowMs
  nextFrameSetId := by
    show second.nextFrameSetId + 1 = first.nextFrameSetId + 1
    rw [h.nextFrameSetId]
  captureSessionId := h.captureSessionId
  captureConfigKey := h.captureConfigKey
  authorizationKey := h.authorizationKey
  lastSynchronizedAtMs := hsame

end SameCapture

/-- What a set is made of, apart from its manifest, is read without the credentials. -/
theorem summary_blotted (frames : List StoredSyncFrame) :
    latestTimestampMs (frames.map blotted.toFun) = latestTimestampMs frames ∧
      archiveStateOf (frames.map blotted.toFun) = archiveStateOf frames ∧
      archiveErrorOf (frames.map blotted.toFun) = archiveErrorOf frames := by
  refine ⟨?_, ?_, ?_⟩
  · unfold latestTimestampMs
    rw [List.map_map]
    rfl
  · unfold archiveStateOf
    rw [List.any_map]
    rfl
  · unfold archiveErrorOf
    rw [List.filter_map]
    have hfilter : frames.filter ((fun member => decide
        (member.archiveState = .degradedLiveOnly)) ∘ blotted.toFun) =
        frames.filter fun member => member.archiveState = .degradedLiveOnly := rfl
    rw [hfilter]
    cases frames.filter fun member => member.archiveState = .degradedLiveOnly with
    | nil => rfl
    | cons member degraded =>
        simp only [List.map_cons, List.map_map]
        rfl

theorem buildFrameSet_refreshed (h : first.SameCapture second)
    {selected refreshed : Dict String StoredSyncFrame}
    (hsame : refreshed.mapValues blotted.toFun = selected.mapValues blotted.toFun)
    {identity : CaptureIdentity}
    (habsent : identity.authorizationKey.bind (·.authorizedSubject) = none ∧
      identity.authorizationKey.bind (·.sessionTokenJti) = none)
    (spanMs synchronizedAtMs : ℤ) :
    (first.buildFrameSet identity selected spanMs synchronizedAtMs).RefreshedTo
      (second.buildFrameSet identity refreshed spanMs synchronizedAtMs) where
  same := by
    have hvalues : refreshed.values.map blotted.toFun = selected.values.map blotted.toFun := by
      rw [← Dict.values_mapValues, ← Dict.values_mapValues, hsame]
    have hlength : refreshed.rows.length = selected.rows.length := by
      have hrows := congrArg (fun frames => frames.rows.length) hsame
      simpa using hrows
    obtain ⟨hlatest, hstate, herror⟩ := summary_blotted selected.values
    obtain ⟨hlatest', hstate', herror'⟩ := summary_blotted refreshed.values
    rw [hvalues] at hlatest' hstate' herror'
    unfold SynchronizedFrameSet.withoutCredentials buildFrameSet
    dsimp only
    rw [hsame, hlength, ← hlatest, ← hstate, ← herror, ← hlatest', ← hstate', ← herror',
      h.nextFrameSetId, h.windowMs]
  authorizedSubject := ⟨habsent.1, habsent.1⟩
  sessionTokenJti := ⟨habsent.2, habsent.2⟩

/-! ## One call -/

theorem selectMinSpanCandidate_of_sameCapture (h : first.SameCapture second)
    (manager : SyncFrameBufferManager) :
    second.selectMinSpanCandidate manager = first.selectMinSpanCandidate manager := by
  unfold selectMinSpanCandidate
  rw [h.expectedCameras, h.windowMs]

/-- Matchers in one place drop the same frames. -/
theorem dropStaleFrames_blotted (h : first.SameCapture second)
    {manager refreshed : SyncFrameBufferManager}
    (hsame : refreshed.mapFrames blotted = manager.mapFrames blotted) :
    (first.dropStaleFrames manager).1.SameCapture (second.dropStaleFrames refreshed).1 ∧
      (second.dropStaleFrames refreshed).2.mapFrames blotted =
        (first.dropStaleFrames manager).2.mapFrames blotted := by
  refine ⟨h.of_courses (first.dropStaleFrames_sameCourse manager)
    (second.dropStaleFrames_sameCourse refreshed), ?_⟩
  have hlatest : refreshed.latestTimestamps first.expectedCameras =
      manager.latestTimestamps first.expectedCameras := by
    rw [← manager.latestTimestamps_mapFrames blotted, ← hsame,
      SyncFrameBufferManager.latestTimestamps_mapFrames]
  have hdropped : ∀ timestampMs,
      (refreshed.dropFramesOlderThan first.expectedCameras timestampMs []).1.mapFrames blotted =
        (manager.dropFramesOlderThan first.expectedCameras timestampMs []).1.mapFrames blotted := by
    intro timestampMs
    have hmapped := congrArg (fun blot => (SyncFrameBufferManager.dropFramesOlderThan blot
      first.expectedCameras timestampMs []).1) hsame
    rwa [SyncFrameBufferManager.dropFramesOlderThan_mapFrames,
      SyncFrameBufferManager.dropFramesOlderThan_mapFrames] at hmapped
  unfold dropStaleFrames
  rw [h.expectedCameras, h.windowMs, hlatest]
  dsimp only
  split
  · exact hsame
  · exact hdropped _

/-- The results of two calls that decide alike. -/
structure SameCall (result result' : SyncMatcher × SyncFrameBufferManager ×
    Except ValueError (Option SynchronizedFrameSet)) : Prop where
  matcher : result.1.SameCapture result'.1
  buffers : result'.2.1.mapFrames blotted = result.2.1.mapFrames blotted
  answer : SameAnswer result.2.2 result'.2.2

variable {manager refreshed : SyncFrameBufferManager}

theorem miss_blotted (h : first.SameCapture second)
    (hsame : refreshed.mapFrames blotted = manager.mapFrames blotted)
    (triggerFrame triggerFrame' : StoredSyncFrame) (reason : String) (missing : List String) :
    SameCall (first.miss manager triggerFrame reason missing)
      (second.miss refreshed triggerFrame' reason missing) := by
  have hrecorded : (first.recordMiss triggerFrame reason missing).SameCapture
      (second.recordMiss triggerFrame' reason missing) :=
    h.of_courses (first.recordMiss_sameCourse _ _ _) (second.recordMiss_sameCourse _ _ _)
  obtain ⟨hmatcher, hbuffers⟩ := dropStaleFrames_blotted hrecorded hsame
  exact ⟨hmatcher, hbuffers, .nothing⟩

theorem emit_blotted (h : first.SameCapture second)
    (hsame : refreshed.mapFrames blotted = manager.mapFrames blotted)
    {selected selected' : Dict String StoredSyncFrame}
    (hselected : selected'.mapValues blotted.toFun = selected.mapValues blotted.toFun)
    {identity : CaptureIdentity}
    (habsent : identity.authorizationKey.bind (·.authorizedSubject) = none ∧
      identity.authorizationKey.bind (·.sessionTokenJti) = none)
    (spanMs nowMs : ℤ) (drawn drawn' : String) :
    SameCall (first.emit manager identity selected spanMs nowMs drawn)
      (second.emit refreshed identity selected' spanMs nowMs drawn') := by
  have hconsumed : (refreshed.consumeThrough selected').1.mapFrames blotted =
      (manager.consumeThrough selected).1.mapFrames blotted := by
    have hmapped := congrArg (fun blot => (SyncFrameBufferManager.consumeThrough blot
      (selected'.mapValues blotted.toFun)).1) hsame
    nth_rewrite 2 [hselected] at hmapped
    rwa [SyncFrameBufferManager.consumeThrough_mapFrames,
      SyncFrameBufferManager.consumeThrough_mapFrames] at hmapped
  have hcounted : ∀ superseded superseded' : ℕ, SameCapture
      { first with droppedSupersededCount := first.droppedSupersededCount + superseded }
      { second with droppedSupersededCount := second.droppedSupersededCount + superseded' } :=
    fun _ _ => ⟨h.expectedCameras, h.windowMs, h.nextFrameSetId, h.captureSessionId,
      h.captureConfigKey, h.authorizationKey, h.lastSynchronizedAtMs⟩
  have hentered := (hcounted (manager.consumeThrough selected).2
    (refreshed.consumeThrough selected').2).enterCapture identity drawn drawn'
  have hset := buildFrameSet_refreshed hentered hselected habsent spanMs
    (max nowMs (first.lastSynchronizedAtMs + 1))
  have hrecorded := hentered.recordMatch hset.synchronizedAtMs
  obtain ⟨hmatcher, hbuffers⟩ := dropStaleFrames_blotted hrecorded hconsumed
  have hclock : max nowMs (second.lastSynchronizedAtMs + 1) =
      max nowMs (first.lastSynchronizedAtMs + 1) := by
    rw [h.lastSynchronizedAtMs]
  unfold emit
  rw [hclock]
  exact ⟨hmatcher, hbuffers, .emitted hset⟩

/-- Two selections that are the same but for the credentials of the frames. -/
inductive SameSelection : Option (Dict String StoredSyncFrame) × Option ℤ × List String →
    Option (Dict String StoredSyncFrame) × Option ℤ × List String → Prop
  | missed (missing : List String) : SameSelection (none, none, missing) (none, none, missing)
  | selected {selected selected' : Dict String StoredSyncFrame} (spanMs : ℤ)
      (h : selected'.mapValues blotted.toFun = selected.mapValues blotted.toFun) :
      SameSelection (some selected, some spanMs, []) (some selected', some spanMs, [])

theorem selectMinSpanCandidate_shape (matcher : SyncMatcher) (manager : SyncFrameBufferManager) :
    (∃ missing, matcher.selectMinSpanCandidate manager = (none, none, missing)) ∨
      ∃ selected spanMs,
        matcher.selectMinSpanCandidate manager = (some selected, some spanMs, []) := by
  unfold selectMinSpanCandidate
  dsimp only
  split
  · exact Or.inl ⟨_, rfl⟩
  · split
    · exact Or.inl ⟨_, rfl⟩
    · split
      · exact Or.inl ⟨_, rfl⟩
      · exact Or.inr ⟨_, _, rfl⟩

theorem select_blotted (h : first.SameCapture second)
    (hsame : refreshed.mapFrames blotted = manager.mapFrames blotted) :
    SameSelection (first.selectMinSpanCandidate manager)
      (second.selectMinSpanCandidate refreshed) := by
  have hmapped : ((second.selectMinSpanCandidate refreshed).1.map (Dict.mapValues blotted.toFun),
        (second.selectMinSpanCandidate refreshed).2) =
      ((first.selectMinSpanCandidate manager).1.map (Dict.mapValues blotted.toFun),
        (first.selectMinSpanCandidate manager).2) := by
    rw [← selectMinSpanCandidate_mapFrames, ← selectMinSpanCandidate_mapFrames,
      selectMinSpanCandidate_of_sameCapture h, hsame]
  obtain ⟨missing, hselect⟩ | ⟨selected, spanMs, hselect⟩ :=
      first.selectMinSpanCandidate_shape manager <;>
    obtain ⟨missing', hselect'⟩ | ⟨selected', spanMs', hselect'⟩ :=
      second.selectMinSpanCandidate_shape refreshed <;>
    rw [hselect, hselect'] at hmapped ⊢ <;>
    simp only [Option.map_none, Option.map_some, Prod.mk.injEq, reduceCtorEq, false_and,
      Option.some.injEq, true_and, and_true] at hmapped
  · subst hmapped
    exact .missed _
  · obtain ⟨hframes, rfl⟩ := hmapped
    exact .selected _ hframes

/-- The frames that a selection picks are claimed. -/
theorem claimed_of_select (hclaimed : manager.AllClaimed) {selected : Dict String StoredSyncFrame}
    {spanMs : ℤ} {missing : List String}
    (hselect : first.selectMinSpanCandidate manager = (some selected, some spanMs, missing)) :
    ∀ frame ∈ selected.values, frame.Claimed := by
  intro frame hframe
  obtain ⟨c, hget⟩ := selected.mem_values_iff.mp hframe
  exact hclaimed c frame (mem_buffered_of_select hselect hget).2

/-- The selections of two calls have one identity. -/
theorem resolve_blotted (hclaimed : manager.AllClaimed) (hrefreshed : refreshed.AllClaimed)
    {selected selected' : Dict String StoredSyncFrame} {spanMs spanMs' : ℤ}
    {missing missing' : List String}
    (hselect : first.selectMinSpanCandidate manager = (some selected, some spanMs, missing))
    (hselect' : second.selectMinSpanCandidate refreshed = (some selected', some spanMs', missing'))
    (hframes : selected'.mapValues blotted.toFun = selected.mapValues blotted.toFun) :
    resolveCaptureIdentity selected'.values = resolveCaptureIdentity selected.values := by
  apply resolveCaptureIdentity_congr _ (claimed_of_select hclaimed hselect)
    (claimed_of_select hrefreshed hselect')
  rw [← Dict.values_mapValues, ← Dict.values_mapValues, hframes]

theorem tryMatch_blotted (h : first.SameCapture second)
    (hsame : refreshed.mapFrames blotted = manager.mapFrames blotted)
    (hclaimed : manager.AllClaimed) (hrefreshed : refreshed.AllClaimed)
    {triggerFrame triggerFrame' : StoredSyncFrame}
    (htrigger : triggerFrame'.deviceId = triggerFrame.deviceId) (nowMs : ℤ)
    (drawn drawn' : String) :
    SameCall (first.tryMatch manager triggerFrame nowMs drawn)
      (second.tryMatch refreshed triggerFrame' nowMs drawn') := by
  have hmember : triggerFrame'.deviceId ∈ second.expectedCameras ↔
      triggerFrame.deviceId ∈ first.expectedCameras := by
    rw [h.expectedCameras, htrigger]
  unfold tryMatch
  by_cases hexpected : first.expectedCameras = []
  · rw [if_pos hexpected, if_pos (h.expectedCameras.trans hexpected)]
    exact ⟨h.of_courses (first.recordMiss_sameCourse _ _ _) (second.recordMiss_sameCourse _ _ _),
      hsame, .nothing⟩
  have hexpected' : second.expectedCameras ≠ [] := fun hnil =>
    hexpected (h.expectedCameras.symm.trans hnil)
  rw [if_neg hexpected, if_neg hexpected']
  by_cases hdevice : triggerFrame.deviceId ∈ first.expectedCameras
  swap
  · rw [if_pos hdevice, if_pos (mt hmember.mp hdevice)]
    exact ⟨⟨h.expectedCameras, h.windowMs, h.nextFrameSetId, h.captureSessionId,
      h.captureConfigKey, h.authorizationKey, h.lastSynchronizedAtMs⟩, hsame, .nothing⟩
  rw [if_neg (not_not.mpr hdevice), if_neg (not_not.mpr (hmember.mpr hdevice))]
  have hselections := select_blotted h hsame
  generalize hselect : first.selectMinSpanCandidate manager = selection at hselections ⊢
  generalize hselect' : second.selectMinSpanCandidate refreshed = selection' at hselections ⊢
  cases hselections with
  | missed missing => cases missing <;> exact miss_blotted h hsame _ _ _ _
  | selected spanMs hframes =>
      dsimp only
      rw [resolve_blotted hclaimed hrefreshed hselect hselect' hframes]
      cases hidentity : resolveCaptureIdentity _ with
      | ok identity =>
          exact emit_blotted h hsame hframes
            (identity_of_claimed (claimed_of_select hclaimed hselect) hidentity) _ _ _ _
      | error error =>
          cases error with
          | frameScopeConflict reason => exact miss_blotted h hsame _ _ _ _
          | valueError reason => exact ⟨h, hsame, .raised reason⟩

/-! ## Where a run rotates -/

/-- Whether a call of the matcher starts another capture run. -/
def rotates (matcher : SyncMatcher) (manager : SyncFrameBufferManager)
    (triggerFrame : StoredSyncFrame) : Bool :=
  decide (triggerFrame.deviceId ∈ matcher.expectedCameras) &&
    match matcher.selectMinSpanCandidate manager with
    | (some selected, some _, []) =>
        match resolveCaptureIdentity selected.values with
        | .ok identity => matcher.changesCapture identity
        | .error _ => false
    | _ => false

theorem captureRunId_enterCapture (matcher : SyncMatcher) (identity : CaptureIdentity)
    (drawn : String) :
    (matcher.enterCapture identity drawn).captureRunId =
      if matcher.changesCapture identity then drawn else matcher.captureRunId := by
  unfold enterCapture
  dsimp only
  cases matcher.changesCapture identity <;> by_cases hsession : identity.captureSessionId = none <;>
    simp [hsession]

/-- A call that rotates is in the run that it draws, any other one stays in its run. -/
theorem captureRunId_tryMatch (matcher : SyncMatcher) (manager : SyncFrameBufferManager)
    (triggerFrame : StoredSyncFrame) (nowMs : ℤ) (drawn : String) :
    (matcher.tryMatch manager triggerFrame nowMs drawn).1.captureRunId =
      if matcher.rotates manager triggerFrame then drawn else matcher.captureRunId := by
  have hmiss : ∀ reason missing,
      (matcher.miss manager triggerFrame reason missing).1.captureRunId =
        matcher.captureRunId := fun reason missing =>
    ((matcher.recordMiss_sameCourse triggerFrame reason missing).trans
      (dropStaleFrames_sameCourse _ manager)).captureRunId
  by_cases hdevice : triggerFrame.deviceId ∈ matcher.expectedCameras
  · have hexpected := List.ne_nil_of_mem hdevice
    obtain ⟨missing, hselect⟩ | ⟨selected, spanMs, hselect⟩ :=
      matcher.selectMinSpanCandidate_shape manager
    · have hstays : matcher.rotates manager triggerFrame = false := by simp [rotates, hselect]
      rw [hstays]
      unfold tryMatch
      rw [if_neg hexpected, if_neg (not_not.mpr hdevice), hselect]
      cases missing <;> exact hmiss _ _
    · cases hidentity : resolveCaptureIdentity selected.values with
      | ok identity =>
          have hrotates : matcher.rotates manager triggerFrame =
              matcher.changesCapture identity := by
            simp [rotates, hselect, hidentity, hdevice]
          unfold tryMatch
          rw [hrotates, if_neg hexpected, if_neg (not_not.mpr hdevice), hselect]
          dsimp only
          rw [hidentity]
          exact (dropStaleFrames_sameCourse _ _).captureRunId.trans
            (captureRunId_enterCapture _ identity drawn)
      | error error =>
          have hstays : matcher.rotates manager triggerFrame = false := by
            simp [rotates, hselect, hidentity]
          unfold tryMatch
          rw [hstays, if_neg hexpected, if_neg (not_not.mpr hdevice), hselect]
          dsimp only
          rw [hidentity]
          cases error with
          | frameScopeConflict reason => exact hmiss reason []
          | valueError reason => rfl
  · have hstays : matcher.rotates manager triggerFrame = false := by simp [rotates, hdevice]
    rw [hstays]
    unfold tryMatch
    by_cases hexpected : matcher.expectedCameras = []
    · rw [if_pos hexpected]
      rfl
    · rw [if_neg hexpected, if_pos hdevice]
      rfl

theorem rotates_blotted (h : first.SameCapture second)
    (hsame : refreshed.mapFrames blotted = manager.mapFrames blotted)
    (hclaimed : manager.AllClaimed) (hrefreshed : refreshed.AllClaimed)
    {triggerFrame triggerFrame' : StoredSyncFrame}
    (htrigger : triggerFrame'.deviceId = triggerFrame.deviceId) :
    second.rotates refreshed triggerFrame' = first.rotates manager triggerFrame := by
  have hselections := select_blotted h hsame
  unfold rotates
  rw [h.expectedCameras, htrigger]
  generalize hselect : first.selectMinSpanCandidate manager = selection at hselections ⊢
  generalize hselect' : second.selectMinSpanCandidate refreshed = selection' at hselections ⊢
  cases hselections with
  | missed missing => rfl
  | selected spanMs hframes =>
      dsimp only
      rw [resolve_blotted hclaimed hrefreshed hselect hselect' hframes]
      simp only [h.changesCapture]

end SyncMatcher

/-! ## Buffered frames are accepted frames -/

namespace SyncFrameBufferManager

theorem AllClaimed.of_sublist {manager kept : SyncFrameBufferManager} (h : manager.AllClaimed)
    (hsub : ∀ c, (kept.buffered c).Sublist (manager.buffered c)) : kept.AllClaimed :=
  fun c frame hframe => h c frame ((hsub c).subset hframe)

theorem AllClaimed.retain {manager : SyncFrameBufferManager} (h : manager.AllClaimed)
    {stored : StoredSyncFrame} (hstored : stored.Claimed) : (manager.retain stored).AllClaimed := by
  intro c frame hframe
  rcases manager.pool_retain stored c frame hframe with hold | ⟨-, rfl⟩
  · exact h c frame hold
  · exact hstored

end SyncFrameBufferManager

/-- A call of the matcher only takes frames out of the buffers. -/
theorem TryMatchOutcome.buffered_sublist {matcher : SyncMatcher} {manager : SyncFrameBufferManager}
    {nowMs : ℤ} {freshRunId : String}
    {result : SyncMatcher × SyncFrameBufferManager × Except ValueError (Option SynchronizedFrameSet)}
    (h : TryMatchOutcome matcher manager nowMs freshRunId result) (c : String) :
    (result.2.1.buffered c).Sublist (manager.buffered c) := by
  cases h with
  | ignored => exact List.Sublist.refl _
  | missed recorded => exact recorded.dropStaleFrames_sublist manager c
  | emitted selected =>
      have hconsumed : ((manager.consumeThrough selected).1.buffered c).Sublist
          (manager.buffered c) := by
        rw [SyncFrameBufferManager.buffered_consumeThrough]
        exact SyncFrameBufferManager.remaining_sublist _ _
      exact (SyncMatcher.dropStaleFrames_sublist _ _ c).trans hconsumed

theorem allClaimed_addFrame {manager : SyncFrameBufferManager} (h : manager.AllClaimed)
    {frame : SyncInputFrame} (hframe : frame.Claimed) : (manager.addFrame frame).1.AllClaimed := by
  by_cases hadmits : manager.Admits frame
  · have hstored : frame.stored.Claimed := hframe
    rw [SyncFrameBufferManager.addFrame_of_admits hadmits]
    exact h.retain hstored
  · intro c frame' hmem
    rw [SyncFrameBufferManager.buffered_of_buffers
      (SyncFrameBufferManager.addFrame_of_not_admits hadmits).2.1] at hmem
    exact h c frame' hmem

theorem allClaimed_handleFrame {service : StreamSyncService}
    (h : service.bufferManager.AllClaimed) {frame : SyncInputFrame} (hframe : frame.Claimed)
    (nowMs : ℤ) (freshRunId : String) :
    (service.handleFrame frame nowMs freshRunId).1.bufferManager.AllClaimed := by
  have houtcome := handleFrame_outcome service frame nowMs freshRunId
  generalize accepted? service (.handleFrame frame nowMs freshRunId) = stored at houtcome
  generalize service.handleFrame frame nowMs freshRunId = result at houtcome ⊢
  cases houtcome with
  | disabled => exact h
  | dropped matcher hmatcher hadmits manager hbuffers hindex =>
      intro c frame hmem
      exact h c frame (SyncFrameBufferManager.buffered_of_buffers hbuffers c ▸ hmem)
  | accepted matcher hmatcher hadmits result hresult =>
      have hstored : frame.stored.Claimed := hframe
      exact (h.retain hstored).of_sublist hresult.buffered_sublist

/-! ## Two services -/

/-- Whether a call of `handle_frame` starts another capture run. -/
def StreamSyncService.rotates (service : StreamSyncService) (frame : SyncInputFrame) : Bool :=
  match service.enabled, service.matcher with
  | true, some matcher =>
      match service.bufferManager.addFrame frame with
      | (manager, some stored) => matcher.rotates manager stored
      | (_, none) => false
  | _, _ => false

/-- A call that rotates leaves the run that it draws, any other one the run that it found. -/
theorem captureRunId_handleFrame (service : StreamSyncService) (frame : SyncInputFrame)
    (nowMs : ℤ) (drawn : String) :
    (service.handleFrame frame nowMs drawn).1.matcher.map (·.captureRunId) =
      service.matcher.map fun matcher =>
        if service.rotates frame then drawn else matcher.captureRunId := by
  cases hmatcher : service.matcher with
  | none =>
      unfold StreamSyncService.handleFrame
      rw [hmatcher]
      cases service.enabled <;> simp [hmatcher]
  | some matcher =>
      cases henabled : service.enabled with
      | false =>
          simp [StreamSyncService.handleFrame, StreamSyncService.rotates, henabled, hmatcher]
      | true =>
          rcases hadd : service.bufferManager.addFrame frame with ⟨manager, stored⟩
          cases stored with
          | none =>
              simp [StreamSyncService.handleFrame, StreamSyncService.rotates, henabled, hmatcher,
                hadd]
          | some stored =>
              simp [StreamSyncService.handleFrame, StreamSyncService.rotates, henabled, hmatcher,
                hadd, SyncMatcher.captureRunId_tryMatch]

/-- Two services that have taken frames which are the same but for their credentials. -/
structure Refreshing (first second : StreamSyncService) : Prop where
  enabled : second.enabled = first.enabled
  matchers : Option.Rel SyncMatcher.SameCapture first.matcher second.matcher
  buffers : second.bufferManager.mapFrames blotted = first.bufferManager.mapFrames blotted
  claimed : first.bufferManager.AllClaimed
  refreshed : second.bufferManager.AllClaimed

/-- A call with a frame of a claimed camera, and the same call with the frame sent under
another credential. What a rotation would draw is the call's own. -/
structure FrameCall.RefreshedTo (first second : FrameCall) : Prop where
  frame : second.frame.withCredential none none = first.frame.withCredential none none
  nowMs : second.nowMs = first.nowMs
  claimed : first.frame.Claimed
  refreshed : second.frame.Claimed

/-- Two exchanges that answer alike and rotate alike. -/
structure Undisturbed (first second : Exchange StreamSyncService FrameCall
    (Except ValueError (Option SynchronizedFrameSet))) : Prop where
  answer : SameAnswer first.output second.output
  rotates : second.before.rotates second.input.frame = first.before.rotates first.input.frame

theorem refreshing_configuredService (expectedCameras : List String) (windowMs : ℤ)
    (bufferSize recentLimit : ℕ) (runId runId' : String) :
    Refreshing (configuredService expectedCameras windowMs bufferSize recentLimit runId)
      (configuredService expectedCameras windowMs bufferSize recentLimit runId') := by
  have hclaimed : ∀ drawn, (configuredService expectedCameras windowMs bufferSize recentLimit
      drawn).bufferManager.AllClaimed := by
    intro drawn c frame hframe
    unfold SyncFrameBufferManager.buffered at hframe
    rw [buffers_configuredService] at hframe
    cases hframe
  have hrest : (configuredService expectedCameras windowMs bufferSize recentLimit
        runId').enabled = (configuredService expectedCameras windowMs bufferSize recentLimit
          runId).enabled ∧
      Option.Rel SyncMatcher.SameCapture
        (configuredService expectedCameras windowMs bufferSize recentLimit runId).matcher
        (configuredService expectedCameras windowMs bufferSize recentLimit runId').matcher ∧
      (configuredService expectedCameras windowMs bufferSize recentLimit runId').bufferManager =
        (configuredService expectedCameras windowMs bufferSize recentLimit
          runId).bufferManager := by
    unfold configuredService StreamSyncService.configure
    dsimp only
    split
    · exact ⟨rfl, .some ⟨rfl, rfl, rfl, rfl, rfl, rfl, rfl⟩, rfl⟩
    · exact ⟨rfl, .none, rfl⟩
  exact ⟨hrest.1, hrest.2.1, congrArg _ hrest.2.2, hclaimed runId, hclaimed runId'⟩

section Step

variable {first second : StreamSyncService} {call refreshed : FrameCall}

/-- What the step of two services leaves and answers, apart from the buffered claims. -/
theorem Refreshing.handleFrame (h : Refreshing first second) (hcall : call.RefreshedTo refreshed) :
    Option.Rel SyncMatcher.SameCapture (frameStep first call).1.matcher
        (frameStep second refreshed).1.matcher ∧
      (frameStep second refreshed).1.bufferManager.mapFrames blotted =
        (frameStep first call).1.bufferManager.mapFrames blotted ∧
      (frameStep second refreshed).1.enabled = (frameStep first call).1.enabled ∧
      SameAnswer (frameStep first call).2 (frameStep second refreshed).2 ∧
      second.rotates refreshed.frame = first.rotates call.frame := by
  have hframe : blotted.toFun refreshed.frame.stored = blotted.toFun call.frame.stored :=
    congrArg SyncInputFrame.stored hcall.frame
  obtain ⟨hmanagers, hstored⟩ := SyncFrameBufferManager.addFrame_congr blotted h.buffers hframe
  have hclaimed := allClaimed_addFrame h.claimed hcall.claimed
  have hrefreshed := allClaimed_addFrame h.refreshed hcall.refreshed
  obtain ⟨enabled, cameras, windowMs, manager, matcher⟩ := first
  obtain ⟨enabled', cameras', windowMs', manager', matcher'⟩ := second
  obtain rfl : enabled' = enabled := h.enabled
  have hbuffers : manager'.mapFrames blotted = manager.mapFrames blotted := h.buffers
  have hmatchers : Option.Rel SyncMatcher.SameCapture matcher matcher' := h.matchers
  unfold frameStep StreamSyncService.handleFrame StreamSyncService.rotates
  rw [hcall.nowMs]
  cases enabled' with
  | false => exact ⟨hmatchers, hbuffers, rfl, .nothing, rfl⟩
  | true =>
      cases hmatchers with
      | none => exact ⟨.none, hbuffers, rfl, .nothing, rfl⟩
      | some hcapture =>
          dsimp only at hmanagers hstored hclaimed hrefreshed ⊢
          generalize manager.addFrame call.frame = added at *
          generalize manager'.addFrame refreshed.frame = added' at *
          obtain ⟨kept, stored⟩ := added
          obtain ⟨kept', stored'⟩ := added'
          cases stored with
          | none =>
              obtain rfl := Option.map_eq_none_iff.mp hstored
              exact ⟨.some hcapture, hmanagers, rfl, .nothing, rfl⟩
          | some stored =>
              obtain ⟨stored', rfl, htaken⟩ := Option.map_eq_some_iff.mp hstored
              have htrigger : stored'.deviceId = stored.deviceId := by
                rw [← blotted.deviceId stored', htaken, blotted.deviceId]
              have hmatch := SyncMatcher.tryMatch_blotted hcapture hmanagers hclaimed hrefreshed
                htrigger call.nowMs call.freshRunId refreshed.freshRunId
              exact ⟨.some hmatch.matcher, hmatch.buffers, rfl, hmatch.answer,
                SyncMatcher.rotates_blotted hcapture hmanagers hclaimed hrefreshed htrigger⟩

theorem Refreshing.step (h : Refreshing first second) (hcall : call.RefreshedTo refreshed) :
    Refreshing (frameStep first call).1 (frameStep second refreshed).1 ∧
      Undisturbed (Machine.exchange frameStep first call)
        (Machine.exchange frameStep second refreshed) := by
  obtain ⟨hmatchers, hbuffers, henabled, hanswer, hrotates⟩ := h.handleFrame hcall
  exact ⟨⟨henabled, hmatchers, hbuffers, allClaimed_handleFrame h.claimed hcall.claimed _ _,
    allClaimed_handleFrame h.refreshed hcall.refreshed _ _⟩, ⟨hanswer, hrotates⟩⟩

end Step

/-- **Refreshing camera credentials does not disturb a capture run.** Two runs of `handle_frame`
take the same frames, all of claimed cameras and under non-empty subjects and token ids, which
may differ from frame to frame and between the runs. Their calls emit together, sets that are
the same but for the members' credentials and that name no subject and token id of their own,
and the runs rotate together. -/
theorem capture_run_undisturbed (expectedCameras : List String) (windowMs : ℤ)
    (bufferSize recentLimit : ℕ) (runId runId' : String) (calls refreshed : List FrameCall)
    (hcalls : List.Forall₂ FrameCall.RefreshedTo calls refreshed) :
    List.Forall₂ Undisturbed
      (Machine.history frameStep
        (configuredService expectedCameras windowMs bufferSize recentLimit runId) calls)
      (Machine.history frameStep
        (configuredService expectedCameras windowMs bufferSize recentLimit runId') refreshed) :=
  Machine.history_forall₂ frameStep (fun _ _ _ _ h hcall => h.step hcall)
    (refreshing_configuredService expectedCameras windowMs bufferSize recentLimit runId runId')
    hcalls

/-- A call with a frame of a claimed camera under this subject and token id. -/
def claimedCall (deviceId : String) (timestampMs sequence : ℤ)
    (authorizedSubject sessionTokenJti : String) : FrameCall where
  frame :=
    { frameId := none
      deviceId := deviceId
      timestampMs := timestampMs
      sequence := some sequence
      contentType := "image/jpeg"
      imageBytes := [1]
      filePath := none
      sourceSessionId := some "session"
      cameraStreamId := some deviceId
      sourceFrameUid := some (deviceId ++ toString sequence)
      contentDigest := some "digest"
      identityMode := .v2
      tenantId := some "tenant"
      siteId := some "site"
      captureSessionId := some "capture"
      processingJobId := some "job"
      profileDigest := some "profile"
      authorizedSubject := some authorizedSubject
      sessionTokenJti := some sessionTokenJti
      authorizedCameraId := some deviceId
      cameraClaimId := some deviceId }
  nowMs := timestampMs
  freshRunId := "run-2"

/-- Two cameras of one participant, each with two frames. -/
def claimedCalls (jti jti' : String) : List FrameCall :=
  [claimedCall "left" 1000 1 "owner" "jti-1", claimedCall "right" 1010 1 "owner" jti,
    claimedCall "left" 2000 2 "owner" "jti-1", claimedCall "right" 2010 2 "owner" jti']

/-- The right camera refreshes its token between its frames: two sets are emitted in one run
as they are without a refresh. -/
theorem capture_run_undisturbed_token :
    ((Machine.history frameStep (configuredService ["left", "right"] 50 120 20 "run-1")
        (claimedCalls "jti-2" "jti-3")).map fun e => (emits e, e.before.rotates e.input.frame)) =
        [(false, false), (true, false), (false, false), (true, false)] ∧
      List.Forall₂ Undisturbed
        (Machine.history frameStep (configuredService ["left", "right"] 50 120 20 "run-1")
          (claimedCalls "jti-1" "jti-1"))
        (Machine.history frameStep (configuredService ["left", "right"] 50 120 20 "run-1")
          (claimedCalls "jti-2" "jti-3")) := by
  have hsame : ∀ (deviceId : String) (timestampMs sequence : ℤ) (jti : String),
      truthy (some deviceId) → truthy (some jti) →
      (claimedCall deviceId timestampMs sequence "owner" "jti-1").RefreshedTo
        (claimedCall deviceId timestampMs sequence "owner" jti) := by
    intro deviceId timestampMs sequence jti hdevice hjti
    have hpresent : truthy (some "owner") ∧ truthy (some "jti-1") := by decide
    exact ⟨rfl, rfl, ⟨hdevice, hpresent.1, hpresent.2⟩, ⟨hdevice, hpresent.1, hjti⟩⟩
  refine ⟨by decide +kernel, ?_⟩
  apply capture_run_undisturbed
  exact .cons (hsame _ _ _ _ (by decide) (by decide)) (.cons (hsame _ _ _ _ (by decide)
    (by decide)) (.cons (hsame _ _ _ _ (by decide) (by decide)) (.cons (hsame _ _ _ _
      (by decide) (by decide)) .nil)))

end ImageStream
