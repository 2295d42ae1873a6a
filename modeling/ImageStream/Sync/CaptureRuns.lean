/-
# Capture runs

A matcher numbers the sets of a capture run. It leaves the run when a V2 set belongs to
another session, has other configurations or another authorization key than the last V2
set; a set without identity is numbered in the run that it finds. So the matcher is a
counter whose epochs are the runs and whose labels are the captures.
-/

import ImageStream.Base.Numbering
import ImageStream.Sync.Emission
import ImageStream.Sync.Scope

namespace ImageStream

open Base

/-! ## The capture of a set -/

/-- The session, the members' configurations and the authorization key of a V2 set. A
missing configuration digest is written as the empty text. -/
structure Capture where
  captureSessionId : Option String
  captureConfigs : List (String × String)
  tenantId : Option String
  siteId : Option String
  processingJobId : Option String
  profileDigest : Option String
  authorizedSubject : Option String
  sessionTokenJti : Option String
  deriving DecidableEq

/-- What a V2 set says about its capture. -/
def SynchronizedFrameSet.capture (frameSet : SynchronizedFrameSet) : Capture where
  captureSessionId := frameSet.captureSessionId
  captureConfigs := captureConfigKey frameSet.members
  tenantId := frameSet.tenantId
  siteId := frameSet.siteId
  processingJobId := frameSet.processingJobId
  profileDigest := frameSet.profileDigest
  authorizedSubject := frameSet.authorizedSubject
  sessionTokenJti := frameSet.sessionTokenJti

/-- What a set takes from the counter. -/
def SynchronizedFrameSet.stamp (frameSet : SynchronizedFrameSet) :
    Stamp (Option String) Capture where
  epoch := frameSet.captureRunId
  number := frameSet.frameSetId
  label := if frameSet.identityMode = .v2 then some frameSet.capture else none

/-- The capture that a session, its configurations and its key make. -/
def captureOf (captureSessionId : Option String)
    (captureConfigKey : Option (List (String × String)))
    (authorizationKey : Option AuthorizationKey) : Option Capture :=
  captureSessionId.map fun sessionId =>
    { captureSessionId := some sessionId
      captureConfigs := captureConfigKey.getD []
      tenantId := authorizationKey.bind (·.tenantId)
      siteId := authorizationKey.bind (·.siteId)
      processingJobId := authorizationKey.bind (·.processingJobId)
      profileDigest := authorizationKey.bind (·.profileDigest)
      authorizedSubject := authorizationKey.bind (·.authorizedSubject)
      sessionTokenJti := authorizationKey.bind (·.sessionTokenJti) }

/-- The matcher as a counter. -/
def SyncMatcher.counter (matcher : SyncMatcher) : Counter (Option String) Capture where
  epoch := some matcher.captureRunId
  next := matcher.nextFrameSetId
  label := captureOf matcher.captureSessionId matcher.captureConfigKey matcher.authorizationKey

/-- The numbers of the sets of one run. -/
def frameSetIds (frameSets : List SynchronizedFrameSet) (captureRunId : Option String) :
    List ℤ :=
  (frameSets.filter fun frameSet => frameSet.captureRunId = captureRunId).map (·.frameSetId)

theorem numbersOf_stamps (frameSets : List SynchronizedFrameSet) (captureRunId : Option String) :
    Numbering.numbersOf (frameSets.map SynchronizedFrameSet.stamp) captureRunId =
      frameSetIds frameSets captureRunId := by
  unfold Numbering.numbersOf frameSetIds
  rw [List.filter_map, List.map_map]
  rfl

theorem captureOf_of_ne_none {captureSessionId : Option String} (h : captureSessionId ≠ none)
    (captureConfigs : List (String × String)) (authorizationKey : Option AuthorizationKey) :
    captureOf captureSessionId (some captureConfigs) authorizationKey =
      some
        { captureSessionId := captureSessionId
          captureConfigs := captureConfigs
          tenantId := authorizationKey.bind (·.tenantId)
          siteId := authorizationKey.bind (·.siteId)
          processingJobId := authorizationKey.bind (·.processingJobId)
          profileDigest := authorizationKey.bind (·.profileDigest)
          authorizedSubject := authorizationKey.bind (·.authorizedSubject)
          sessionTokenJti := authorizationKey.bind (·.sessionTokenJti) } := by
  cases captureSessionId with
  | none => exact absurd rfl h
  | some sessionId => rfl

namespace CaptureIdentity

/-- The capture that an identity names. -/
def capture? (identity : CaptureIdentity) : Option Capture :=
  captureOf identity.captureSessionId identity.captureConfigKey identity.authorizationKey

end CaptureIdentity

/-! ## Entering a capture -/

namespace SyncMatcher

variable (matcher : SyncMatcher) {identity : CaptureIdentity} (freshRunId : String)

theorem counter_enterCapture_of_none (h : identity.captureSessionId = none) :
    (matcher.enterCapture identity freshRunId).counter = matcher.counter := by
  simp [enterCapture, changesCapture, h]

theorem counter_enterCapture_of_changes (h : identity.captureSessionId ≠ none)
    (hchanges : matcher.changesCapture identity) :
    (matcher.enterCapture identity freshRunId).counter =
      { epoch := some freshRunId, next := 1, label := identity.capture? } := by
  unfold enterCapture
  rw [if_pos hchanges, if_pos h]
  rfl

theorem counter_enterCapture_of_keeps (h : identity.captureSessionId ≠ none)
    (hkeeps : ¬matcher.changesCapture identity) :
    (matcher.enterCapture identity freshRunId).counter =
      { matcher.counter with label := identity.capture? } := by
  unfold enterCapture
  rw [if_neg hkeeps, if_pos h]
  rfl

/-- A capture that the matcher does not leave is its own, unless it has none. -/
theorem label_of_keeps {matcher : SyncMatcher} (h : identity.captureSessionId ≠ none)
    (hkeeps : ¬matcher.changesCapture identity) :
    matcher.counter.label = none ∨ matcher.counter.label = identity.capture? := by
  cases hsession : matcher.captureSessionId with
  | none =>
      left
      simp [counter, captureOf, hsession]
  | some sessionId =>
      right
      have hsame : (identity.captureSessionId = some sessionId ∧
          identity.captureConfigKey = matcher.captureConfigKey) ∧
          identity.authorizationKey = matcher.authorizationKey := by
        simpa [changesCapture, h, hsession] using hkeeps
      obtain ⟨⟨hsession', hconfigs⟩, hkey⟩ := hsame
      unfold counter CaptureIdentity.capture?
      rw [hsession', ← hsession, hconfigs, hkey]

/-- **The step of the counter.** The next set takes the next number of the run that the
matcher is in, or the first number of a fresh one. -/
theorem step_enterCapture (identity : CaptureIdentity) {freshRunId : String}
    {drawn : List (Option String)} (unseen : some freshRunId ∉ drawn) :
    let entered := (matcher.enterCapture identity freshRunId).counter
    Numbering.Step drawn matcher.counter [some freshRunId]
      (some { epoch := entered.epoch, number := entered.next, label := identity.capture? })
      { entered with next := entered.next + 1 } := by
  intro entered
  by_cases hsession : identity.captureSessionId = none
  · have hentered : entered = matcher.counter :=
      counter_enterCapture_of_none matcher freshRunId hsession
    have hnone : identity.capture? = none := by
      simp [CaptureIdentity.capture?, captureOf, hsession]
    rw [hentered, hnone]
    exact .issue _ none fun _ h => by cases h
  by_cases hchanges : matcher.changesCapture identity
  · have hentered : entered = { epoch := some freshRunId, next := 1, label := identity.capture? } :=
      counter_enterCapture_of_changes matcher freshRunId hsession hchanges
    obtain ⟨sessionId, hsome⟩ := Option.ne_none_iff_exists'.mp hsession
    obtain ⟨capture, hcapture⟩ : ∃ capture, identity.capture? = some capture := by
      simp [CaptureIdentity.capture?, captureOf, hsome]
    rw [hentered, hcapture]
    exact .rotate _ unseen capture
  · have hentered : entered = { matcher.counter with label := identity.capture? } :=
      counter_enterCapture_of_keeps matcher freshRunId hsession hchanges
    have hlabel := label_of_keeps hsession hchanges
    have hfits : ∀ a ∈ identity.capture?, ∀ b ∈ matcher.counter.label, a = b := by
      intro a ha b hb
      rcases hlabel with hnone | hsame
      · rw [hnone] at hb
        cases hb
      · rw [hsame] at hb
        exact Option.some.inj (ha.symm.trans hb)
    have hnext : identity.capture?.or matcher.counter.label = identity.capture? := by
      rcases hlabel with hnone | hsame
      · rw [hnone, Option.or_none]
      · rw [hsame, Option.or_self]
    have hissue : Numbering.Step drawn matcher.counter [some freshRunId] _ _ :=
      .issue [some freshRunId] identity.capture? hfits
    rw [hnext] at hissue
    rw [hentered]
    exact hissue

end SyncMatcher

/-! ## One emission -/

namespace SyncMatcher.Emission

variable {matcher : SyncMatcher} {manager : SyncFrameBufferManager}

theorem captureSessionId_ne_none (emission : matcher.Emission manager)
    (hmode : emission.identity.identityMode = .v2) : emission.identity.captureSessionId ≠ none := by
  have hsession := (emission.identified.of_v2 hmode).1
  rintro hnone
  simp [hnone] at hsession

/-- A set without identity has no capture, a V2 set has that of its identity. -/
theorem label_frameSet (emission : matcher.Emission manager) (nowMs : ℤ) (freshRunId : String) :
    (emission.frameSet nowMs freshRunId).stamp.label = emission.identity.capture? := by
  unfold CaptureIdentity.capture?
  by_cases hmode : emission.identity.identityMode = .v2
  · rw [(emission.identified.of_v2 hmode).2,
      captureOf_of_ne_none (emission.captureSessionId_ne_none hmode)]
    exact if_pos hmode
  · rw [emission.identified.of_not_v2 hmode]
    exact if_neg hmode

/-- The run of a set is one that the matcher has drawn. -/
theorem captureRunId_entered (emission : matcher.Emission manager) (freshRunId : String) :
    (emission.entered freshRunId).captureRunId = matcher.captureRunId ∨
      (emission.entered freshRunId).captureRunId = freshRunId :=
  (SyncMatcher.enterCapture_cases
    { matcher with
      droppedSupersededCount :=
        matcher.droppedSupersededCount + (manager.consumeThrough emission.selected).2 }
    emission.identity freshRunId).2.imp And.left And.left

/-- The matcher is in the capture of a V2 set once it has emitted it. -/
theorem counter_result (emission : matcher.Emission manager) (nowMs : ℤ) (freshRunId : String) :
    (emission.result nowMs freshRunId).1.counter =
      { (emission.entered freshRunId).counter with
        next := (emission.entered freshRunId).nextFrameSetId + 1 } := by
  have hsame := emission.sameCourse_result nowMs freshRunId
  unfold SyncMatcher.counter
  rw [hsame.captureRunId, hsame.nextFrameSetId, hsame.captureSessionId, hsame.captureConfigKey,
    hsame.authorizationKey]
  rfl

/-- An emission issues the number of its set. -/
theorem counter_step (emission : matcher.Emission manager) (nowMs : ℤ) {freshRunId : String}
    {drawn : List (Option String)} (unseen : some freshRunId ∉ drawn) :
    Numbering.Step drawn matcher.counter [some freshRunId]
      (some (emission.frameSet nowMs freshRunId).stamp)
      (emission.result nowMs freshRunId).1.counter := by
  have hstamp : (emission.frameSet nowMs freshRunId).stamp =
      { epoch := (emission.entered freshRunId).counter.epoch
        number := (emission.entered freshRunId).counter.next
        label := emission.identity.capture? } := by
    rw [← emission.label_frameSet nowMs freshRunId]
    rfl
  rw [hstamp, emission.counter_result]
  -- Before the capture is entered only the count of superseded frames changes.
  exact SyncMatcher.step_enterCapture
    { matcher with
      droppedSupersededCount :=
        matcher.droppedSupersededCount + (manager.consumeThrough emission.selected).2 }
    emission.identity unseen

end SyncMatcher.Emission

/-! ## Every run -/

/-- The run ids that a run may draw, together with the first one. -/
def drawnRuns (runId : String) (ops : List MatcherOp) : List String :=
  runId :: ops.flatMap MatcherOp.drawn

theorem drawnRuns_snoc (runId : String) (ops : List MatcherOp) (op : MatcherOp) :
    drawnRuns runId (ops ++ [op]) = drawnRuns runId ops ++ op.drawn := by
  simp [drawnRuns]

theorem mem_drawnRuns_iff {runId drawn : String} {ops : List MatcherOp} :
    drawn ∈ drawnRuns runId ops ↔ drawn = runId ∨ ∃ op ∈ ops, drawn ∈ op.drawn := by
  simp [drawnRuns]

theorem emittedSets_snoc (matcher : SyncMatcher) (ops : List MatcherOp) (op : MatcherOp) :
    emittedSets matcher (ops ++ [op]) =
      emittedSets matcher ops ++
        (matcherStep (Machine.after matcherStep matcher ops) op).2.toList := by
  unfold emittedSets
  rw [Machine.history_snoc, List.filterMap_append]
  cases h : (matcherStep (Machine.after matcherStep matcher ops) op).2 <;>
    simp [Machine.exchange, h]

/-- A run of the matcher is a run of the counter. -/
theorem counted_after (expectedCameras : List String) (windowMs : ℤ) (recentLimit : ℕ)
    (runId : String) {ops : List MatcherOp} (hfresh : (drawnRuns runId ops).Nodup) :
    let matcher := newMatcher expectedCameras windowMs recentLimit runId
    Numbering.Run (some runId) ((drawnRuns runId ops).map some)
      ((emittedSets matcher ops).map SynchronizedFrameSet.stamp)
      (Machine.after matcherStep matcher ops).counter := by
  intro matcher
  induction ops using List.reverseRecOn with
  | nil => exact .start
  | append_singleton ops op ih =>
      rw [drawnRuns_snoc] at hfresh ⊢
      have hbefore := ih (List.Nodup.of_append_left hfresh)
      have hdisjoint := List.disjoint_of_nodup_append hfresh
      rw [emittedSets_snoc, Machine.after_snoc, List.map_append, List.map_append]
      have heffect := matcherStep_effect (Machine.after matcherStep matcher ops) op
      generalize matcherStep (Machine.after matcherStep matcher ops) op = result at heffect ⊢
      generalize op.drawn = drawn at heffect hdisjoint ⊢
      cases heffect with
      | quiet _ after hrun hnext hsession hconfigs hkey =>
          have hsame : after.counter = (Machine.after matcherStep matcher ops).counter := by
            unfold SyncMatcher.counter
            rw [hrun, hnext, hsession, hconfigs, hkey]
          rw [hsame]
          exact hbefore.snoc (.quiet _)
      | emits manager emission nowMs freshRunId =>
          refine hbefore.snoc (emission.counter_step nowMs fun hmem => ?_)
          obtain ⟨seen, hseen, heq⟩ := List.mem_map.mp hmem
          cases heq
          exact hdisjoint hseen List.mem_cons_self

/-- The run of the matcher is one that has been drawn. -/
theorem captureRunId_mem_drawnRuns (expectedCameras : List String) (windowMs : ℤ)
    (recentLimit : ℕ) (runId : String) (ops : List MatcherOp) :
    (Machine.after matcherStep (newMatcher expectedCameras windowMs recentLimit runId)
      ops).captureRunId ∈ drawnRuns runId ops := by
  induction ops using List.reverseRecOn with
  | nil => exact List.mem_cons_self
  | append_singleton ops op ih =>
      rw [drawnRuns_snoc, Machine.after_snoc, List.mem_append]
      generalize Machine.after matcherStep
        (newMatcher expectedCameras windowMs recentLimit runId) ops = matcher at ih ⊢
      have heffect := matcherStep_effect matcher op
      generalize matcherStep matcher op = result at heffect ⊢
      generalize op.drawn = drawn at heffect ⊢
      cases heffect with
      | quiet _ after hrun =>
          rw [hrun]
          exact Or.inl ih
      | emits manager emission nowMs freshRunId =>
          rw [(emission.sameCourse_result nowMs freshRunId).captureRunId, List.mem_singleton]
          rcases emission.captureRunId_entered freshRunId with hkept | hdrawn
          · exact Or.inl (hkept ▸ ih)
          · exact Or.inr hdrawn

/-- Each set is synchronized after all sets before it. -/
theorem synchronizedAtMs_lt (expectedCameras : List String) (windowMs : ℤ) (recentLimit : ℕ)
    (runId : String) (ops : List MatcherOp) :
    let matcher := newMatcher expectedCameras windowMs recentLimit runId
    ((emittedSets matcher ops).map (·.synchronizedAtMs)).Pairwise (· < ·) ∧
      ∀ frameSet ∈ emittedSets matcher ops,
        frameSet.synchronizedAtMs ≤
          (Machine.after matcherStep matcher ops).lastSynchronizedAtMs := by
  intro matcher
  induction ops using List.reverseRecOn with
  | nil => exact ⟨List.Pairwise.nil, fun _ h => by cases h⟩
  | append_singleton ops op ih =>
      obtain ⟨hincreasing, hlast⟩ := ih
      rw [emittedSets_snoc, Machine.after_snoc]
      have heffect := matcherStep_effect (Machine.after matcherStep matcher ops) op
      generalize matcherStep (Machine.after matcherStep matcher ops) op = result at heffect ⊢
      generalize op.drawn = drawn at heffect
      cases heffect with
      | quiet _ after _ _ _ _ _ htime =>
          rw [Option.toList_none, List.append_nil, htime]
          exact ⟨hincreasing, hlast⟩
      | emits manager emission nowMs freshRunId =>
          have htime : (Machine.after matcherStep matcher ops).lastSynchronizedAtMs <
              (emission.frameSet nowMs freshRunId).synchronizedAtMs :=
            lt_of_lt_of_le (Int.lt_succ _) (le_max_right _ _)
          have hsame := (emission.sameCourse_result nowMs freshRunId).lastSynchronizedAtMs
          constructor
          · rw [Option.toList_some, List.map_append, List.pairwise_append]
            refine ⟨hincreasing, List.pairwise_singleton _ _, ?_⟩
            intro earlier hearlier latest hlatest
            obtain ⟨frameSet, hframeSet, rfl⟩ := List.mem_map.mp hearlier
            rw [List.map_singleton, List.mem_singleton] at hlatest
            rw [hlatest]
            exact lt_of_le_of_lt (hlast frameSet hframeSet) htime
          · intro frameSet hframeSet
            rw [hsame]
            rcases List.mem_append.mp hframeSet with hold | hnew
            · exact (hlast frameSet hold).trans htime.le
            · rw [Option.toList_some, List.mem_singleton] at hnew
              rw [hnew]
              exact le_refl _

/-- **Frame-set identities.** As long as the run ids that are drawn are fresh, the sets of
a run are numbered one, two, three in the order of emission, its V2 sets are of one
capture, and it is never returned to. The times at which sets are synchronized increase
strictly, whatever the clock does. -/
theorem frame_set_identities (expectedCameras : List String) (windowMs : ℤ) (recentLimit : ℕ)
    (runId : String) {ops : List MatcherOp} (hfresh : (drawnRuns runId ops).Nodup) :
    let frameSets := emittedSets (newMatcher expectedCameras windowMs recentLimit runId) ops
    (∀ captureRunId, frameSetIds frameSets captureRunId =
      Numbering.countUp (frameSetIds frameSets captureRunId).length) ∧
    (∀ first ∈ frameSets, ∀ second ∈ frameSets, first.captureRunId = second.captureRunId →
      first.identityMode = .v2 → second.identityMode = .v2 →
        first.capture = second.capture) ∧
    (∀ before first between second after,
      frameSets = before ++ first :: (between ++ second :: after) →
        first.captureRunId = second.captureRunId →
          ∀ frameSet ∈ between, frameSet.captureRunId = first.captureRunId) ∧
    (frameSets.map (·.synchronizedAtMs)).Pairwise (· < ·) := by
  intro frameSets
  have hlawful :=
    (counted_after expectedCameras windowMs recentLimit runId hfresh).sound.lawful
  refine ⟨fun captureRunId => ?_, fun first hfirst second hsecond hrun hmode hmode' => ?_,
    fun before first between second after hsplit hrun frameSet hframeSet => ?_,
    (synchronizedAtMs_lt expectedCameras windowMs recentLimit runId ops).1⟩
  · rw [← numbersOf_stamps]
    exact hlawful.numbers captureRunId
  · exact hlawful.uniform first.stamp (List.mem_map_of_mem hfirst) second.stamp
      (List.mem_map_of_mem hsecond) hrun first.capture (if_pos hmode) second.capture
      (if_pos hmode')
  · refine hlawful.contiguous (before.map SynchronizedFrameSet.stamp) first.stamp
      (between.map SynchronizedFrameSet.stamp) second.stamp
      (after.map SynchronizedFrameSet.stamp) ?_ hrun frameSet.stamp
      (List.mem_map_of_mem hframeSet)
    change frameSets.map SynchronizedFrameSet.stamp = _
    rw [hsplit]
    simp

/-- The buffers with one frame of the left camera, which belongs to this session. -/
def bufferedSession (sessionId : String) : SyncFrameBufferManager :=
  (SyncFrameBufferManager.addFrame { bufferSize := 120, bufferSize_pos := defaultBufferSize_pos }
    { authorizedFrame with captureSessionId := some sessionId }).1

/-- One set of a session and two of another one, while the clock stands still. -/
def rotatingRun : List MatcherOp :=
  [.tryMatch (bufferedSession "first") authorizedFrame.stored 1000 "run-2",
    .tryMatch (bufferedSession "second") authorizedFrame.stored 1000 "run-3",
    .tryMatch (bufferedSession "second") authorizedFrame.stored 1000 "run-4"]

theorem frame_set_identities_rotating :
    (emittedSets (newMatcher ["left"] 50 20 "run-1") rotatingRun).map (fun frameSet =>
        (frameSet.captureRunId, frameSet.frameSetId, frameSet.synchronizedAtMs)) =
      [(some "run-1", 1, 1000), (some "run-3", 1, 1001), (some "run-3", 2, 1002)] ∧
    ∀ before first between second after,
      emittedSets (newMatcher ["left"] 50 20 "run-1") rotatingRun =
          before ++ first :: (between ++ second :: after) →
        first.captureRunId = second.captureRunId →
          ∀ frameSet ∈ between, frameSet.captureRunId = first.captureRunId :=
  ⟨by decide +kernel, (frame_set_identities ["left"] 50 20 "run-1" (by decide)).2.2.1⟩

end ImageStream
