/-
# Emitted sets move forward

As long as each expected camera keeps one source, the frames that a camera's buffer takes
follow each other in sequence and in time. So the camera is a channel that moves forward:
`handle_frame` takes a frame, an emission picks the camera's member and drops what is not
later, and everything else only loses frames.
-/

import ImageStream.Base.Channel
import ImageStream.Sync.Emission
import ImageStream.Sync.Intake

namespace ImageStream

open Base

/-! ## The order of a camera's frames -/

namespace StoredSyncFrame

/-- A smaller sequence number, and not later. -/
def Precedes (first second : StoredSyncFrame) : Prop :=
  (∃ m n, first.sequence = some m ∧ second.sequence = some n ∧ m < n) ∧
    first.timestampMs ≤ second.timestampMs

/-- What a consumption leaves behind a chosen frame. -/
def LaterThan (chosen frame : StoredSyncFrame) : Prop :=
  chosen.timestampMs < frame.timestampMs

instance : IsStrictOrder StoredSyncFrame Precedes where
  irrefl := by
    rintro frame ⟨⟨m, n, hm, hn, hlt⟩, -⟩
    rw [hm] at hn
    cases hn
    exact lt_irrefl m hlt
  trans := by
    rintro first second third ⟨⟨l, m, hl, hm, hlm⟩, hle⟩ ⟨⟨m', n, hm', hn, hmn⟩, hle'⟩
    rw [hm] at hm'
    cases hm'
    exact ⟨⟨l, n, hl, hn, hlm.trans hmn⟩, hle.trans hle'⟩

theorem LaterThan.spec (first second : StoredSyncFrame) (h : first.LaterThan second) :
    first ≠ second ∧ ¬second.Precedes first := by
  constructor
  · rintro rfl
    exact lt_irrefl _ h
  · exact fun hprecedes => not_lt_of_ge hprecedes.2 h

end StoredSyncFrame

/-! ## One camera of the service -/

/-- One call with the states before and after it. -/
abbrev FrameExchange :=
  Exchange StreamSyncService FrameCall (Except ValueError (Option SynchronizedFrameSet))

/-- The frame that a call has taken into the buffer of a camera. -/
def takenOf (c : String) (e : FrameExchange) : Option StoredSyncFrame :=
  (accepted? e.before (.handleFrame e.input.frame e.input.nowMs e.input.freshRunId)).filter
    fun frame => frame.deviceId = c

/-- The set that a call has emitted. -/
def emittedBy (e : FrameExchange) : Option SynchronizedFrameSet := e.output.toOption.join

/-- A call, as a move of the channel of a camera. -/
def moveOf (c : String) (e : FrameExchange) : Channel.Move StoredSyncFrame where
  taken := takenOf c e
  picked := (emittedBy e).bind fun frameSet => frameSet.frames.get? c

theorem deviceId_of_takenOf {c : String} {e : FrameExchange} {frame : StoredSyncFrame}
    (h : takenOf c e = some frame) : frame.deviceId = c :=
  of_decide_eq_true (Option.filter_eq_some_iff.mp h).2

theorem mem_takes_iff {c : String} {history : List FrameExchange} {frame : StoredSyncFrame} :
    frame ∈ Channel.takes (history.map (moveOf c)) ↔ ∃ e ∈ history, takenOf c e = some frame := by
  unfold Channel.takes
  rw [List.filterMap_map, List.mem_filterMap]
  rfl

/-- The buffer of a camera with this source carries this channel. -/
structure Carries (manager : SyncFrameBufferManager) (c : String) (source : SourceIdentity)
    (ch : Channel StoredSyncFrame) : Prop where
  held : manager.buffered c = ch.held
  empty : ch.mark = none → manager.buffers.get? c = none
  mark : ∀ m ∈ ch.mark, m.sequence.isSome ∧ ∃ buffer, manager.buffers.get? c = some buffer ∧
    buffer.sourceIdentity = some source ∧ buffer.lastSequence = m.sequence ∧
      buffer.lastTimestampMs = some m.timestampMs

/-- A numbered V2 frame of the source that its camera keeps. -/
structure FrameCall.Numbered (call : FrameCall) (expectedCameras : List String)
    (sourceOf : String → SourceIdentity) : Prop where
  mode : call.frame.deviceId ∈ expectedCameras → call.frame.identityMode = .v2
  sequence : call.frame.deviceId ∈ expectedCameras → call.frame.sequence.isSome
  source : call.frame.deviceId ∈ expectedCameras →
    call.frame.source = sourceOf call.frame.deviceId

namespace Carries

variable {manager manager' : SyncFrameBufferManager} {c : String} {source : SourceIdentity}
  {ch : Channel StoredSyncFrame}

/-- Managers of the same intake carry channels of the same mark. -/
theorem of_sameIntake (h : Carries manager c source ch) (hintake : manager.SameIntake manager') :
    Carries manager' c source { held := manager'.buffered c, mark := ch.mark } := by
  have houtline := hintake.outline c
  refine ⟨rfl, fun hnone => ?_, fun m hm => ?_⟩
  · rw [h.empty hnone, Option.map_none, Option.map_eq_none_iff] at houtline
    exact houtline
  · obtain ⟨hsome, buffer, hget, hsource, hsequence, htime⟩ := h.mark m hm
    rw [hget, Option.map_some, Option.map_eq_some_iff] at houtline
    obtain ⟨buffer', hget', hsame⟩ := houtline
    have hfields : ∀ {α : Type} (field : CameraSyncBuffer → α),
        (∀ b : CameraSyncBuffer, field b.outline = field b) → field buffer' = field buffer :=
      fun field hfield => by rw [← hfield buffer', ← hfield buffer, hsame]
    exact ⟨hsome, buffer', hget', (hfields (·.sourceIdentity) fun _ => rfl).trans hsource,
      (hfields (·.lastSequence) fun _ => rfl).trans hsequence,
      (hfields (·.lastTimestampMs) fun _ => rfl).trans htime⟩

/-- An admitted frame follows the mark. -/
theorem precedes_of_admits (h : Carries manager c source ch) {frame : SyncInputFrame}
    (hdevice : frame.deviceId = c) (hadmits : manager.Admits frame)
    (hmode : frame.identityMode = .v2) (hsequence : frame.sequence.isSome)
    (hsource : frame.source = source) : ∀ m ∈ ch.mark, m.Precedes frame.stored := by
  intro m hm
  obtain ⟨hsome, buffer, hget, hidentity, hlast, htime⟩ := h.mark m hm
  obtain ⟨k, hk⟩ := Option.isSome_iff_exists.mp hsome
  obtain ⟨n, hn⟩ := Option.isSome_iff_exists.mp hsequence
  have horder := hadmits.2
  unfold SyncFrameBufferManager.bufferOf at horder
  rw [hdevice, hget, Option.getD_some] at horder
  simp only [CameraSyncBuffer.isOutOfOrder, SyncInputFrame.toSyncInputFrame_stored, hmode,
    hsource, hidentity, hlast, hk, hn, htime, decide_true, Bool.true_and,
    Bool.or_eq_false_iff, decide_eq_false_iff_not, not_le] at horder
  exact ⟨⟨k, n, hk, hn, horder.1⟩, not_lt.mp (of_decide_eq_false horder.2)⟩

/-- Retaining a frame of the camera moves the mark to it. -/
theorem retain_self (manager : SyncFrameBufferManager) {frame : SyncInputFrame}
    (hdevice : frame.deviceId = c) (hsequence : frame.sequence.isSome)
    (hsource : frame.source = source) :
    Carries (manager.retain frame.stored) c source
      { held := (manager.retain frame.stored).buffered c, mark := some frame.stored } := by
  refine ⟨rfl, fun hnone => (by cases hnone), fun m hm => ?_⟩
  obtain rfl := Option.mem_some_iff.mp hm
  obtain ⟨n, hn⟩ := Option.isSome_iff_exists.mp hsequence
  obtain ⟨retainedKeys, hbuffers⟩ := manager.buffers_retain frame.stored
  refine ⟨hsequence, _, by rw [hbuffers, ← hdevice]; exact Dict.get?_set_self _ _ _, ?_, ?_, rfl⟩
  · show ((manager.bufferOf frame.deviceId).follow frame.source).sourceIdentity = some source
    rw [hsource]
    unfold CameraSyncBuffer.follow
    split
    · rfl
    · rename_i hsame
      exact (not_not.mp hsame).symm
  · have hstored : frame.stored.sequence = some n := hn
    exact (CameraSyncBuffer.lastSequence_append hstored).trans hn.symm

/-- Only the camera's own buffer matters. -/
theorem of_get? (h : Carries manager c source ch)
    (hget : manager'.buffers.get? c = manager.buffers.get? c) : Carries manager' c source ch := by
  constructor
  · rw [← h.held]
    unfold SyncFrameBufferManager.buffered
    rw [hget]
  · rw [hget]
    exact h.empty
  · rw [hget]
    exact h.mark

/-- Retaining a frame of another camera changes nothing. -/
theorem retain_of_ne (h : Carries manager c source ch) {frame : SyncInputFrame}
    (hdevice : frame.deviceId ≠ c) : Carries (manager.retain frame.stored) c source ch := by
  obtain ⟨retainedKeys, hbuffers⟩ := manager.buffers_retain frame.stored
  apply h.of_get?
  rw [hbuffers]
  exact Dict.get?_set_of_ne _ _ (Ne.symm hdevice)

/-- What retaining an admitted frame does to the channel. -/
theorem retain (h : Carries manager c source ch) {frame : SyncInputFrame}
    (hadmits : manager.Admits frame) (hmode : frame.deviceId = c → frame.identityMode = .v2)
    (hsequence : frame.deviceId = c → frame.sequence.isSome)
    (hsource : frame.deviceId = c → frame.source = source) :
    let taken := (some frame.stored).filter fun stored => stored.deviceId = c
    ∃ mid, Carries (manager.retain frame.stored) c source mid ∧
      Channel.Step StoredSyncFrame.Precedes StoredSyncFrame.LaterThan ch { taken } mid := by
  intro taken
  by_cases hdevice : frame.deviceId = c
  · have htaken : taken = some frame.stored :=
      Option.filter_eq_some_iff.mpr ⟨rfl, decide_eq_true hdevice⟩
    refine ⟨_, retain_self manager hdevice (hsequence hdevice) (hsource hdevice), ?_⟩
    rw [htaken]
    refine ⟨?_, fun p hp => (by cases hp), ?_, fun p hp => (by cases hp), rfl⟩
    · rintro x hx
      obtain rfl := Option.mem_some_iff.mp hx
      exact h.precedes_of_admits hdevice hadmits (hmode hdevice) (hsequence hdevice)
        (hsource hdevice)
    · show ((manager.retain frame.stored).buffered c).Sublist (ch.held ++ [frame.stored])
      have hc : c = frame.stored.deviceId := hdevice.symm
      rw [SyncFrameBufferManager.buffered_retain, if_pos hc, ← h.held,
        SyncFrameBufferManager.buffered_eq]
      exact CameraSyncBuffer.frames_append_sublist _ _
  · have htaken : taken = none :=
      Option.filter_eq_none_iff.mpr fun _ hx hkept =>
        hdevice (by
          obtain rfl := Option.mem_some_iff.mp hx
          exact of_decide_eq_true hkept)
    refine ⟨ch, h.retain_of_ne hdevice, ?_⟩
    rw [htaken]
    refine ⟨fun x hx => (by cases hx), fun p hp => (by cases hp), ?_, fun p hp => (by cases hp),
      rfl⟩
    rw [Option.toList_none, List.append_nil]

/-- What an operation that only takes frames out does to the channel. -/
theorem settle {mid : Channel StoredSyncFrame} {taken picked : Option StoredSyncFrame}
    (h : Carries manager c source mid)
    (hstep : Channel.Step StoredSyncFrame.Precedes StoredSyncFrame.LaterThan ch { taken } mid)
    (hintake : manager.SameIntake manager')
    (hkept : (manager'.buffered c).Sublist (manager.buffered c))
    (hpicked : ∀ p ∈ picked, p ∈ manager.buffered c)
    (hpassed : ∀ p ∈ picked, ∀ y ∈ manager'.buffered c, p.LaterThan y) :
    ∃ ch', Carries manager' c source ch' ∧
      Channel.Step StoredSyncFrame.Precedes StoredSyncFrame.LaterThan ch { taken, picked } ch' := by
  rw [h.held] at hkept hpicked
  refine ⟨_, h.of_sameIntake hintake, ?_⟩
  constructor
  · exact hstep.fresh
  · exact fun p hp => hstep.held.subset (hpicked p hp)
  · exact hkept.trans hstep.held
  · exact hpassed
  · exact hstep.mark

end Carries

/-! ## One call -/

/-- The matcher of a service expects these cameras. -/
def StreamSyncService.Expects (service : StreamSyncService) (expectedCameras : List String) :
    Prop :=
  ∀ matcher, service.matcher = some matcher → matcher.expectedCameras = expectedCameras

section Call

variable {service : StreamSyncService} {expectedCameras : List String}

theorem expects_after (h : service.Expects expectedCameras) (call : FrameCall) :
    (Machine.exchange frameStep service call).after.Expects expectedCameras := by
  have houtcome := handleFrame_outcome service call.frame call.nowMs call.freshRunId
  show (service.handleFrame call.frame call.nowMs call.freshRunId).1.Expects expectedCameras
  generalize accepted? service (.handleFrame call.frame call.nowMs call.freshRunId) = stored
    at houtcome
  generalize service.handleFrame call.frame call.nowMs call.freshRunId = result at houtcome ⊢
  cases houtcome with
  | disabled => exact h
  | dropped => exact h
  | accepted matcher hmatcher hadmits result hresult =>
      intro after hafter
      obtain rfl := Option.some.inj hafter
      rw [← h matcher hmatcher]
      cases hresult with
      | ignored recorded answer hrecorded => exact hrecorded.expectedCameras
      | missed recorded hrecorded =>
          exact (recorded.sameSets_dropStaleFrames _).expectedCameras.trans
            hrecorded.expectedCameras
      | emitted selected spanMs identity =>
          exact (matcher.emitWith_settings staleRule _ identity selected spanMs _ _).1

/-- A call moves the channel of every camera whose frames are numbered. -/
theorem Carries.call {sourceOf : String → SourceIdentity} {c : String}
    {ch : Channel StoredSyncFrame} (h : Carries service.bufferManager c (sourceOf c) ch)
    {call : FrameCall} (hc : c ∈ expectedCameras)
    (hnumbered : call.Numbered expectedCameras sourceOf) :
    let e := Machine.exchange frameStep service call
    ∃ ch', Carries e.after.bufferManager c (sourceOf c) ch' ∧
      Channel.Step StoredSyncFrame.Precedes StoredSyncFrame.LaterThan ch (moveOf c e) ch' := by
  intro e
  have houtcome := handleFrame_outcome service call.frame call.nowMs call.freshRunId
  show ∃ ch', Carries (service.handleFrame call.frame call.nowMs
      call.freshRunId).1.bufferManager c (sourceOf c) ch' ∧
    Channel.Step StoredSyncFrame.Precedes StoredSyncFrame.LaterThan ch
      { taken := (accepted? service (.handleFrame call.frame call.nowMs call.freshRunId)).filter
          fun frame => frame.deviceId = c
        picked := (service.handleFrame call.frame call.nowMs
          call.freshRunId).2.toOption.join.bind fun frameSet => frameSet.frames.get? c } ch'
  generalize accepted? service (.handleFrame call.frame call.nowMs call.freshRunId) = stored
    at houtcome ⊢
  generalize service.handleFrame call.frame call.nowMs call.freshRunId = result at houtcome ⊢
  have hstay : Channel.Step StoredSyncFrame.Precedes StoredSyncFrame.LaterThan ch {} ch :=
    ⟨fun x hx => (by cases hx), fun p hp => (by cases hp),
      by rw [Option.toList_none, List.append_nil], fun p hp => (by cases hp), rfl⟩
  cases houtcome with
  | disabled => exact ⟨ch, h, hstay⟩
  | dropped matcher hmatcher hadmits manager hbuffers hindex =>
      exact ⟨ch, h.of_get? (by rw [hbuffers]), hstay⟩
  | accepted matcher hmatcher hadmits result hresult =>
      obtain ⟨mid, hmid, hstep⟩ := h.retain hadmits
        (fun hdevice => hnumbered.mode (hdevice ▸ hc))
        (fun hdevice => hnumbered.sequence (hdevice ▸ hc))
        (fun hdevice => hdevice ▸ hnumbered.source (hdevice ▸ hc))
      cases hresult with
      | ignored recorded answer hrecorded hnone =>
          have hpicked : answer.toOption.join = none := by
            rcases answer with reason | _ | frameSet
            · rfl
            · rfl
            · exact absurd rfl (hnone frameSet)
          rw [hpicked]
          exact hmid.settle hstep (.refl _) (List.Sublist.refl _)
            (fun p hp => (by cases hp)) (fun p hp => (by cases hp))
      | missed recorded hrecorded =>
          exact hmid.settle hstep (recorded.dropStaleFrames_sameIntake _)
            (recorded.dropStaleFrames_sublist _ c)
            (fun p hp => (by cases hp)) (fun p hp => (by cases hp))
      | emitted selected spanMs identity hselected hidentity =>
          let emission : matcher.Emission (service.bufferManager.retain call.frame.stored) :=
            ⟨selected, spanMs, identity, hselected, identifiedAs_of_resolve hidentity⟩
          obtain ⟨choice, ⟨hmem, -⟩, hchoice⟩ :=
            isWindowMatch_of_select emission.expectedCameras_ne_nil hselected
          show ∃ ch', Carries (SyncMatcher.dropStaleFrames _
            ((service.bufferManager.retain call.frame.stored).consumeThrough selected).1).2 c
              (sourceOf c) ch' ∧ Channel.Step _ _ ch { taken := _, picked := selected.get? c } ch'
          refine hmid.settle hstep
            ((SyncFrameBufferManager.SameIntake.consumeThrough _ selected).trans
              (SyncMatcher.dropStaleFrames_sameIntake _ _)) ?_ ?_ ?_
          · apply (SyncMatcher.dropStaleFrames_sublist _ _ c).trans
            rw [SyncFrameBufferManager.buffered_consumeThrough]
            exact SyncFrameBufferManager.remaining_sublist _ _
          · intro p hp
            obtain ⟨hexpected, rfl⟩ := (hchoice c p).mp hp
            exact hmem c hexpected
          · -- What the consumption leaves of the camera's frames is later than the member.
            intro p hp y hy
            have hleft := (SyncMatcher.dropStaleFrames_sublist _ _ c).subset hy
            rw [SyncFrameBufferManager.buffered_consumeThrough, hp] at hleft
            exact (of_decide_eq_true (List.mem_filter.mp hleft).2 :
              p.timestampMs < y.timestampMs)

/-- The moves of a camera's channel along a run. -/
theorem Carries.run {sourceOf : String → SourceIdentity} {c : String}
    (hc : c ∈ expectedCameras) {ch : Channel StoredSyncFrame}
    (h : Carries service.bufferManager c (sourceOf c) ch) {calls : List FrameCall}
    (hcalls : ∀ call ∈ calls, call.Numbered expectedCameras sourceOf) :
    ∃ ch', Channel.Run StoredSyncFrame.Precedes StoredSyncFrame.LaterThan ch
      ((Machine.history frameStep service calls).map (moveOf c)) ch' := by
  induction calls generalizing service ch with
  | nil => exact ⟨ch, rfl⟩
  | cons call calls ih =>
      obtain ⟨next, hnext, hstep⟩ := h.call hc (hcalls call List.mem_cons_self)
      obtain ⟨ch', hrun⟩ := ih hnext fun later hlater =>
        hcalls later (List.mem_cons_of_mem call hlater)
      exact ⟨ch', next, hstep, hrun⟩

end Call

/-! ## The sets of a run -/

/-- A set that a call emits comes from an emission of its matcher. -/
theorem exists_emission_of_call {service : StreamSyncService} {call : FrameCall}
    {frameSet : SynchronizedFrameSet} (h : (frameStep service call).2 = .ok (some frameSet)) :
    ∃ matcher, service.matcher = some matcher ∧
      ∃ (manager : SyncFrameBufferManager) (emission : matcher.Emission manager),
        frameSet = emission.frameSet call.nowMs call.freshRunId := by
  by_cases htakes : service.Takes call.frame
  · obtain ⟨matcher, hmatcher⟩ := Option.isSome_iff_exists.mp htakes.2.1
    obtain ⟨-, hresult⟩ := handleFrameWith_of_takes staleRule hmatcher htakes call.nowMs
      call.freshRunId
    rw [StreamSyncService.handleFrameWith_staleRule] at hresult
    have hemits := matcher.tryMatch_emits (service.bufferManager.retain call.frame.stored)
      call.frame.stored call.nowMs call.freshRunId
    have hanswer : (matcher.tryMatch (service.bufferManager.retain call.frame.stored)
        call.frame.stored call.nowMs call.freshRunId).2.2 = .ok (some frameSet) := by
      rw [← h]
      exact (congrArg Prod.snd hresult).symm
    generalize matcher.tryMatch (service.bufferManager.retain call.frame.stored)
      call.frame.stored call.nowMs call.freshRunId = result at hemits hanswer
    cases hemits with
    | nothing _ same answer => exact absurd hanswer (answer frameSet)
    | frameSet emission =>
        rw [SyncMatcher.Emission.answer_result] at hanswer
        exact ⟨matcher, hmatcher, _, emission, (by cases hanswer; rfl)⟩
  · obtain ⟨-, manager, -, -, -, hresult⟩ :=
      handleFrameWith_of_not_takes staleRule htakes call.nowMs call.freshRunId
    rw [StreamSyncService.handleFrameWith_staleRule] at hresult
    have hnone : (frameStep service call).2 = .ok none := congrArg Prod.snd hresult
    rw [h] at hnone
    cases hnone

/-- A set is ahead of an earlier one on each of the cameras. -/
structure SynchronizedFrameSet.AheadOf (second first : SynchronizedFrameSet)
    (expectedCameras : List String) : Prop where
  members : ∀ c ∈ expectedCameras, ∃ m m', first.frames.get? c = some m ∧
    second.frames.get? c = some m' ∧ m.Precedes m'
  anchor : first.anchorTimestampMs ≤ second.anchorTimestampMs
  freshnessOrigin : earliestTimestampMs first.members ≤ earliestTimestampMs second.members

/-- Where every member precedes its successor, the times follow. -/
theorem SyncMatcher.Emission.aheadOf {matcher matcher' : SyncMatcher}
    {manager manager' : SyncFrameBufferManager} (first : matcher.Emission manager)
    (second : matcher'.Emission manager') {expectedCameras : List String}
    (hexpected : matcher.expectedCameras = expectedCameras)
    (hexpected' : matcher'.expectedCameras = expectedCameras)
    (hprecedes : ∀ c m m', first.selected.get? c = some m → second.selected.get? c = some m' →
      m.Precedes m') (nowMs nowMs' : ℤ) (freshRunId freshRunId' : String) :
    (second.frameSet nowMs' freshRunId').AheadOf (first.frameSet nowMs freshRunId)
      expectedCameras := by
  obtain ⟨choice, hchoice⟩ := first.get?_selected
  obtain ⟨choice', hchoice'⟩ := second.get?_selected
  rw [hexpected] at hchoice
  rw [hexpected'] at hchoice'
  have hle : ∀ c ∈ expectedCameras, choice c ∈ first.selected.values ∧
      choice' c ∈ second.selected.values ∧ (choice c).Precedes (choice' c) := by
    intro c hc
    have hget := (hchoice c (choice c)).mpr ⟨hc, rfl⟩
    have hget' := (hchoice' c (choice' c)).mpr ⟨hc, rfl⟩
    exact ⟨Dict.mem_values_of_get? _ hget, Dict.mem_values_of_get? _ hget',
      hprecedes c _ _ hget hget'⟩
  constructor
  case members =>
    intro c hc
    exact ⟨choice c, choice' c, (hchoice c _).mpr ⟨hc, rfl⟩, (hchoice' c _).mpr ⟨hc, rfl⟩,
      (hle c hc).2.2⟩
  case anchor =>
    -- The latest member has a successor, which is not later than the latest successor.
    obtain ⟨⟨latest, hlatest, heq⟩, -⟩ := isGreatest_latestTimestampMs first.selected_ne_nil
    obtain ⟨c, hget⟩ := (Dict.mem_values_iff _).mp hlatest
    obtain ⟨hc, rfl⟩ := (hchoice c latest).mp hget
    obtain ⟨-, hmem', hfollows⟩ := hle c hc
    have hbound := (isGreatest_latestTimestampMs second.selected_ne_nil).2 ⟨_, hmem', rfl⟩
    exact heq.symm.le.trans (hfollows.2.trans hbound)
  case freshnessOrigin =>
    obtain ⟨⟨earliest, hearliest, heq⟩, -⟩ := isLeast_earliestTimestampMs second.selected_ne_nil
    obtain ⟨c, hget⟩ := (Dict.mem_values_iff _).mp hearliest
    obtain ⟨hc, rfl⟩ := (hchoice' c earliest).mp hget
    obtain ⟨hmem, -, hfollows⟩ := hle c hc
    have hbound := (isLeast_earliestTimestampMs first.selected_ne_nil).2 ⟨_, hmem, rfl⟩
    exact hbound.trans (hfollows.2.trans heq.le)

section Runs

variable {expectedCameras : List String} {windowMs : ℤ} {bufferSize recentLimit : ℕ}
  {runId : String} {calls : List FrameCall}

/-- A set of a run comes from an emission over the expected cameras. -/
theorem exists_emission_of_history {e : FrameExchange}
    (he : e ∈ Machine.history frameStep
      (configuredService expectedCameras windowMs bufferSize recentLimit runId) calls)
    {frameSet : SynchronizedFrameSet} (hanswer : e.output = .ok (some frameSet)) :
    ∃ matcher : SyncMatcher, matcher.expectedCameras = expectedCameras ∧
      ∃ (manager : SyncFrameBufferManager) (emission : matcher.Emission manager),
        frameSet = emission.frameSet e.input.nowMs e.input.freshRunId := by
  obtain ⟨hexpects, hexchange⟩ := Machine.invariant_before_of_mem_history frameStep
    (I := fun service => service.Expects expectedCameras)
    (fun matcher hmatcher => (configuredFor_configuredService expectedCameras windowMs bufferSize
      recentLimit runId matcher hmatcher).1)
    (fun service call h => expects_after h call) he
  have hcall : (frameStep e.before e.input).2 = .ok (some frameSet) := by
    rw [← hanswer, hexchange]
    rfl
  obtain ⟨matcher, hmatcher, hemission⟩ := exists_emission_of_call hcall
  exact ⟨matcher, hexpects matcher hmatcher, hemission⟩

/-- Every expected camera is a channel that the run moves. -/
theorem exists_channel_run (windowMs : ℤ) (bufferSize recentLimit : ℕ) (runId : String)
    {sourceOf : String → SourceIdentity}
    (hcalls : ∀ call ∈ calls, call.Numbered expectedCameras sourceOf) {c : String}
    (hc : c ∈ expectedCameras) :
    ∃ ch', Channel.Run StoredSyncFrame.Precedes StoredSyncFrame.LaterThan {}
      ((Machine.history frameStep
        (configuredService expectedCameras windowMs bufferSize recentLimit runId) calls).map
          (moveOf c)) ch' := by
  have hbuffers := buffers_configuredService expectedCameras windowMs bufferSize recentLimit runId
  refine Carries.run hc (?_ : Carries _ c (sourceOf c) {}) hcalls
  refine ⟨?_, fun _ => ?_, fun m hm => (by cases hm)⟩
  · unfold SyncFrameBufferManager.buffered
    rw [hbuffers]
    rfl
  · rw [hbuffers]
    rfl

end Runs

/-- **Emitted sets move forward.** In a run of `handle_frame` on numbered V2 frames, where
each expected camera keeps one source: of two sets that are emitted the second is ahead of
the first on every expected camera, and no frame that was taken up to the first emission,
and that its camera's member is not earlier than, is a member of the second set. -/
theorem sets_move_forward (expectedCameras : List String) (windowMs : ℤ)
    (bufferSize recentLimit : ℕ) (runId : String) (sourceOf : String → SourceIdentity)
    (calls : List FrameCall) (hcalls : ∀ call ∈ calls, call.Numbered expectedCameras sourceOf)
    (before between after : List FrameExchange) (e e' : FrameExchange)
    (hhistory : Machine.history frameStep
        (configuredService expectedCameras windowMs bufferSize recentLimit runId) calls =
      before ++ e :: (between ++ e' :: after))
    (first second : SynchronizedFrameSet) (hfirst : e.output = .ok (some first))
    (hsecond : e'.output = .ok (some second)) :
    second.AheadOf first expectedCameras ∧
      ∀ c ∈ expectedCameras, ∀ member, first.frames.get? c = some member →
        ∀ earlier ∈ before ++ [e], ∀ passed, takenOf c earlier = some passed →
          passed.timestampMs ≤ member.timestampMs → passed ∉ second.members := by
  have hmem : e ∈ before ++ e :: (between ++ e' :: after) := by simp
  have hmem' : e' ∈ before ++ e :: (between ++ e' :: after) := by simp
  rw [← hhistory] at hmem hmem'
  obtain ⟨matcher, hexpected, manager, emission, rfl⟩ := exists_emission_of_history hmem hfirst
  obtain ⟨matcher', hexpected', manager', emission', rfl⟩ :=
    exists_emission_of_history hmem' hsecond
  have hpicked : ∀ c, (moveOf c e).picked = emission.selected.get? c := by
    intro c
    unfold moveOf emittedBy
    rw [hfirst]
    rfl
  have hpicked' : ∀ c, (moveOf c e').picked = emission'.selected.get? c := by
    intro c
    unfold moveOf emittedBy
    rw [hsecond]
    rfl
  have hruns : ∀ c ∈ expectedCameras, ∃ ch', Channel.Run StoredSyncFrame.Precedes
      StoredSyncFrame.LaterThan {} (before.map (moveOf c) ++ moveOf c e ::
        (between.map (moveOf c) ++ moveOf c e' :: after.map (moveOf c))) ch' := by
    intro c hc
    have hrun := exists_channel_run windowMs bufferSize recentLimit runId hcalls hc
    rw [hhistory] at hrun
    simpa using hrun
  constructor
  · apply emission.aheadOf emission' hexpected hexpected'
    intro c m m' hm hm'
    obtain ⟨choice, hchoice⟩ := emission.get?_selected
    have hc := ((hchoice c m).mp hm).1
    rw [hexpected] at hc
    obtain ⟨ch', hrun⟩ := hruns c hc
    rw [← hpicked] at hm
    rw [← hpicked'] at hm'
    exact (hrun.forward StoredSyncFrame.LaterThan.spec hm hm').1
  · intro c hc member hmember earlier hearlier passed htaken hpassed hselected
    obtain ⟨c', hget⟩ := (Dict.mem_values_iff _).mp hselected
    obtain ⟨choice, hchoice⟩ := emission'.get?_selected
    have hc' := ((hchoice c' passed).mp hget).1
    rw [hexpected'] at hc'
    obtain ⟨ch', hrun⟩ := hruns c' hc'
    have hfirstPick : (moveOf c e).picked = some member := (hpicked c).trans hmember
    have hsecondPick : (moveOf c' e').picked = some passed := (hpicked' c').trans hget
    -- The frame was taken from the camera that it is selected for.
    have hsame : c' = c := by
      rw [← List.cons_append, ← List.append_assoc] at hrun
      have htakes := hrun.picked_mem_takes hsecondPick
      have hmap : before.map (moveOf c') ++ moveOf c' e :: between.map (moveOf c') ++
          [moveOf c' e'] = (before ++ e :: between ++ [e']).map (moveOf c') := by simp
      rw [hmap, mem_takes_iff] at htakes
      obtain ⟨taking, -, htaken'⟩ := htakes
      exact (deviceId_of_takenOf htaken').symm.trans (deviceId_of_takenOf htaken)
    subst hsame
    have htakes : passed ∈ Channel.takes (before.map (moveOf c') ++ [moveOf c' e]) := by
      have hmap : before.map (moveOf c') ++ [moveOf c' e] = (before ++ [e]).map (moveOf c') := by
        simp
      rw [hmap, mem_takes_iff]
      exact ⟨earlier, hearlier, htaken⟩
    exact (hrun.forward StoredSyncFrame.LaterThan.spec hfirstPick hsecondPick).2 passed htakes
      (not_lt.mpr hpassed) rfl

/-- A numbered V2 frame of one camera. -/
def numberedCall (deviceId : String) (sequence timestampMs : ℤ) : FrameCall where
  frame :=
    { frameId := none
      deviceId := deviceId
      timestampMs := timestampMs
      sequence := some sequence
      contentType := "image/jpeg"
      imageBytes := [0]
      filePath := none
      sourceSessionId := some "session"
      cameraStreamId := some deviceId
      sourceFrameUid := some (deviceId ++ toString sequence)
      contentDigest := some (sha256Bytes [0])
      identityMode := .v2 }
  nowMs := timestampMs
  freshRunId := "run-2"

/-- Two matches of two cameras, the first of which passes over a frame. -/
def numberedCalls : List FrameCall :=
  [numberedCall "left" 1 1000, numberedCall "left" 2 1005, numberedCall "right" 1 1010,
    numberedCall "left" 3 1020, numberedCall "right" 2 1020]

theorem sets_move_forward_numbered :
    ∃ first second : SynchronizedFrameSet, second.AheadOf first ["left", "right"] ∧
      (numberedCall "left" 1 1000).frame.stored ∉ second.members := by
  have hnumbered : ∀ call ∈ numberedCalls, call.Numbered ["left", "right"]
      fun c => (some "session", some c) := by
    intro call hcall
    simp only [numberedCalls, List.mem_cons, List.not_mem_nil, or_false] at hcall
    rcases hcall with rfl | rfl | rfl | rfl | rfl <;>
      exact ⟨fun _ => rfl, fun _ => rfl, fun _ => rfl⟩
  let start := configuredService ["left", "right"] 50 120 20 "run-1"
  let emitting := Machine.after frameStep start (numberedCalls.take 2)
  let again := Machine.after frameStep start (numberedCalls.take 4)
  obtain ⟨first, hfirst⟩ := exists_of_emits
    (e := Machine.exchange frameStep emitting (numberedCall "right" 1 1010)) (by decide +kernel)
  obtain ⟨second, hsecond⟩ := exists_of_emits
    (e := Machine.exchange frameStep again (numberedCall "right" 2 1020)) (by decide +kernel)
  obtain ⟨hahead, hpassed⟩ := sets_move_forward ["left", "right"] 50 120 20 "run-1" _
    numberedCalls hnumbered (Machine.history frameStep start (numberedCalls.take 2))
    [Machine.exchange frameStep (Machine.after frameStep start (numberedCalls.take 3))
      (numberedCall "left" 3 1020)] []
    _ _ rfl first second hfirst hsecond
  obtain ⟨member, -, hmember, -, -⟩ := hahead.members "left" (by decide)
  have hpicked : ((moveOf "left" (Machine.exchange frameStep emitting
      (numberedCall "right" 1 1010))).picked.map (·.timestampMs)) = some 1005 := by
    decide +kernel
  have htime : member.timestampMs = 1005 := by
    unfold moveOf emittedBy at hpicked
    rw [hfirst] at hpicked
    change (first.frames.get? "left").map _ = _ at hpicked
    rw [hmember] at hpicked
    exact Option.some.inj hpicked
  refine ⟨first, second, hahead, hpassed "left" (by decide) member hmember
    (Machine.exchange frameStep start (numberedCall "left" 1 1000)) List.mem_cons_self _
    (by decide +kernel) ?_⟩
  rw [htime]
  decide

end ImageStream
