/-
# Sequence numbers of V2 streams

A buffer keeps the high-water mark of one source: the device's current one. When a
frame of another source is accepted, the mark of the previous source is forgotten.
So the numbers accepted for a stream increase as long as no frame at or below the
stream's mark arrives while the device's buffer holds something else, and this is
what has to be asked of the arriving frames.

That no frame is emitted twice then follows by counting: frames are accepted once,
and what has been emitted together with what is still buffered is part of that.
-/

import ImageStream.Sync.MinSpanSelect
import ImageStream.Sync.Service
import Mathlib.Data.Multiset.AddSub

namespace ImageStream

open Base

/-! ## Acceptance -/

/-- The frames that a run has accepted, oldest first. -/
def acceptedFrames (history : List ServiceExchange) : List StoredSyncFrame :=
  history.filterMap fun e => accepted? e.before e.input

theorem acceptedFrames_snoc (history : List ServiceExchange) (service : StreamSyncService)
    (op : ServiceOp) :
    acceptedFrames (history ++ [Machine.exchange serviceStep service op]) =
      acceptedFrames history ++ (accepted? service op).toList := by
  unfold acceptedFrames
  rw [List.filterMap_append]
  cases h : accepted? service op <;> simp [Machine.exchange, h]

/-- The sequence numbers accepted for one stream, oldest first. -/
def sequencesOf (frames : List StoredSyncFrame) (stream : SourceIdentity) : List ℤ :=
  (frames.filter fun frame => frame.source = stream).filterMap (·.sequence)

/-- Every accepted number of a stream is greater than the ones before it. -/
def StrictlyIncreasing (frames : List StoredSyncFrame) : Prop :=
  ∀ stream, (sequencesOf frames stream).Pairwise (· < ·)

/-- Whether a frame's number is above all numbers accepted for its stream. -/
def AboveMark (frames : List StoredSyncFrame) (frame : SyncInputFrame) : Prop :=
  ∀ n ∈ frame.sequence, ∀ m ∈ sequencesOf frames frame.source, m < n

theorem sequencesOf_snoc (frames : List StoredSyncFrame) (frame : StoredSyncFrame)
    (stream : SourceIdentity) :
    sequencesOf (frames ++ [frame]) stream = sequencesOf frames stream ++
      if frame.source = stream then frame.sequence.toList else [] := by
  unfold sequencesOf
  rw [List.filter_append, List.filterMap_append]
  congr 1
  by_cases h : frame.source = stream
  · cases hn : frame.sequence <;> simp [h, hn]
  · simp [h]

theorem strictlyIncreasing_snoc_iff (frames : List StoredSyncFrame) (frame : SyncInputFrame) :
    StrictlyIncreasing (frames ++ [frame.stored]) ↔
      StrictlyIncreasing frames ∧ AboveMark frames frame := by
  have hmark : (sequencesOf (frames ++ [frame.stored]) frame.source).Pairwise (· < ·) ↔
      (sequencesOf frames frame.source).Pairwise (· < ·) ∧ AboveMark frames frame := by
    rw [sequencesOf_snoc, SyncInputFrame.toSyncInputFrame_stored, if_pos rfl,
      List.pairwise_append]
    unfold AboveMark
    cases frame.sequence <;> simp
  constructor
  · intro h
    refine ⟨fun stream => ?_, (hmark.mp (h frame.source)).2⟩
    have hstream := h stream
    rw [sequencesOf_snoc] at hstream
    exact (List.pairwise_append.mp hstream).1
  · rintro ⟨hbefore, habove⟩ stream
    by_cases hstream : frame.source = stream
    · rw [← hstream]
      exact hmark.mpr ⟨hbefore frame.source, habove⟩
    · rw [sequencesOf_snoc, SyncInputFrame.toSyncInputFrame_stored, if_neg hstream,
        List.append_nil]
      exact hbefore stream

/-! ## The condition on arriving frames -/

/-- Whether the device's buffer holds the high-water mark of the frame's stream: it
follows that stream, and its last number is the last one accepted for the stream. -/
def HoldsMark (history : List ServiceExchange) (service : StreamSyncService)
    (frame : SyncInputFrame) : Prop :=
  (service.bufferManager.bufferOf frame.deviceId).sourceIdentity = some frame.source ∧
    (service.bufferManager.bufferOf frame.deviceId).lastSequence =
      (sequencesOf (acceptedFrames history) frame.source).getLast?

/-- A frame that the buffers take while its device's buffer does not hold its stream's
mark has a number above that mark. -/
def MarkRespected (history : List ServiceExchange) (service : StreamSyncService) :
    ServiceOp → Prop
  | .handleFrame frame _ _ =>
      service.Takes frame → ¬HoldsMark history service frame →
        AboveMark (acceptedFrames history) frame
  | _ => True

/-- The frames of V2 streams, as they are handed to the service. -/
structure SyncInputFrame.IsV2 (frame : SyncInputFrame) : Prop where
  mode : frame.identityMode = .v2
  sequence : frame.sequence.isSome
  uid : truthy frame.sourceFrameUid

/-- A run of `handle_frame` on V2 frames. -/
def IsV2Run (ops : List ServiceOp) : Prop :=
  ∀ op ∈ ops, ∃ frame nowMs freshRunId, op = .handleFrame frame nowMs freshRunId ∧ frame.IsV2

/-- An admitted V2 frame is above the mark that its device's buffer holds. -/
theorem aboveMark_of_holdsMark {history : List ServiceExchange} {service : StreamSyncService}
    {frame : SyncInputFrame} (hincreasing : StrictlyIncreasing (acceptedFrames history))
    (hmode : frame.identityMode = .v2) (hadmits : service.bufferManager.Admits frame)
    (hholds : HoldsMark history service frame) : AboveMark (acceptedFrames history) frame := by
  intro n hn m hm
  obtain ⟨hsource, hlast⟩ := hholds
  have horder := hadmits.2
  -- The list of numbers is not empty, so the buffer's last number is its last one.
  obtain ⟨earlier, last, hsplit⟩ : ∃ earlier last,
      sequencesOf (acceptedFrames history) frame.source = earlier ++ [last] := by
    rcases List.eq_nil_or_concat (sequencesOf (acceptedFrames history) frame.source) with
      hnil | ⟨earlier, last, hconcat⟩
    · rw [hnil] at hm
      cases hm
    · exact ⟨earlier, last, by simpa using hconcat⟩
  have hm_le : m ≤ last := by
    have hpairwise := hincreasing frame.source
    rw [hsplit] at hpairwise hm
    rcases List.mem_append.mp hm with hearlier | hmlast
    · exact le_of_lt ((List.pairwise_append.mp hpairwise).2.2 m hearlier last (by simp))
    · exact le_of_eq (List.mem_singleton.mp hmlast)
  rw [hsplit, List.getLast?_concat] at hlast
  have hlast_lt : last < n := by
    by_contra hge
    have hlate : (service.bufferManager.bufferOf frame.deviceId).isOutOfOrder frame.stored := by
      have hsequence : frame.sequence = some n := hn
      simp [CameraSyncBuffer.isOutOfOrder, hmode, hsource, hlast, hsequence, le_of_not_gt hge]
    rw [hlate] at horder
    cases horder
  exact lt_of_le_of_lt hm_le hlast_lt

/-! ## Nothing is emitted twice -/

/-- The uids of the frames in one buffer. -/
def CameraSyncBuffer.uids (buffer : CameraSyncBuffer) : List (Option String) :=
  buffer.frames.map (·.sourceFrameUid)

/-- The uids of all buffered frames, with their multiplicities. -/
def SyncFrameBufferManager.heldUids (manager : SyncFrameBufferManager) :
    Multiset (Option String) :=
  manager.buffers.gather CameraSyncBuffer.uids

/-- The uids of a set's members. -/
def SynchronizedFrameSet.uids (frameSet : SynchronizedFrameSet) : List (Option String) :=
  frameSet.members.map (·.sourceFrameUid)

/-- The uids of all members of the sets that a run has emitted. -/
def emittedUids (history : List ServiceExchange) : Multiset (Option String) :=
  ((history.filterMap emitted?).flatMap SynchronizedFrameSet.uids : List (Option String))

namespace SyncFrameBufferManager

/-- The uids held are those of one device's buffer and those of the others. -/
theorem heldUids_eq (manager : SyncFrameBufferManager) (c : String) :
    manager.heldUids = ((manager.buffers.get? c).toList.flatMap CameraSyncBuffer.uids :
      Multiset (Option String)) + ((manager.buffers.pop c).gather CameraSyncBuffer.uids :
        Multiset (Option String)) :=
  Multiset.coe_eq_coe.mpr (manager.buffers.gather_perm _ c)

theorem heldUids_of_set (manager : SyncFrameBufferManager) {result : SyncFrameBufferManager}
    {c : String} {buffer : CameraSyncBuffer}
    (h : result.buffers = manager.buffers.set c buffer) :
    result.heldUids = (buffer.uids : Multiset (Option String)) +
      ((manager.buffers.pop c).gather CameraSyncBuffer.uids : Multiset (Option String)) := by
  unfold heldUids
  rw [h]
  exact Multiset.coe_eq_coe.mpr (manager.buffers.gather_set_perm _ c buffer)

/-- Replacing a buffer by one that, together with what is taken out, holds no more. -/
theorem heldUids_set_le {manager result : SyncFrameBufferManager} {c : String}
    {buffer buffer' : CameraSyncBuffer} (taken : Multiset (Option String))
    (hget : manager.buffers.get? c = some buffer)
    (h : result.buffers = manager.buffers.set c buffer')
    (hle : taken + (buffer'.uids : Multiset (Option String)) ≤ buffer.uids) :
    taken + result.heldUids ≤ manager.heldUids := by
  have hone : (some buffer).toList.flatMap CameraSyncBuffer.uids = buffer.uids := by simp
  rw [manager.heldUids_of_set h, manager.heldUids_eq c, hget, ← add_assoc, hone]
  gcongr

theorem heldUids_retain_le (manager : SyncFrameBufferManager) (stored : StoredSyncFrame) :
    (manager.retain stored).heldUids ≤ manager.heldUids + {stored.sourceFrameUid} := by
  have hold : (manager.bufferOf stored.deviceId).frames.map (·.sourceFrameUid) =
      (manager.buffers.get? stored.deviceId).toList.flatMap CameraSyncBuffer.uids := by
    cases hget : manager.buffers.get? stored.deviceId <;>
      simp [bufferOf, hget, CameraSyncBuffer.uids]
  have hframes : (((manager.bufferOf stored.deviceId).append stored).uids :
      Multiset (Option String)) ≤
        ((manager.buffers.get? stored.deviceId).toList.flatMap CameraSyncBuffer.uids :
          Multiset (Option String)) + {stored.sourceFrameUid} := by
    have hsublist := ((manager.bufferOf stored.deviceId).frames_append_sublist stored).map
      (·.sourceFrameUid)
    rw [List.map_append, hold] at hsublist
    exact Multiset.coe_le.mpr hsublist.subperm
  have hset : (manager.retain stored).heldUids =
      (((manager.bufferOf stored.deviceId).append stored).uids : Multiset (Option String)) +
        ((manager.buffers.pop stored.deviceId).gather CameraSyncBuffer.uids :
          Multiset (Option String)) := by
    obtain ⟨retainedKeys, hbuffers⟩ := manager.buffers_retain stored
    have h := manager.heldUids_of_set hbuffers
    exact h
  rw [hset, manager.heldUids_eq stored.deviceId, add_right_comm]
  gcongr

theorem heldUids_dropCamera_le (timestampMs : ℤ) (excluded : List String)
    (state : SyncFrameBufferManager × ℕ) (deviceId : String) :
    (dropCamera timestampMs excluded state deviceId).1.heldUids ≤ state.1.heldUids := by
  cases hget : state.1.buffers.get? deviceId with
  | none => simp [dropCamera, hget]
  | some buffer =>
      have hbuffers : (dropCamera timestampMs excluded state deviceId).1.buffers =
          state.1.buffers.set deviceId (buffer.dropFramesOlderThan timestampMs excluded).1 := by
        simp [dropCamera, hget]
      have hfewer : (buffer.dropFramesOlderThan timestampMs excluded).1.uids.Subperm buffer.uids :=
        (List.filter_sublist.map _).subperm
      have hle := heldUids_set_le 0 hget hbuffers
        (by rw [zero_add]; exact Multiset.coe_le.mpr hfewer)
      rwa [zero_add] at hle

theorem heldUids_dropFramesOlderThan_le (manager : SyncFrameBufferManager)
    (deviceIds : List String) (timestampMs : ℤ) (excluded : List String) :
    (manager.dropFramesOlderThan deviceIds timestampMs excluded).1.heldUids ≤
      manager.heldUids := by
  unfold dropFramesOlderThan
  induction deviceIds using List.reverseRecOn with
  | nil => exact le_refl _
  | append_singleton deviceIds deviceId ih =>
      rw [List.foldl_concat]
      exact (heldUids_dropCamera_le _ _ _ _).trans ih

/-- A consumption takes the chosen frame out of its device's buffer. -/
theorem heldUids_consumeCamera_le (state : SyncFrameBufferManager × ℕ)
    {chosen : String × StoredSyncFrame} {buffer : CameraSyncBuffer}
    (hget : state.1.buffers.get? chosen.1 = some buffer) (hmem : chosen.2 ∈ buffer.frames) :
    {chosen.2.sourceFrameUid} + (consumeCamera state chosen).1.heldUids ≤ state.1.heldUids := by
  have hbuffers : (consumeCamera state chosen).1.buffers =
      state.1.buffers.set chosen.1 (buffer.consumeThrough chosen.2).1 := by
    simp [consumeCamera, hget]
  refine heldUids_set_le _ hget hbuffers (Multiset.coe_le.mpr ?_)
  -- The chosen frame is not after itself, so it is none of those that stay.
  have hsubperm : (chosen.2 :: (buffer.consumeThrough chosen.2).1.frames).Subperm
      buffer.frames := by
    obtain ⟨before, behind, hsplit⟩ := List.append_of_mem hmem
    rw [hsplit]
    have hstay : ((buffer.consumeThrough chosen.2).1.frames).Sublist (before ++ behind) := by
      simp only [CameraSyncBuffer.consumeThrough, hsplit, List.filter_append, List.filter_cons,
        lt_irrefl, decide_false, Bool.false_eq_true, if_false]
      exact List.filter_sublist.append List.filter_sublist
    exact ((hstay.cons_cons chosen.2).subperm).trans
      (List.perm_middle.symm.subperm)
  obtain ⟨frames, hperm, hsublist⟩ := hsubperm
  exact ⟨_, hperm.map (·.sourceFrameUid), hsublist.map (·.sourceFrameUid)⟩

/-- A consumption takes the selected frames out of the buffers. -/
theorem heldUids_consumeThrough_le (manager : SyncFrameBufferManager)
    (selected : Dict String StoredSyncFrame)
    (hbuffered : ∀ c frame, selected.get? c = some frame → frame ∈ manager.buffered c) :
    (selected.values.map (·.sourceFrameUid) : Multiset (Option String)) +
      (manager.consumeThrough selected).1.heldUids ≤ manager.heldUids := by
  have hrows : ∀ (rows : List (String × StoredSyncFrame)) (state : SyncFrameBufferManager × ℕ),
      (rows.map Prod.fst).Nodup → (∀ row ∈ rows, row.2 ∈ state.1.buffered row.1) →
      (rows.map fun row => row.2.sourceFrameUid : Multiset (Option String)) +
        (rows.foldl consumeCamera state).1.heldUids ≤ state.1.heldUids := by
    intro rows
    induction rows with
    | nil => intro state _ _; simp
    | cons row rows ih =>
        intro state hnodup hmem
        rw [List.map_cons, List.nodup_cons] at hnodup
        have hrow := hmem row List.mem_cons_self
        unfold buffered at hrow
        cases hget : state.1.buffers.get? row.1 with
        | none => simp [hget] at hrow
        | some buffer =>
            rw [hget] at hrow
            have hone := heldUids_consumeCamera_le state hget hrow
            have hrest := ih (consumeCamera state row) hnodup.2 (by
              intro row' hrow'
              have hne : row'.1 ≠ row.1 := fun heq =>
                hnodup.1 (heq ▸ List.mem_map_of_mem hrow')
              have hsame := hmem row' (List.mem_cons_of_mem _ hrow')
              simpa [buffered, consumeCamera, hget, Dict.get?_set_of_ne _ _ hne] using hsame)
            calc ((row :: rows).map fun row => row.2.sourceFrameUid : Multiset (Option String)) +
                  ((row :: rows).foldl consumeCamera state).1.heldUids
                = {row.2.sourceFrameUid} +
                    ((rows.map fun row => row.2.sourceFrameUid : Multiset (Option String)) +
                      (rows.foldl consumeCamera (consumeCamera state row)).1.heldUids) := by
                  rw [← add_assoc]
                  rfl
              _ ≤ {row.2.sourceFrameUid} + (consumeCamera state row).1.heldUids := by gcongr
              _ ≤ state.1.heldUids := hone
  have h := hrows selected.rows (manager, 0) selected.keys_nodup fun row hrow =>
    hbuffered row.1 row.2 ((Dict.get?_eq_some_iff selected).mpr hrow)
  simpa [Dict.values, consumeThrough, Function.comp_def] using h

end SyncFrameBufferManager

/-! ### What one call moves -/

theorem SyncMatcher.heldUids_dropStaleFrames_le (matcher : SyncMatcher)
    (manager : SyncFrameBufferManager) :
    (matcher.dropStaleFrames manager).2.heldUids ≤ manager.heldUids := by
  unfold dropStaleFrames
  dsimp only
  split
  · exact le_refl _
  · exact manager.heldUids_dropFramesOlderThan_le _ _ _

theorem SyncMatcher.heldUids_emit_le (matcher : SyncMatcher) (manager : SyncFrameBufferManager)
    (identity : CaptureIdentity) (selected : Dict String StoredSyncFrame) (spanMs nowMs : ℤ)
    (freshRunId : String)
    (hbuffered : ∀ c frame, selected.get? c = some frame → frame ∈ manager.buffered c) :
    (selected.values.map (·.sourceFrameUid) : Multiset (Option String)) +
      (matcher.emit manager identity selected spanMs nowMs freshRunId).2.1.heldUids ≤
        manager.heldUids := by
  refine le_trans ?_ (manager.heldUids_consumeThrough_le selected hbuffered)
  gcongr
  exact heldUids_dropStaleFrames_le _ _

/-- The uids of the members of an answer. -/
def answerUids : Except ValueError (Option SynchronizedFrameSet) → Multiset (Option String)
  | .ok (some frameSet) => frameSet.uids
  | _ => 0

theorem heldUids_tryMatch_le {matcher : SyncMatcher} {manager : SyncFrameBufferManager}
    {nowMs : ℤ} {freshRunId : String}
    {result : SyncMatcher × SyncFrameBufferManager × Except ValueError (Option SynchronizedFrameSet)}
    (h : TryMatchOutcome matcher manager nowMs freshRunId result) :
    answerUids result.2.2 + result.2.1.heldUids ≤ manager.heldUids := by
  cases h with
  | ignored recorded answer hrecorded hnone =>
      have hzero : answerUids answer = 0 := by
        unfold answerUids
        split
        · rename_i frameSet
          exact absurd rfl (hnone frameSet)
        · rfl
      simp [hzero]
  | missed recorded hrecorded =>
      have hle := recorded.heldUids_dropStaleFrames_le manager
      simpa [answerUids] using hle
  | emitted selected spanMs identity hselected hidentity =>
      obtain ⟨frameSet, hemit, hframes, -⟩ :=
        matcher.emit_answer manager identity selected spanMs nowMs freshRunId
      rw [hemit]
      have huids : frameSet.uids = selected.values.map (·.sourceFrameUid) := by
        rw [SynchronizedFrameSet.uids, SynchronizedFrameSet.members, hframes]
      simp only [answerUids, huids]
      exact matcher.heldUids_emit_le manager identity selected spanMs nowMs freshRunId
        fun c frame hframe => (mem_buffered_of_select hselected hframe).2

/-- One call of the service moves uids from the accepted frames to the buffers and on
to the emitted set. -/
theorem heldUids_handleFrame_le (service : StreamSyncService) (frame : SyncInputFrame)
    (nowMs : ℤ) (freshRunId : String) :
    answerUids (service.handleFrame frame nowMs freshRunId).2 +
        (service.handleFrame frame nowMs freshRunId).1.bufferManager.heldUids ≤
      service.bufferManager.heldUids +
        (((accepted? service (.handleFrame frame nowMs freshRunId)).toList.map
          (·.sourceFrameUid) : List (Option String)) : Multiset (Option String)) := by
  have houtcome := handleFrame_outcome service frame nowMs freshRunId
  generalize accepted? service (.handleFrame frame nowMs freshRunId) = stored at houtcome ⊢
  generalize service.handleFrame frame nowMs freshRunId = result at houtcome ⊢
  cases houtcome with
  | disabled => simp [answerUids]
  | dropped matcher hmatcher hadmits manager hbuffers hindex =>
      simp [answerUids, SyncFrameBufferManager.heldUids, hbuffers]
  | accepted matcher hmatcher hadmits result hresult =>
      exact (heldUids_tryMatch_le hresult).trans
        (service.bufferManager.heldUids_retain_le frame.stored)

theorem emittedUids_snoc (history : List ServiceExchange) (service : StreamSyncService)
    (frame : SyncInputFrame) (nowMs : ℤ) (freshRunId : String) :
    emittedUids (history ++
        [Machine.exchange serviceStep service (.handleFrame frame nowMs freshRunId)]) =
      emittedUids history + answerUids (service.handleFrame frame nowMs freshRunId).2 := by
  unfold emittedUids
  rw [List.filterMap_append, List.flatMap_append, ← Multiset.coe_add]
  congr 1
  cases houtput : (service.handleFrame frame nowMs freshRunId).2 with
  | error reason => simp [emitted?, Machine.exchange, serviceStep, houtput, answerUids]
  | ok answer =>
      cases answer <;> simp [emitted?, Machine.exchange, serviceStep, houtput, answerUids]

/-- Every emitted or buffered frame has been accepted, as often as it occurs. -/
theorem emittedUids_add_heldUids_le (service : StreamSyncService)
    (hempty : service.bufferManager.buffers = .empty) {ops : List ServiceOp}
    (hv2 : IsV2Run ops) :
    emittedUids (Machine.history serviceStep service ops) +
        (Machine.after serviceStep service ops).bufferManager.heldUids ≤
      ((acceptedFrames (Machine.history serviceStep service ops)).map (·.sourceFrameUid) :
        Multiset (Option String)) := by
  induction ops using List.reverseRecOn with
  | nil =>
      have hzero : service.bufferManager.heldUids = 0 := by
        simp [SyncFrameBufferManager.heldUids, hempty, Dict.gather, Dict.values]
      simp [emittedUids, acceptedFrames, hzero]
  | append_singleton ops op ih =>
      obtain ⟨frame, nowMs, freshRunId, rfl, -⟩ := hv2 op (by simp)
      have hbefore := ih fun op hop => hv2 op (List.mem_append_left _ hop)
      have hstep := heldUids_handleFrame_le (Machine.after serviceStep service ops) frame nowMs
        freshRunId
      rw [Machine.history_snoc, Machine.after_snoc, acceptedFrames_snoc, emittedUids_snoc,
        List.map_append, ← Multiset.coe_add]
      generalize Machine.after serviceStep service ops = current at hbefore hstep ⊢
      show _ + (current.handleFrame frame nowMs freshRunId).1.bufferManager.heldUids ≤ _
      rw [add_assoc]
      calc emittedUids (Machine.history serviceStep service ops) +
            (answerUids (current.handleFrame frame nowMs freshRunId).2 +
              (current.handleFrame frame nowMs freshRunId).1.bufferManager.heldUids)
          ≤ emittedUids (Machine.history serviceStep service ops) +
            (current.bufferManager.heldUids +
              (((accepted? current (.handleFrame frame nowMs freshRunId)).toList.map
                (·.sourceFrameUid) : List (Option String)) : Multiset (Option String))) := by
            gcongr
        _ ≤ _ := by
            rw [← add_assoc]
            gcongr

/-! ## The streams of a run -/

/-- A uid stands for one stream and one number among the frames of a run. -/
def UidsIdentify (ops : List ServiceOp) : Prop :=
  ∀ frame nowMs freshRunId frame' nowMs' freshRunId',
    ServiceOp.handleFrame frame nowMs freshRunId ∈ ops →
    ServiceOp.handleFrame frame' nowMs' freshRunId' ∈ ops →
    frame.sourceFrameUid = frame'.sourceFrameUid →
    frame.source = frame'.source ∧ frame.sequence = frame'.sequence

/-- No source frame is a member of two emitted sets. -/
def EmittedOnce (history : List ServiceExchange) : Prop :=
  (history.filterMap emitted?).Pairwise fun first second =>
    ∀ member ∈ first.members, ∀ other ∈ second.members,
      member.sourceFrameUid ≠ other.sourceFrameUid

theorem exists_of_mem_acceptedFrames {service : StreamSyncService} {ops : List ServiceOp}
    {stored : StoredSyncFrame}
    (h : stored ∈ acceptedFrames (Machine.history serviceStep service ops)) :
    ∃ frame nowMs freshRunId,
      ServiceOp.handleFrame frame nowMs freshRunId ∈ ops ∧ stored = frame.stored := by
  obtain ⟨e, he, haccepted⟩ := List.mem_filterMap.mp h
  obtain ⟨first, op, second, rfl, rfl⟩ := Machine.exists_split_of_mem_history serviceStep he
  cases op with
  | finalizeFrameArchive => cases haccepted
  | finalizeArchiveState => cases haccepted
  | handleFrame frame nowMs freshRunId =>
      exact ⟨frame, nowMs, freshRunId, by simp, (accepted?_eq_some_iff.mp haccepted).2⟩

/-- Increasing numbers and uids that stand for them make the uids distinct. -/
theorem uids_nodup {frames : List StoredSyncFrame} (hincreasing : StrictlyIncreasing frames)
    (hsequence : ∀ frame ∈ frames, frame.sequence.isSome)
    (hidentify : ∀ frame ∈ frames, ∀ other ∈ frames,
      frame.sourceFrameUid = other.sourceFrameUid →
        frame.source = other.source ∧ frame.sequence = other.sequence) :
    (frames.map (·.sourceFrameUid)).Nodup := by
  rw [List.Nodup, List.pairwise_map, List.pairwise_iff_forall_sublist]
  intro frame other hsublist heq
  have hframe : frame ∈ frames := hsublist.subset (by simp)
  have hother : other ∈ frames := hsublist.subset (by simp)
  obtain ⟨hsource, hsame⟩ := hidentify frame hframe other hother heq
  obtain ⟨n, hn⟩ := Option.isSome_iff_exists.mp (hsequence frame hframe)
  have htwo : sequencesOf [frame, other] frame.source = [n, n] := by
    simp [sequencesOf, ← hsource, ← hsame, hn]
  have hpair : (sequencesOf [frame, other] frame.source).Pairwise (· < ·) :=
    (hincreasing frame.source).sublist ((hsublist.filter _).filterMap _)
  rw [htwo] at hpair
  simp at hpair

/-- What one call does to the numbers of the streams. -/
theorem strictlyIncreasing_step_iff (history : List ServiceExchange) (service : StreamSyncService)
    (frame : SyncInputFrame) (nowMs : ℤ) (freshRunId : String)
    (hmode : frame.identityMode = .v2) :
    StrictlyIncreasing (acceptedFrames (history ++
        [Machine.exchange serviceStep service (.handleFrame frame nowMs freshRunId)])) ↔
      StrictlyIncreasing (acceptedFrames history) ∧
        MarkRespected history service (.handleFrame frame nowMs freshRunId) := by
  rw [acceptedFrames_snoc]
  by_cases htakes : service.Takes frame
  · rw [accepted?_eq_some_iff.mpr ⟨htakes, rfl⟩, Option.toList_some, strictlyIncreasing_snoc_iff]
    constructor
    · rintro ⟨hbefore, habove⟩
      exact ⟨hbefore, fun _ _ => habove⟩
    · rintro ⟨hbefore, hrespected⟩
      refine ⟨hbefore, ?_⟩
      by_cases hholds : HoldsMark history service frame
      · exact aboveMark_of_holdsMark hbefore hmode htakes.2.2 hholds
      · exact hrespected htakes hholds
  · have hnone : accepted? service (.handleFrame frame nowMs freshRunId) = none := by
      rw [Option.eq_none_iff_forall_ne_some]
      exact fun stored h => htakes (accepted?_eq_some_iff.mp h).1
    rw [hnone, Option.toList_none, List.append_nil]
    exact ⟨fun h => ⟨h, fun h' => absurd h' htakes⟩, fun h => h.1⟩

/-- The numbers of all streams increase exactly when every frame respects the mark. -/
theorem strictlyIncreasing_iff {service : StreamSyncService} {ops : List ServiceOp}
    (hv2 : IsV2Run ops) :
    StrictlyIncreasing (acceptedFrames (Machine.history serviceStep service ops)) ↔
      Machine.EachStep serviceStep MarkRespected service ops := by
  induction ops using List.reverseRecOn with
  | nil =>
      refine ⟨fun _ first op second h => ?_, fun _ stream => List.Pairwise.nil⟩
      simp at h
  | append_singleton ops op ih =>
      obtain ⟨frame, nowMs, freshRunId, rfl, hframe⟩ := hv2 op (by simp)
      have hbefore := ih fun op hop => hv2 op (List.mem_append_left _ hop)
      rw [Machine.history_snoc, strictlyIncreasing_step_iff _ _ _ _ _ hframe.mode, hbefore,
        Machine.eachStep_snoc]

/-- **A V2 stream is not rewound exactly as long as its mark is respected.** In every
run of a configured service on V2 frames the accepted numbers of every stream strictly
increase if and only if each frame that is taken while its device's buffer does not
hold its stream's high-water mark is above that mark. In such a run, when a uid stands
for one stream and number, no source frame is a member of two emitted sets. -/
theorem v2_streams_not_rewound_iff (expectedCameras : List String) (windowMs : ℤ)
    (bufferSize recentLimit : ℕ) (runId : String) (ops : List ServiceOp) (hv2 : IsV2Run ops) :
    let service := configuredService expectedCameras windowMs bufferSize recentLimit runId
    let history := Machine.history serviceStep service ops
    (StrictlyIncreasing (acceptedFrames history) ↔
        Machine.EachStep serviceStep MarkRespected service ops) ∧
      (Machine.EachStep serviceStep MarkRespected service ops → UidsIdentify ops →
        EmittedOnce history) := by
  intro service history
  refine ⟨strictlyIncreasing_iff hv2, fun hrespected hidentify => ?_⟩
  have hnodup : ((acceptedFrames history).map (·.sourceFrameUid)).Nodup := by
    refine uids_nodup ((strictlyIncreasing_iff hv2).mpr hrespected) ?_ ?_
    · intro stored hstored
      obtain ⟨frame, nowMs, freshRunId, hmem, rfl⟩ := exists_of_mem_acceptedFrames hstored
      obtain ⟨frame', _, _, heq, hframe⟩ := hv2 _ hmem
      cases heq
      exact hframe.sequence
    · intro stored hstored other hother huid
      obtain ⟨frame, nowMs, freshRunId, hmem, rfl⟩ := exists_of_mem_acceptedFrames hstored
      obtain ⟨frame', nowMs', freshRunId', hmem', rfl⟩ := exists_of_mem_acceptedFrames hother
      exact hidentify _ _ _ _ _ _ hmem hmem' huid
  have hle := emittedUids_add_heldUids_le service
    (buffers_configuredService _ _ _ _ _) hv2
  have hemitted : ((history.filterMap emitted?).flatMap SynchronizedFrameSet.uids).Nodup :=
    Multiset.coe_nodup.mp (Multiset.nodup_of_le
      ((Multiset.le_add_right _ _).trans hle) (Multiset.coe_nodup.mpr hnodup))
  refine (List.nodup_flatMap.mp hemitted).2.imp ?_
  intro first second hdisjoint member hmember other hother heq
  exact hdisjoint (List.mem_map_of_mem hmember) (heq ▸ List.mem_map_of_mem hother)

/-! ### A stream that is rewound -/

/-- A frame of one camera in some source session. -/
def sessionFrame (sourceSessionId : String) (sequence timestampMs : ℤ) : SyncInputFrame where
  frameId := none
  deviceId := "camera"
  timestampMs := timestampMs
  sequence := some sequence
  contentType := "image/jpeg"
  imageBytes := [1]
  filePath := none
  sourceSessionId := some sourceSessionId
  cameraStreamId := some "camera"
  sourceFrameUid := (buildSourceFrameUid sourceSessionId "camera" sequence).toOption
  contentDigest := some (sha256Bytes [1])
  identityMode := .v2

/-- One camera with room for one frame. -/
def singleCameraService : StreamSyncService :=
  configuredService ["camera"] 50 1 20 "run-1"

/-- The first session, then a second one, then the first session's frame again. -/
def rewoundRun : List ServiceOp :=
  [.handleFrame (sessionFrame "first" 5 1000) 1001 "run-2",
    .handleFrame (sessionFrame "second" 1 1010) 1011 "run-3",
    .handleFrame (sessionFrame "first" 5 1000) 1021 "run-4"]

/-- The numbers 5 and 5 are accepted for the first session, and its frame is emitted
in two sets. -/
theorem first_session_rewound :
    IsV2Run rewoundRun ∧
      sequencesOf (acceptedFrames (Machine.history serviceStep singleCameraService rewoundRun))
        (some "first", some "camera") = [5, 5] ∧
      ¬StrictlyIncreasing
        (acceptedFrames (Machine.history serviceStep singleCameraService rewoundRun)) ∧
      ¬EmittedOnce (Machine.history serviceStep singleCameraService rewoundRun) := by
  have hnumbers : sequencesOf
      (acceptedFrames (Machine.history serviceStep singleCameraService rewoundRun))
      (some "first", some "camera") = [5, 5] := by
    decide +kernel
  have huids : ((Machine.history serviceStep singleCameraService rewoundRun).filterMap
      emitted?).map SynchronizedFrameSet.uids =
        [[(sessionFrame "first" 5 1000).sourceFrameUid],
          [(sessionFrame "second" 1 1010).sourceFrameUid],
          [(sessionFrame "first" 5 1000).sourceFrameUid]] := by
    decide +kernel
  refine ⟨?_, hnumbers, fun hincreasing => ?_, fun honce => ?_⟩
  · intro op hop
    simp only [rewoundRun, List.mem_cons, List.not_mem_nil, or_false] at hop
    rcases hop with rfl | rfl | rfl
    · exact ⟨_, _, _, rfl, rfl, rfl, by decide +kernel⟩
    · exact ⟨_, _, _, rfl, rfl, rfl, by decide +kernel⟩
    · exact ⟨_, _, _, rfl, rfl, rfl, by decide +kernel⟩
  · have hstream := hincreasing (some "first", some "camera")
    rw [hnumbers] at hstream
    simp at hstream
  · have hdisjoint : (((Machine.history serviceStep singleCameraService rewoundRun).filterMap
        emitted?).map SynchronizedFrameSet.uids).Pairwise fun first second =>
          ∀ uid ∈ first, ∀ other ∈ second, uid ≠ other := by
      rw [List.pairwise_map]
      refine honce.imp fun h uid huid other hother => ?_
      obtain ⟨member, hmember, rfl⟩ := List.mem_map.mp huid
      obtain ⟨member', hmember', rfl⟩ := List.mem_map.mp hother
      exact h member hmember member' hmember'
    rw [huids] at hdisjoint
    simp at hdisjoint

/-- Two frames of one session in order. -/
def orderedRun : List ServiceOp :=
  [.handleFrame (sessionFrame "first" 5 1000) 1001 "run-2",
    .handleFrame (sessionFrame "first" 6 1010) 1011 "run-3"]

theorem v2_streams_not_rewound_ordered :
    EmittedOnce (Machine.history serviceStep singleCameraService orderedRun) := by
  have hv2 : IsV2Run orderedRun := by
    intro op hop
    simp only [orderedRun, List.mem_cons, List.not_mem_nil, or_false] at hop
    rcases hop with rfl | rfl
    · exact ⟨_, _, _, rfl, rfl, rfl, by decide +kernel⟩
    · exact ⟨_, _, _, rfl, rfl, rfl, by decide +kernel⟩
  have haccepted : acceptedFrames (Machine.history serviceStep singleCameraService orderedRun) =
      [(sessionFrame "first" 5 1000).stored, (sessionFrame "first" 6 1010).stored] := by
    decide +kernel
  obtain ⟨hiff, honce⟩ := v2_streams_not_rewound_iff ["camera"] 50 1 20 "run-1" orderedRun hv2
  refine honce (hiff.mp ?_) ?_
  · show StrictlyIncreasing
      (acceptedFrames (Machine.history serviceStep singleCameraService orderedRun))
    rw [haccepted]
    intro stream
    have hsublist : (sequencesOf [(sessionFrame "first" 5 1000).stored,
        (sessionFrame "first" 6 1010).stored] stream).Sublist
          ([(sessionFrame "first" 5 1000).stored, (sessionFrame "first" 6 1010).stored].filterMap
            (·.sequence)) :=
      List.filter_sublist.filterMap _
    exact List.Pairwise.sublist hsublist (by simp [sessionFrame, SyncInputFrame.stored])
  · intro frame _ _ frame' _ _ hmem hmem' huid
    simp only [orderedRun, List.mem_cons, List.not_mem_nil, or_false] at hmem hmem'
    rcases hmem with h | h <;> rcases hmem' with h' | h' <;> cases h <;> cases h'
    · exact ⟨rfl, rfl⟩
    · exact absurd huid (by decide +kernel)
    · exact absurd huid (by decide +kernel)
    · exact ⟨rfl, rfl⟩

end ImageStream
