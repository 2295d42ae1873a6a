/-
# Stale dropping changes nothing but memory

Two services take the same frames. One drops stale frames at the end of its calls, the
other never does. The buffers of the second hold more, and a full deque drops other
frames, but always from the front, where the forgotten frames are.

What the first has forgotten lies more than the window before the latest frame of every
camera. Frames come in the order of time, so a match with a forgotten frame would consist
of old frames only, and no call leaves a match behind. So the forgotten frames are dead
candidates and both services select the same frames.
-/

import ImageStream.Sync.DeadPrefix
import ImageStream.Sync.Intake

namespace ImageStream

open Base Base.MinSpan Base.Matching

/-! ## Sorting a list in two parts -/

section Sorting

variable {α : Type} {r : α → α → Prop} [DecidableRel r]

theorem orderedInsert_append {item : α} (first second : List α) (h : ∀ x ∈ second, r item x) :
    (first ++ second).orderedInsert r item = first.orderedInsert r item ++ second := by
  induction first with
  | nil =>
      cases second with
      | nil => rfl
      | cons x second => exact List.orderedInsert_cons_of_le r second (h x List.mem_cons_self)
  | cons y first ih =>
      rw [List.cons_append, List.orderedInsert_cons, List.orderedInsert_cons, ih]
      split <;> rfl

/-- A list whose first part comes before its second part is sorted part by part. -/
theorem insertionSort_append (first second : List α) (h : ∀ x ∈ first, ∀ y ∈ second, r x y) :
    (first ++ second).insertionSort r = first.insertionSort r ++ second.insertionSort r := by
  induction first with
  | nil => rfl
  | cons x first ih =>
      rw [List.cons_append, List.insertionSort_cons, List.insertionSort_cons,
        ih fun x hx => h x (List.mem_cons_of_mem _ hx)]
      apply orderedInsert_append
      intro y hy
      exact h x List.mem_cons_self y ((List.mem_insertionSort r).mp hy)

end Sorting

/-! ## The same selection -/

theorem candidateLists_snoc (cameras : List String) {c : String}
    {manager : SyncFrameBufferManager} (h : manager.availableFrames c [] ≠ []) :
    candidateLists (cameras ++ [c]) manager =
      (candidateLists cameras manager).set c (manager.availableFrames c []) := by
  unfold candidateLists
  rw [List.foldl_concat, if_neg h]

/-- The order of the cameras does not depend on the buffers. -/
theorem keys_candidateLists (expectedCameras : List String) {first second : SyncFrameBufferManager}
    (hfirst : ∀ c ∈ expectedCameras, first.availableFrames c [] ≠ [])
    (hsecond : ∀ c ∈ expectedCameras, second.availableFrames c [] ≠ []) :
    (candidateLists expectedCameras first).keys = (candidateLists expectedCameras second).keys := by
  induction expectedCameras using List.reverseRecOn with
  | nil => rfl
  | append_singleton cameras c ih =>
      have hkeys := ih (fun c hc => hfirst c (List.mem_append_left _ hc))
        fun c hc => hsecond c (List.mem_append_left _ hc)
      have hc : c ∈ cameras ++ [c] := List.mem_append_right _ List.mem_cons_self
      rw [candidateLists_snoc cameras (hfirst c hc), candidateLists_snoc cameras (hsecond c hc)]
      by_cases hmem : c ∈ (candidateLists cameras second).keys
      · rw [Dict.keys_set_of_mem _ _ hmem, Dict.keys_set_of_mem _ _ (hkeys ▸ hmem), hkeys]
      · rw [Dict.keys_set_of_notMem _ _ hmem, Dict.keys_set_of_notMem _ _ (hkeys ▸ hmem), hkeys]

/-- The buffers of `full` hold forgotten frames before those of `short`, and no match
uses a forgotten frame. -/
structure Forgets (expectedCameras : List String) (windowMs : ℤ)
    (forgotten : String → List StoredSyncFrame) (short full : SyncFrameBufferManager) : Prop where
  split : ∀ c ∈ expectedCameras, full.buffered c = forgotten c ++ short.buffered c
  before : ∀ c ∈ expectedCameras, ∀ frame ∈ forgotten c, ∀ d ∈ expectedCameras,
    ∀ later ∈ short.buffered d, frame.timestampMs < later.timestampMs
  unused : ∀ choice, IsWindowMatch full expectedCameras windowMs choice →
    ∀ c ∈ expectedCameras, choice c ∉ forgotten c

namespace Forgets

variable {expectedCameras : List String} {windowMs : ℤ}
  {forgotten : String → List StoredSyncFrame} {short full : SyncFrameBufferManager}

/-- What was forgotten makes no difference to whether there is a match. -/
theorem hasMatch_iff (h : Forgets expectedCameras windowMs forgotten short full) :
    HasMatch full expectedCameras windowMs ↔ HasMatch short expectedCameras windowMs := by
  constructor
  · rintro ⟨choice, hchoice⟩
    refine ⟨choice, fun c hc => ?_, hchoice.within⟩
    have hmem : choice c ∈ full.buffered c := hchoice.mem c hc
    rw [h.split c hc, List.mem_append] at hmem
    exact hmem.resolve_left (h.unused choice hchoice c hc)
  · intro hmatch
    apply Matchable.mono hmatch
    intro c hc frame hframe
    rw [SyncFrameBufferManager.mem_pool, h.split c hc]
    exact List.mem_append_right _ hframe

theorem availableFrames_eq (h : Forgets expectedCameras windowMs forgotten short full) {c : String}
    (hc : c ∈ expectedCameras) :
    full.availableFrames c [] =
      ((forgotten c).insertionSort fun first second => candidateLe first second) ++
        short.availableFrames c [] := by
  have havailable : ∀ manager : SyncFrameBufferManager, manager.availableFrames c [] =
      (manager.buffered c).insertionSort fun first second => candidateLe first second := by
    intro manager
    unfold SyncFrameBufferManager.availableFrames SyncFrameBufferManager.buffered
    cases manager.buffers.get? c with
    | none => rfl
    | some buffer => simp [CameraSyncBuffer.availableFrames]
  rw [havailable, havailable, h.split c hc]
  apply insertionSort_append
  intro frame hframe later hlater
  have hlt := h.before c hc frame hframe c hc later hlater
  simp [candidateLe, hlt]

/-- The candidate lists differ by the forgotten frames. -/
theorem shortened (h : Forgets expectedCameras windowMs forgotten short full)
    (hshort : ∀ c ∈ expectedCameras, short.availableFrames c [] ≠ [])
    (hfull : ∀ c ∈ expectedCameras, full.availableFrames c [] ≠ []) :
    Shortened (fun c => (forgotten c).length) (candidateLists expectedCameras full)
      (candidateLists expectedCameras short) := by
  apply Dict.rows_eq_map_of_get? (f := fun c candidates => candidates.drop (forgotten c).length)
    (keys_candidateLists expectedCameras hshort hfull)
  intro c hc
  rw [mem_keys_candidateLists hshort] at hc
  rw [(get?_candidateLists_of_all hshort c _).mpr ⟨hc, rfl⟩,
    (get?_candidateLists_of_all hfull c _).mpr ⟨hc, rfl⟩, Option.map_some, h.availableFrames_eq hc,
    List.drop_left' (List.length_insertionSort _ _)]

theorem deadPrefix (h : Forgets expectedCameras windowMs forgotten short full)
    (hshort : ∀ c ∈ expectedCameras, short.availableFrames c [] ≠ [])
    (hfull : ∀ c ∈ expectedCameras, full.availableFrames c [] ≠ [])
    (hne : (candidateLists expectedCameras full).keys.toFinset.Nonempty) :
    DeadPrefix hne (fun c => (forgotten c).length) windowMs := by
  have hdead : ∀ c ∈ expectedCameras, ∀ i frame, (full.availableFrames c [])[i]? = some frame →
      i < (forgotten c).length → frame ∈ forgotten c := by
    intro c hc i frame hget hi
    rw [h.availableFrames_eq hc, List.getElem?_append_left] at hget
    · exact (List.mem_insertionSort _).mp (List.mem_of_getElem? hget)
    · rw [List.length_insertionSort]
      exact hi
  have hlive : ∀ c ∈ expectedCameras, ∀ i frame, (full.availableFrames c [])[i]? = some frame →
      (forgotten c).length ≤ i → frame ∈ short.buffered c := by
    intro c hc i frame hget hi
    rw [h.availableFrames_eq hc, List.getElem?_append_right] at hget
    · exact (short.mem_availableFrames c frame).mp (List.mem_of_getElem? hget)
    · rw [List.length_insertionSort]
      exact hi
  constructor
  case before =>
    intro c d candidates candidates' hfirsts hseconds i j first second hfirst hsecond hi hj
    obtain ⟨hc, rfl⟩ := (get?_candidateLists_of_all hfull c candidates).mp hfirsts
    obtain ⟨hd, rfl⟩ := (get?_candidateLists_of_all hfull d candidates').mp hseconds
    exact h.before c hc first (hdead c hc i first hfirst hi) d hd second
      (hlive d hd j second hsecond hj)
  case beyond =>
    rintro choice hchoice ⟨c, candidates, i, hcandidates, hi, hget⟩
    obtain ⟨hc, rfl⟩ := (get?_candidateLists_of_all hfull c candidates).mp hcandidates
    by_contra hwithin
    rw [not_lt, span_le_iff hne] at hwithin
    have hmatch : IsWindowMatch full expectedCameras windowMs choice := by
      constructor
      case mem =>
        intro d hd
        exact (full.mem_availableFrames d _).mp
          (hchoice d _ ((get?_candidateLists_of_all hfull d _).mpr ⟨hd, rfl⟩))
      case within =>
        intro d hd d' hd'
        have hkey : ∀ d ∈ expectedCameras,
            d ∈ ((candidateLists expectedCameras full).keys.toFinset : Set String) := by
          intro d hd
          rw [Finset.mem_coe, List.mem_toFinset]
          exact (mem_keys_candidateLists hfull d).mpr hd
        exact hwithin d (hkey d hd) d' (hkey d' hd')
    exact h.unused choice hmatch c hc (hdead c hc i _ hget hi)
  case alive =>
    intro c candidates hcandidates
    obtain ⟨hc, rfl⟩ := (get?_candidateLists_of_all hfull c candidates).mp hcandidates
    have hpos := List.length_pos_iff.mpr (hshort c hc)
    rw [h.availableFrames_eq hc, List.length_append, List.length_insertionSort]
    omega

/-- **The same selection.** Where there is a match, the forgotten frames make no
difference to the selection. -/
theorem select_eq {matcher other : SyncMatcher} (hexpected : matcher.expectedCameras ≠ [])
    (hcourse : matcher.SameCourse other) (hwindow : 0 ≤ matcher.windowMs)
    (h : Forgets matcher.expectedCameras matcher.windowMs forgotten short full)
    (hmatch : HasMatch short matcher.expectedCameras matcher.windowMs) :
    other.selectMinSpanCandidate full = matcher.selectMinSpanCandidate short := by
  have hmissing : ∀ manager : SyncFrameBufferManager,
      HasMatch manager matcher.expectedCameras matcher.windowMs →
        missingCameras matcher.expectedCameras manager = [] := by
    rintro manager ⟨choice, hmem, -⟩
    apply List.filter_eq_nil_iff.mpr
    intro c hc hnil
    have hframe : choice c ∈ manager.buffered c := hmem c hc
    rw [(manager.availableFrames_eq_nil c).mp (of_decide_eq_true hnil)] at hframe
    cases hframe
  have hshort := availableFrames_ne_nil (hmissing short hmatch)
  have hfull := availableFrames_ne_nil (hmissing full (h.hasMatch_iff.mpr hmatch))
  have hagree := agree_sweepStart hwindow (candidates_candidateLists hexpected hshort)
    (candidates_candidateLists hexpected hfull) (h.shortened hshort hfull)
    (h.deadPrefix hshort hfull _)
  obtain ⟨selected, spanMs, hselected⟩ := select_of_hasMatch hexpected hmatch
  unfold SyncMatcher.selectMinSpanCandidate at hselected ⊢
  rw [hcourse.expectedCameras, hcourse.windowMs, hmissing short hmatch,
    hmissing full (h.hasMatch_iff.mpr hmatch)]
  rw [hmissing short hmatch] at hselected
  rcases hagree with heq | ⟨hbeyond, -⟩
  · dsimp only
    rw [← heq]
  · -- The selection of the short lists is within the window.
    dsimp only at hselected
    rw [if_neg (not_not.mpr rfl)] at hselected
    split at hselected
    · cases hselected
    case h_2 bestFrames bestSpanMs hbest =>
      have hlt := hbeyond bestFrames bestSpanMs hbest
      rw [if_pos hlt] at hselected
      cases hselected

end Forgets

/-! ## The buffers of two services -/

/-- The buffers of `short` lag behind those of `full`: what is forgotten lies more than
the window before the latest frame of every camera, and before everything else. -/
structure Lagging (expectedCameras : List String) (windowMs : ℤ)
    (forgotten : String → List StoredSyncFrame) (short full : SyncFrameBufferManager) : Prop where
  intake : short.SameIntake full
  split : ∀ c ∈ expectedCameras, full.buffered c = forgotten c ++ short.buffered c
  before : ∀ c ∈ expectedCameras, ∀ frame ∈ forgotten c, ∀ d ∈ expectedCameras,
    ∀ later ∈ short.buffered d, frame.timestampMs < later.timestampMs
  stale : ∀ c ∈ expectedCameras, ∀ frame ∈ forgotten c, ∀ d ∈ expectedCameras,
    ∃ last, full.lastTimestamp? d = some last ∧ frame.timestampMs + windowMs < last

theorem Lagging.refl (expectedCameras : List String) (windowMs : ℤ)
    (manager : SyncFrameBufferManager) :
    Lagging expectedCameras windowMs (fun _ => []) manager manager where
  intake := .refl manager
  split := fun _ _ => rfl
  before := fun _ _ _ h => absurd h List.not_mem_nil
  stale := fun _ _ _ h => absurd h List.not_mem_nil

/-- A full deque drops forgotten frames first. -/
theorem pushBounded_append {α : Type} (maxlen : ℕ) (first second : List α) (item : α) :
    pushBounded maxlen (first ++ second) item =
      first.drop (first.length + second.length + 1 - maxlen) ++ pushBounded maxlen second item := by
  unfold pushBounded
  rw [List.append_assoc, List.drop_append, List.length_append]
  congr 2
  omega

theorem CameraSyncBuffer.frames_append (buffer : CameraSyncBuffer) (frame : StoredSyncFrame) :
    (buffer.append frame).frames =
      pushBounded buffer.maxFrames (buffer.follow frame.source).frames frame := by
  have hmax : (buffer.follow frame.source).maxFrames = buffer.maxFrames := by
    unfold follow
    split <;> rfl
  rw [← hmax]
  rfl

namespace Lagging

variable {expectedCameras : List String} {windowMs : ℤ}
  {forgotten : String → List StoredSyncFrame} {short full : SyncFrameBufferManager}
  {sourceOf : String → SourceIdentity}

/-- What a manager retains of a camera's next frame. -/
theorem buffered_retain_self {manager : SyncFrameBufferManager}
    (hone : manager.OneSource expectedCameras sourceOf) {frame : SyncInputFrame}
    (hdevice : frame.deviceId ∈ expectedCameras)
    (hsource : frame.source = sourceOf frame.deviceId) :
    (manager.retain frame.stored).buffered frame.deviceId =
      pushBounded (manager.bufferOf frame.deviceId).maxFrames (manager.buffered frame.deviceId)
        frame.stored := by
  rw [manager.buffered_retain, if_pos (show frame.deviceId = frame.stored.deviceId from rfl),
    CameraSyncBuffer.frames_append]
  have hfollow : ((manager.bufferOf frame.deviceId).follow frame.source).frames =
      manager.buffered frame.deviceId := by
    apply SyncFrameBufferManager.follow_frames
    intro buffer hget
    rw [hsource]
    exact (hone _ hdevice buffer hget).source
  rw [show frame.stored.source = frame.source from rfl, hfollow]

/-- The shorter buffers are in order too. -/
theorem oneSource (h : Lagging expectedCameras windowMs forgotten short full)
    (hone : full.OneSource expectedCameras sourceOf) :
    short.OneSource expectedCameras sourceOf := by
  apply hone.of_sublist h.intake.symm
  intro c hc
  rw [h.split c hc]
  exact List.sublist_append_right _ _

theorem retain (hwindow : 0 ≤ windowMs)
    (h : Lagging expectedCameras windowMs forgotten short full)
    (hone : full.OneSource expectedCameras sourceOf) {frame : SyncInputFrame}
    (hadmits : full.Admits frame) (hmode : frame.identityMode = .v2)
    (hsource : frame.deviceId ∈ expectedCameras → frame.source = sourceOf frame.deviceId) :
    ∃ forgotten', Lagging expectedCameras windowMs forgotten' (short.retain frame.stored)
        (full.retain frame.stored) ∧ ∀ c, forgotten' c ⊆ forgotten c := by
  have hlatest : ∀ c ∈ expectedCameras, ∀ old ∈ forgotten c,
      frame.deviceId ∈ expectedCameras → old.timestampMs + windowMs < frame.timestampMs := by
    intro c hc old hold hdevice
    obtain ⟨last, hlast, hlt⟩ := h.stale c hc old hold _ hdevice
    exact hlt.trans_le (hone.last_le hadmits hmode hdevice (hsource hdevice) hlast)
  let surplus := (forgotten frame.deviceId).length + (short.buffered frame.deviceId).length + 1 -
    (full.bufferOf frame.deviceId).maxFrames
  let forgotten' : String → List StoredSyncFrame := fun c =>
    if c = frame.deviceId then (forgotten c).drop surplus else forgotten c
  have hsub : ∀ c, forgotten' c ⊆ forgotten c := by
    intro c old hold
    simp only [forgotten'] at hold
    split at hold
    · exact List.mem_of_mem_drop hold
    · exact hold
  refine ⟨forgotten', ?_, hsub⟩
  constructor
  case intake => exact h.intake.retain frame.stored
  case split =>
    intro c hc
    by_cases hdevice : c = frame.deviceId
    · subst hdevice
      have hmax : (short.bufferOf frame.deviceId).outline.maxFrames =
          (full.bufferOf frame.deviceId).outline.maxFrames := by
        rw [h.intake.bufferOf]
      have hmax' : (short.bufferOf frame.deviceId).maxFrames =
          (full.bufferOf frame.deviceId).maxFrames := hmax
      rw [buffered_retain_self hone hc (hsource hc),
        buffered_retain_self (h.oneSource hone) hc (hsource hc), h.split _ hc, hmax',
        pushBounded_append]
      simp only [forgotten', surplus, if_true]
    · have hne : c ≠ frame.stored.deviceId := hdevice
      rw [full.buffered_retain, short.buffered_retain, if_neg hne, if_neg hne]
      simp only [forgotten', if_neg hdevice]
      exact h.split c hc
  case before =>
    intro c hc old hold d hd later hlater
    rcases short.pool_retain frame.stored d later hlater with hmem | ⟨rfl, rfl⟩
    · exact h.before c hc old (hsub c hold) d hd later hmem
    · have hlt := hlatest c hc old (hsub c hold) hd
      show old.timestampMs < frame.timestampMs
      omega
  case stale =>
    intro c hc old hold d hd
    rw [full.lastTimestamp?_retain]
    split
    case isTrue hdevice =>
      rw [hdevice] at hd
      exact ⟨_, rfl, hlatest c hc old (hsub c hold) hd⟩
    case isFalse => exact h.stale c hc old (hsub c hold) d hd

/-- No match uses a forgotten frame once the next frame is retained. -/
theorem unused_retain (h : Lagging expectedCameras windowMs forgotten short full)
    (hnone : ¬HasMatch full expectedCameras windowMs)
    (hone : full.OneSource expectedCameras sourceOf) {frame : SyncInputFrame}
    (hadmits : full.Admits frame) (hmode : frame.identityMode = .v2)
    (hsource : frame.deviceId ∈ expectedCameras → frame.source = sourceOf frame.deviceId)
    {choice : String → StoredSyncFrame}
    (hchoice : IsWindowMatch (full.retain frame.stored) expectedCameras windowMs choice) :
    ∀ c ∈ expectedCameras, choice c ∉ forgotten c := by
  intro c hc hold
  have hlater : ∀ d ∈ {d | d ∈ expectedCameras}, ∀ x ∈ (full.retain frame.stored).pool d,
      x ∈ full.pool d ∨ (choice c).timestampMs + windowMs + 1 ≤ x.timestampMs := by
    intro d hd x hx
    rcases full.pool_retain frame.stored d x hx with hmem | ⟨rfl, rfl⟩
    · exact Or.inl hmem
    · right
      obtain ⟨last, hlast, hlt⟩ := h.stale c hc _ hold _ hd
      have hle := hone.last_le hadmits hmode hd (hsource hd) hlast
      show (choice c).timestampMs + windowMs + 1 ≤ frame.timestampMs
      omega
  have hmark := hchoice.not_old hnone hlater hc
  omega

/-- A selection takes all forgotten frames out. -/
theorem consumeThrough (h : Lagging expectedCameras windowMs forgotten short full)
    (selected : Dict String StoredSyncFrame)
    (hselected : ∀ c ∈ expectedCameras, ∃ chosen, selected.get? c = some chosen ∧
      chosen ∈ short.buffered c) :
    Lagging expectedCameras windowMs (fun _ => []) (short.consumeThrough selected).1
      (full.consumeThrough selected).1 where
  intake := ((SyncFrameBufferManager.SameIntake.consumeThrough short selected).symm.trans
    h.intake).trans (.consumeThrough full selected)
  split := by
    intro c hc
    obtain ⟨chosen, hchosen, hmem⟩ := hselected c hc
    rw [full.buffered_consumeThrough, short.buffered_consumeThrough, hchosen, h.split c hc]
    simp only [SyncFrameBufferManager.remaining, List.filter_append]
    congr 1
    apply List.filter_eq_nil_iff.mpr
    intro old hold hlater
    have hlt := h.before c hc old hold c hc chosen hmem
    exact absurd (of_decide_eq_true hlater) (not_lt_of_gt hlt)
  before := fun _ _ _ hold => absurd hold List.not_mem_nil
  stale := fun _ _ _ hold => absurd hold List.not_mem_nil

/-- The latest times of the devices that have sent a frame. -/
theorem get?_latestTimestamps (manager : SyncFrameBufferManager) (deviceIds : List String)
    (c : String) :
    (manager.latestTimestamps deviceIds).get? c =
      if c ∈ deviceIds then manager.lastTimestamp? c else none := by
  unfold SyncFrameBufferManager.latestTimestamps
  induction deviceIds using List.reverseRecOn with
  | nil => rfl
  | append_singleton deviceIds deviceId ih =>
      rw [List.foldl_concat]
      by_cases hc : c = deviceId
      · rw [hc] at ih ⊢
        rw [if_pos (List.mem_append_right _ List.mem_cons_self)]
        cases hlast : (manager.buffers.get? deviceId).bind CameraSyncBuffer.lastTimestampMs with
        | none =>
            dsimp only
            rw [ih]
            split
            · rfl
            · exact hlast.symm
        | some last =>
            dsimp only
            rw [Dict.get?_set_self]
            exact hlast.symm
      · have hmem : c ∈ deviceIds ++ [deviceId] ↔ c ∈ deviceIds := by
          rw [List.mem_append, List.mem_singleton, or_iff_left hc]
        rw [if_congr hmem rfl rfl, ← ih]
        cases (manager.buffers.get? deviceId).bind CameraSyncBuffer.lastTimestampMs with
        | none => rfl
        | some last => exact Dict.get?_set_of_ne _ _ hc

/-- The watermark is only there when all cameras have sent a frame, and then it is before
the latest frame of each. -/
theorem watermark_le (manager : SyncFrameBufferManager)
    (hlength : (manager.latestTimestamps expectedCameras).rows.length = expectedCameras.length)
    {d : String} (hd : d ∈ expectedCameras) :
    ∃ last, manager.lastTimestamp? d = some last ∧
      ((manager.latestTimestamps expectedCameras).values.min?.getD 0) ≤ last := by
  have hkeys : (manager.latestTimestamps expectedCameras).keys ⊆ expectedCameras := by
    intro c hc
    obtain ⟨last, hlast⟩ := (Dict.mem_keys_iff _).mp hc
    rw [get?_latestTimestamps] at hlast
    by_contra hmem
    rw [if_neg hmem] at hlast
    cases hlast
  have hperm : (manager.latestTimestamps expectedCameras).keys.Perm expectedCameras := by
    apply (List.subperm_of_subset (Dict.keys_nodup _) hkeys).perm_of_length_le
    rw [← hlength]
    unfold Dict.keys
    rw [List.length_map]
  obtain ⟨last, hlast⟩ := (Dict.mem_keys_iff _).mp (hperm.symm.subset hd)
  have hvalue := Dict.mem_values_of_get? _ hlast
  rw [get?_latestTimestamps, if_pos hd] at hlast
  refine ⟨last, hlast, ?_⟩
  cases hmin : (manager.latestTimestamps expectedCameras).values.min? with
  | none =>
      rw [List.min?_eq_none_iff] at hmin
      rw [hmin] at hvalue
      cases hvalue
  | some watermark => exact (List.min?_eq_some_iff.mp hmin).2 last hvalue

/-- In a list in the order of time what is dropped comes first. -/
theorem filter_split (frames : List StoredSyncFrame) (timestampMs : ℤ)
    (hordered : frames.Pairwise fun first second => first.timestampMs ≤ second.timestampMs) :
    frames = (frames.filter fun frame => frame.timestampMs < timestampMs) ++
      frames.filter fun frame => timestampMs ≤ frame.timestampMs := by
  induction frames with
  | nil => rfl
  | cons frame frames ih =>
      obtain ⟨hhead, htail⟩ := List.pairwise_cons.mp hordered
      by_cases hlt : frame.timestampMs < timestampMs
      · rw [List.filter_cons_of_pos (by simpa using hlt),
          List.filter_cons_of_neg (by simpa using hlt), List.cons_append, ← ih htail]
      · have hnone : (frames.filter fun frame => frame.timestampMs < timestampMs) = [] := by
          apply List.filter_eq_nil_iff.mpr
          intro later hlater hbefore
          exact hlt ((hhead later hlater).trans_lt (of_decide_eq_true hbefore))
        have hall : (frames.filter fun frame => timestampMs ≤ frame.timestampMs) = frames := by
          apply List.filter_eq_self.mpr
          intro later hlater
          exact decide_eq_true ((not_lt.mp hlt).trans (hhead later hlater))
        rw [List.filter_cons_of_neg (by simpa using hlt),
          List.filter_cons_of_pos (by simpa using hlt), hnone, hall]
        rfl

/-- Stale dropping in the shorter buffers only adds to what is forgotten. -/
theorem dropStaleFrames (h : Lagging expectedCameras windowMs forgotten short full)
    (hone : full.OneSource expectedCameras sourceOf) {matcher : SyncMatcher}
    (hexpected : matcher.expectedCameras = expectedCameras) (hmatcher : matcher.windowMs = windowMs) :
    ∃ forgotten', Lagging expectedCameras windowMs forgotten'
      (matcher.dropStaleFrames short).2 full := by
  subst hexpected hmatcher
  unfold SyncMatcher.dropStaleFrames
  dsimp only
  split
  case isTrue => exact ⟨forgotten, h⟩
  case isFalse hlength =>
    rw [not_not] at hlength
    generalize hcut : ((short.latestTimestamps matcher.expectedCameras).values.min?.getD 0) -
      matcher.windowMs = cut
    have hlast : ∀ d ∈ matcher.expectedCameras, ∃ last,
        full.lastTimestamp? d = some last ∧ cut + matcher.windowMs ≤ last := by
      intro d hd
      obtain ⟨last, hlast, hle⟩ := watermark_le short hlength hd
      refine ⟨last, (h.intake.lastTimestamp? d).trans hlast, ?_⟩
      omega
    refine ⟨fun c => forgotten c ++
      (short.buffered c).filter fun frame => frame.timestampMs < cut, ?_⟩
    constructor
    case intake =>
      exact (SyncFrameBufferManager.SameIntake.dropFramesOlderThan short _ _ _).symm.trans h.intake
    case split =>
      intro c hc
      rw [short.buffered_dropFramesOlderThan, if_pos hc, List.append_assoc,
        ← filter_split _ cut ((h.oneSource hone).pairwise hc)]
      exact h.split c hc
    case before =>
      intro c hc old hold d hd later hlater
      rw [short.buffered_dropFramesOlderThan, if_pos hd, List.mem_filter] at hlater
      rcases List.mem_append.mp hold with hold | hdropped
      · exact h.before c hc old hold d hd later hlater.1
      · exact (of_decide_eq_true (List.mem_filter.mp hdropped).2).trans_le
          (of_decide_eq_true hlater.2)
    case stale =>
      intro c hc old hold d hd
      rcases List.mem_append.mp hold with hold | hdropped
      · exact h.stale c hc old hold d hd
      · obtain ⟨last, hlast, hle⟩ := hlast d hd
        have hlt := of_decide_eq_true (List.mem_filter.mp hdropped).2
        exact ⟨last, hlast, by omega⟩

end Lagging

/-! ## Calls of two matchers of one course -/

namespace SyncMatcher

variable {first second third : SyncMatcher}

theorem SameCourse.symm (h : first.SameCourse second) : second.SameCourse first :=
  ⟨⟨h.expectedCameras.symm, h.recentFrameSets.symm, h.captureRunId.symm, h.nextFrameSetId.symm⟩,
    h.windowMs.symm, h.recentLimit.symm, h.captureSessionId.symm, h.captureConfigKey.symm,
    h.authorizationKey.symm, h.lastSynchronizedAtMs.symm⟩

theorem SameCourse.enterCapture (h : first.SameCourse second) (identity : CaptureIdentity)
    (freshRunId : String) :
    (first.enterCapture identity freshRunId).SameCourse
      (second.enterCapture identity freshRunId) := by
  have hchanges : second.changesCapture identity = first.changesCapture identity := by
    unfold changesCapture
    rw [h.captureSessionId, h.captureConfigKey, h.authorizationKey]
  unfold SyncMatcher.enterCapture
  rw [hchanges]
  dsimp only
  cases first.changesCapture identity <;> by_cases hsession : identity.captureSessionId = none
  all_goals
    simp only [hsession, ne_eq, not_true_eq_false, not_false_eq_true, if_true, if_false,
      Bool.false_eq_true]
    constructor
    case toSameSets =>
      first
        | exact ⟨h.expectedCameras, h.recentFrameSets, h.captureRunId, h.nextFrameSetId⟩
        | exact ⟨h.expectedCameras, h.recentFrameSets, rfl, rfl⟩
    case windowMs => exact h.windowMs
    case recentLimit => exact h.recentLimit
    case lastSynchronizedAtMs => exact h.lastSynchronizedAtMs
    all_goals
      first
        | rfl
        | exact h.captureSessionId
        | exact h.captureConfigKey
        | exact h.authorizationKey

theorem SameCourse.recordMatch (h : first.SameCourse second) (frameSet : SynchronizedFrameSet) :
    (first.recordMatch frameSet).SameCourse (second.recordMatch frameSet) := by
  constructor
  case toSameSets =>
    refine ⟨h.expectedCameras, ?_, h.captureRunId, ?_⟩
    · show pushBounded second.recentLimit second.recentFrameSets frameSet =
        pushBounded first.recentLimit first.recentFrameSets frameSet
      rw [h.recentLimit, h.recentFrameSets]
    · show second.nextFrameSetId + 1 = first.nextFrameSetId + 1
      rw [h.nextFrameSetId]
  case windowMs => exact h.windowMs
  case recentLimit => exact h.recentLimit
  case captureSessionId => exact h.captureSessionId
  case captureConfigKey => exact h.captureConfigKey
  case authorizationKey => exact h.authorizationKey
  case lastSynchronizedAtMs => rfl

theorem SameCourse.buildFrameSet (h : first.SameCourse second) (identity : CaptureIdentity)
    (selected : Dict String StoredSyncFrame) (spanMs synchronizedAtMs : ℤ) :
    second.buildFrameSet identity selected spanMs synchronizedAtMs =
      first.buildFrameSet identity selected spanMs synchronizedAtMs := by
  unfold SyncMatcher.buildFrameSet
  rw [h.windowMs, h.nextFrameSetId, h.captureRunId]

/-- The matcher that a set is made by. -/
def entering (matcher : SyncMatcher) (superseded : ℕ) (identity : CaptureIdentity)
    (freshRunId : String) : SyncMatcher :=
  enterCapture { matcher with
    droppedSupersededCount := matcher.droppedSupersededCount + superseded } identity freshRunId

theorem SameCourse.entering (h : first.SameCourse second) (superseded superseded' : ℕ)
    (identity : CaptureIdentity) (freshRunId : String) :
    (first.entering superseded identity freshRunId).SameCourse
      (second.entering superseded' identity freshRunId) := by
  apply SameCourse.enterCapture
  exact ⟨⟨h.expectedCameras, h.recentFrameSets, h.captureRunId, h.nextFrameSetId⟩,
    h.windowMs, h.recentLimit, h.captureSessionId, h.captureConfigKey, h.authorizationKey,
    h.lastSynchronizedAtMs⟩

/-- The set that a matcher emits. -/
def emittedSet (matcher : SyncMatcher) (manager : SyncFrameBufferManager)
    (identity : CaptureIdentity) (selected : Dict String StoredSyncFrame) (spanMs nowMs : ℤ)
    (freshRunId : String) : SynchronizedFrameSet :=
  (matcher.entering (manager.consumeThrough selected).2 identity freshRunId).buildFrameSet identity
    selected spanMs (max nowMs (matcher.lastSynchronizedAtMs + 1))

theorem emitWith_eq (rule : DropRule) (matcher : SyncMatcher) (manager : SyncFrameBufferManager)
    (identity : CaptureIdentity) (selected : Dict String StoredSyncFrame) (spanMs nowMs : ℤ)
    (freshRunId : String) :
    matcher.emitWith rule manager identity selected spanMs nowMs freshRunId =
      let frameSet := matcher.emittedSet manager identity selected spanMs nowMs freshRunId
      let dropped := rule.drop ((matcher.entering (manager.consumeThrough selected).2 identity
        freshRunId).recordMatch frameSet) (manager.consumeThrough selected).1
      (dropped.1, dropped.2, .ok (some frameSet)) := rfl

theorem SameCourse.emittedSet (h : first.SameCourse second)
    (manager manager' : SyncFrameBufferManager) (identity : CaptureIdentity)
    (selected : Dict String StoredSyncFrame) (spanMs nowMs : ℤ) (freshRunId : String) :
    second.emittedSet manager' identity selected spanMs nowMs freshRunId =
      first.emittedSet manager identity selected spanMs nowMs freshRunId := by
  unfold SyncMatcher.emittedSet
  rw [h.lastSynchronizedAtMs]
  exact (h.entering _ _ identity freshRunId).buildFrameSet identity selected spanMs _

section Cases

variable (rule : DropRule) {matcher : SyncMatcher} (manager : SyncFrameBufferManager)
  {triggerFrame : StoredSyncFrame} (nowMs : ℤ) (freshRunId : String)

theorem tryMatchWith_of_unexpected (hdevice : triggerFrame.deviceId ∉ matcher.expectedCameras) :
    matcher.raised? manager triggerFrame = none ∧ ∃ recorded, matcher.SameCourse recorded ∧
      matcher.tryMatchWith rule manager triggerFrame nowMs freshRunId =
        (recorded, manager, .ok none) := by
  have hraised : matcher.raised? manager triggerFrame = none := by
    unfold raised?
    rw [if_neg hdevice]
  have hcase := tryMatchWith_case rule matcher manager triggerFrame nowMs freshRunId
  rw [hraised] at hcase
  generalize matcher.tryMatchWith rule manager triggerFrame nowMs freshRunId = result at hcase ⊢
  refine ⟨hraised, ?_⟩
  cases hcase with
  | unexpected hdevice recorded hrecorded => exact ⟨recorded, hrecorded, rfl⟩
  | missed hdevice' => exact absurd hdevice' hdevice
  | emitted hdevice' => exact absurd hdevice' hdevice

theorem tryMatchWith_of_no_match (hdevice : triggerFrame.deviceId ∈ matcher.expectedCameras)
    (hnone : ¬HasMatch manager matcher.expectedCameras matcher.windowMs) :
    matcher.raised? manager triggerFrame = none ∧ ∃ recorded, matcher.SameCourse recorded ∧
      matcher.tryMatchWith rule manager triggerFrame nowMs freshRunId =
        ((rule.drop recorded manager).1, (rule.drop recorded manager).2, .ok none) := by
  have hselect : ∀ selected spanMs,
      matcher.selectMinSpanCandidate manager ≠ (some selected, some spanMs, []) := by
    intro selected spanMs hselected
    obtain ⟨choice, hchoice, -⟩ := isWindowMatch_of_select (List.ne_nil_of_mem hdevice) hselected
    exact hnone ⟨choice, hchoice⟩
  have hcase := tryMatchWith_case rule matcher manager triggerFrame nowMs freshRunId
  generalize matcher.raised? manager triggerFrame = raised at hcase ⊢
  generalize matcher.tryMatchWith rule manager triggerFrame nowMs freshRunId = result at hcase ⊢
  cases hcase with
  | unexpected hdevice' => exact absurd hdevice hdevice'
  | missed hdevice' hselect' recorded hrecorded => exact ⟨rfl, recorded, hrecorded, rfl⟩
  | conflict selected spanMs hselected => exact absurd hselected (hselect selected spanMs)
  | raised selected spanMs hselected => exact absurd hselected (hselect selected spanMs)
  | emitted hdevice' selected spanMs identity hselected =>
      exact absurd hselected (hselect selected spanMs)

/-- A selection that raises nothing is emitted. -/
theorem tryMatchWith_of_select (hdevice : triggerFrame.deviceId ∈ matcher.expectedCameras)
    {selected : Dict String StoredSyncFrame} {spanMs : ℤ}
    (hselect : matcher.selectMinSpanCandidate manager = (some selected, some spanMs, [])) :
    (matcher.raised? manager triggerFrame = none ↔
        ∃ identity, resolveCaptureIdentity selected.values = .ok identity) ∧
      ∀ identity, resolveCaptureIdentity selected.values = .ok identity →
        matcher.tryMatchWith rule manager triggerFrame nowMs freshRunId =
          matcher.emitWith rule manager identity selected spanMs nowMs freshRunId := by
  unfold raised? tryMatchWith
  rw [if_pos hdevice, if_neg (List.ne_nil_of_mem hdevice), if_neg (not_not.mpr hdevice), hselect]
  constructor
  · cases hidentity : resolveCaptureIdentity selected.values with
    | ok identity => simp [hidentity]
    | error raised => simp [hidentity]
  · intro identity hidentity
    simp only [hidentity]

end Cases

end SyncMatcher

/-! ## Two services on the same frames -/

/-- The service `short` drops stale frames, `full` has never dropped one. -/
structure Mirrors (expectedCameras : List String) (windowMs : ℤ)
    (sourceOf : String → SourceIdentity) (short full : StreamSyncService) : Prop where
  enabled : full.enabled = short.enabled
  matchers : Option.Rel SyncMatcher.SameCourse short.matcher full.matcher
  lagging : ∃ forgotten, Lagging expectedCameras windowMs forgotten short.bufferManager
    full.bufferManager
  oneSource : full.bufferManager.OneSource expectedCameras sourceOf
  configured : ConfiguredFor short expectedCameras windowMs
  no_match : ¬HasMatch full.bufferManager expectedCameras windowMs

/-- What the claim asks of the frames: V2 frames, of one source for each expected camera. -/
structure FrameCall.KeepsSource (call : FrameCall) (expectedCameras : List String)
    (sourceOf : String → SourceIdentity) : Prop where
  mode : call.frame.identityMode = .v2
  source : call.frame.deviceId ∈ expectedCameras →
    call.frame.source = sourceOf call.frame.deviceId

namespace Mirrors

variable {expectedCameras : List String} {windowMs : ℤ} {sourceOf : String → SourceIdentity}
  {short full : StreamSyncService}

theorem configured_full (h : Mirrors expectedCameras windowMs sourceOf short full) :
    ConfiguredFor full expectedCameras windowMs := by
  intro matcher' hmatcher'
  have hrel := h.matchers
  rw [hmatcher'] at hrel
  cases hmatcher : short.matcher with
  | none =>
      rw [hmatcher] at hrel
      cases hrel
  | some matcher =>
      rw [hmatcher] at hrel
      cases hrel with
      | some hcourse =>
          obtain ⟨hexpected, hwindow⟩ := h.configured matcher hmatcher
          exact ⟨hcourse.expectedCameras.trans hexpected, hcourse.windowMs.trans hwindow⟩

theorem isSome_of_rel {α β : Type} {r : α → β → Prop} {first : Option α} {second : Option β}
    (h : Option.Rel r first second) : second.isSome = first.isSome := by
  cases h <;> rfl

theorem takes_iff (h : Mirrors expectedCameras windowMs sourceOf short full)
    (frame : SyncInputFrame) : full.Takes frame ↔ short.Takes frame := by
  obtain ⟨forgotten, hlagging⟩ := h.lagging
  unfold StreamSyncService.Takes
  rw [h.enabled, isSome_of_rel h.matchers, hlagging.intake.admits_iff]

/-- The services once their matchers have been called. -/
theorem update (h : Mirrors expectedCameras windowMs sourceOf short full)
    {matcher matcher' : SyncMatcher} {manager manager' : SyncFrameBufferManager}
    (hcourse : matcher.SameCourse matcher')
    (hsettings : matcher.expectedCameras = expectedCameras ∧ matcher.windowMs = windowMs)
    (hlagging : ∃ forgotten, Lagging expectedCameras windowMs forgotten manager manager')
    (hone : manager'.OneSource expectedCameras sourceOf)
    (hnone : ¬HasMatch manager' expectedCameras windowMs) :
    Mirrors expectedCameras windowMs sourceOf
      { short with matcher := some matcher, bufferManager := manager }
      { full with matcher := some matcher', bufferManager := manager' } where
  enabled := h.enabled
  matchers := .some hcourse
  lagging := hlagging
  oneSource := hone
  configured := by
    intro later hlater
    cases hlater
    exact hsettings
  no_match := hnone

/-- A frame that is not taken makes no difference. -/
theorem step_of_not_takes (h : Mirrors expectedCameras windowMs sourceOf short full)
    {frame : SyncInputFrame} (htakes : ¬short.Takes frame) (nowMs : ℤ) (freshRunId : String) :
    Mirrors expectedCameras windowMs sourceOf
        (short.handleFrameWith staleRule frame nowMs freshRunId).1
        (full.handleFrameWith keepRule frame nowMs freshRunId).1 ∧
      (full.handleFrameWith keepRule frame nowMs freshRunId).2 =
        (short.handleFrameWith staleRule frame nowMs freshRunId).2 := by
  obtain ⟨-, manager, hbuffers, hindex, hsize, hresult⟩ :=
    handleFrameWith_of_not_takes staleRule htakes nowMs freshRunId
  obtain ⟨-, manager', hbuffers', hindex', hsize', hresult'⟩ :=
    handleFrameWith_of_not_takes keepRule (mt (h.takes_iff frame).mp htakes) nowMs freshRunId
  have hsame : ∀ c, manager.buffered c = short.bufferManager.buffered c :=
    SyncFrameBufferManager.buffered_of_buffers hbuffers
  have hsame' : ∀ c, manager'.buffered c = full.bufferManager.buffered c :=
    SyncFrameBufferManager.buffered_of_buffers hbuffers'
  have hintake := SyncFrameBufferManager.SameIntake.of_buffers hsize hindex hbuffers
  have hintake' := SyncFrameBufferManager.SameIntake.of_buffers hsize' hindex' hbuffers'
  rw [hresult, hresult']
  refine ⟨?_, rfl⟩
  constructor
  case enabled => exact h.enabled
  case matchers => exact h.matchers
  case lagging =>
    obtain ⟨forgotten, hlagging⟩ := h.lagging
    refine ⟨forgotten, (hintake.symm.trans hlagging.intake).trans hintake', ?_, ?_, ?_⟩
    · intro c hc
      rw [hsame, hsame']
      exact hlagging.split c hc
    · intro c hc frame hframe d hd later hlater
      rw [hsame] at hlater
      exact hlagging.before c hc frame hframe d hd later hlater
    · intro c hc frame hframe d hd
      rw [hintake'.lastTimestamp?]
      exact hlagging.stale c hc frame hframe d hd
  case oneSource =>
    apply h.oneSource.of_sublist hintake'
    intro c _
    rw [hsame']
  case configured => exact h.configured
  case no_match =>
    intro hmatch
    apply h.no_match
    apply hmatch.mono
    intro c
    rw [hsame']

/-- **One call.** Both services answer alike. -/
theorem step (hwindow : 0 ≤ windowMs) (h : Mirrors expectedCameras windowMs sourceOf short full)
    {call : FrameCall} (hcall : call.KeepsSource expectedCameras sourceOf)
    (hraised : short.raised? call.frame = none) :
    Mirrors expectedCameras windowMs sourceOf (frameStep short call).1
        (frameStepWith keepRule full call).1 ∧
      (frameStepWith keepRule full call).2 = (frameStep short call).2 := by
  obtain ⟨frame, nowMs, freshRunId⟩ := call
  obtain ⟨hmode, hsource⟩ := hcall
  dsimp only at hmode hsource hraised
  rw [← frameStepWith_staleRule]
  unfold frameStepWith
  dsimp only
  by_cases htakes : short.Takes frame
  case neg => exact h.step_of_not_takes htakes nowMs freshRunId
  case pos =>
    have htakes' := (h.takes_iff frame).mpr htakes
    obtain ⟨matcher, hmatcher⟩ := Option.isSome_iff_exists.mp htakes.2.1
    obtain ⟨matcher', hmatcher'⟩ := Option.isSome_iff_exists.mp htakes'.2.1
    have hcourse : matcher.SameCourse matcher' := by
      have hrel := h.matchers
      rw [hmatcher, hmatcher'] at hrel
      cases hrel with
      | some hcourse => exact hcourse
    obtain ⟨rfl, rfl⟩ := h.configured matcher hmatcher
    obtain ⟨hraises, hresult⟩ := handleFrameWith_of_takes staleRule hmatcher htakes nowMs freshRunId
    obtain ⟨hraises', hresult'⟩ :=
      handleFrameWith_of_takes keepRule hmatcher' htakes' nowMs freshRunId
    obtain ⟨forgotten, hlagging⟩ := h.lagging
    obtain ⟨forgotten', hretained, hsub⟩ :=
      hlagging.retain hwindow h.oneSource htakes'.2.2 hmode hsource
    have hone := h.oneSource.retain htakes'.2.2 hmode hsource
    have hforgets : Forgets matcher.expectedCameras matcher.windowMs forgotten'
        (short.bufferManager.retain frame.stored) (full.bufferManager.retain frame.stored) :=
      ⟨hretained.split, hretained.before, fun choice hchoice c hc hold =>
        hlagging.unused_retain h.no_match h.oneSource htakes'.2.2 hmode hsource hchoice c hc
          (hsub c hold)⟩
    -- That no match is left is what is known of any rule; the rest is shown case by case.
    have hdrained := fun hraised' => (drained_handleFrameWith keepRule nowMs freshRunId
      h.configured_full h.no_match (hraises'.trans hraised')).no_match
    rw [hresult'] at hdrained
    rw [hresult, hresult']
    rw [hraises] at hraised
    generalize short.bufferManager.retain frame.stored = manager at *
    generalize full.bufferManager.retain frame.stored = manager' at *
    by_cases hdevice : frame.stored.deviceId ∈ matcher.expectedCameras
    case neg =>
      have hdevice' : frame.stored.deviceId ∉ matcher'.expectedCameras := by
        rw [hcourse.expectedCameras]
        exact hdevice
      obtain ⟨-, recorded, hrecorded, htry⟩ := SyncMatcher.tryMatchWith_of_unexpected
        staleRule manager nowMs freshRunId hdevice
      obtain ⟨hnothing, recorded', hrecorded', htry'⟩ := SyncMatcher.tryMatchWith_of_unexpected
        keepRule manager' nowMs freshRunId hdevice'
      have hnone := hdrained hnothing
      rw [htry, htry'] at *
      exact ⟨h.update ((hrecorded.symm.trans hcourse).trans hrecorded')
        ⟨hrecorded.expectedCameras, hrecorded.windowMs⟩ ⟨forgotten', hretained⟩ hone hnone, rfl⟩
    case pos =>
      have hdevice' : frame.stored.deviceId ∈ matcher'.expectedCameras := by
        rw [hcourse.expectedCameras]
        exact hdevice
      by_cases hmatch : HasMatch manager matcher.expectedCameras matcher.windowMs
      case neg =>
        have hmatch' : ¬HasMatch manager' matcher'.expectedCameras matcher'.windowMs := by
          rw [hcourse.expectedCameras, hcourse.windowMs, hforgets.hasMatch_iff]
          exact hmatch
        obtain ⟨-, recorded, hrecorded, htry⟩ :=
          SyncMatcher.tryMatchWith_of_no_match staleRule manager nowMs freshRunId hdevice hmatch
        obtain ⟨hnothing, recorded', hrecorded', htry'⟩ :=
          SyncMatcher.tryMatchWith_of_no_match keepRule manager' nowMs freshRunId hdevice' hmatch'
        have hnone := hdrained hnothing
        have hdropped := recorded.dropStaleFrames_sameCourse manager
        rw [htry, htry'] at *
        refine ⟨h.update ?_ ?_ ?_ hone hnone, rfl⟩
        · exact hdropped.symm.trans ((hrecorded.symm.trans hcourse).trans hrecorded')
        · exact ⟨hdropped.expectedCameras.trans hrecorded.expectedCameras,
            hdropped.windowMs.trans hrecorded.windowMs⟩
        · exact hretained.dropStaleFrames hone hrecorded.expectedCameras hrecorded.windowMs
      case pos =>
        have hexpected := List.ne_nil_of_mem hdevice
        obtain ⟨selected, spanMs, hselect⟩ := select_of_hasMatch hexpected hmatch
        have hselect' : matcher'.selectMinSpanCandidate manager' =
            (some selected, some spanMs, []) := by
          rw [hforgets.select_eq hexpected hcourse hwindow hmatch, hselect]
        obtain ⟨hraises, htry⟩ := SyncMatcher.tryMatchWith_of_select staleRule manager nowMs
          freshRunId hdevice hselect
        obtain ⟨hraises', htry'⟩ := SyncMatcher.tryMatchWith_of_select keepRule manager' nowMs
          freshRunId hdevice' hselect'
        obtain ⟨identity, hidentity⟩ := hraises.mp hraised
        have hnone := hdrained (hraises'.mpr ⟨identity, hidentity⟩)
        obtain ⟨choice, hchoice, hselected⟩ := isWindowMatch_of_select hexpected hselect
        have hconsumed := hretained.consumeThrough selected fun c hc =>
          ⟨choice c, (hselected c _).mpr ⟨hc, rfl⟩, hchoice.mem c hc⟩
        have hconsumedOne : (manager'.consumeThrough selected).1.OneSource matcher.expectedCameras
            sourceOf := by
          apply hone.of_sublist (.consumeThrough manager' selected)
          intro c _
          rw [manager'.buffered_consumeThrough]
          exact SyncFrameBufferManager.remaining_sublist _ _
        have hset := hcourse.emittedSet manager manager' identity selected spanMs nowMs freshRunId
        have hentered := (hcourse.entering (manager.consumeThrough selected).2
          (manager'.consumeThrough selected).2 identity freshRunId).recordMatch
            (matcher.emittedSet manager identity selected spanMs nowMs freshRunId)
        have hsettings := matcher.emitWith_settings staleRule manager identity selected spanMs nowMs
          freshRunId
        rw [htry' identity hidentity, SyncMatcher.emitWith_eq, hset] at hnone
        rw [htry identity hidentity, htry' identity hidentity, SyncMatcher.emitWith_eq,
          SyncMatcher.emitWith_eq, hset]
        refine ⟨h.update ?_ hsettings ?_ hconsumedOne hnone, rfl⟩
        · exact (staleRule.sameCourse _ _).symm.trans hentered
        · obtain ⟨hexpected', hwindow'⟩ := SyncMatcher.enterCapture_settings
            { matcher with
              droppedSupersededCount :=
                matcher.droppedSupersededCount + (manager.consumeThrough selected).2 }
            identity freshRunId
          exact hconsumed.dropStaleFrames hconsumedOne hexpected' hwindow'

end Mirrors

/-! ## Runs -/

theorem SyncMatcher.SameCourse.refl (matcher : SyncMatcher) : matcher.SameCourse matcher :=
  ⟨⟨rfl, rfl, rfl, rfl⟩, rfl, rfl, rfl, rfl, rfl, rfl⟩

theorem mirrors_configuredService {expectedCameras : List String} (hexpected : expectedCameras ≠ [])
    (windowMs : ℤ) (bufferSize recentLimit : ℕ) (runId : String)
    (sourceOf : String → SourceIdentity) :
    Mirrors expectedCameras windowMs sourceOf
      (configuredService expectedCameras windowMs bufferSize recentLimit runId)
      (configuredService expectedCameras windowMs bufferSize recentLimit runId) where
  enabled := rfl
  matchers := by
    cases (configuredService expectedCameras windowMs bufferSize recentLimit runId).matcher with
    | none => exact .none
    | some matcher => exact .some (.refl matcher)
  lagging := ⟨_, .refl _ _ _⟩
  oneSource := by
    intro c _ buffer hget
    rw [buffers_configuredService] at hget
    cases hget
  configured := configuredFor_configuredService _ _ _ _ _
  no_match := not_hasMatch_configuredService hexpected _ _ _ _

/-- Without expected cameras no rule is ever asked. -/
theorem handleFrameWith_of_no_cameras (rule rule' : DropRule) {service : StreamSyncService}
    {windowMs : ℤ} (hconfigured : ConfiguredFor service [] windowMs) (call : FrameCall) :
    ConfiguredFor (frameStepWith rule service call).1 [] windowMs ∧
      frameStepWith rule' service call = frameStepWith rule service call := by
  unfold frameStepWith
  by_cases htakes : service.Takes call.frame
  · obtain ⟨matcher, hmatcher⟩ := Option.isSome_iff_exists.mp htakes.2.1
    obtain ⟨hexpected, hwindow⟩ := hconfigured matcher hmatcher
    have htry : ∀ rule : DropRule, matcher.tryMatchWith rule
        (service.bufferManager.retain call.frame.stored) call.frame.stored call.nowMs
          call.freshRunId =
        (matcher.recordMiss call.frame.stored "expected cameras are not configured" [],
          service.bufferManager.retain call.frame.stored, .ok none) := by
      intro rule
      unfold SyncMatcher.tryMatchWith
      rw [if_pos hexpected]
    rw [(handleFrameWith_of_takes rule hmatcher htakes _ _).2,
      (handleFrameWith_of_takes rule' hmatcher htakes _ _).2, htry, htry]
    refine ⟨?_, rfl⟩
    intro later hlater
    cases hlater
    exact ⟨hexpected, hwindow⟩
  · unfold StreamSyncService.handleFrameWith
    split
    case h_2 => exact ⟨hconfigured, rfl⟩
    case h_1 matcher henabled hmatcher =>
      have hadmits : ¬service.bufferManager.Admits call.frame := by
        intro hadmits
        apply htakes
        exact ⟨henabled, by rw [hmatcher]; rfl, hadmits⟩
      cases hadd : service.bufferManager.addFrame call.frame with
      | mk manager stored =>
          have hnone := (SyncFrameBufferManager.addFrame_of_not_admits hadmits).1
          rw [hadd] at hnone
          cases hnone
          exact ⟨hconfigured, rfl⟩

/-- **Stale dropping changes nothing but memory.** In every run of `handle_frame` on V2
frames in which every expected camera keeps one source and no call raises anything, the
same calls are answered alike without stale dropping, for every window that is not
negative and every buffer size. -/
theorem stale_dropping_unobservable (expectedCameras : List String) (windowMs : ℤ)
    (hwindow : 0 ≤ windowMs) (bufferSize recentLimit : ℕ) (runId : String)
    (sourceOf : String → SourceIdentity) (calls : List FrameCall)
    (hcalls : ∀ call ∈ calls, call.KeepsSource expectedCameras sourceOf)
    (hraised : Machine.EachStep frameStep (fun _ => RaisesNothing)
      (configuredService expectedCameras windowMs bufferSize recentLimit runId) calls) :
    (Machine.history (frameStepWith keepRule)
        (configuredService expectedCameras windowMs bufferSize recentLimit runId) calls).map
        (·.output) =
      (Machine.history frameStep
        (configuredService expectedCameras windowMs bufferSize recentLimit runId) calls).map
        (·.output) := by
  by_cases hexpected : expectedCameras = []
  · subst hexpected
    refine (Machine.outputs_eq_of_lockstep frameStep
      (R := fun t t' => t' = t ∧ ConfiguredFor t [] windowMs)
      ⟨rfl, configuredFor_configuredService _ _ _ _ _⟩ ?_ hraised).2
    rintro t t' call - ⟨rfl, hconfigured⟩ -
    obtain ⟨hkept, hsame⟩ := handleFrameWith_of_no_cameras staleRule keepRule hconfigured call
    rw [hsame, frameStepWith_staleRule] at *
    exact ⟨⟨rfl, hkept⟩, rfl⟩
  · exact (Machine.outputs_eq_of_lockstep frameStep
      (mirrors_configuredService hexpected windowMs bufferSize recentLimit runId sourceOf)
      (fun _ _ call hcall hmirrors hnothing =>
        hmirrors.step hwindow (hcalls call hcall) hnothing) hraised).2

/-! ### Two runs -/

/-- Two cameras with room for four frames each. -/
def smallService : StreamSyncService :=
  configuredService ["left", "right"] 50 4 20 "run-1"

/-- A V2 frame of a camera whose source session is blank, with or without a scope. -/
def blankCall (deviceId : String) (timestampMs : ℤ) (authorized : Bool) : FrameCall where
  frame :=
    { frameId := none
      deviceId := deviceId
      timestampMs := timestampMs
      sequence := some timestampMs
      contentType := "image/jpeg"
      imageBytes := [1]
      filePath := none
      sourceSessionId := some " "
      cameraStreamId := some deviceId
      sourceFrameUid := some (deviceId ++ toString timestampMs)
      contentDigest := some "digest"
      identityMode := .v2
      tenantId := field "tenant"
      siteId := field "site"
      captureSessionId := field "capture"
      processingJobId := field "job"
      profileDigest := field "profile"
      authorizedSubject := field "subject"
      sessionTokenJti := field "jti"
      authorizedCameraId := field deviceId }
  nowMs := timestampMs
  freshRunId := "run-2"
where
  field (text : String) : Option String := if authorized then some text else none

/-- The one source of a camera. -/
def blankSource (deviceId : String) : SourceIdentity := (some " ", some deviceId)

theorem blankCall_keepsSource (deviceId : String) (timestampMs : ℤ) (authorized : Bool)
    (expectedCameras : List String) :
    (blankCall deviceId timestampMs authorized).KeepsSource expectedCameras blankSource :=
  ⟨rfl, fun _ => rfl⟩

/-- Frames with a scope: the first one is dropped as stale before the match. -/
def watermarkCalls : List FrameCall :=
  [blankCall "left" 1000 true, blankCall "right" 1100 true, blankCall "left" 1200 true,
    blankCall "right" 1210 true]

theorem stale_dropping_unobservable_watermark :
    (Machine.history frameStep smallService watermarkCalls).map emits =
        [false, false, false, true] ∧
      (Machine.history (frameStepWith keepRule) smallService watermarkCalls).map (·.output) =
        (Machine.history frameStep smallService watermarkCalls).map (·.output) := by
  have hnothing : ((Machine.history frameStep smallService watermarkCalls).all fun e =>
      decide (e.before.raised? e.input.frame = none)) = true := by
    decide +kernel
  have hraised : Machine.EachStep frameStep (fun _ => RaisesNothing) smallService
      watermarkCalls := by
    apply Machine.eachStep_of_forall_history
    intro e he
    have hraised : e.before.raised? e.input.frame = none :=
      of_decide_eq_true (List.all_eq_true.mp hnothing e he)
    exact hraised
  constructor
  · decide +kernel
  · apply stale_dropping_unobservable ["left", "right"] 50 (by decide) 4 20 "run-1" blankSource
      watermarkCalls _ hraised
    intro call hcall
    simp only [watermarkCalls, List.mem_cons, List.not_mem_nil, or_false] at hcall
    rcases hcall with rfl | rfl | rfl | rfl <;> exact blankCall_keepsSource _ _ _ _

/-- The first match is refused for its blank sessions, and stays until a frame of it is
evicted. So a second match waits behind it until its frames are stale. -/
def refusedCalls : List FrameCall :=
  [blankCall "left" 1000 false, blankCall "right" 1000 false, blankCall "left" 1100 true,
    blankCall "right" 1100 true, blankCall "left" 1200 true, blankCall "right" 1205 true,
    blankCall "left" 1500 true, blankCall "right" 1300 true, blankCall "right" 1350 true,
    blankCall "left" 1550 true]

/-- Whether what is raised is a scope conflict. -/
def isConflict : Option MatchError → Bool
  | some (.frameScopeConflict _) => true
  | _ => false

/-- Without stale dropping the last call emits the second match. -/
theorem refused_calls_diverge :
    (∀ call ∈ refusedCalls, call.KeepsSource ["left", "right"] blankSource) ∧
      Machine.EachStep frameStep
        (fun _ service call => ∀ reason,
          service.raised? call.frame ≠ some (.frameScopeConflict reason))
        smallService refusedCalls ∧
      (Machine.history (frameStepWith keepRule) smallService refusedCalls).map emits ≠
        (Machine.history frameStep smallService refusedCalls).map emits := by
  have hconflict : ((Machine.history frameStep smallService refusedCalls).all fun e =>
      !isConflict (e.before.raised? e.input.frame)) = true := by
    decide +kernel
  refine ⟨?_, ?_, ?_⟩
  · intro call hcall
    simp only [refusedCalls, List.mem_cons, List.not_mem_nil, or_false] at hcall
    rcases hcall with rfl | rfl | rfl | rfl | rfl | rfl | rfl | rfl | rfl | rfl <;>
      exact blankCall_keepsSource _ _ _ _
  · apply Machine.eachStep_of_forall_history
    intro e he reason hraised
    have hnone := List.all_eq_true.mp hconflict e he
    rw [hraised] at hnone
    cases hnone
  · decide +kernel

end ImageStream
