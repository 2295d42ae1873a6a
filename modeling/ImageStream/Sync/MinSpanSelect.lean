/-
# The sweep selects a choice of minimal span

The heap holds one entry for each camera, the frames at the heap's entries are
the current choice, and the running maximum is the latest time of that choice. The
invariant that carries the result is about the choices the sweep has passed: a
choice with some frame before the current one is ranked no better than the best
selection remembered so far. Popping the earliest frame passes exactly the choices
that use it, and those rank no better than the current choice.

The loop leaves either at span zero or when the list of the earliest camera is
exhausted; in both cases the choices not yet passed rank no better either.
-/

import ImageStream.Base.MinSpan
import ImageStream.Sync.Matcher
import Mathlib.Algebra.Order.Group.Int
import Mathlib.Algebra.Order.BigOperators.Group.List

namespace ImageStream

open Base Base.MinSpan

/-- The time of each camera's frame in a selection. -/
def timesOf (frames : Dict String StoredSyncFrame) (deviceId : String) : ℤ :=
  ((frames.get? deviceId).map (·.timestampMs)).getD 0

theorem timesOf_of_get? {frames : Dict String StoredSyncFrame} {deviceId : String}
    {frame : StoredSyncFrame} (h : frames.get? deviceId = some frame) :
    timesOf frames deviceId = frame.timestampMs := by
  simp [timesOf, h]

theorem timesOf_set (frames : Dict String StoredSyncFrame) (deviceId : String)
    (frame : StoredSyncFrame) (c : String) :
    timesOf (frames.set deviceId frame) c =
      if c = deviceId then frame.timestampMs else timesOf frames c := by
  unfold timesOf
  rw [Dict.get?_set]
  split <;> rfl

/-! ## The heap -/

theorem mem_heappush {heap : List HeapEntry} {entry x : HeapEntry} :
    x ∈ heappush heap entry ↔ x = entry ∨ x ∈ heap :=
  List.mem_orderedInsert _

theorem perm_heappush (heap : List HeapEntry) (entry : HeapEntry) :
    (heappush heap entry).Perm (entry :: heap) :=
  List.perm_orderedInsert _ _ _

theorem timestampMs_le_of_key_le {first second : HeapEntry} (h : first.key ≤ second.key) :
    first.timestampMs ≤ second.timestampMs := by
  rcases (Prod.Lex.le_iff).mp h with hlt | ⟨heq, -⟩
  · exact le_of_lt hlt
  · exact le_of_eq heq

/-- A heap entry is a candidate of its camera's list and the camera's current frame. -/
structure HeapEntry.At (lists : Dict String (List StoredSyncFrame))
    (current : Dict String StoredSyncFrame) (entry : HeapEntry) : Prop where
  time : entry.timestampMs = entry.frame.timestampMs
  current : current.get? entry.deviceId = some entry.frame
  candidate : ∃ frames, lists.get? entry.deviceId = some frames ∧
    frames[entry.index]? = some entry.frame

theorem HeapEntry.At.timesOf_eq {lists : Dict String (List StoredSyncFrame)}
    {current : Dict String StoredSyncFrame} {entry : HeapEntry}
    (h : entry.At lists current) : timesOf current entry.deviceId = entry.timestampMs := by
  rw [timesOf_of_get? h.current, h.time]

/-- A heap in order with one entry for each of its cameras. -/
structure Heap (lists : Dict String (List StoredSyncFrame))
    (current : Dict String StoredSyncFrame) (heap : List HeapEntry) : Prop where
  devices_nodup : (heap.map (·.deviceId)).Nodup
  ordered : heap.Pairwise fun first second => first.key ≤ second.key
  entry : ∀ entry ∈ heap, entry.At lists current

namespace Heap

variable {lists : Dict String (List StoredSyncFrame)} {current : Dict String StoredSyncFrame}
  {heap : List HeapEntry} {entry : HeapEntry}

theorem tail (h : Heap lists current (entry :: heap)) : Heap lists current heap where
  devices_nodup := (List.nodup_cons.mp h.devices_nodup).2
  ordered := (List.pairwise_cons.mp h.ordered).2
  entry := fun x hx => h.entry x (List.mem_cons_of_mem _ hx)

/-- The popped entry is the earliest. -/
theorem head_le (h : Heap lists current (entry :: heap)) {x : HeapEntry}
    (hx : x ∈ entry :: heap) : entry.timestampMs ≤ x.timestampMs := by
  rcases List.mem_cons.mp hx with rfl | hx
  · exact le_refl _
  · exact timestampMs_le_of_key_le ((List.pairwise_cons.mp h.ordered).1 x hx)

theorem head_notMem (h : Heap lists current (entry :: heap)) :
    ∀ x ∈ heap, x.deviceId ≠ entry.deviceId := by
  intro x hx heq
  apply (List.nodup_cons.mp h.devices_nodup).1
  show entry.deviceId ∈ heap.map (·.deviceId)
  rw [← heq]
  exact List.mem_map_of_mem hx

/-- Pushing the new current frame of a camera that has no entry. -/
theorem push (h : Heap lists current heap) (entry : HeapEntry) (hnew : ∀ x ∈ heap, x.deviceId ≠ entry.deviceId)
    (htime : entry.timestampMs = entry.frame.timestampMs)
    (hcandidate : ∃ frames, lists.get? entry.deviceId = some frames ∧
      frames[entry.index]? = some entry.frame) :
    Heap lists (current.set entry.deviceId entry.frame) (heappush heap entry) where
  devices_nodup := by
    rw [((perm_heappush heap entry).map _).nodup_iff, List.map_cons, List.nodup_cons]
    refine ⟨fun hmem => ?_, h.devices_nodup⟩
    obtain ⟨x, hx, heq⟩ := List.mem_map.mp hmem
    exact hnew x hx heq
  ordered := List.Pairwise.orderedInsert _ _ h.ordered
  entry := by
    intro x hx
    rcases mem_heappush.mp hx with rfl | hx
    · exact ⟨htime, Dict.get?_set_self _ _ _, hcandidate⟩
    · obtain ⟨hxtime, hxcurrent, hxcandidate⟩ := h.entry x hx
      refine ⟨hxtime, ?_, hxcandidate⟩
      rw [Dict.get?_set_of_ne _ _ (hnew x hx)]
      exact hxcurrent

end Heap

/-! ## Candidate lists and choices -/

/-- Lists of candidates in the order of time, none of them empty, for some camera. -/
structure Candidates (lists : Dict String (List StoredSyncFrame)) : Prop where
  nonempty : lists.keys.toFinset.Nonempty
  frames_ne_nil : ∀ c frames, lists.get? c = some frames → frames ≠ []
  ordered : ∀ c frames, lists.get? c = some frames →
    frames.Pairwise fun first second => first.timestampMs ≤ second.timestampMs

/-- In a list ordered by time a smaller index means no later frame. -/
theorem timestampMs_le_of_index {frames : List StoredSyncFrame}
    (hordered : frames.Pairwise fun first second => first.timestampMs ≤ second.timestampMs)
    {i j : ℕ} {first second : StoredSyncFrame} (hi : frames[i]? = some first)
    (hj : frames[j]? = some second) (hij : i ≤ j) :
    first.timestampMs ≤ second.timestampMs := by
  rcases hij.lt_or_eq with hlt | rfl
  · obtain ⟨hi', rfl⟩ := List.getElem?_eq_some_iff.mp hi
    obtain ⟨hj', rfl⟩ := List.getElem?_eq_some_iff.mp hj
    exact List.pairwise_iff_getElem.mp hordered i j hi' hj' hlt
  · rw [hi] at hj
    cases hj
    exact le_refl _

/-- One candidate from each list. -/
def Chooses (lists : Dict String (List StoredSyncFrame)) (choice : String → StoredSyncFrame) :
    Prop :=
  ∀ c frames, lists.get? c = some frames → choice c ∈ frames

/-- The times of a choice. -/
def choiceTimes (choice : String → StoredSyncFrame) (deviceId : String) : ℤ :=
  (choice deviceId).timestampMs

variable {lists : Dict String (List StoredSyncFrame)}

/-- A selection has one candidate for each list, and its span is the reported one. -/
structure Selects (hne : lists.keys.toFinset.Nonempty) (frames : Dict String StoredSyncFrame)
    (spanMs : ℤ) : Prop where
  keys : ∀ c, c ∈ frames.keys ↔ c ∈ lists.keys
  candidate : ∀ c frame, frames.get? c = some frame →
    ∃ candidates, lists.get? c = some candidates ∧ frame ∈ candidates
  span : spanMs = span hne (timesOf frames)

/-- The remembered selection is ranked no worse than a choice. -/
def BestNoWorse (hne : lists.keys.toFinset.Nonempty)
    (best : Option (Dict String StoredSyncFrame × ℤ)) (t : String → ℤ) : Prop :=
  ∃ frames spanMs, best = some (frames, spanMs) ∧ NoWorse hne (timesOf frames) t

theorem BestNoWorse.trans {hne : lists.keys.toFinset.Nonempty}
    {best : Option (Dict String StoredSyncFrame × ℤ)} {t x : String → ℤ}
    (h : BestNoWorse hne best t) (htx : NoWorse hne t x) : BestNoWorse hne best x := by
  obtain ⟨frames, spanMs, hbest, hle⟩ := h
  exact ⟨frames, spanMs, hbest, hle.trans hne htx⟩

/-- The invariant of the loop. -/
structure Sweeping (hne : lists.keys.toFinset.Nonempty) (state : SweepState) : Prop where
  heap : Heap lists state.currentFrames state.heap
  covered : ∀ c ∈ lists.keys, ∃ entry ∈ state.heap, entry.deviceId = c
  current : ∀ c ∈ state.currentFrames.keys, c ∈ lists.keys
  running : ∃ currentMax, state.currentMaxTimestampMs = some currentMax ∧
    (∀ entry ∈ state.heap, entry.timestampMs ≤ currentMax) ∧
    ∃ entry ∈ state.heap, entry.timestampMs = currentMax
  best : ∀ frames spanMs, state.best = some (frames, spanMs) →
    Selects hne frames spanMs ∧
      ∀ entry ∈ state.heap, earliest hne (timesOf frames) ≤ entry.timestampMs
  passed : ∀ choice, Chooses lists choice →
    (∃ c ∈ lists.keys, choiceTimes choice c < timesOf state.currentFrames c) →
    BestNoWorse hne state.best (choiceTimes choice)

/-- What the loop leaves: a best selection, ranked no worse than any choice. -/
def Swept (hne : lists.keys.toFinset.Nonempty) (state : SweepState) : Prop :=
  (∀ frames spanMs, state.best = some (frames, spanMs) → Selects hne frames spanMs) ∧
    ∀ choice, Chooses lists choice → BestNoWorse hne state.best (choiceTimes choice)

@[simp]
theorem SweepState.currentFrames_remember (state : SweepState) (spanMs : ℤ) :
    (state.remember spanMs).currentFrames = state.currentFrames := by
  unfold remember
  split <;> rfl

theorem SweepState.currentFrames_advance (state : SweepState) (spanMs : ℤ)
    (heap : List HeapEntry) (currentMax : ℤ) (deviceId : String) (nextIndex : ℕ)
    (next : StoredSyncFrame) :
    ((state.remember spanMs).advance heap currentMax deviceId nextIndex next).currentFrames =
      state.currentFrames.set deviceId next := by
  simp [advance]

namespace Sweeping

variable {hne : lists.keys.toFinset.Nonempty} {state : SweepState} {entry : HeapEntry}
  {heap : List HeapEntry}

theorem deviceId_mem (h : Sweeping hne state) {e : HeapEntry} (he : e ∈ state.heap) :
    e.deviceId ∈ lists.keys.toFinset := by
  obtain ⟨frames, hframes, -⟩ := (h.heap.entry e he).candidate
  rw [List.mem_toFinset, Dict.mem_keys_iff]
  exact ⟨frames, hframes⟩

/-- The earliest current frame is the popped one. -/
theorem head_min (h : Sweeping hne state) (hheap : state.heap = entry :: heap) :
    ∀ c ∈ lists.keys.toFinset,
      timesOf state.currentFrames entry.deviceId ≤ timesOf state.currentFrames c := by
  intro c hc
  obtain ⟨e, he, rfl⟩ := h.covered c (List.mem_toFinset.mp hc)
  have hentry : entry ∈ state.heap := by rw [hheap]; exact List.mem_cons_self
  rw [(h.heap.entry entry hentry).timesOf_eq, (h.heap.entry e he).timesOf_eq]
  have hordered := h.heap
  rw [hheap] at hordered he
  exact hordered.head_le he

/-- The running maximum is the latest current time. -/
theorem latest_current (h : Sweeping hne state) {currentMax : ℤ}
    (hmax : state.currentMaxTimestampMs = some currentMax) :
    latest hne (timesOf state.currentFrames) = currentMax := by
  obtain ⟨mx, hmx, hle, e, he, heq⟩ := h.running
  rw [hmx] at hmax
  cases hmax
  rw [← heq, ← (h.heap.entry e he).timesOf_eq]
  apply latest_eq hne (h.deviceId_mem he)
  intro c hc
  obtain ⟨e', he', rfl⟩ := h.covered c (List.mem_toFinset.mp hc)
  rw [(h.heap.entry e he).timesOf_eq, (h.heap.entry e' he').timesOf_eq, heq]
  exact hle e' he'

/-- The computed span is the span of the current choice. -/
theorem span_current (h : Sweeping hne state) (hheap : state.heap = entry :: heap)
    {currentMax : ℤ} (hmax : state.currentMaxTimestampMs = some currentMax) :
    span hne (timesOf state.currentFrames) = currentMax - entry.timestampMs := by
  have hentry : entry ∈ state.heap := by rw [hheap]; exact List.mem_cons_self
  unfold span
  rw [h.latest_current hmax,
    earliest_eq hne (h.deviceId_mem hentry) (h.head_min hheap),
    (h.heap.entry entry hentry).timesOf_eq]

theorem selects_current (h : Sweeping hne state) :
    Selects hne state.currentFrames (span hne (timesOf state.currentFrames)) where
  keys := by
    intro c
    refine ⟨h.current c, fun hc => ?_⟩
    obtain ⟨e, he, rfl⟩ := h.covered c hc
    rw [Dict.mem_keys_iff]
    exact ⟨e.frame, (h.heap.entry e he).current⟩
  candidate := by
    intro c frame hframe
    have hc : c ∈ state.currentFrames.keys := (Dict.mem_keys_iff _).mpr ⟨frame, hframe⟩
    obtain ⟨e, he, rfl⟩ := h.covered c (h.current c hc)
    obtain ⟨-, hcurrent, candidates, hlist, hindex⟩ := h.heap.entry e he
    rw [hframe] at hcurrent
    cases hcurrent
    exact ⟨candidates, hlist, List.mem_of_getElem? hindex⟩
  span := rfl

/-! ### One round -/

/-- After the comparison the remembered selection is ranked no worse than the
current choice, and than everything it was ranked no worse than before. -/
theorem remember_spec (h : Sweeping hne state) (hheap : state.heap = entry :: heap)
    {currentMax : ℤ} (hmax : state.currentMaxTimestampMs = some currentMax) :
    let remembered := state.remember (currentMax - entry.timestampMs)
    (∀ frames spanMs, remembered.best = some (frames, spanMs) →
      Selects hne frames spanMs ∧ earliest hne (timesOf frames) ≤ entry.timestampMs) ∧
    BestNoWorse hne remembered.best (timesOf state.currentFrames) ∧
    ∀ t, BestNoWorse hne state.best t → BestNoWorse hne remembered.best t := by
  have hentry : entry ∈ state.heap := by rw [hheap]; exact List.mem_cons_self
  have hspan := h.span_current hheap hmax
  have hearliest : earliest hne (timesOf state.currentFrames) = entry.timestampMs := by
    rw [earliest_eq hne (h.deviceId_mem hentry) (h.head_min hheap),
      (h.heap.entry entry hentry).timesOf_eq]
  have hselects := h.selects_current
  rw [hspan] at hselects
  intro remembered
  by_cases himproved : state.improvedBy (currentMax - entry.timestampMs)
  · -- The current choice has a strictly smaller span than any earlier one.
    have hbest : remembered.best = some (state.currentFrames, currentMax - entry.timestampMs) := by
      simp [remembered, SweepState.remember, himproved]
    refine ⟨?_, ⟨_, _, hbest, Or.inr ⟨rfl, le_refl _⟩⟩, ?_⟩
    · intro frames spanMs hframes
      rw [hbest] at hframes
      cases hframes
      exact ⟨hselects, hearliest.le⟩
    · rintro t ⟨frames, spanMs, hold, hle⟩
      refine ⟨_, _, hbest, Or.inl ?_⟩
      have hlt : currentMax - entry.timestampMs < spanMs := by
        simpa [SweepState.improvedBy, hold] using himproved
      calc span hne (timesOf state.currentFrames) = currentMax - entry.timestampMs := hspan
        _ < spanMs := hlt
        _ = span hne (timesOf frames) := (h.best frames spanMs hold).1.span
        _ ≤ span hne t := hle.span_le
  · have hsame : remembered = state := by
      simp [remembered, SweepState.remember, himproved]
    rw [hsame]
    refine ⟨?_, ?_, fun t ht => ht⟩
    · intro frames spanMs hframes
      exact ⟨(h.best frames spanMs hframes).1, (h.best frames spanMs hframes).2 entry hentry⟩
    · -- An equal span was remembered at an earlier, so not later, earliest time.
      cases hold : state.best with
      | none => simp [SweepState.improvedBy, hold] at himproved
      | some old =>
          obtain ⟨frames, spanMs⟩ := old
          obtain ⟨hold_selects, hold_earliest⟩ := h.best frames spanMs hold
          have hle : spanMs ≤ currentMax - entry.timestampMs := by
            simpa [SweepState.improvedBy, hold] using himproved
          rw [← hspan, hold_selects.span] at hle
          refine ⟨frames, spanMs, rfl, ?_⟩
          rcases hle.lt_or_eq with hlt | heq
          · exact Or.inl hlt
          · exact Or.inr ⟨heq, (hold_earliest entry hentry).trans hearliest.ge⟩

/-- A choice is passed already or lies nowhere before the current one. -/
theorem passed_or_ahead (h : Sweeping hne state) {choice : String → StoredSyncFrame}
    (hchoice : Chooses lists choice) :
    BestNoWorse hne state.best (choiceTimes choice) ∨
      ∀ c ∈ lists.keys.toFinset, timesOf state.currentFrames c ≤ choiceTimes choice c := by
  by_cases hbehind : ∃ c ∈ lists.keys, choiceTimes choice c < timesOf state.currentFrames c
  · exact Or.inl (h.passed choice hchoice hbehind)
  · right
    intro c hc
    by_contra hlt
    exact hbehind ⟨c, List.mem_toFinset.mp hc, lt_of_not_ge hlt⟩

/-- Leaving at span zero. -/
theorem swept_of_span_zero (h : Sweeping hne state) (hheap : state.heap = entry :: heap)
    {currentMax : ℤ} (hmax : state.currentMaxTimestampMs = some currentMax)
    (hzero : currentMax - entry.timestampMs = 0) :
    Swept hne (state.remember (currentMax - entry.timestampMs)) := by
  obtain ⟨hselects, hcurrent, hkeep⟩ := h.remember_spec hheap hmax
  refine ⟨fun frames spanMs hbest => (hselects frames spanMs hbest).1, fun choice hchoice => ?_⟩
  rcases h.passed_or_ahead hchoice with hpassed | hahead
  · exact hkeep _ hpassed
  · have hspan : span hne (timesOf state.currentFrames) = 0 :=
      (h.span_current hheap hmax).trans hzero
    exact hcurrent.trans (noWorse_of_span_zero hne hspan hahead)

/-- A choice that is ahead and whose frame at the popped camera is no later than
the popped one ranks no better than what is remembered. -/
theorem noWorse_of_popped (h : Sweeping hne state) (hheap : state.heap = entry :: heap)
    {currentMax : ℤ} (hmax : state.currentMaxTimestampMs = some currentMax)
    {choice : String → StoredSyncFrame} (hchoice : Chooses lists choice)
    (hpopped : choiceTimes choice entry.deviceId ≤ entry.timestampMs) :
    BestNoWorse hne (state.remember (currentMax - entry.timestampMs)).best
      (choiceTimes choice) := by
  obtain ⟨-, hcurrent, hkeep⟩ := h.remember_spec hheap hmax
  have hentry : entry ∈ state.heap := by rw [hheap]; exact List.mem_cons_self
  rcases h.passed_or_ahead hchoice with hpassed | hahead
  · exact hkeep _ hpassed
  · refine hcurrent.trans (noWorse_of_pointwise hne (h.deviceId_mem hentry)
      (h.head_min hheap) hahead ?_)
    rw [(h.heap.entry entry hentry).timesOf_eq]
    exact hpopped

/-- Leaving when the popped camera has no further candidate. -/
theorem swept_of_exhausted (hlists : Candidates lists) (h : Sweeping hne state)
    (hheap : state.heap = entry :: heap) {currentMax : ℤ}
    (hmax : state.currentMaxTimestampMs = some currentMax)
    (hend : ((lists.get? entry.deviceId).getD [])[entry.index + 1]? = none) :
    Swept hne (state.remember (currentMax - entry.timestampMs)) := by
  obtain ⟨hselects, -, -⟩ := h.remember_spec hheap hmax
  have hentry : entry ∈ state.heap := by rw [hheap]; exact List.mem_cons_self
  obtain ⟨htime, -, candidates, hcandidates, hindex⟩ := h.heap.entry entry hentry
  refine ⟨fun frames spanMs hbest => (hselects frames spanMs hbest).1, fun choice hchoice => ?_⟩
  apply h.noWorse_of_popped hheap hmax hchoice
  rw [htime]
  have hlast : candidates.length ≤ entry.index + 1 := by
    simpa [hcandidates] using hend
  obtain ⟨i, hi⟩ := List.mem_iff_getElem?.mp (hchoice _ _ hcandidates)
  exact timestampMs_le_of_index (hlists.ordered _ _ hcandidates) hi hindex (by
    have := (List.getElem?_eq_some_iff.mp hi).1
    omega)

/-- Moving on to the next candidate of the popped camera. -/
theorem advance (hlists : Candidates lists) (h : Sweeping hne state)
    (hheap : state.heap = entry :: heap) {currentMax : ℤ}
    (hmax : state.currentMaxTimestampMs = some currentMax) {next : StoredSyncFrame}
    (hnext : ((lists.get? entry.deviceId).getD [])[entry.index + 1]? = some next) :
    Sweeping hne ((state.remember (currentMax - entry.timestampMs)).advance heap currentMax
      entry.deviceId (entry.index + 1) next) := by
  obtain ⟨hselects, hcurrent, hkeep⟩ := h.remember_spec hheap hmax
  have hentry : entry ∈ state.heap := by rw [hheap]; exact List.mem_cons_self
  obtain ⟨htime, hframe, candidates, hcandidates, hindex⟩ := h.heap.entry entry hentry
  have hnext' : candidates[entry.index + 1]? = some next := by
    simpa [hcandidates] using hnext
  have hlater : entry.timestampMs ≤ next.timestampMs := by
    rw [htime]
    exact timestampMs_le_of_index (hlists.ordered _ _ hcandidates) hindex hnext' (by omega)
  have hpopped : Heap lists state.currentFrames (entry :: heap) := by
    rw [← hheap]
    exact h.heap
  -- The entries other than the new one are those that were not popped.
  have hold : ∀ e ∈ heap, e ∈ state.heap := by
    intro e he
    rw [hheap]
    exact List.mem_cons_of_mem _ he
  constructor
  case heap =>
    rw [SweepState.currentFrames_advance]
    exact hpopped.tail.push
      ⟨next.timestampMs, next.bufferKey, entry.deviceId, entry.index + 1, next⟩
      hpopped.head_notMem rfl ⟨candidates, hcandidates, hnext'⟩
  case covered =>
    intro c hc
    obtain ⟨e, he, rfl⟩ := h.covered c hc
    rw [hheap] at he
    rcases List.mem_cons.mp he with rfl | he
    · exact ⟨_, mem_heappush.mpr (Or.inl rfl), rfl⟩
    · exact ⟨e, mem_heappush.mpr (Or.inr he), rfl⟩
  case current =>
    intro c hc
    by_cases hdevice : c = entry.deviceId
    · rw [hdevice]
      exact List.mem_toFinset.mp (h.deviceId_mem hentry)
    · apply h.current c
      rw [Dict.mem_keys_iff] at hc ⊢
      obtain ⟨frame, hc⟩ := hc
      refine ⟨frame, ?_⟩
      rwa [SweepState.currentFrames_advance, Dict.get?_set_of_ne _ _ hdevice] at hc
  case running =>
    obtain ⟨mx, hmx, hle, e, he, heq⟩ := h.running
    rw [hmax] at hmx
    cases hmx
    refine ⟨max currentMax next.timestampMs, rfl, ?_, ?_⟩
    · intro x hx
      rcases mem_heappush.mp hx with rfl | hx
      · exact le_max_right _ _
      · exact (hle x (hold x hx)).trans (le_max_left _ _)
    · rcases le_total currentMax next.timestampMs with hmore | hless
      · exact ⟨_, mem_heappush.mpr (Or.inl rfl), (max_eq_right hmore).symm⟩
      · rw [hheap] at he
        rcases List.mem_cons.mp he with rfl | he
        · -- The popped frame was the latest one too, so the new one is.
          refine ⟨_, mem_heappush.mpr (Or.inl rfl), ?_⟩
          rw [max_eq_left hless]
          exact le_antisymm hless (heq ▸ hlater)
        · exact ⟨e, mem_heappush.mpr (Or.inr he), by rw [heq, max_eq_left hless]⟩
  case best =>
    intro frames spanMs hbest
    obtain ⟨hsel, hearliest⟩ := hselects frames spanMs hbest
    refine ⟨hsel, fun x hx => ?_⟩
    rcases mem_heappush.mp hx with rfl | hx
    · exact hearliest.trans hlater
    · exact hearliest.trans (hpopped.head_le (List.mem_cons_of_mem _ hx))
  case passed =>
    rintro choice hchoice ⟨c, hc, hbehind⟩
    rw [SweepState.currentFrames_advance, timesOf_set] at hbehind
    by_cases hdevice : c = entry.deviceId
    · -- The choice uses a frame before the new one at the popped camera.
      rw [if_pos hdevice, hdevice] at hbehind
      apply h.noWorse_of_popped hheap hmax hchoice
      obtain ⟨i, hi⟩ := List.mem_iff_getElem?.mp (hchoice _ _ hcandidates)
      by_contra hgt
      rw [htime] at hgt
      refine hgt (timestampMs_le_of_index (hlists.ordered _ _ hcandidates) hi hindex ?_)
      by_contra hi'
      have := timestampMs_le_of_index (hlists.ordered _ _ hcandidates) hnext' hi (by omega)
      exact absurd hbehind (not_lt_of_ge this)
    · rw [if_neg hdevice] at hbehind
      exact hkeep _ (h.passed choice hchoice ⟨c, hc, hbehind⟩)

end Sweeping

/-! ## The whole loop -/

/-- How often the indices in a heap can still move forward. -/
def remaining (lists : Dict String (List StoredSyncFrame)) (heap : List HeapEntry) : ℕ :=
  (heap.map fun entry =>
    ((lists.get? entry.deviceId).getD []).length - (entry.index + 1)).sum

theorem remaining_heappush (lists : Dict String (List StoredSyncFrame)) (heap : List HeapEntry)
    (entry : HeapEntry) :
    remaining lists (heappush heap entry) = remaining lists (entry :: heap) :=
  ((perm_heappush heap entry).map _).sum_nat

/-- With a round for every remaining candidate the loop ends by itself, and well. -/
theorem swept_sweep (hlists : Candidates lists) (hne : lists.keys.toFinset.Nonempty)
    (fuel : ℕ) (state : SweepState) (h : Sweeping hne state)
    (hfuel : remaining lists state.heap < fuel) : Swept hne (sweep lists fuel state) := by
  induction fuel generalizing state with
  | zero => exact absurd hfuel (Nat.not_lt_zero _)
  | succ fuel ih =>
      obtain ⟨currentMax, hmax, -, e, he, -⟩ := h.running
      cases hheap : state.heap with
      | nil => simp [hheap] at he
      | cons entry heap =>
          simp only [sweep, hheap, hmax]
          split
          case isTrue hzero => exact h.swept_of_span_zero hheap hmax hzero.2
          case isFalse =>
            split
            case h_1 hend => exact h.swept_of_exhausted hlists hheap hmax hend
            case h_2 next hnext =>
              refine ih _ (h.advance hlists hheap hmax hnext) ?_
              have hlt := (List.getElem?_eq_some_iff.mp hnext).1
              rw [hheap] at hfuel
              simp only [SweepState.advance, remaining_heappush]
              simp only [remaining, List.map_cons, List.sum_cons] at hfuel ⊢
              omega

/-! ## The start -/

/-- The sweep after some cameras have been entered with their first frames. -/
structure Entered (lists : Dict String (List StoredSyncFrame)) (devices : List String)
    (state : SweepState) : Prop where
  heap : Heap lists state.currentFrames state.heap
  first : ∀ entry ∈ state.heap, entry.index = 0
  covered : ∀ c, c ∈ devices ↔ ∃ entry ∈ state.heap, entry.deviceId = c
  current : ∀ c ∈ state.currentFrames.keys, c ∈ devices
  running : match state.currentMaxTimestampMs with
    | none => state.heap = []
    | some currentMax => (∀ entry ∈ state.heap, entry.timestampMs ≤ currentMax) ∧
        ∃ entry ∈ state.heap, entry.timestampMs = currentMax
  best : state.best = none

theorem entered_nil (lists : Dict String (List StoredSyncFrame)) : Entered lists [] {} where
  heap := ⟨List.nodup_nil, List.Pairwise.nil, fun _ h => absurd h List.not_mem_nil⟩
  first := fun _ h => absurd h List.not_mem_nil
  covered := by simp
  current := by simp [Dict.keys]
  running := rfl
  best := rfl

theorem Entered.enter {devices : List String} {state : SweepState}
    (h : Entered lists devices state) {c : String} {frame : StoredSyncFrame}
    {frames : List StoredSyncFrame} (hnew : c ∉ devices)
    (hlist : lists.get? c = some (frame :: frames)) :
    Entered lists (devices ++ [c]) (state.enter c frame) where
  heap := h.heap.push ⟨frame.timestampMs, frame.bufferKey, c, 0, frame⟩
    (fun x hx heq => hnew ((h.covered c).mpr ⟨x, hx, heq⟩)) rfl ⟨_, hlist, rfl⟩
  first := by
    intro e he
    rcases mem_heappush.mp he with rfl | he
    · rfl
    · exact h.first e he
  covered := by
    intro c'
    rw [List.mem_append, List.mem_singleton, h.covered]
    constructor
    · rintro (⟨e, he, heq⟩ | rfl)
      · exact ⟨e, mem_heappush.mpr (Or.inr he), heq⟩
      · exact ⟨_, mem_heappush.mpr (Or.inl rfl), rfl⟩
    · rintro ⟨e, he, rfl⟩
      rcases mem_heappush.mp he with rfl | he
      · exact Or.inr rfl
      · exact Or.inl ⟨e, he, rfl⟩
  current := by
    intro c' hc'
    by_cases hcc : c' = c
    · simp [hcc]
    · rw [Dict.mem_keys_iff] at hc'
      obtain ⟨frame', hframe'⟩ := hc'
      rw [SweepState.enter, Dict.get?_set_of_ne _ _ hcc] at hframe'
      exact List.mem_append_left _ (h.current c' ((Dict.mem_keys_iff _).mpr ⟨frame', hframe'⟩))
  running := by
    have hrunning := h.running
    cases hmax : state.currentMaxTimestampMs with
    | none =>
        simp only [hmax] at hrunning
        simp [SweepState.enter, hmax, hrunning, heappush]
    | some currentMax =>
        simp only [hmax] at hrunning
        obtain ⟨hle, e, he, heq⟩ := hrunning
        simp only [SweepState.enter, hmax]
        refine ⟨?_, ?_⟩
        · intro x hx
          rcases mem_heappush.mp hx with rfl | hx
          · exact le_max_right _ _
          · exact (hle x hx).trans (le_max_left _ _)
        · rcases le_total currentMax frame.timestampMs with hmore | hless
          · exact ⟨_, mem_heappush.mpr (Or.inl rfl), (max_eq_right hmore).symm⟩
          · exact ⟨e, mem_heappush.mpr (Or.inr he), by rw [heq, max_eq_left hless]⟩
  best := h.best

theorem entered_foldl (rows : List (String × List StoredSyncFrame))
    (hnodup : (rows.map Prod.fst).Nodup)
    (hrows : ∀ row ∈ rows, lists.get? row.1 = some row.2 ∧ row.2 ≠ []) :
    Entered lists (rows.map Prod.fst) (rows.foldl SweepState.enterFirst {}) := by
  induction rows using List.reverseRecOn with
  | nil => exact entered_nil lists
  | append_singleton rows row ih =>
      obtain ⟨c, frames⟩ := row
      rw [List.map_append, List.nodup_append] at hnodup
      obtain ⟨hlist, hframes⟩ := hrows (c, frames) (by simp)
      have hentered := ih hnodup.1 fun row hrow => hrows row (List.mem_append_left _ hrow)
      rw [List.foldl_concat, List.map_append]
      cases frames with
      | nil => exact absurd rfl hframes
      | cons frame frames =>
          exact hentered.enter (fun hmem => hnodup.2.2 c hmem c (by simp) rfl) hlist

/-- The loop starts in its invariant. -/
theorem sweeping_sweepStart (hlists : Candidates lists)
    (hne : lists.keys.toFinset.Nonempty) : Sweeping hne (sweepStart lists) := by
  have h : Entered lists lists.keys (sweepStart lists) := by
    refine entered_foldl lists.rows lists.keys_nodup fun row hrow => ?_
    have hget : lists.get? row.1 = some row.2 := (Dict.get?_eq_some_iff lists).mpr hrow
    exact ⟨hget, hlists.frames_ne_nil _ _ hget⟩
  constructor
  case heap => exact h.heap
  case covered => exact fun c hc => (h.covered c).mp hc
  case current => exact h.current
  case running =>
    have hrunning := h.running
    cases hmax : (sweepStart lists).currentMaxTimestampMs with
    | none =>
        simp only [hmax] at hrunning
        obtain ⟨c, hc⟩ := hne
        obtain ⟨e, he, -⟩ := (h.covered c).mp (List.mem_toFinset.mp hc)
        simp [hrunning] at he
    | some currentMax =>
        simp only [hmax] at hrunning
        exact ⟨currentMax, rfl, hrunning⟩
  case best =>
    intro frames spanMs hbest
    rw [h.best] at hbest
    cases hbest
  case passed =>
    -- Nothing lies before the first frames.
    rintro choice hchoice ⟨c, hc, hbehind⟩
    obtain ⟨e, he, rfl⟩ := (h.covered c).mp hc
    obtain ⟨-, hcurrent, candidates, hcandidates, hindex⟩ := h.heap.entry e he
    rw [timesOf_of_get? hcurrent] at hbehind
    rw [h.first e he] at hindex
    obtain ⟨i, hi⟩ := List.mem_iff_getElem?.mp (hchoice _ _ hcandidates)
    have := timestampMs_le_of_index (hlists.ordered _ _ hcandidates) hindex hi (Nat.zero_le i)
    exact absurd hbehind (not_lt_of_ge this)

theorem candidateCount_eq (lists : Dict String (List StoredSyncFrame)) :
    candidateCount lists = (lists.keys.map fun c => ((lists.get? c).getD []).length).sum := by
  unfold candidateCount Dict.values Dict.keys
  rw [List.map_map, List.map_map]
  congr 1
  apply List.map_congr_left
  intro row hrow
  have hget : lists.get? row.1 = some row.2 := (Dict.get?_eq_some_iff lists).mpr hrow
  simp [hget]

/-- The entries of a heap are of different cameras, so they never need more rounds
than there are candidates. -/
theorem remaining_le (lists : Dict String (List StoredSyncFrame))
    {current : Dict String StoredSyncFrame} {heap : List HeapEntry}
    (h : Heap lists current heap) : remaining lists heap + heap.length ≤ candidateCount lists := by
  have hsubperm : (heap.map (·.deviceId)).Subperm lists.keys := by
    apply List.subperm_of_subset h.devices_nodup
    intro c hc
    obtain ⟨e, he, rfl⟩ := List.mem_map.mp hc
    obtain ⟨-, -, candidates, hcandidates, -⟩ := h.entry e he
    exact (Dict.mem_keys_iff _).mpr ⟨candidates, hcandidates⟩
  obtain ⟨devices, hperm, hsub⟩ := hsubperm
  have hentries : remaining lists heap + heap.length ≤
      (heap.map fun e => ((lists.get? e.deviceId).getD []).length).sum := by
    have hentry := h.entry
    clear hperm h
    induction heap with
    | nil => exact le_refl _
    | cons e heap ih =>
        obtain ⟨-, -, candidates, hcandidates, hindex⟩ := hentry e List.mem_cons_self
        have hlt := (List.getElem?_eq_some_iff.mp hindex).1
        have hrest := ih fun x hx => hentry x (List.mem_cons_of_mem _ hx)
        have hcons : remaining lists (e :: heap) =
            candidates.length - (e.index + 1) + remaining lists heap := by
          simp [remaining, hcandidates]
        rw [hcons, List.map_cons, List.sum_cons, hcandidates, List.length_cons]
        simp only [Option.getD_some]
        omega
  calc remaining lists heap + heap.length
      ≤ ((heap.map (·.deviceId)).map fun c => ((lists.get? c).getD []).length).sum := by
        rw [List.map_map]
        exact hentries
    _ = (devices.map fun c => ((lists.get? c).getD []).length).sum := (hperm.map _).sum_nat.symm
    _ ≤ (lists.keys.map fun c => ((lists.get? c).getD []).length).sum :=
        (hsub.map _).sum_le_sum fun _ _ => Nat.zero_le _
    _ = candidateCount lists := (candidateCount_eq lists).symm

theorem swept_sweepStart (hlists : Candidates lists) (hne : lists.keys.toFinset.Nonempty) :
    Swept hne (sweep lists (candidateCount lists) (sweepStart lists)) := by
  have h := sweeping_sweepStart hlists hne
  apply swept_sweep hlists hne _ _ h
  have hle := remaining_le lists h.heap
  obtain ⟨c, hc⟩ := hne
  obtain ⟨e, he, -⟩ := h.covered c (List.mem_toFinset.mp hc)
  have hpos := List.length_pos_of_mem he
  omega

/-! ## Candidate lists of the buffers -/

/-- The frames that a device's buffer holds. -/
def SyncFrameBufferManager.buffered (manager : SyncFrameBufferManager) (deviceId : String) :
    List StoredSyncFrame :=
  match manager.buffers.get? deviceId with
  | some buffer => buffer.frames
  | none => []

theorem candidateLe_iff (first second : StoredSyncFrame) :
    candidateLe first second = true ↔
      toLex (first.timestampMs, first.bufferKey) ≤ toLex (second.timestampMs, second.bufferKey) := by
  simp [candidateLe, Prod.Lex.toLex_le_toLex]

theorem pairwise_candidateSort (frames : List StoredSyncFrame) :
    (frames.insertionSort fun first second => candidateLe first second).Pairwise
      fun first second => first.timestampMs ≤ second.timestampMs := by
  have htotal : Std.Total fun first second : StoredSyncFrame => candidateLe first second = true :=
    ⟨fun first second => by simp only [candidateLe_iff]; exact le_total _ _⟩
  have htrans : IsTrans StoredSyncFrame fun first second => candidateLe first second = true :=
    ⟨fun first second third => by simp only [candidateLe_iff]; exact le_trans⟩
  refine (List.pairwise_insertionSort _ frames).imp ?_
  intro first second hle
  rcases Prod.Lex.toLex_le_toLex.mp ((candidateLe_iff first second).mp hle) with hlt | ⟨heq, -⟩
  · exact le_of_lt hlt
  · exact le_of_eq heq

theorem SyncFrameBufferManager.mem_availableFrames (manager : SyncFrameBufferManager)
    (deviceId : String) (frame : StoredSyncFrame) :
    frame ∈ manager.availableFrames deviceId [] ↔ frame ∈ manager.buffered deviceId := by
  unfold availableFrames buffered
  cases manager.buffers.get? deviceId with
  | none => rfl
  | some buffer => simp [CameraSyncBuffer.availableFrames, List.mem_insertionSort]

theorem SyncFrameBufferManager.availableFrames_eq_nil (manager : SyncFrameBufferManager)
    (deviceId : String) :
    manager.availableFrames deviceId [] = [] ↔ manager.buffered deviceId = [] := by
  simp only [List.eq_nil_iff_forall_not_mem, manager.mem_availableFrames]

theorem SyncFrameBufferManager.pairwise_availableFrames (manager : SyncFrameBufferManager)
    (deviceId : String) :
    (manager.availableFrames deviceId []).Pairwise
      fun first second => first.timestampMs ≤ second.timestampMs := by
  unfold availableFrames
  cases manager.buffers.get? deviceId with
  | none => exact List.Pairwise.nil
  | some buffer => exact pairwise_candidateSort _

theorem get?_candidateLists (expectedCameras : List String) (manager : SyncFrameBufferManager)
    (c : String) :
    (candidateLists expectedCameras manager).get? c =
      if c ∈ expectedCameras ∧ manager.availableFrames c [] ≠ [] then
        some (manager.availableFrames c [])
      else none := by
  unfold candidateLists
  induction expectedCameras using List.reverseRecOn with
  | nil => simp
  | append_singleton cameras deviceId ih =>
      rw [List.foldl_concat]
      by_cases hnil : manager.availableFrames deviceId [] = []
      · rw [if_pos hnil, ih]
        by_cases hc : c = deviceId
        · simp [hc, hnil]
        · simp [hc]
      · rw [if_neg hnil, Dict.get?_set, ih]
        by_cases hc : c = deviceId
        · simp [hc, hnil]
        · simp [hc]

theorem get?_candidateLists_of_all {expectedCameras : List String}
    {manager : SyncFrameBufferManager}
    (hall : ∀ c ∈ expectedCameras, manager.availableFrames c [] ≠ []) (c : String)
    (candidates : List StoredSyncFrame) :
    (candidateLists expectedCameras manager).get? c = some candidates ↔
      c ∈ expectedCameras ∧ candidates = manager.availableFrames c [] := by
  rw [get?_candidateLists]
  constructor
  · intro h
    split at h
    · rename_i hc
      cases h
      exact ⟨hc.1, rfl⟩
    · cases h
  · rintro ⟨hc, rfl⟩
    rw [if_pos ⟨hc, hall c hc⟩]

theorem mem_keys_candidateLists {expectedCameras : List String}
    {manager : SyncFrameBufferManager}
    (hall : ∀ c ∈ expectedCameras, manager.availableFrames c [] ≠ []) (c : String) :
    c ∈ (candidateLists expectedCameras manager).keys ↔ c ∈ expectedCameras := by
  simp [Dict.mem_keys_iff, get?_candidateLists_of_all hall]

theorem candidates_candidateLists {expectedCameras : List String}
    {manager : SyncFrameBufferManager} (hexpected : expectedCameras ≠ [])
    (hall : ∀ c ∈ expectedCameras, manager.availableFrames c [] ≠ []) :
    Candidates (candidateLists expectedCameras manager) where
  nonempty := by
    obtain ⟨c, hc⟩ := List.exists_mem_of_ne_nil _ hexpected
    exact ⟨c, List.mem_toFinset.mpr ((mem_keys_candidateLists hall c).mpr hc)⟩
  frames_ne_nil := by
    intro c frames hframes
    obtain ⟨hc, rfl⟩ := (get?_candidateLists_of_all hall c frames).mp hframes
    exact hall c hc
  ordered := by
    intro c frames hframes
    obtain ⟨-, rfl⟩ := (get?_candidateLists_of_all hall c frames).mp hframes
    exact manager.pairwise_availableFrames c

/-! ## The selection is exact -/

/-- One buffered frame for each expected camera. -/
def IsChoice (manager : SyncFrameBufferManager) (expectedCameras : List String)
    (choice : String → StoredSyncFrame) : Prop :=
  ∀ c ∈ expectedCameras, choice c ∈ manager.buffered c

/-- The spans of all choices. -/
def choiceSpans (manager : SyncFrameBufferManager) {expectedCameras : List String}
    (hne : expectedCameras.toFinset.Nonempty) : Set ℤ :=
  {spanMs | ∃ choice, IsChoice manager expectedCameras choice ∧
    spanMs = span hne (choiceTimes choice)}

/-- A selection is a choice of minimal span that is, among those, earliest. -/
structure IsExactSelection (manager : SyncFrameBufferManager) {expectedCameras : List String}
    (hne : expectedCameras.toFinset.Nonempty) (selected : Dict String StoredSyncFrame)
    (spanMs : ℤ) (choice : String → StoredSyncFrame) : Prop where
  isChoice : IsChoice manager expectedCameras choice
  selected : ∀ c frame, selected.get? c = some frame ↔ c ∈ expectedCameras ∧ frame = choice c
  span_eq : spanMs = span hne (choiceTimes choice)
  minimal : ∀ other, IsChoice manager expectedCameras other →
    spanMs ≤ span hne (choiceTimes other)
  earliest_le : ∀ other, IsChoice manager expectedCameras other →
    span hne (choiceTimes other) = spanMs →
      earliest hne (choiceTimes choice) ≤ earliest hne (choiceTimes other)

/-- The sweep over the buffers ends with an exact selection. -/
theorem exists_best {expectedCameras : List String} {manager : SyncFrameBufferManager}
    (hexpected : expectedCameras ≠ [])
    (hall : ∀ c ∈ expectedCameras, manager.availableFrames c [] ≠ [])
    (hne : expectedCameras.toFinset.Nonempty) :
    let lists := candidateLists expectedCameras manager
    ∃ selected spanMs choice,
      (sweep lists (candidateCount lists) (sweepStart lists)).best = some (selected, spanMs) ∧
        IsExactSelection manager hne selected spanMs choice := by
  intro lists
  have hlists : Candidates lists := candidates_candidateLists hexpected hall
  have hkeys : lists.keys.toFinset = expectedCameras.toFinset := by
    ext c
    rw [List.mem_toFinset, List.mem_toFinset, mem_keys_candidateLists hall]
  obtain ⟨hselects, hbest⟩ := swept_sweepStart hlists hlists.nonempty
  have hchooses : ∀ choice, IsChoice manager expectedCameras choice → Chooses lists choice := by
    intro choice hchoice c candidates hcandidates
    obtain ⟨hc, rfl⟩ := (get?_candidateLists_of_all hall c candidates).mp hcandidates
    exact (manager.mem_availableFrames c _).mpr (hchoice c hc)
  obtain ⟨c₀, hc₀⟩ := List.exists_mem_of_ne_nil _ hexpected
  obtain ⟨frame₀, -⟩ := List.exists_mem_of_ne_nil _ (hall c₀ hc₀)
  -- The choice of all first candidates shows that something is remembered.
  have hfirst : IsChoice manager expectedCameras fun c =>
      ((manager.availableFrames c []).head?).getD frame₀ := by
    intro c hc
    rw [← manager.mem_availableFrames]
    cases hframes : manager.availableFrames c [] with
    | nil => exact absurd hframes (hall c hc)
    | cons frame frames => simp [hframes]
  obtain ⟨selected, spanMs, hremembered, -⟩ := hbest _ (hchooses _ hfirst)
  have hselected := hselects selected spanMs hremembered
  let choice : String → StoredSyncFrame := fun c => (selected.get? c).getD frame₀
  have hget : ∀ c ∈ expectedCameras, selected.get? c = some (choice c) := by
    intro c hc
    obtain ⟨frame, hframe⟩ := (Dict.mem_keys_iff _).mp
      ((hselected.keys c).mpr ((mem_keys_candidateLists hall c).mpr hc))
    simp [choice, hframe]
  have htimes : ∀ c ∈ expectedCameras.toFinset, timesOf selected c = choiceTimes choice c :=
    fun c hc => timesOf_of_get? (hget c (List.mem_toFinset.mp hc))
  have hspan : spanMs = span hne (choiceTimes choice) := by
    rw [hselected.span, (span_earliest_of_eq hlists.nonempty hkeys hne _).1]
    exact span_congr hne htimes
  have hnoWorse : ∀ other, IsChoice manager expectedCameras other →
      NoWorse hne (choiceTimes choice) (choiceTimes other) := by
    intro other hother
    obtain ⟨frames, spanMs', heq, hle⟩ := hbest other (hchooses other hother)
    rw [hremembered] at heq
    cases heq
    unfold NoWorse at hle ⊢
    simp only [fun t => (span_earliest_of_eq hlists.nonempty hkeys hne t).1,
      fun t => (span_earliest_of_eq hlists.nonempty hkeys hne t).2,
      span_congr hne htimes, earliest_congr hne htimes] at hle
    exact hle
  refine ⟨selected, spanMs, choice, hremembered, ?_⟩
  constructor
  case isChoice =>
    intro c hc
    obtain ⟨candidates, hcandidates, hmem⟩ := hselected.candidate c _ (hget c hc)
    obtain ⟨-, rfl⟩ := (get?_candidateLists_of_all hall c candidates).mp hcandidates
    exact (manager.mem_availableFrames c _).mp hmem
  case selected =>
    intro c frame
    constructor
    · intro hframe
      have hc := (mem_keys_candidateLists hall c).mp ((hselected.keys c).mp
        ((Dict.mem_keys_iff _).mpr ⟨frame, hframe⟩))
      rw [hget c hc] at hframe
      exact ⟨hc, (Option.some.inj hframe).symm⟩
    · rintro ⟨hc, rfl⟩
      exact hget c hc
  case span_eq => exact hspan
  case minimal =>
    intro other hother
    rw [hspan]
    exact (hnoWorse other hother).span_le
  case earliest_le =>
    intro other hother hequal
    rcases hnoWorse other hother with hlt | ⟨-, hle⟩
    · rw [hequal, hspan] at hlt
      exact absurd hlt (lt_irrefl _)
    · exact hle

/-- A selection takes its frames from the buffers of their devices. -/
theorem mem_buffered_of_select {matcher : SyncMatcher} {manager : SyncFrameBufferManager}
    {selected : Dict String StoredSyncFrame} {spanMs : ℤ} {missing : List String}
    (h : matcher.selectMinSpanCandidate manager = (some selected, some spanMs, missing))
    {c : String} {frame : StoredSyncFrame} (hframe : selected.get? c = some frame) :
    c ∈ matcher.expectedCameras ∧ frame ∈ manager.buffered c := by
  dsimp only [SyncMatcher.selectMinSpanCandidate] at h
  split at h
  case isTrue => cases h
  case isFalse hnone =>
    rw [not_not] at hnone
    by_cases hexpected : matcher.expectedCameras = []
    · simp [hexpected, candidateLists, candidateCount, sweep, sweepStart, Dict.values] at h
    · have hall : ∀ c ∈ matcher.expectedCameras, manager.availableFrames c [] ≠ [] := by
        intro c hc hnil
        have hmem : c ∈ missingCameras matcher.expectedCameras manager :=
          List.mem_filter.mpr ⟨hc, decide_eq_true hnil⟩
        rw [hnone] at hmem
        cases hmem
      obtain ⟨frames, spanMs', choice, hbest, hexact⟩ :=
        exists_best hexpected hall ((List.toFinset_nonempty_iff _).mpr hexpected)
      simp only [hbest] at h
      split at h
      · cases h
      · cases h
        obtain ⟨hc, rfl⟩ := (hexact.selected c frame).mp hframe
        exact ⟨hc, hexact.isChoice c hc⟩

/-- **The sweep is an exact minimum-span search.** Cameras without a buffered frame
are reported, exactly those. Otherwise the smallest span of a choice decides: within
the window a choice of that span is returned, the earliest of its kind, and beyond it
nothing is. -/
theorem selectMinSpanCandidate_exact (matcher : SyncMatcher) (manager : SyncFrameBufferManager)
    (hexpected : matcher.expectedCameras ≠ []) :
    let hne : matcher.expectedCameras.toFinset.Nonempty :=
      (List.toFinset_nonempty_iff _).mpr hexpected
    let missing := matcher.expectedCameras.filter fun c => manager.buffered c = []
    (missing ≠ [] → matcher.selectMinSpanCandidate manager = (none, none, missing)) ∧
      (missing = [] → ∃ smallest, IsLeast (choiceSpans manager hne) smallest ∧
        (matcher.windowMs < smallest →
          matcher.selectMinSpanCandidate manager = (none, none, [])) ∧
        (smallest ≤ matcher.windowMs → ∃ selected choice,
          matcher.selectMinSpanCandidate manager = (some selected, some smallest, []) ∧
            IsExactSelection manager hne selected smallest choice)) := by
  intro hne missing
  have hmissing : missingCameras matcher.expectedCameras manager = missing := by
    apply List.filter_congr
    intro c _
    exact decide_eq_decide.mpr (manager.availableFrames_eq_nil c)
  refine ⟨fun hsome => ?_, fun hnone => ?_⟩
  · simp only [SyncMatcher.selectMinSpanCandidate, hmissing, if_pos hsome]
  · have hall : ∀ c ∈ matcher.expectedCameras, manager.availableFrames c [] ≠ [] := by
      intro c hc hnil
      have hmem : c ∈ missing := by
        rw [← hmissing]
        exact List.mem_filter.mpr ⟨hc, decide_eq_true hnil⟩
      rw [hnone] at hmem
      cases hmem
    obtain ⟨selected, smallest, choice, hbest, hexact⟩ := exists_best hexpected hall hne
    refine ⟨smallest, ⟨⟨choice, hexact.isChoice, hexact.span_eq⟩, ?_⟩, fun hbeyond => ?_,
      fun hwithin => ⟨selected, choice, ?_, hexact⟩⟩
    · rintro spanMs ⟨other, hother, rfl⟩
      exact hexact.minimal other hother
    · simp [SyncMatcher.selectMinSpanCandidate, hmissing, hnone, hbest, hbeyond]
    · simp [SyncMatcher.selectMinSpanCandidate, hmissing, hnone, hbest, not_lt_of_ge hwithin]

/-- Two cameras whose closest frames are two milliseconds apart. -/
def closeManager : SyncFrameBufferManager where
  bufferSize := 4
  bufferSize_pos := by decide
  buffers := Dict.set
    (Dict.set .empty "left" { maxFrames := 4, frames := [frameAt "left" 10, frameAt "left" 30] })
    "right" { maxFrames := 4, frames := [frameAt "right" 28] }
where
  frameAt (deviceId : String) (timestampMs : ℤ) : StoredSyncFrame :=
    { frameId := none
      deviceId := deviceId
      timestampMs := timestampMs
      sequence := none
      contentType := "image/jpeg"
      imageBytes := []
      filePath := none
      imageSize := 0
      bufferKey := deviceId ++ toString timestampMs }

def closeMatcher : SyncMatcher where
  expectedCameras := ["left", "right"]
  windowMs := 50
  captureRunId := "run-1"

theorem selectMinSpanCandidate_close :
    ∃ selected choice,
      closeMatcher.selectMinSpanCandidate closeManager = (some selected, some 2, []) ∧
        IsExactSelection closeManager
          (by decide : closeMatcher.expectedCameras.toFinset.Nonempty) selected 2 choice := by
  obtain ⟨smallest, -, hbeyond, hwithin⟩ :=
    (selectMinSpanCandidate_exact closeMatcher closeManager (by decide)).2 (by decide)
  have hspan : (closeMatcher.selectMinSpanCandidate closeManager).2.1 = some 2 := by decide +kernel
  rcases lt_or_ge closeMatcher.windowMs smallest with hlt | hle
  · rw [hbeyond hlt] at hspan
    cases hspan
  · obtain ⟨selected, choice, hselect, hexact⟩ := hwithin hle
    rw [hselect] at hspan
    cases hspan
    exact ⟨selected, choice, hselect, hexact⟩

end ImageStream
