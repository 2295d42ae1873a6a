/-
# Candidates that no match uses

A candidate is dead when no choice within the window uses it. Where the dead candidates
of all cameras come before the others, the sweep passes them first and remembers nothing
within the window until it has passed them all. From there it goes on exactly as the
sweep over the lists without them, one index shift for each camera apart.

So the two sweeps end with the same selection, or both end with none within the window.
-/

import ImageStream.Sync.MinSpanSelect

namespace ImageStream

open Base Base.MinSpan

/-- The lists without their first candidates, as many for each camera as `offset` says. -/
def Shortened (offset : String → ℕ) (full lists : Dict String (List StoredSyncFrame)) : Prop :=
  lists.rows = full.rows.map fun row => (row.1, row.2.drop (offset row.1))

section Shortened

variable {offset : String → ℕ} {full lists : Dict String (List StoredSyncFrame)}

theorem Shortened.keys_eq (h : Shortened offset full lists) : lists.keys = full.keys := by
  unfold Dict.keys
  rw [h, List.map_map]
  rfl

theorem Shortened.get?_eq (h : Shortened offset full lists) (c : String) :
    lists.get? c = (full.get? c).map (List.drop (offset c)) := by
  ext frames
  rw [Dict.get?_eq_some_iff, h, List.mem_map, Option.map_eq_some_iff]
  constructor
  · rintro ⟨⟨c', candidates⟩, hrow, heq⟩
    cases heq
    exact ⟨candidates, full.get?_eq_some_iff.mpr hrow, rfl⟩
  · rintro ⟨candidates, hget, rfl⟩
    exact ⟨(c, candidates), full.get?_eq_some_iff.mp hget, rfl⟩

theorem Shortened.getElem?_eq (h : Shortened offset full lists) (c : String) (i : ℕ) :
    ((lists.get? c).getD [])[i]? = ((full.get? c).getD [])[i + offset c]? := by
  rw [h.get?_eq]
  cases full.get? c with
  | none => rfl
  | some candidates =>
      rw [Option.map_some, Option.getD_some, Option.getD_some, List.getElem?_drop, add_comm]

end Shortened

/-- A heap entry of the shortened lists as an entry of the full ones. -/
def HeapEntry.shift (offset : String → ℕ) (entry : HeapEntry) : HeapEntry :=
  { entry with index := entry.index + offset entry.deviceId }

/-- Entries of different cameras are compared without their indices. -/
theorem HeapEntry.shift_key_le (offset : String → ℕ) {first second : HeapEntry}
    (h : first.deviceId ≠ second.deviceId) :
    (first.shift offset).key ≤ (second.shift offset).key ↔ first.key ≤ second.key := by
  simp [key, shift, Prod.Lex.toLex_le_toLex, h]

theorem heappush_shift (offset : String → ℕ) {heap : List HeapEntry} (entry : HeapEntry)
    (h : ∀ x ∈ heap, x.deviceId ≠ entry.deviceId) :
    heappush (heap.map (HeapEntry.shift offset)) (entry.shift offset) =
      (heappush heap entry).map (HeapEntry.shift offset) := by
  symm
  apply List.map_orderedInsert
  · exact fun x hx => (HeapEntry.shift_key_le offset (h x hx)).symm
  · exact fun x hx => (HeapEntry.shift_key_le offset (h x hx).symm).symm

/-! ## After the dead candidates -/

/-- Nothing within the window is remembered. -/
def Beyond (windowMs : ℤ) (best : Option (Dict String StoredSyncFrame × ℤ)) : Prop :=
  ∀ frames spanMs, best = some (frames, spanMs) → windowMs < spanMs

/-- Two remembered selections are the same as far as the window goes. -/
def Agree (windowMs : ℤ) (first second : Option (Dict String StoredSyncFrame × ℤ)) : Prop :=
  first = second ∨ Beyond windowMs first ∧ Beyond windowMs second

/-- The sweep over the full lists is where the one over the shortened lists is. -/
structure Follows (offset : String → ℕ) (windowMs : ℤ) (short full : SweepState) : Prop where
  heap : full.heap = short.heap.map (HeapEntry.shift offset)
  currentFrames : full.currentFrames = short.currentFrames
  currentMax : full.currentMaxTimestampMs = short.currentMaxTimestampMs
  best : Agree windowMs short.best full.best

section Sweeps

variable {offset : String → ℕ} {windowMs : ℤ} {full lists : Dict String (List StoredSyncFrame)}

theorem SweepState.best_remember (state : SweepState) (spanMs : ℤ) :
    (state.remember spanMs).best =
      if state.improvedBy spanMs then some (state.currentFrames, spanMs) else state.best := by
  unfold remember
  split <;> rfl

/-- A span within the window improves on everything beyond it. -/
theorem improvedBy_of_beyond {state : SweepState} (h : Beyond windowMs state.best) {spanMs : ℤ}
    (hspan : spanMs ≤ windowMs) : state.improvedBy spanMs = true := by
  unfold SweepState.improvedBy
  cases hbest : state.best with
  | none => rfl
  | some best => exact decide_eq_true (hspan.trans_lt (h best.1 best.2 hbest))

/-- Remembering a span beyond the window leaves it at that. -/
theorem Beyond.remember {state : SweepState} (h : Beyond windowMs state.best) {spanMs : ℤ}
    (hspan : windowMs < spanMs) : Beyond windowMs (state.remember spanMs).best := by
  rw [SweepState.best_remember]
  split
  · intro frames span heq
    cases heq
    exact hspan
  · exact h

theorem Agree.remember {short state : SweepState} (h : Agree windowMs short.best state.best)
    (hcurrent : state.currentFrames = short.currentFrames) (spanMs : ℤ) :
    Agree windowMs (short.remember spanMs).best (state.remember spanMs).best := by
  rcases h with heq | ⟨hshort, hstate⟩
  · left
    simp only [SweepState.best_remember, SweepState.improvedBy, heq, hcurrent]
  · rcases le_or_gt spanMs windowMs with hwithin | hbeyond
    · left
      simp only [SweepState.best_remember, improvedBy_of_beyond hshort hwithin,
        improvedBy_of_beyond hstate hwithin, hcurrent, if_true]
    · exact Or.inr ⟨hshort.remember hbeyond, hstate.remember hbeyond⟩

/-- Both sweeps leave at span zero, or neither. -/
theorem Agree.improved_zero {short state : SweepState} (hwindow : 0 ≤ windowMs)
    (h : Agree windowMs short.best state.best) (spanMs : ℤ) :
    (state.improvedBy spanMs = true ∧ spanMs = 0) ↔
      (short.improvedBy spanMs = true ∧ spanMs = 0) := by
  apply and_congr_left
  rintro rfl
  rcases h with heq | ⟨hshort, hstate⟩
  · simp only [SweepState.improvedBy, heq]
  · rw [improvedBy_of_beyond hshort hwindow, improvedBy_of_beyond hstate hwindow]

/-- Where one sweep is where the other is, they end alike. -/
theorem agree_sweep (hwindow : 0 ≤ windowMs) (hlists : Candidates lists)
    {hne : lists.keys.toFinset.Nonempty} (hshort : Shortened offset full lists)
    (fuel : ℕ) (fuel' : ℕ) (short state : SweepState) (hsweeping : Sweeping hne short)
    (hfollows : Follows offset windowMs short state) (hfuel : remaining lists short.heap < fuel)
    (hfuel' : remaining lists short.heap < fuel') :
    Agree windowMs (sweep lists fuel short).best (sweep full fuel' state).best := by
  induction fuel generalizing fuel' short state with
  | zero => exact absurd hfuel (Nat.not_lt_zero _)
  | succ fuel ih =>
      cases fuel' with
      | zero => exact absurd hfuel' (Nat.not_lt_zero _)
      | succ fuel' =>
          obtain ⟨currentMax, hmax, -, e, he, -⟩ := hsweeping.running
          obtain ⟨hheap', hcurrent, hmax', hbest⟩ := hfollows
          cases hheap : short.heap with
          | nil =>
              rw [hheap] at he
              cases he
          | cons entry heap =>
              rw [hheap, List.map_cons] at hheap'
              rw [hmax] at hmax'
              have hlookup : ((full.get? (entry.shift offset).deviceId).getD [])[
                  (entry.shift offset).index + 1]? =
                    ((lists.get? entry.deviceId).getD [])[entry.index + 1]? := by
                rw [hshort.getElem?_eq, add_right_comm]
                rfl
              have hremember := hbest.remember hcurrent (currentMax - entry.timestampMs)
              simp only [sweep, hheap, hmax, hheap', hmax', hlookup]
              rw [show (entry.shift offset).timestampMs = entry.timestampMs from rfl]
              by_cases hzero : short.improvedBy (currentMax - entry.timestampMs) = true ∧
                  currentMax - entry.timestampMs = 0
              · rw [if_pos hzero, if_pos ((hbest.improved_zero hwindow _).mpr hzero)]
                exact hremember
              · rw [if_neg hzero, if_neg (mt (hbest.improved_zero hwindow _).mp hzero)]
                cases hnext : ((lists.get? entry.deviceId).getD [])[entry.index + 1]? with
                | none => exact hremember
                | some next =>
                    have hpopped : Heap lists short.currentFrames (entry :: heap) := by
                      rw [← hheap]
                      exact hsweeping.heap
                    have hlt := (List.getElem?_eq_some_iff.mp hnext).1
                    have hless : remaining lists ((short.remember (currentMax -
                        entry.timestampMs)).advance heap currentMax entry.deviceId
                          (entry.index + 1) next).heap + 1 ≤ remaining lists short.heap := by
                      rw [hheap]
                      simp only [SweepState.advance, remaining_heappush]
                      simp only [remaining, List.map_cons, List.sum_cons]
                      omega
                    apply ih _ _ _ (hsweeping.advance hlists hheap hmax hnext)
                    · constructor
                      case heap =>
                        simp only [SweepState.advance]
                        have hpush := heappush_shift offset ⟨next.timestampMs, next.bufferKey,
                          entry.deviceId, entry.index + 1, next⟩ hpopped.head_notMem
                        rw [← hpush]
                        simp only [HeapEntry.shift, add_right_comm]
                      case currentFrames =>
                        simp only [SweepState.advance, SweepState.currentFrames_remember, hcurrent]
                        rfl
                      case currentMax => rfl
                      case best => exact hremember
                    · omega
                    · omega

/-! ## Passing the dead candidates -/

/-- The first candidates of each camera are dead: they come before all others, and a
choice with one of them is beyond the window. -/
structure DeadPrefix (hne : full.keys.toFinset.Nonempty) (offset : String → ℕ)
    (windowMs : ℤ) : Prop where
  before : ∀ c d candidates candidates', full.get? c = some candidates →
    full.get? d = some candidates' → ∀ i j first second, candidates[i]? = some first →
      candidates'[j]? = some second → i < offset c → offset d ≤ j →
        first.timestampMs < second.timestampMs
  beyond : ∀ choice, Chooses full choice →
    (∃ c candidates i, full.get? c = some candidates ∧ i < offset c ∧
      candidates[i]? = some (choice c)) → windowMs < span hne (choiceTimes choice)
  alive : ∀ c candidates, full.get? c = some candidates → offset c < candidates.length

/-- The sweep has passed no live candidate yet. -/
structure Unpassed (full : Dict String (List StoredSyncFrame)) (offset : String → ℕ)
    (windowMs : ℤ) (state : SweepState) : Prop where
  keyed : ∀ entry ∈ state.heap, entry.bufferKey = entry.frame.bufferKey
  index_le : ∀ entry ∈ state.heap, entry.index ≤ offset entry.deviceId
  keys : state.currentFrames.keys = full.keys
  beyond : Beyond windowMs state.best

theorem keyed_foldl (rows : List (String × List StoredSyncFrame))
    (hnodup : (rows.map Prod.fst).Nodup) (hrows : ∀ row ∈ rows, row.2 ≠ []) :
    (rows.foldl SweepState.enterFirst {}).currentFrames.keys = rows.map Prod.fst ∧
      ∀ entry ∈ (rows.foldl SweepState.enterFirst {}).heap,
        entry.bufferKey = entry.frame.bufferKey := by
  induction rows using List.reverseRecOn with
  | nil => exact ⟨rfl, fun entry hentry => (by cases hentry)⟩
  | append_singleton rows row ih =>
      rw [List.map_append, List.nodup_append] at hnodup
      obtain ⟨hkeys, hkeyed⟩ := ih hnodup.1 fun row hrow => hrows row (List.mem_append_left _ hrow)
      obtain ⟨c, frames⟩ := row
      cases frames with
      | nil => exact absurd rfl (hrows (c, []) (by simp))
      | cons frame frames =>
          rw [List.foldl_concat]
          constructor
          · have hnew : c ∉ (rows.foldl SweepState.enterFirst {}).currentFrames.keys := by
              rw [hkeys]
              exact fun hmem => hnodup.2.2 c hmem c (by simp) rfl
            rw [List.map_append, ← hkeys]
            exact Dict.keys_set_of_notMem _ _ hnew
          · intro entry hentry
            rcases mem_heappush.mp hentry with rfl | hold
            · rfl
            · exact hkeyed entry hold

theorem unpassed_sweepStart (hfull : Candidates full) :
    Unpassed full offset windowMs (sweepStart full) := by
  have hrows : ∀ row ∈ full.rows, full.get? row.1 = some row.2 ∧ row.2 ≠ [] := by
    intro row hrow
    have hget : full.get? row.1 = some row.2 := full.get?_eq_some_iff.mpr hrow
    exact ⟨hget, hfull.frames_ne_nil _ _ hget⟩
  have hentered : Entered full full.keys (sweepStart full) :=
    entered_foldl full.rows full.keys_nodup hrows
  obtain ⟨hkeys, hkeyed⟩ := keyed_foldl full.rows full.keys_nodup fun row hrow => (hrows row hrow).2
  refine ⟨hkeyed, fun entry hentry => ?_, hkeys, fun frames spanMs hbest => ?_⟩
  · rw [hentered.first entry hentry]
    exact Nat.zero_le _
  · rw [hentered.best] at hbest
    cases hbest

/-- The current choice is beyond the window as long as the earliest camera's frame is dead. -/
theorem beyond_of_dead {hne : full.keys.toFinset.Nonempty} (hdead : DeadPrefix hne offset windowMs)
    {state : SweepState} (hsweeping : Sweeping hne state) {entry : HeapEntry}
    {heap : List HeapEntry} (hheap : state.heap = entry :: heap) {currentMax : ℤ}
    (hmax : state.currentMaxTimestampMs = some currentMax)
    (hindex : entry.index < offset entry.deviceId) :
    windowMs < currentMax - entry.timestampMs := by
  have hentry : entry ∈ state.heap := by
    rw [hheap]
    exact List.mem_cons_self
  obtain ⟨-, hcurrent, candidates, hcandidates, hget⟩ := hsweeping.heap.entry entry hentry
  have hselects := hsweeping.selects_current
  let choice : String → StoredSyncFrame := fun c =>
    (state.currentFrames.get? c).getD entry.frame
  have hchoice : ∀ c ∈ full.keys, state.currentFrames.get? c = some (choice c) := by
    intro c hc
    obtain ⟨frame, hframe⟩ := (Dict.mem_keys_iff _).mp ((hselects.keys c).mpr hc)
    simp [choice, hframe]
  have hchooses : Chooses full choice := by
    intro c frames hframes
    obtain ⟨frames', hframes', hmem⟩ := hselects.candidate c (choice c)
      (hchoice c ((Dict.mem_keys_iff _).mpr ⟨frames, hframes⟩))
    rw [hframes] at hframes'
    cases hframes'
    exact hmem
  have hspan : span hne (timesOf state.currentFrames) = span hne (choiceTimes choice) :=
    span_congr hne fun c hc => timesOf_of_get? (hchoice c (List.mem_toFinset.mp hc))
  rw [← hsweeping.span_current hheap hmax, hspan]
  apply hdead.beyond choice hchooses
  refine ⟨entry.deviceId, candidates, entry.index, hcandidates, hindex, ?_⟩
  rw [hget]
  simp [choice, hcurrent]

/-- When the earliest frame is live, all current frames are the first live ones. -/
theorem index_eq_of_head {hne : full.keys.toFinset.Nonempty}
    (hdead : DeadPrefix hne offset windowMs) {state : SweepState} (hsweeping : Sweeping hne state)
    (hunpassed : Unpassed full offset windowMs state) {entry : HeapEntry} {heap : List HeapEntry}
    (hheap : state.heap = entry :: heap) (hindex : ¬entry.index < offset entry.deviceId) :
    ∀ e ∈ state.heap, e.index = offset e.deviceId := by
  intro e he
  apply le_antisymm (hunpassed.index_le e he)
  by_contra hlt
  rw [not_le] at hlt
  have hentry : entry ∈ state.heap := by
    rw [hheap]
    exact List.mem_cons_self
  obtain ⟨htime, -, candidates, hcandidates, hget⟩ := hsweeping.heap.entry entry hentry
  obtain ⟨htime', -, candidates', hcandidates', hget'⟩ := hsweeping.heap.entry e he
  have hbefore : e.frame.timestampMs < entry.frame.timestampMs :=
    hdead.before _ _ _ _ hcandidates' hcandidates _ _ _ _ hget' hget hlt (not_lt.mp hindex)
  have hordered := hsweeping.heap
  rw [hheap] at hordered he
  have hle := hordered.head_le he
  rw [htime, htime'] at hle
  exact absurd hbefore (not_lt_of_ge hle)

/-- A heap with one entry for each camera is determined by its entries. -/
theorem heap_eq_of_mem_iff {current : Dict String StoredSyncFrame} {heap other : List HeapEntry}
    (hheap : Heap full current heap) (hnodup : (other.map (·.deviceId)).Nodup)
    (hordered : other.Pairwise fun first second => first.key ≤ second.key)
    (hmem : ∀ e, e ∈ heap ↔ e ∈ other) : heap = other := by
  have hperm : heap.Perm other :=
    (List.perm_ext_iff_of_nodup hheap.devices_nodup.of_map hnodup.of_map).mpr hmem
  apply List.Perm.eq_of_pairwise _ hheap.ordered hordered hperm
  intro a b ha hb hab hba
  have hkey : a.key = b.key := le_antisymm hab hba
  have hdevice : a.deviceId = b.deviceId := congrArg (fun key => (ofLex (ofLex (ofLex key).2).2).1) hkey
  exact List.inj_on_of_nodup_map hnodup ((hmem a).mp ha) hb hdevice

theorem pairwise_shift {current : Dict String StoredSyncFrame} {heap : List HeapEntry}
    (hheap : Heap lists current heap) :
    (heap.map (HeapEntry.shift offset)).Pairwise fun first second => first.key ≤ second.key := by
  rw [List.pairwise_map]
  have hdevices : heap.Pairwise fun first second => first.deviceId ≠ second.deviceId :=
    List.pairwise_map.mp hheap.devices_nodup
  exact (hheap.ordered.and hdevices).imp fun h => (HeapEntry.shift_key_le offset h.2).mpr h.1

/-- Once all dead candidates are passed, the sweep is where the other one starts. -/
theorem follows_of_passed (hlists : Candidates lists) (hfull : Candidates full)
    (hshort : Shortened offset full lists) {state : SweepState}
    (hsweeping : Sweeping hfull.nonempty state)
    (hunpassed : Unpassed full offset windowMs state)
    (hpassed : ∀ e ∈ state.heap, e.index = offset e.deviceId) :
    Follows offset windowMs (sweepStart lists) state := by
  have hstart := sweeping_sweepStart hlists hlists.nonempty
  have hunpassed' : Unpassed lists (fun _ => 0) windowMs (sweepStart lists) :=
    unpassed_sweepStart hlists
  have hkeys := hshort.keys_eq
  -- The entries of one camera are about the same frame.
  have hsame : ∀ e ∈ state.heap, ∀ e' ∈ (sweepStart lists).heap, e.deviceId = e'.deviceId →
      e = e'.shift offset := by
    intro e he e' he' hdevice
    obtain ⟨htime, -, candidates, hcandidates, hget⟩ := hsweeping.heap.entry e he
    obtain ⟨htime', -, candidates', hcandidates', hget'⟩ := hstart.heap.entry e' he'
    have hzero := Nat.le_zero.mp (hunpassed'.index_le e' he')
    have hframe : e.frame = e'.frame := by
      have hlookup := hshort.getElem?_eq e.deviceId 0
      rw [hcandidates, hdevice, hcandidates', Option.getD_some, Option.getD_some, zero_add,
        ← hdevice, ← hpassed e he, hget, ← hzero, hget'] at hlookup
      exact (Option.some.inj hlookup).symm
    have hkey := hunpassed.keyed e he
    have hkey' := hunpassed'.keyed e' he'
    have hindex : e.index = e'.index + offset e'.deviceId := by
      rw [hpassed e he, hzero, zero_add, hdevice]
    cases e
    cases e'
    simp only [HeapEntry.shift, HeapEntry.mk.injEq] at *
    exact ⟨by rw [htime, htime', hframe], by rw [hkey, hkey', hframe], hdevice, hindex, hframe⟩
  have hmem : ∀ e, e ∈ state.heap ↔ e ∈ (sweepStart lists).heap.map (HeapEntry.shift offset) := by
    intro e
    rw [List.mem_map]
    constructor
    · intro he
      have hc : e.deviceId ∈ lists.keys := by
        rw [hkeys]
        exact List.mem_toFinset.mp (hsweeping.deviceId_mem he)
      obtain ⟨e', he', hdevice⟩ := hstart.covered _ hc
      exact ⟨e', he', (hsame e he e' he' hdevice.symm).symm⟩
    · rintro ⟨e', he', rfl⟩
      have hc : e'.deviceId ∈ full.keys := by
        rw [← hkeys]
        exact List.mem_toFinset.mp (hstart.deviceId_mem he')
      obtain ⟨e, he, hdevice⟩ := hsweeping.covered _ hc
      rw [← hsame e he e' he' hdevice]
      exact he
  have hcurrent : state.currentFrames = (sweepStart lists).currentFrames := by
    apply Dict.ext_of_get?
    · rw [hunpassed.keys, hunpassed'.keys, hkeys]
    · intro c hc
      rw [hunpassed.keys] at hc
      obtain ⟨e, he, rfl⟩ := hsweeping.covered c hc
      obtain ⟨e', he', rfl⟩ := List.mem_map.mp ((hmem e).mp he)
      rw [(hsweeping.heap.entry _ he).current]
      exact (hstart.heap.entry e' he').current.symm
  constructor
  case heap =>
    apply heap_eq_of_mem_iff hsweeping.heap _ (pairwise_shift hstart.heap) hmem
    rw [List.map_map]
    exact hstart.heap.devices_nodup
  case currentFrames => exact hcurrent
  case currentMax =>
    obtain ⟨currentMax, hmax, -⟩ := hsweeping.running
    obtain ⟨currentMax', hmax', -⟩ := hstart.running
    have hfinset : lists.keys.toFinset = full.keys.toFinset := by
      rw [hkeys]
    have hlatest : ∀ (sources others : Finset String) (h : sources = others)
        (hne : sources.Nonempty) (hne' : others.Nonempty) (t : String → ℤ),
        latest hne t = latest hne' t := by
      rintro sources others rfl hne hne' t
      rfl
    rw [hmax, hmax', ← hsweeping.latest_current hmax, ← hstart.latest_current hmax', hcurrent]
    exact congrArg some (hlatest _ _ hfinset.symm _ _ _)
  case best => exact Or.inr ⟨hunpassed'.beyond, hunpassed.beyond⟩

theorem remaining_shift (hshort : Shortened offset full lists) (heap : List HeapEntry) :
    remaining full (heap.map (HeapEntry.shift offset)) = remaining lists heap := by
  unfold remaining
  rw [List.map_map]
  congr 1
  apply List.map_congr_left
  intro entry _
  simp only [Function.comp_apply, HeapEntry.shift, hshort.get?_eq]
  cases full.get? entry.deviceId with
  | none => simp
  | some candidates =>
      simp only [Option.map_some, Option.getD_some, List.length_drop]
      omega

/-- The sweep over the full lists ends like the one over the lists without dead candidates. -/
theorem agree_of_unpassed (hwindow : 0 ≤ windowMs) (hlists : Candidates lists)
    (hfull : Candidates full) (hshort : Shortened offset full lists)
    (hdead : DeadPrefix hfull.nonempty offset windowMs) {fuel : ℕ}
    (hfuel : remaining lists (sweepStart lists).heap < fuel) (fuel' : ℕ) (state : SweepState)
    (hsweeping : Sweeping hfull.nonempty state)
    (hunpassed : Unpassed full offset windowMs state)
    (hfuel' : remaining full state.heap < fuel') :
    Agree windowMs (sweep lists fuel (sweepStart lists)).best (sweep full fuel' state).best := by
  induction fuel' generalizing state with
  | zero => exact absurd hfuel' (Nat.not_lt_zero _)
  | succ fuel' ih =>
      obtain ⟨currentMax, hmax, -, e, he, -⟩ := hsweeping.running
      cases hheap : state.heap with
      | nil =>
          rw [hheap] at he
          cases he
      | cons entry heap =>
          by_cases hindex : entry.index < offset entry.deviceId
          · -- A dead frame is popped: the sweep goes on and has remembered nothing of use.
            have hspan := beyond_of_dead hdead hsweeping hheap hmax hindex
            have hentry : entry ∈ state.heap := by
              rw [hheap]
              exact List.mem_cons_self
            obtain ⟨-, hframe, candidates, hcandidates, -⟩ := hsweeping.heap.entry entry hentry
            have halive := hdead.alive _ _ hcandidates
            obtain ⟨next, hnext⟩ : ∃ next, candidates[entry.index + 1]? = some next :=
              ⟨_, List.getElem?_eq_getElem (by omega)⟩
            have hlookup : ((full.get? entry.deviceId).getD [])[entry.index + 1]? = some next := by
              rw [hcandidates]
              exact hnext
            have hnonzero : ¬(state.improvedBy (currentMax - entry.timestampMs) = true ∧
                currentMax - entry.timestampMs = 0) := by
              rintro ⟨-, hzero⟩
              omega
            simp only [sweep, hheap, hmax, hlookup]
            rw [if_neg hnonzero]
            apply ih _ (hsweeping.advance hfull hheap hmax hlookup)
            · constructor
              case keyed =>
                intro x hx
                rcases mem_heappush.mp hx with rfl | hx
                · rfl
                · apply hunpassed.keyed x
                  rw [hheap]
                  exact List.mem_cons_of_mem _ hx
              case index_le =>
                intro x hx
                rcases mem_heappush.mp hx with rfl | hx
                · exact hindex
                · apply hunpassed.index_le x
                  rw [hheap]
                  exact List.mem_cons_of_mem _ hx
              case keys =>
                rw [SweepState.currentFrames_advance, Dict.keys_set_of_mem, hunpassed.keys]
                exact (Dict.mem_keys_iff _).mpr ⟨_, hframe⟩
              case beyond => exact hunpassed.beyond.remember hspan
            · have hlt := (List.getElem?_eq_some_iff.mp hlookup).1
              rw [hheap] at hfuel'
              simp only [SweepState.advance, remaining_heappush]
              simp only [remaining, List.map_cons, List.sum_cons] at hfuel' ⊢
              omega
          · have hpassed := index_eq_of_head hdead hsweeping hunpassed hheap hindex
            have hfollows := follows_of_passed hlists hfull hshort hsweeping hunpassed hpassed
            apply agree_sweep hwindow hlists hshort fuel (fuel' + 1) _ state
              (sweeping_sweepStart hlists hlists.nonempty) hfollows hfuel
            rw [hfollows.heap, remaining_shift hshort] at hfuel'
            exact hfuel'

/-- **Dead candidates do not change the selection.** -/
theorem agree_sweepStart (hwindow : 0 ≤ windowMs) (hlists : Candidates lists)
    (hfull : Candidates full) (hshort : Shortened offset full lists)
    (hdead : DeadPrefix hfull.nonempty offset windowMs) :
    Agree windowMs (sweep lists (candidateCount lists) (sweepStart lists)).best
      (sweep full (candidateCount full) (sweepStart full)).best := by
  have hfuel : ∀ {swept : Dict String (List StoredSyncFrame)} (_ : Candidates swept),
      remaining swept (sweepStart swept).heap < candidateCount swept := by
    intro swept h
    have hstart := sweeping_sweepStart h h.nonempty
    have hle := remaining_le swept hstart.heap
    obtain ⟨c, hc⟩ := h.nonempty
    obtain ⟨e, he, -⟩ := hstart.covered c (List.mem_toFinset.mp hc)
    have hpos := List.length_pos_of_mem he
    omega
  exact agree_of_unpassed hwindow hlists hfull hshort hdead (hfuel hlists) _ _
    (sweeping_sweepStart hfull hfull.nonempty) (unpassed_sweepStart hfull) (hfuel hfull)

end Sweeps

end ImageStream
