/-
# Frames between two-element markers

A stream in which a frame starts with one marker and ends with another, where both
markers have two elements and share the first one. The scanner reads the stream element
by element. It is the reference for splitters that search a buffer.

A splitter that drops what is not part of a frame whenever a chunk ends forgets the first
element of an opening marker that the cut has severed. It loses the frame of that marker,
or the beginning of it, if the frame ends at all; otherwise cuts do no harm.
-/

import Mathlib.Data.List.Infix
import Mathlib.Tactic.Basic

namespace ImageStream.Base

universe u

/-- An opening and a closing marker with a common first element. -/
structure Markers (α : Type u) where
  lead : α
  opens : α
  closes : α
  lead_ne_opens : lead ≠ opens
  lead_ne_closes : lead ≠ closes
  opens_ne_closes : opens ≠ closes

/-- Where a scanner is: outside of any frame, or in one that it has read so far. In two of
the states it has just read the first element of a marker. -/
inductive Scan (α : Type u)
  | outside
  | half
  | inside (frame : List α)
  | closing (frame : List α)

namespace Scan

variable {α : Type u}

/-- What is left of a state when the first element of an opening marker is dropped. -/
def forget : Scan α → Scan α
  | .half => .outside
  | s => s

/-- The part of the stream that belongs to an open frame. -/
def held : Scan α → List α
  | .inside frame => frame
  | .closing frame => frame
  | _ => []

end Scan

/-- Where a pattern occurs first. -/
def findInfix {α : Type u} [DecidableEq α] (pattern : List α) : List α → Option ℕ
  | [] => if pattern = [] then some 0 else none
  | a :: rest =>
      if pattern <+: a :: rest then some 0 else (findInfix pattern rest).map (· + 1)

/-- An occurrence of a pattern has room for it. -/
theorem findInfix_eq_some {α : Type u} [DecidableEq α] {pattern items : List α} {i : ℕ}
    (h : findInfix pattern items = some i) :
    i + pattern.length ≤ items.length ∧ (items.drop i).take pattern.length = pattern := by
  induction items generalizing i with
  | nil =>
      unfold findInfix at h
      split at h
      · rename_i hempty
        cases h
        simp [hempty]
      · cases h
  | cons a rest ih =>
      unfold findInfix at h
      split at h
      · rename_i hprefix
        cases h
        exact ⟨by simpa using hprefix.length_le, (List.prefix_iff_eq_take.mp hprefix).symm⟩
      · obtain ⟨j, hj, rfl⟩ := Option.map_eq_some_iff.mp h
        obtain ⟨hroom, hfound⟩ := ih hj
        refine ⟨?_, hfound⟩
        rw [List.length_cons]
        omega

namespace Markers

variable {α : Type u}

/-- The first scanner has missed where the frame of the second one starts. -/
inductive Behind : Scan α → Scan α → Prop
  | outside_inside (frame : List α) (h : 2 ≤ frame.length) : Behind .outside (.inside frame)
  | outside_closing (frame : List α) (h : 2 ≤ frame.length) : Behind .outside (.closing frame)
  | half_closing (frame : List α) (h : 3 ≤ frame.length) : Behind .half (.closing frame)
  | inside_inside (shorter frame : List α) (h : shorter.length < frame.length) :
      Behind (.inside shorter) (.inside frame)
  | closing_closing (shorter frame : List α) (h : shorter.length < frame.length) :
      Behind (.closing shorter) (.closing frame)

/-- Two scanners of which one may have missed an opening marker, or the first element of
one. -/
inductive Near : Scan α → Scan α → Prop
  | same (s : Scan α) : Near s s
  | forgotten : Near .outside .half
  | behind {t s : Scan α} (h : Behind t s) : Near t s

/-- How many elements the frames have together. -/
def size (frames : List (List α)) : ℕ := frames.flatten.length

@[simp]
theorem size_nil : size ([] : List (List α)) = 0 := rfl

@[simp]
theorem size_append (first second : List (List α)) :
    size (first ++ second) = size first + size second := by
  simp [size]

theorem size_singleton (frame : List α) : size [frame] = frame.length := by
  simp [size]

theorem Behind.forget {t s : Scan α} (h : Behind t s) : Behind t.forget s := by
  cases h with
  | outside_inside frame h => exact .outside_inside frame h
  | outside_closing frame h => exact .outside_closing frame h
  | half_closing frame h => exact .outside_closing frame (by omega)
  | inside_inside shorter frame h => exact .inside_inside shorter frame h
  | closing_closing shorter frame h => exact .closing_closing shorter frame h

theorem Near.forget {t s : Scan α} (h : Near t s) : Near t.forget s := by
  cases h with
  | same =>
      cases t with
      | half => exact .forgotten
      | outside => exact .same _
      | inside frame => exact .same _
      | closing frame => exact .same _
  | forgotten => exact .forgotten
  | behind h => exact .behind h.forget

variable [DecidableEq α] (m : Markers α)

/-- The next state, and the frame that the element has completed. -/
def step : Scan α → α → Scan α × List (List α)
  | .outside, a => (if a = m.lead then .half else .outside, [])
  | .half, a =>
      (if a = m.opens then .inside [m.lead, a] else if a = m.lead then .half else .outside, [])
  | .inside frame, a =>
      (if a = m.lead then .closing (frame ++ [a]) else .inside (frame ++ [a]), [])
  | .closing frame, a =>
      if a = m.closes then (.outside, [frame ++ [a]])
      else (if a = m.lead then .closing (frame ++ [a]) else .inside (frame ++ [a]), [])

/-- The state after a stretch of the stream, and the frames completed in it. -/
def scan (s : Scan α) : List α → Scan α × List (List α)
  | [] => (s, [])
  | a :: rest =>
      let (next, frames) := m.step s a
      let (final, more) := scan next rest
      (final, frames ++ more)

/-- The frames that are found when every chunk's end is forgotten. -/
def scanCut (s : Scan α) : List (List α) → List (List α)
  | [] => []
  | chunk :: chunks =>
      (m.scan s chunk).2 ++ scanCut (m.scan s chunk).1.forget chunks

/-- Whether a cut severs an opening marker whose frame is completed later on. -/
def Severs (s : Scan α) (chunks : List (List α)) : Prop :=
  ∃ before after rest, chunks = before ++ after ∧ (m.scan s before.flatten).1 = .half ∧
    after.flatten = m.opens :: rest ∧ [m.lead, m.closes] <:+: rest

@[simp]
theorem scan_nil (s : Scan α) : m.scan s [] = (s, []) := rfl

theorem scan_cons (s : Scan α) (a : α) (rest : List α) :
    m.scan s (a :: rest) =
      ((m.scan (m.step s a).1 rest).1, (m.step s a).2 ++ (m.scan (m.step s a).1 rest).2) := rfl

theorem scan_append (s : Scan α) (first second : List α) :
    m.scan s (first ++ second) =
      ((m.scan (m.scan s first).1 second).1,
        (m.scan s first).2 ++ (m.scan (m.scan s first).1 second).2) := by
  induction first generalizing s with
  | nil => rfl
  | cons a first ih => simp [scan_cons, ih]

/-! ## A scanner that has missed an opening marker -/

/-- The frame that the second scanner completes is the longer one. -/
theorem Behind.step {m : Markers α} {t s : Scan α} (h : Behind t s) (a : α) :
    ((m.step t a).2 = [] ∧ (m.step s a).2 = [] ∧ Behind (m.step t a).1 (m.step s a).1) ∨
      ((m.step t a).1 = (m.step s a).1 ∧ size (m.step t a).2 < size (m.step s a).2) := by
  have hlead := m.lead_ne_closes
  have hopens := m.opens_ne_closes
  cases h with
  | outside_inside frame h =>
      left
      by_cases ha : a = m.lead
      · simp only [Markers.step, ha, if_true, true_and]
        exact .half_closing _ (by simpa using h)
      · simp only [Markers.step, ha, if_false, true_and]
        exact .outside_inside _ (by simp; omega)
  | outside_closing frame h =>
      by_cases hcloses : a = m.closes
      · right
        simp [Markers.step, hcloses, hlead.symm, size_singleton]
      · left
        by_cases ha : a = m.lead
        · simp only [Markers.step, ha, hlead, if_true, if_false, true_and]
          exact .half_closing _ (by simpa using h)
        · simp only [Markers.step, hcloses, ha, if_false, true_and]
          exact .outside_inside _ (by simp; omega)
  | half_closing frame h =>
      by_cases hcloses : a = m.closes
      · right
        simp [Markers.step, hcloses, hlead.symm, hopens.symm, size_singleton]
      · left
        by_cases hopen : a = m.opens
        · simp only [Markers.step, hopen, hopens, m.lead_ne_opens.symm, if_true, if_false, true_and]
          exact .inside_inside _ _ (by simp; omega)
        · by_cases ha : a = m.lead
          · simp only [Markers.step, ha, hlead, m.lead_ne_opens, if_true, if_false, true_and]
            exact .half_closing _ (by simp; omega)
          · simp only [Markers.step, hcloses, hopen, ha, if_false, true_and]
            exact .outside_inside _ (by simp; omega)
  | inside_inside shorter frame h =>
      left
      by_cases ha : a = m.lead
      · simp only [Markers.step, ha, if_true, true_and]
        exact .closing_closing _ _ (by simpa using h)
      · simp only [Markers.step, ha, if_false, true_and]
        exact .inside_inside _ _ (by simpa using h)
  | closing_closing shorter frame h =>
      by_cases hcloses : a = m.closes
      · right
        simpa [Markers.step, hcloses, size_singleton] using h
      · left
        by_cases ha : a = m.lead
        · simp only [Markers.step, ha, hlead, if_true, if_false, true_and]
          exact .closing_closing _ _ (by simpa using h)
        · simp only [Markers.step, hcloses, ha, if_false, true_and]
          exact .inside_inside _ _ (by simpa using h)

theorem Near.step {m : Markers α} {t s : Scan α} (h : Near t s) (a : α) :
    Near (m.step t a).1 (m.step s a).1 ∧ size (m.step t a).2 ≤ size (m.step s a).2 := by
  cases h with
  | same => exact ⟨.same _, le_rfl⟩
  | forgotten =>
      by_cases hopen : a = m.opens
      · simp only [Markers.step, hopen, m.lead_ne_opens.symm, if_true, if_false, le_refl, and_true]
        exact .behind (.outside_inside _ (by simp))
      · simp only [Markers.step, hopen, if_false, le_refl, and_true]
        exact .same _
  | behind h =>
      rcases h.step (m := m) a with ⟨ht, hs, hbehind⟩ | ⟨hsame, hsize⟩
      · rw [ht, hs]
        exact ⟨.behind hbehind, le_rfl⟩
      · rw [hsame]
        exact ⟨.same _, hsize.le⟩

theorem Near.scan {m : Markers α} {t s : Scan α} (h : Near t s) (stretch : List α) :
    Near (m.scan t stretch).1 (m.scan s stretch).1 ∧
      size (m.scan t stretch).2 ≤ size (m.scan s stretch).2 := by
  induction stretch generalizing t s with
  | nil => exact ⟨h, le_rfl⟩
  | cons a stretch ih =>
      obtain ⟨hnext, hframes⟩ := h.step (m := m) a
      obtain ⟨hfinal, hmore⟩ := ih hnext
      simp only [scan_cons, size_append]
      exact ⟨hfinal, Nat.add_le_add hframes hmore⟩

/-- Nothing is gained by forgetting. -/
theorem Near.size_scanCut {m : Markers α} {t s : Scan α} (h : Near t s)
    (chunks : List (List α)) :
    size (m.scanCut t chunks) ≤ size (m.scan s chunks.flatten).2 := by
  induction chunks generalizing t s with
  | nil => exact le_rfl
  | cons chunk chunks ih =>
      obtain ⟨hnear, hframes⟩ := h.scan (m := m) chunk
      have hmore := ih hnear.forget
      simp only [scanCut, List.flatten_cons, scan_append, size_append]
      exact Nat.add_le_add hframes hmore

theorem Behind.scan {m : Markers α} {t s : Scan α} (h : Behind t s) (stretch : List α) :
    ((m.scan t stretch).2 = [] ∧ (m.scan s stretch).2 = [] ∧
        Behind (m.scan t stretch).1 (m.scan s stretch).1) ∨
      (Near (m.scan t stretch).1 (m.scan s stretch).1 ∧
        size (m.scan t stretch).2 < size (m.scan s stretch).2) := by
  induction stretch generalizing t s with
  | nil => exact .inl ⟨rfl, rfl, h⟩
  | cons a stretch ih =>
      simp only [scan_cons, size_append]
      rcases h.step (m := m) a with ⟨ht, hs, hbehind⟩ | ⟨hsame, hsize⟩
      · simp only [ht, hs, List.nil_append, size_nil, Nat.zero_add]
        exact ih hbehind
      · right
        rw [hsame]
        exact ⟨.same _, Nat.add_lt_add_right hsize _⟩

/-- A scanner that has missed an opening marker misses what the frame of this marker has,
once the frame is complete. -/
theorem Behind.scanCut {m : Markers α} {t s : Scan α} (h : Behind t s)
    (chunks : List (List α)) :
    (m.scanCut t chunks = [] ∧ (m.scan s chunks.flatten).2 = []) ∨
      size (m.scanCut t chunks) < size (m.scan s chunks.flatten).2 := by
  induction chunks generalizing t s with
  | nil => exact .inl ⟨rfl, rfl⟩
  | cons chunk chunks ih =>
      simp only [Markers.scanCut, List.flatten_cons, scan_append, size_append]
      rcases h.scan (m := m) chunk with ⟨ht, hs, hbehind⟩ | ⟨hnear, hsize⟩
      · simp only [ht, hs, List.nil_append, size_nil, Nat.zero_add]
        exact ih hbehind.forget
      · right
        exact Nat.add_lt_add_of_lt_of_le hsize (hnear.forget.size_scanCut chunks)

/-! ## Frames that are completed -/

/-- An open frame is completed by the next closing marker. -/
theorem scan_open_eq_nil_iff (frame stretch : List α) :
    ((m.scan (.inside frame) stretch).2 = [] ↔ ¬[m.lead, m.closes] <:+: stretch) ∧
      ((m.scan (.closing frame) stretch).2 = [] ↔ ¬[m.lead, m.closes] <:+: m.lead :: stretch) := by
  induction stretch generalizing frame with
  | nil => simp [List.infix_cons_iff, List.cons_prefix_cons]
  | cons a stretch ih =>
      have hlead := m.lead_ne_closes
      constructor
      · by_cases ha : a = m.lead
        · simp only [scan_cons, step, ha, if_true, List.nil_append]
          exact (ih _).2
        · simp only [scan_cons, step, ha, if_false, List.nil_append, (ih _).1]
          simp [List.infix_cons_iff, List.cons_prefix_cons, Ne.symm ha]
      · by_cases hcloses : a = m.closes
        · simp [scan_cons, step, hcloses, List.infix_cons_iff, List.cons_prefix_cons]
        · by_cases ha : a = m.lead
          · simp only [scan_cons, step, ha, hlead, if_true, if_false, List.nil_append, (ih _).2]
            rw [@List.infix_cons_iff _ _ _ (m.lead :: stretch)]
            simp [List.cons_prefix_cons, hlead.symm]
          · simp only [scan_cons, step, hcloses, ha, if_false, List.nil_append, (ih _).1]
            simp [List.infix_cons_iff, List.cons_prefix_cons, Ne.symm ha, Ne.symm hcloses]

/-! ## What cuts do -/

theorem severs_nil_cons (s : Scan α) (chunks : List (List α)) :
    m.Severs s ([] :: chunks) ↔ m.Severs s chunks := by
  constructor
  · rintro ⟨before, after, rest, hsplit, hhalf, hopens, hcloses⟩
    cases before with
    | nil =>
        obtain rfl : [] :: chunks = after := hsplit
        exact ⟨[], chunks, rest, rfl, hhalf, hopens, hcloses⟩
    | cons chunk before =>
        obtain ⟨rfl, rfl⟩ : [] = chunk ∧ chunks = before ++ after := List.cons_eq_cons.mp hsplit
        exact ⟨before, after, rest, rfl, hhalf, hopens, hcloses⟩
  · rintro ⟨before, after, rest, rfl, hhalf, hopens, hcloses⟩
    exact ⟨[] :: before, after, rest, rfl, hhalf, hopens, hcloses⟩

/-- A marker that is not severed in front of the first chunk is severed behind it. -/
theorem severs_cons (s : Scan α) (chunk : List α) (chunks : List (List α))
    (hfirst : ∀ rest, s = .half → (chunk :: chunks).flatten ≠ m.opens :: rest) :
    m.Severs s (chunk :: chunks) ↔ m.Severs (m.scan s chunk).1 chunks := by
  constructor
  · rintro ⟨before, after, rest, hsplit, hhalf, hopens, hcloses⟩
    cases before with
    | nil =>
        obtain rfl : chunk :: chunks = after := hsplit
        exact absurd hopens (hfirst rest hhalf)
    | cons chunk' before =>
        obtain ⟨rfl, rfl⟩ : chunk = chunk' ∧ chunks = before ++ after :=
          List.cons_eq_cons.mp hsplit
        rw [List.flatten_cons, scan_append] at hhalf
        exact ⟨before, after, rest, rfl, hhalf, hopens, hcloses⟩
  · rintro ⟨before, after, rest, rfl, hhalf, hopens, hcloses⟩
    refine ⟨chunk :: before, after, rest, rfl, ?_, hopens, hcloses⟩
    rw [List.flatten_cons, scan_append]
    exact hhalf

/-- An element that does not complete an opening marker hides what has been forgotten. -/
theorem scan_forget (s : Scan α) {chunk : List α} (hne : chunk ≠ [])
    (hfirst : ∀ rest, s = .half → chunk ≠ m.opens :: rest) :
    m.scan s.forget chunk = m.scan s chunk := by
  cases s with
  | half =>
      cases chunk with
      | nil => exact absurd rfl hne
      | cons a rest =>
          have ha : a ≠ m.opens := by
            rintro rfl
            exact hfirst rest rfl rfl
          simp [scan_cons, Scan.forget, step, ha]
  | outside => rfl
  | inside frame => rfl
  | closing frame => rfl

/-- A frame that is not completed is not missed. -/
theorem not_severs_of_not_infix {rest : List α} {chunks : List (List α)}
    (h : ¬[m.lead, m.closes] <:+: (rest :: chunks).flatten) :
    ¬m.Severs .half ((m.opens :: rest) :: chunks) := by
  rintro ⟨before, after, rest', hsplit, -, hopens, hcloses⟩
  have hflatten : m.opens :: (rest :: chunks).flatten = before.flatten ++ m.opens :: rest' := by
    rw [← hopens, ← List.flatten_append, ← hsplit]
    rfl
  have hsuffix : rest' <:+ (rest :: chunks).flatten := by
    cases hbefore : before.flatten with
    | nil =>
        rw [hbefore] at hflatten
        obtain ⟨-, hrest⟩ := List.cons_eq_cons.mp hflatten
        exact hrest ▸ List.suffix_rfl
    | cons a seen =>
        rw [hbefore] at hflatten
        obtain ⟨-, hrest⟩ := List.cons_eq_cons.mp hflatten
        exact ⟨seen ++ [m.opens], by rw [hrest]; simp⟩
  exact h (hcloses.trans hsuffix.isInfix)

/-- **Cuts.** The frames that are found when every chunk's end is forgotten are those of the
whole stream if and only if no cut severs an opening marker whose frame is completed. -/
theorem scanCut_eq_iff (s : Scan α) (chunks : List (List α)) :
    m.scanCut s.forget chunks = (m.scan s chunks.flatten).2 ↔ ¬m.Severs s chunks := by
  induction chunks generalizing s with
  | nil =>
      refine iff_of_true rfl ?_
      rintro ⟨before, after, rest, hsplit, -, hopens, -⟩
      obtain ⟨rfl, rfl⟩ := List.append_eq_nil_iff.mp hsplit.symm
      cases hopens
  | cons chunk chunks ih =>
      by_cases hempty : chunk = []
      · have hforget : s.forget.forget = s.forget := by cases s <;> rfl
        rw [hempty, severs_nil_cons, ← ih s]
        simp only [scanCut, scan_nil, hforget, List.nil_append, List.flatten_cons]
      · by_cases hsevered : ∃ rest, s = .half ∧ chunk = m.opens :: rest
        · obtain ⟨rest, rfl, rfl⟩ := hsevered
          -- From here on the second scanner is in a frame that the first one has missed.
          have hcut : m.scanCut Scan.half.forget ((m.opens :: rest) :: chunks) =
              m.scanCut .outside (rest :: chunks) := by
            simp [scanCut, scan_cons, step, Scan.forget, m.lead_ne_opens.symm]
          have hwhole : (m.scan .half ((m.opens :: rest) :: chunks).flatten).2 =
              (m.scan (.inside [m.lead, m.opens]) (rest :: chunks).flatten).2 := by
            simp [scan_cons, step]
          have hframe := (m.scan_open_eq_nil_iff [m.lead, m.opens] (rest :: chunks).flatten).1
          have hbehind := (Behind.outside_inside [m.lead, m.opens] le_rfl).scanCut (m := m)
            (rest :: chunks)
          rw [hcut, hwhole]
          by_cases hcloses : [m.lead, m.closes] <:+: (rest :: chunks).flatten
          · refine iff_of_false (fun hsame => ?_)
              (fun hnot => hnot ⟨[], _, _, rfl, rfl, rfl, hcloses⟩)
            rcases hbehind with ⟨-, hnone⟩ | hsize
            · exact absurd hcloses (hframe.mp hnone)
            · rw [hsame] at hsize
              exact lt_irrefl _ hsize
          · have hnone := hframe.mpr hcloses
            rcases hbehind with ⟨hcutNone, -⟩ | hsize
            · exact iff_of_true (hcutNone.trans hnone.symm)
                (m.not_severs_of_not_infix hcloses)
            · rw [hnone] at hsize
              exact absurd hsize (Nat.not_lt_zero _)
        · have hfirst : ∀ rest, s = .half → chunk ≠ m.opens :: rest :=
            fun rest hhalf hchunk => hsevered ⟨rest, hhalf, hchunk⟩
          have hfirst' : ∀ rest, s = .half → (chunk :: chunks).flatten ≠ m.opens :: rest := by
            intro rest hhalf hflatten
            cases chunk with
            | nil => exact hempty rfl
            | cons a chunk =>
                obtain ⟨rfl, -⟩ := List.cons_eq_cons.mp hflatten
                exact hfirst chunk hhalf rfl
          rw [m.severs_cons s chunk chunks hfirst', ← ih (m.scan s chunk).1]
          simp only [scanCut, m.scan_forget s hempty hfirst, List.flatten_cons, scan_append,
            List.append_cancel_left_eq]

/-! ## Searching a buffer -/

/-- The first occurrence of an opening marker starts a frame. -/
theorem scan_outside_of_findInfix (stretch : List α) :
    match findInfix [m.lead, m.opens] stretch with
    | none => (m.scan .outside stretch).2 = [] ∧ (m.scan .outside stretch).1.held = []
    | some i => m.scan .outside stretch =
        m.scan (.inside [m.lead, m.opens]) (stretch.drop (i + 2)) := by
  induction stretch with
  | nil => exact ⟨rfl, rfl⟩
  | cons a stretch ih =>
      have hskip : m.scan .outside (a :: stretch) = m.scan .outside stretch →
          ¬[m.lead, m.opens] <+: a :: stretch →
          match findInfix [m.lead, m.opens] (a :: stretch) with
          | none => (m.scan .outside (a :: stretch)).2 = [] ∧
              (m.scan .outside (a :: stretch)).1.held = []
          | some i => m.scan .outside (a :: stretch) =
              m.scan (.inside [m.lead, m.opens]) ((a :: stretch).drop (i + 2)) := by
        intro hscan hprefix
        rw [findInfix, if_neg hprefix, hscan]
        cases hfind : findInfix [m.lead, m.opens] stretch with
        | none => simpa [hfind] using ih
        | some i => simpa [hfind] using ih
      by_cases ha : a = m.lead
      · cases stretch with
        | nil =>
            rw [findInfix, if_neg (by simp [List.cons_prefix_cons])]
            simp [findInfix, scan_cons, step, ha, Scan.held]
        | cons b stretch =>
            by_cases hb : b = m.opens
            · rw [findInfix, if_pos (by simp [List.cons_prefix_cons, ha, hb])]
              simp [scan_cons, step, ha, hb]
            · -- An element after the first one of a marker is read as if it came alone.
              apply hskip
              · simp [scan_cons, step, ha, hb]
              · simp [List.cons_prefix_cons, Ne.symm hb]
      · apply hskip
        · simp [scan_cons, step, ha]
        · simp [List.cons_prefix_cons, Ne.symm ha]

/-- The first occurrence of a closing marker ends a frame. -/
theorem scan_inside_of_findInfix (frame stretch : List α) :
    match findInfix [m.lead, m.closes] stretch with
    | none => (m.scan (.inside frame) stretch).2 = [] ∧
        (m.scan (.inside frame) stretch).1.held = frame ++ stretch
    | some i => m.scan (.inside frame) stretch =
        ((m.scan .outside (stretch.drop (i + 2))).1,
          (frame ++ stretch.take (i + 2)) :: (m.scan .outside (stretch.drop (i + 2))).2) := by
  induction stretch generalizing frame with
  | nil => exact ⟨rfl, (List.append_nil frame).symm⟩
  | cons a stretch ih =>
      have hskip : m.scan (.inside frame) (a :: stretch) =
            m.scan (.inside (frame ++ [a])) stretch →
          ¬[m.lead, m.closes] <+: a :: stretch →
          match findInfix [m.lead, m.closes] (a :: stretch) with
          | none => (m.scan (.inside frame) (a :: stretch)).2 = [] ∧
              (m.scan (.inside frame) (a :: stretch)).1.held = frame ++ a :: stretch
          | some i => m.scan (.inside frame) (a :: stretch) =
              ((m.scan .outside ((a :: stretch).drop (i + 2))).1,
                (frame ++ (a :: stretch).take (i + 2)) ::
                  (m.scan .outside ((a :: stretch).drop (i + 2))).2) := by
        intro hscan hprefix
        have hrest := ih (frame ++ [a])
        rw [findInfix, if_neg hprefix, hscan]
        cases hfind : findInfix [m.lead, m.closes] stretch with
        | none => simpa [hfind] using hrest
        | some i => simpa [hfind] using hrest
      by_cases ha : a = m.lead
      · cases stretch with
        | nil =>
            rw [findInfix, if_neg (by simp [List.cons_prefix_cons])]
            simp [findInfix, scan_cons, step, ha, Scan.held]
        | cons b stretch =>
            by_cases hb : b = m.closes
            · rw [findInfix, if_pos (by simp [List.cons_prefix_cons, ha, hb])]
              simp [scan_cons, step, ha, hb]
            · apply hskip
              · simp [scan_cons, step, ha, hb]
              · simp [List.cons_prefix_cons, Ne.symm hb]
      · apply hskip
        · simp [scan_cons, step, ha]
        · simp [List.cons_prefix_cons, Ne.symm ha]

/-- Reading an open frame again leads back to it. -/
theorem scan_held (stretch : List α) :
    m.scan .outside (m.scan .outside stretch).1.held =
      ((m.scan .outside stretch).1.forget, []) := by
  induction stretch using List.reverseRecOn with
  | nil => rfl
  | append_singleton stretch a ih =>
      have hsnoc : (m.scan .outside (stretch ++ [a])).1 =
          (m.step (m.scan .outside stretch).1 a).1 := by
        rw [scan_append]
        rfl
      rw [hsnoc]
      cases hstate : (m.scan .outside stretch).1 with
      | outside =>
          by_cases ha : a = m.lead <;> simp [step, ha, Scan.held, Scan.forget]
      | half =>
          by_cases hopen : a = m.opens
          · simp [step, hopen, Scan.held, Scan.forget, scan_cons]
          · by_cases ha : a = m.lead <;>
              simp [step, hopen, ha, m.lead_ne_opens, Scan.held, Scan.forget]
      | inside frame =>
          rw [hstate] at ih
          have hframe : m.scan .outside frame = (.inside frame, []) := ih
          by_cases ha : a = m.lead <;>
            simp [step, ha, Scan.held, Scan.forget, scan_append, hframe, scan_cons]
      | closing frame =>
          rw [hstate] at ih
          have hframe : m.scan .outside frame = (.closing frame, []) := ih
          by_cases hcloses : a = m.closes
          · simp [step, hcloses, Scan.held, Scan.forget]
          · by_cases ha : a = m.lead <;>
              simp [step, hcloses, ha, m.lead_ne_closes, Scan.held, Scan.forget, scan_append,
                hframe, scan_cons]

end Markers

end ImageStream.Base
