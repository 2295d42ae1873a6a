/-
# Pieces of a stream

Frames that are cut out of a stream one after the other do not overlap, and they occur in the
stream in their order. Whatever a scanner forgets at the cuts of the stream, what it finds are
such pieces, each from an opening marker to the first closing one behind it. It can lose frames,
but it does not put one together from what does not belong together.
-/

import ImageStream.Base.Framing

namespace ImageStream.Base

universe u

variable {α : Type u}

/-- Frames that occur in a stream in their order, without overlap. -/
inductive Pieces : List (List α) → List α → Prop
  | nil (stream : List α) : Pieces [] stream
  | cons (gap frame : List α) {frames : List (List α)} {rest : List α} (h : Pieces frames rest) :
      Pieces (frame :: frames) (gap ++ (frame ++ rest))

namespace Pieces

variable {frames : List (List α)} {stream : List α}

theorem after (h : Pieces frames stream) (gap : List α) : Pieces frames (gap ++ stream) := by
  cases h with
  | nil => exact .nil _
  | cons gap' frame h =>
      rw [← List.append_assoc]
      exact .cons (gap ++ gap') frame h

theorem append (h : Pieces frames stream) {frames' : List (List α)} {stream' : List α}
    (h' : Pieces frames' stream') : Pieces (frames ++ frames') (stream ++ stream') := by
  induction h with
  | nil stream => exact h'.after stream
  | cons gap frame _ ih =>
      rw [List.append_assoc, List.append_assoc]
      exact .cons gap frame ih

/-- Some of the pieces, in their order. -/
theorem sublist (h : Pieces frames stream) {chosen : List (List α)}
    (hchosen : chosen.Sublist frames) : Pieces chosen stream := by
  induction hchosen generalizing stream with
  | slnil => exact h
  | cons frame _ ih =>
      cases h with
      | cons gap _ hrest =>
          rw [← List.append_assoc]
          exact (ih hrest).after _
  | cons_cons frame _ ih =>
      cases h with
      | cons gap _ hrest => exact .cons gap frame (ih hrest)

theorem self (frame : List α) : Pieces [frame] frame := by
  simpa using Pieces.cons [] frame (.nil [])

end Pieces

namespace Markers

variable (m : Markers α)

/-- Whether a stretch is a frame: it begins with the opening marker, and the first closing marker
behind this is its end. -/
def IsFrame (frame : List α) : Prop :=
  ∃ body, frame = [m.lead, m.opens] ++ body ++ [m.lead, m.closes] ∧
    ¬[m.lead, m.closes] <:+: body ++ [m.lead]

/-- The part of the stream that may still belong to a frame. -/
def pending : Scan α → List α
  | .half => [m.lead]
  | s => s.held

/-- Whether what is held of an open frame begins like a frame, with no closing marker yet. -/
def Opened : Scan α → Prop
  | .outside => True
  | .half => True
  | .inside frame => ∃ body, frame = [m.lead, m.opens] ++ body ∧
      ¬[m.lead, m.closes] <:+: body ∧ ¬[m.lead] <:+ body
  | .closing frame => ∃ body, frame = [m.lead, m.opens] ++ (body ++ [m.lead]) ∧
      ¬[m.lead, m.closes] <:+: body ++ [m.lead]

theorem opened_forget {s : Scan α} (h : m.Opened s) : m.Opened s.forget := by
  cases s with
  | half => trivial
  | outside => exact h
  | inside frame => exact h
  | closing frame => exact h

/-- What is forgotten is in no frame. -/
theorem exists_pending_forget (s : Scan α) :
    ∃ dropped, m.pending s = dropped ++ m.pending s.forget := by
  cases s with
  | half => exact ⟨[m.lead], rfl⟩
  | outside => exact ⟨[], rfl⟩
  | inside frame => exact ⟨[], rfl⟩
  | closing frame => exact ⟨[], rfl⟩

/-- A closing marker that ends with one more element has its lead before it. -/
theorem closing_infix_concat {body : List α} {a : α} (h : [m.lead, m.closes] <:+: body ++ [a]) :
    [m.lead, m.closes] <:+: body ∨ (a = m.closes ∧ [m.lead] <:+ body) := by
  rcases List.infix_concat_iff.mp h with hsuffix | hinfix
  · obtain ⟨before, hsplit⟩ := hsuffix
    have hcut : before ++ [m.lead] ++ [m.closes] = body ++ [a] := by
      rw [← hsplit]
      simp
    obtain ⟨hbody, hlast⟩ := List.append_inj' hcut rfl
    exact Or.inr ⟨(List.singleton_injective hlast).symm, before, hbody⟩
  · exact Or.inl hinfix

/-- An element that is not the second one of a marker that stands half completes none. -/
theorem not_closing_infix_concat {body : List α} {a : α} (h : ¬[m.lead, m.closes] <:+: body)
    (ha : a = m.closes → ¬[m.lead] <:+ body) : ¬[m.lead, m.closes] <:+: body ++ [a] := by
  intro hinfix
  rcases m.closing_infix_concat hinfix with hold | ⟨hcloses, hlead⟩
  · exact h hold
  · exact ha hcloses hlead

theorem not_lead_suffix_concat {body : List α} {a : α} (ha : a ≠ m.lead) :
    ¬[m.lead] <:+ body ++ [a] := by
  rintro ⟨before, hsplit⟩
  exact ha (List.singleton_injective (List.append_inj' hsplit rfl).2).symm

variable [DecidableEq α]

theorem opened_step {s : Scan α} (h : m.Opened s) (a : α) :
    m.Opened (m.step s a).1 ∧ ∀ frame ∈ (m.step s a).2, m.IsFrame frame := by
  cases s with
  | outside =>
      refine ⟨?_, fun frame hframe => by cases hframe⟩
      unfold step
      dsimp only
      split <;> trivial
  | half =>
      refine ⟨?_, fun frame hframe => by cases hframe⟩
      unfold step
      dsimp only
      split
      case isTrue hopens =>
        refine ⟨[], by rw [hopens]; rfl, fun hinfix => ?_, fun hsuffix => ?_⟩
        · exact absurd (List.infix_nil.mp hinfix) (List.cons_ne_nil _ _)
        · exact absurd (List.suffix_nil.mp hsuffix) (List.cons_ne_nil _ _)
      case isFalse => split <;> trivial
  | inside held =>
      obtain ⟨body, rfl, hnone, hlead⟩ := h
      refine ⟨?_, fun frame hframe => by cases hframe⟩
      unfold step
      dsimp only
      split
      case isTrue hsame =>
        refine ⟨body, by rw [hsame, List.append_assoc], ?_⟩
        exact m.not_closing_infix_concat hnone fun hcloses => absurd hcloses m.lead_ne_closes
      case isFalse hother =>
        exact ⟨body ++ [a], List.append_assoc .., m.not_closing_infix_concat hnone fun _ => hlead,
          m.not_lead_suffix_concat hother⟩
  | closing held =>
      obtain ⟨body, rfl, hnone⟩ := h
      unfold step
      dsimp only
      split
      case isTrue hcloses =>
        refine ⟨trivial, fun frame hframe => ?_⟩
        rw [List.mem_singleton.mp hframe, hcloses]
        exact ⟨body, by simp, hnone⟩
      case isFalse hopen =>
        have hkept : ¬[m.lead, m.closes] <:+: body ++ [m.lead] ++ [a] :=
          m.not_closing_infix_concat hnone fun hcloses => absurd hcloses hopen
        refine ⟨?_, fun frame hframe => by cases hframe⟩
        split
        case isTrue hsame =>
          rw [hsame] at hkept ⊢
          exact ⟨body ++ [m.lead], List.append_assoc .., hkept⟩
        case isFalse hother =>
          exact ⟨body ++ [m.lead] ++ [a], List.append_assoc .., hkept,
            m.not_lead_suffix_concat hother⟩

/-- What an element completes and what it leaves pending is made of what was pending. -/
theorem pieces_step (s : Scan α) (a : α) :
    ∃ consumed, m.pending s ++ [a] = consumed ++ m.pending (m.step s a).1 ∧
      Pieces (m.step s a).2 consumed := by
  cases s with
  | outside =>
      by_cases hlead : a = m.lead
      · exact ⟨[], by simp [step, pending, Scan.held, hlead], .nil []⟩
      · exact ⟨[a], by simp [step, pending, Scan.held, hlead], .nil [a]⟩
  | half =>
      by_cases hopens : a = m.opens
      · exact ⟨[], by simp [step, pending, Scan.held, hopens], .nil []⟩
      · by_cases hlead : a = m.lead
        · exact ⟨[m.lead], by simp [step, pending, hlead, m.lead_ne_opens], .nil _⟩
        · exact ⟨[m.lead, a], by simp [step, pending, Scan.held, hopens, hlead], .nil _⟩
  | inside frame =>
      by_cases hlead : a = m.lead
      · exact ⟨[], by simp [step, pending, Scan.held, hlead], .nil []⟩
      · exact ⟨[], by simp [step, pending, Scan.held, hlead], .nil []⟩
  | closing frame =>
      by_cases hcloses : a = m.closes
      · refine ⟨frame ++ [a], by simp [step, pending, Scan.held, hcloses], ?_⟩
        rw [step, if_pos hcloses]
        exact .self _
      · refine ⟨[], ?_, ?_⟩
        · by_cases hlead : a = m.lead
          · simp [step, pending, Scan.held, hlead, m.lead_ne_closes]
          · simp [step, pending, Scan.held, hcloses, hlead]
        · rw [step, if_neg hcloses]
          exact .nil []

theorem opened_scan {s : Scan α} (h : m.Opened s) (stretch : List α) :
    m.Opened (m.scan s stretch).1 ∧ ∀ frame ∈ (m.scan s stretch).2, m.IsFrame frame := by
  induction stretch generalizing s with
  | nil => exact ⟨h, fun frame hframe => by cases hframe⟩
  | cons a rest ih =>
      obtain ⟨hopened, hframes⟩ := m.opened_step h a
      obtain ⟨hlast, hmore⟩ := ih hopened
      refine ⟨hlast, fun frame hframe => ?_⟩
      rw [scan_cons] at hframe
      rcases List.mem_append.mp hframe with hfirst | hlater
      · exact hframes frame hfirst
      · exact hmore frame hlater

theorem pieces_scan (s : Scan α) (stretch : List α) :
    ∃ consumed, m.pending s ++ stretch = consumed ++ m.pending (m.scan s stretch).1 ∧
      Pieces (m.scan s stretch).2 consumed := by
  induction stretch generalizing s with
  | nil => exact ⟨[], by simp, .nil []⟩
  | cons a rest ih =>
      obtain ⟨first, hfirst, hpieces⟩ := m.pieces_step s a
      obtain ⟨second, hsecond, hmore⟩ := ih (m.step s a).1
      refine ⟨first ++ second, ?_, hpieces.append hmore⟩
      rw [List.append_cons, hfirst, List.append_assoc, hsecond, List.append_assoc, scan_cons]

/-- **Pieces.** The frames that are found in the chunks of a stream are pieces of the stream,
however it is cut. -/
theorem pieces_scanCut (s : Scan α) (chunks : List (List α)) :
    Pieces (m.scanCut s chunks) (m.pending s ++ chunks.flatten) := by
  induction chunks generalizing s with
  | nil => exact .nil _
  | cons chunk chunks ih =>
      obtain ⟨consumed, hsplit, hpieces⟩ := m.pieces_scan s chunk
      obtain ⟨dropped, hdropped⟩ := m.exists_pending_forget (m.scan s chunk).1
      rw [scanCut, List.flatten_cons, ← List.append_assoc, hsplit, hdropped, List.append_assoc,
        List.append_assoc]
      exact hpieces.append ((ih _).after dropped)

theorem isFrame_of_mem_scanCut {s : Scan α} (h : m.Opened s) (chunks : List (List α)) :
    ∀ frame ∈ m.scanCut s chunks, m.IsFrame frame := by
  induction chunks generalizing s with
  | nil => exact fun frame hframe => by cases hframe
  | cons chunk chunks ih =>
      obtain ⟨hopened, hframes⟩ := m.opened_scan h chunk
      intro frame hframe
      rcases List.mem_append.mp hframe with hfirst | hlater
      · exact hframes frame hfirst
      · exact ih (m.opened_forget hopened) frame hlater

end Markers

end ImageStream.Base
