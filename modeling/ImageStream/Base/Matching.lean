/-
# Matches within a window

Several sources keep their items in pools. A match takes one item from every source
such that no two of the chosen times are further apart than a window. This module is
about services that take a match out as soon as there is one: a pool that grows by one
item can only be matched with that item, so taking out one match leaves none.

The last section is about forgetting. An item that lies more than the window before a
time that every source has reached can only be matched with other old items, so where
the old items have no match among themselves, no later match uses it.
-/

import ImageStream.Base.MinSpan

namespace ImageStream.Base.Matching

universe u v w

variable {κ : Type u} {α : Type v} {τ : Type w} [AddCommGroup τ] [LinearOrder τ]

/-- No two times of a choice are further apart than the window. -/
def Within (sources : Set κ) (window : τ) (t : κ → τ) : Prop :=
  ∀ c ∈ sources, ∀ d ∈ sources, t c - t d ≤ window

/-- The span of a choice is its greatest difference of times. -/
theorem span_le_iff [IsOrderedAddMonoid τ] {sources : Finset κ} (hne : sources.Nonempty)
    {window : τ} {t : κ → τ} :
    MinSpan.span hne t ≤ window ↔ Within (sources : Set κ) window t := by
  constructor
  · intro h c hc d hd
    calc t c - t d ≤ MinSpan.latest hne t - MinSpan.earliest hne t :=
          sub_le_sub (MinSpan.le_latest hne hc) (MinSpan.earliest_le hne hd)
      _ ≤ window := h
  · intro h
    obtain ⟨c, hc, hlatest⟩ := Finset.exists_mem_eq_sup' hne t
    obtain ⟨d, hd, hearliest⟩ := Finset.exists_mem_eq_inf' hne t
    show MinSpan.latest hne t - MinSpan.earliest hne t ≤ window
    unfold MinSpan.latest MinSpan.earliest
    rw [hlatest, hearliest]
    exact h c hc d hd

/-- One item of each source, within the window. -/
structure IsMatch (time : α → τ) (sources : Set κ) (window : τ) (pool : κ → Set α)
    (choice : κ → α) : Prop where
  mem : ∀ c ∈ sources, choice c ∈ pool c
  within : Within sources window fun c => time (choice c)

/-- Whether the pools have a match. -/
def Matchable (time : α → τ) (sources : Set κ) (window : τ) (pool : κ → Set α) : Prop :=
  ∃ choice, IsMatch time sources window pool choice

variable {time : α → τ} {sources : Set κ} {window : τ} {pool larger : κ → Set α}
  {choice : κ → α}

theorem IsMatch.mono (h : IsMatch time sources window pool choice)
    (hsub : ∀ c ∈ sources, pool c ⊆ larger c) : IsMatch time sources window larger choice :=
  ⟨fun c hc => hsub c hc (h.mem c hc), h.within⟩

theorem Matchable.mono (h : Matchable time sources window pool)
    (hsub : ∀ c ∈ sources, pool c ⊆ larger c) : Matchable time sources window larger := by
  obtain ⟨choice, hchoice⟩ := h
  exact ⟨choice, hchoice.mono hsub⟩

/-! ## One new item -/

/-- The larger pools have at most one item more, this one at its source. -/
def GrownBy (pool larger : κ → Set α) (source : κ) (item : α) : Prop :=
  ∀ c, ∀ x ∈ larger c, x ∈ pool c ∨ c = source ∧ x = item

/-- A match that a new item completes uses it. -/
theorem IsMatch.uses_new (hnone : ¬Matchable time sources window pool) {source : κ} {item : α}
    (hgrown : GrownBy pool larger source item)
    (h : IsMatch time sources window larger choice) :
    source ∈ sources ∧ choice source = item := by
  by_contra hunused
  apply hnone
  refine ⟨choice, fun c hc => ?_, h.within⟩
  rcases hgrown c (choice c) (h.mem c hc) with hold | ⟨rfl, hitem⟩
  · exact hold
  · exact absurd ⟨hc, hitem⟩ hunused

/-- Without the new item there is still no match. -/
theorem not_matchable_of_taken (hnone : ¬Matchable time sources window pool) {source : κ}
    {item : α} (hgrown : GrownBy pool larger source item) {left : κ → Set α}
    (hleft : ∀ c ∈ sources, left c ⊆ larger c) (htaken : item ∉ left source) :
    ¬Matchable time sources window left := by
  rintro ⟨choice, hchoice⟩
  obtain ⟨hsource, hitem⟩ := (hchoice.mono hleft).uses_new hnone hgrown
  apply htaken
  rw [← hitem]
  exact hchoice.mem source hsource

/-! ## Old items -/

/-- A match with an item that lies more than the window before a mark lies before it. -/
theorem IsMatch.lt_mark [IsOrderedAddMonoid τ] (h : IsMatch time sources window pool choice)
    {mark : τ} {d : κ} (hd : d ∈ sources) (hold : time (choice d) < mark - window) {c : κ}
    (hc : c ∈ sources) : time (choice c) < mark :=
  calc time (choice c) = time (choice d) + (time (choice c) - time (choice d)) :=
        (add_sub_cancel _ _).symm
    _ ≤ time (choice d) + window := add_le_add_right (h.within c hc d hd) _
    _ < mark := lt_sub_iff_add_lt.mp hold

/-- Where the pools had no match before and only grew by items from the mark on, no match
uses an item that lies more than the window before the mark. -/
theorem IsMatch.not_old [IsOrderedAddMonoid τ] (hnone : ¬Matchable time sources window pool)
    {mark : τ} (hlater : ∀ c ∈ sources, ∀ x ∈ larger c, x ∈ pool c ∨ mark ≤ time x)
    (h : IsMatch time sources window larger choice) {d : κ} (hd : d ∈ sources) :
    mark - window ≤ time (choice d) := by
  by_contra hold
  rw [not_le] at hold
  apply hnone
  refine ⟨choice, fun c hc => ?_, h.within⟩
  rcases hlater c hc (choice c) (h.mem c hc) with hmem | hmark
  · exact hmem
  · exact absurd hmark (not_le_of_gt (h.lt_mark hd hold hc))

end ImageStream.Base.Matching
