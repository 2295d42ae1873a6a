/-
# Spans of choices

Several sources each offer candidates that are ordered by time, and one candidate
is chosen from each. The span of the choice is the time from its earliest to its
latest candidate. This module compares choices by their span first and by their
earliest time second, and proves the fact that a sweep over the sources rests on:
a choice that lies nowhere below the current one, and agrees with it at the source
of the current earliest candidate, ranks no better.

A choice enters only through its times, so it is a function from sources to times.
-/

import Mathlib.Algebra.Order.Group.Defs
import Mathlib.Data.Finset.Max
import Mathlib.Data.Finset.Lattice.Fold

namespace ImageStream.Base.MinSpan

universe u v

variable {κ : Type u} {τ : Type v} [LinearOrder τ]

section Extremes

variable {sources : Finset κ} (hne : sources.Nonempty) (t : κ → τ)

/-- The latest time of a choice. -/
def latest : τ := sources.sup' hne t

/-- The earliest time of a choice. -/
def earliest : τ := sources.inf' hne t

variable {t}

theorem le_latest {c : κ} (hc : c ∈ sources) : t c ≤ latest hne t :=
  Finset.le_sup' t hc

theorem earliest_le {c : κ} (hc : c ∈ sources) : earliest hne t ≤ t c :=
  Finset.inf'_le t hc

theorem latest_le {bound : τ} (h : ∀ c ∈ sources, t c ≤ bound) : latest hne t ≤ bound :=
  Finset.sup'_le hne t h

theorem le_earliest {bound : τ} (h : ∀ c ∈ sources, bound ≤ t c) : bound ≤ earliest hne t :=
  Finset.le_inf' hne t h

/-- Later candidates everywhere make the latest one later. -/
theorem latest_mono {x : κ → τ} (h : ∀ c ∈ sources, t c ≤ x c) :
    latest hne t ≤ latest hne x :=
  latest_le hne fun c hc => (h c hc).trans (le_latest hne hc)

/-- Later candidates everywhere make the earliest one later. -/
theorem earliest_mono {x : κ → τ} (h : ∀ c ∈ sources, t c ≤ x c) :
    earliest hne t ≤ earliest hne x :=
  le_earliest hne fun c hc => (earliest_le hne hc).trans (h c hc)

/-- The time at a source that is nowhere undercut is the earliest one. -/
theorem earliest_eq {m : κ} (hm : m ∈ sources) (hmin : ∀ c ∈ sources, t m ≤ t c) :
    earliest hne t = t m :=
  le_antisymm (earliest_le hne hm) (le_earliest hne hmin)

/-- The time at a source that is nowhere exceeded is the latest one. -/
theorem latest_eq {m : κ} (hm : m ∈ sources) (hmax : ∀ c ∈ sources, t c ≤ t m) :
    latest hne t = t m :=
  le_antisymm (latest_le hne hmax) (le_latest hne hm)

theorem isGreatest_latest : IsGreatest (Set.image t sources) (latest hne t) := by
  obtain ⟨c, hc, heq⟩ := Finset.exists_mem_eq_sup' hne t
  refine ⟨⟨c, hc, heq.symm⟩, ?_⟩
  rintro _ ⟨other, hother, rfl⟩
  exact le_latest hne hother

theorem isLeast_earliest : IsLeast (Set.image t sources) (earliest hne t) := by
  obtain ⟨c, hc, heq⟩ := Finset.exists_mem_eq_inf' hne t
  refine ⟨⟨c, hc, heq.symm⟩, ?_⟩
  rintro _ ⟨other, hother, rfl⟩
  exact earliest_le hne hother

theorem earliest_le_latest : earliest hne t ≤ latest hne t := by
  obtain ⟨c, hc⟩ := hne
  exact (earliest_le ⟨c, hc⟩ hc).trans (le_latest ⟨c, hc⟩ hc)

theorem earliest_congr {x : κ → τ} (h : ∀ c ∈ sources, t c = x c) :
    earliest hne t = earliest hne x :=
  le_antisymm (earliest_mono hne fun c hc => (h c hc).le)
    (earliest_mono hne fun c hc => (h c hc).ge)

theorem latest_congr {x : κ → τ} (h : ∀ c ∈ sources, t c = x c) :
    latest hne t = latest hne x :=
  le_antisymm (latest_mono hne fun c hc => (h c hc).le)
    (latest_mono hne fun c hc => (h c hc).ge)

end Extremes

/-! ## Spans -/

section Spans

variable [AddCommGroup τ] [IsOrderedAddMonoid τ] {sources : Finset κ} (hne : sources.Nonempty)

/-- The time from the earliest to the latest candidate of a choice. -/
def span (t : κ → τ) : τ := latest hne t - earliest hne t

omit [IsOrderedAddMonoid τ] in
theorem span_congr {t x : κ → τ} (h : ∀ c ∈ sources, t c = x c) :
    span hne t = span hne x := by
  unfold span
  rw [latest_congr hne h, earliest_congr hne h]

omit [IsOrderedAddMonoid τ] in
/-- Spans and earliest times are those of the set of sources, however it is given. -/
theorem span_earliest_of_eq {others : Finset κ} (h : sources = others)
    (hne' : others.Nonempty) (t : κ → τ) :
    span hne t = span hne' t ∧ earliest hne t = earliest hne' t := by
  subst h
  exact ⟨rfl, rfl⟩

theorem span_nonneg (t : κ → τ) : 0 ≤ span hne t :=
  sub_nonneg.mpr (earliest_le_latest hne)

/-- The choice `t` ranks no worse than `x`: its span is smaller, or the spans are
equal and its earliest candidate is no later. -/
def NoWorse (t x : κ → τ) : Prop :=
  span hne t < span hne x ∨ span hne t = span hne x ∧ earliest hne t ≤ earliest hne x

omit [IsOrderedAddMonoid τ] in
theorem NoWorse.span_le {t x : κ → τ} (h : NoWorse hne t x) : span hne t ≤ span hne x :=
  h.elim le_of_lt fun heq => heq.1.le

omit [IsOrderedAddMonoid τ] in
theorem NoWorse.trans {t x y : κ → τ} (htx : NoWorse hne t x) (hxy : NoWorse hne x y) :
    NoWorse hne t y := by
  rcases htx with hlt | ⟨heq, hle⟩
  · exact Or.inl (hlt.trans_le hxy.span_le)
  · rcases hxy with hlt | ⟨heq', hle'⟩
    · exact Or.inl (heq.trans_lt hlt)
    · exact Or.inr ⟨heq.trans heq', hle.trans hle'⟩

/-- A choice that lies nowhere below the current one, and not above it at the
source of the current earliest candidate, ranks no better than the current one. -/
theorem noWorse_of_pointwise {t x : κ → τ} {m : κ} (hm : m ∈ sources)
    (hmin : ∀ c ∈ sources, t m ≤ t c) (h : ∀ c ∈ sources, t c ≤ x c) (hx : x m ≤ t m) :
    NoWorse hne t x := by
  have hlatest : latest hne t ≤ latest hne x := latest_mono hne h
  have hearliest : earliest hne x = earliest hne t := by
    apply le_antisymm
    · calc earliest hne x ≤ x m := earliest_le hne hm
        _ ≤ t m := hx
        _ = earliest hne t := (earliest_eq hne hm hmin).symm
    · exact earliest_mono hne h
  have hspan : span hne t ≤ span hne x := by
    unfold span
    rw [hearliest]
    exact sub_le_sub_right hlatest _
  rcases hspan.lt_or_eq with hlt | heq
  · exact Or.inl hlt
  · exact Or.inr ⟨heq, hearliest.ge⟩

/-- Nothing that lies nowhere below a choice of span zero ranks better. -/
theorem noWorse_of_span_zero {t x : κ → τ} (hzero : span hne t = 0)
    (h : ∀ c ∈ sources, t c ≤ x c) : NoWorse hne t x := by
  rcases (span_nonneg hne x).lt_or_eq with hlt | heq
  · exact Or.inl (hzero.trans_lt hlt)
  · exact Or.inr ⟨hzero.trans heq, earliest_mono hne h⟩

end Spans

end ImageStream.Base.MinSpan
