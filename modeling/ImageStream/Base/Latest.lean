/-
# The latest of what has come in

Items with times come in in any order. Two rules are kept about them as they do.

The first lets one item wait: an item that comes in overtakes the waiting ones unless one
of them is later. It is confluent: whatever the order, the latest item waits.

The second opens a group when its first item comes in and closes all other groups with
every item. It is not: the open group is that of the latest item only as long as each item
that comes in is of the latest group, or is later than all others and of a group that has
not been seen.
-/

import Mathlib.Data.Set.Finite.Basic
import Mathlib.Order.Preorder.Finite

namespace ImageStream.Base

universe u v w

variable {ι : Type u} {τ : Type v} {κ : Type w} [LinearOrder τ] (time : ι → τ)

/-- An item that no item is later than. -/
def IsLatest (items : Set ι) (x : ι) : Prop :=
  x ∈ items ∧ ∀ y ∈ items, time y ≤ time x

variable {time}

theorem isLatest_insert_iff {items : Set ι} {k x : ι} :
    IsLatest time (insert k items) x ↔
      (x = k ∧ ∀ y ∈ items, time y ≤ time k) ∨ (IsLatest time items x ∧ time k ≤ time x) := by
  constructor
  · rintro ⟨rfl | hmem, hlatest⟩
    · exact Or.inl ⟨rfl, fun y hy => hlatest y (Set.mem_insert_of_mem _ hy)⟩
    · exact Or.inr ⟨⟨hmem, fun y hy => hlatest y (Set.mem_insert_of_mem _ hy)⟩,
        hlatest k (Set.mem_insert _ _)⟩
  · rintro (⟨rfl, hlatest⟩ | ⟨⟨hmem, hlatest⟩, hle⟩)
    · exact ⟨Set.mem_insert _ _, fun y hy => hy.elim (fun h => h ▸ le_refl _) (hlatest y)⟩
    · exact ⟨Set.mem_insert_of_mem _ hmem, fun y hy => hy.elim (fun h => h ▸ hle) (hlatest y)⟩

theorem IsLatest.unique {items : Set ι} (hinj : Set.InjOn time items) {x y : ι}
    (hx : IsLatest time items x) (hy : IsLatest time items y) : x = y :=
  hinj hx.1 hy.1 (le_antisymm (hy.2 x hx.1) (hx.2 y hy.1))

theorem exists_isLatest (time : ι → τ) {items : Set ι} (hfinite : items.Finite) (hne : items.Nonempty) :
    ∃ x, IsLatest time items x := by
  obtain ⟨x, hx, hlatest⟩ := hfinite.exists_maximalFor time items hne
  exact ⟨x, hx, fun y hy => (le_total (time x) (time y)).elim (hlatest hy) id⟩

/-! ## One waiting item -/

/-- Which items wait once an item has come in. -/
def waitingAfter (time : ι → τ) (waiting : Set ι) (k : ι) : Set ι :=
  {x | (x ∈ waiting ∧ ∃ y ∈ waiting, time k < time y) ∨
    (x = k ∧ ∀ y ∈ waiting, time y ≤ time k)}

/-- **The latest item waits**, whatever the order in which items come in. -/
theorem waitingAfter_eq_latest {items waiting : Set ι} {k : ι}
    (hinj : Set.InjOn time (insert k items)) (hnew : k ∉ items) (hfinite : items.Finite)
    (hwaiting : ∀ x, x ∈ waiting ↔ IsLatest time items x) (x : ι) :
    x ∈ waitingAfter time waiting k ↔ IsLatest time (insert k items) x := by
  rw [isLatest_insert_iff]
  constructor
  · rintro (⟨hx, y, hy, hlt⟩ | ⟨rfl, hlatest⟩)
    · rw [hwaiting] at hx hy
      exact Or.inr ⟨hx, hlt.le.trans (hx.2 y hy.1)⟩
    · refine Or.inl ⟨rfl, fun y hy => ?_⟩
      obtain ⟨z, hz⟩ := exists_isLatest time hfinite ⟨y, hy⟩
      exact (hz.2 y hy).trans (hlatest z ((hwaiting z).mpr hz))
  · rintro (⟨rfl, hlatest⟩ | ⟨hx, hle⟩)
    · exact Or.inr ⟨rfl, fun y hy => hlatest y ((hwaiting y).mp hy).1⟩
    · -- An item that is as late as the new one is the new one.
      have hne : time k ≠ time x := fun heq =>
        hnew (hinj (Set.mem_insert _ _) (Set.mem_insert_of_mem _ hx.1) heq ▸ hx.1)
      have hwaits := (hwaiting x).mpr hx
      exact Or.inl ⟨hwaits, x, hwaits, lt_of_le_of_ne hle hne⟩

/-! ## Open groups -/

/-- Which groups are open once an item of a group has come in. -/
def openAfter (opened known : Set κ) (c : κ) : Set κ :=
  {x | x = c ∧ (x ∈ opened ∨ x ∉ known)}

/-- The open groups are those of the latest items. -/
def OpenIsLatest (time : ι → τ) (group : ι → κ) (items : Set ι) (opened : Set κ) : Prop :=
  ∀ c, c ∈ opened ↔ ∃ x, IsLatest time items x ∧ group x = c

/-- An item comes in order if it is of the latest group, or is later than all others and of
a group of its own. -/
def ComesInOrder (time : ι → τ) (group : ι → κ) (items : Set ι) (k : ι) : Prop :=
  (∃ x, IsLatest time items x ∧ group k = group x) ∨
    ∀ x ∈ items, time x < time k ∧ group k ≠ group x

section Groups

variable {group : ι → κ} {items : Set ι} {opened : Set κ} {k : ι}

/-- The group of an item that comes in order is the only open one. -/
theorem openAfter_of_comesInOrder (hopened : OpenIsLatest time group items opened)
    (horder : ComesInOrder time group items k) :
    openAfter opened (group '' items) (group k) = {group k} := by
  ext c
  constructor
  · exact And.left
  · rintro rfl
    refine ⟨rfl, ?_⟩
    rcases horder with ⟨x, hx, hgroup⟩ | hlater
    · exact Or.inl ((hopened _).mpr ⟨x, hx, hgroup.symm⟩)
    · right
      rintro ⟨x, hx, hgroup⟩
      exact (hlater x hx).2 hgroup.symm

/-- **The open group stays that of the latest item exactly when items come in order.** -/
theorem openIsLatest_insert_iff (hinj : Set.InjOn time (insert k items)) (hnew : k ∉ items)
    (hfinite : items.Finite) (hopened : OpenIsLatest time group items opened) :
    OpenIsLatest time group (insert k items) (openAfter opened (group '' items) (group k)) ↔
      ComesInOrder time group items k := by
  constructor
  · intro hafter
    obtain ⟨y, hy⟩ := exists_isLatest time (hfinite.insert k) ⟨k, Set.mem_insert _ _⟩
    obtain ⟨hgroup, hopen⟩ := (hafter (group y)).mpr ⟨y, hy, rfl⟩
    rcases isLatest_insert_iff.mp hy with ⟨rfl, hlatest⟩ | ⟨hy, -⟩
    · rcases hopen with hopen | hunknown
      · obtain ⟨x, hx, hsame⟩ := (hopened _).mp hopen
        exact Or.inl ⟨x, hx, hsame.symm⟩
      · refine Or.inr fun x hx => ⟨lt_of_le_of_ne (hlatest x hx) fun heq => hnew ?_,
          fun heq => hunknown ⟨x, hx, heq.symm⟩⟩
        exact hinj (Set.mem_insert_of_mem _ hx) (Set.mem_insert _ _) heq ▸ hx
    · exact Or.inl ⟨y, hy, hgroup.symm⟩
  · intro horder c
    rw [openAfter_of_comesInOrder hopened horder, Set.mem_singleton_iff]
    -- Whichever item is the latest now, its group is that of the new item.
    have hlatest : ∀ y, IsLatest time (insert k items) y → group y = group k := by
      intro y hy
      rcases isLatest_insert_iff.mp hy with ⟨rfl, -⟩ | ⟨hy, hle⟩
      · rfl
      · rcases horder with ⟨x, hx, hgroup⟩ | hlater
        · have hinj' := hinj.mono (Set.subset_insert k items)
          rw [hy.unique hinj' hx, hgroup]
        · exact absurd (hlater y hy.1).1 (not_lt_of_ge hle)
    constructor
    · rintro rfl
      obtain ⟨y, hy⟩ := exists_isLatest time (hfinite.insert k) ⟨k, Set.mem_insert _ _⟩
      exact ⟨y, hy, hlatest y hy⟩
    · rintro ⟨y, hy, rfl⟩
      exact hlatest y hy

/-- An item that comes in order closes no group of a later item. -/
theorem mem_openAfter_of_later (hinj : Set.InjOn time items)
    (hopened : OpenIsLatest time group items opened) (horder : ComesInOrder time group items k)
    {x : ι} (hx : x ∈ items) (hlater : time k < time x) (hopen : group x ∈ opened) :
    group x ∈ openAfter opened (group '' items) (group k) := by
  rw [openAfter_of_comesInOrder hopened horder, Set.mem_singleton_iff]
  rcases horder with ⟨y, hy, hgroup⟩ | hearlier
  · obtain ⟨z, hz, hsame⟩ := (hopened _).mp hopen
    rw [← hsame, hz.unique hinj hy, hgroup]
  · exact absurd (hearlier x hx).1 (not_lt_of_gt hlater)

end Groups

end ImageStream.Base
