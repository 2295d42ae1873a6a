/-
# One item in custody at a time

Items come in, wait, and are given up or taken into custody; a single slot names
the item that is held. The slot and the items' own records are two places that
tell the same story, and a party that changes one of them must change the other.

`Custody.Step` is what a party may do to the two places together. A step keeps
them in agreement, and an item that is done with stays as it is. The rules are
about any record type, classified by a stage.
-/

import Mathlib.Logic.Basic

namespace ImageStream.Base

universe u v

/-- How far an item has come. -/
inductive Stage
  | waiting
  | held
  | done
  deriving DecidableEq, Repr

/-- The items' records and the slot. -/
structure Custody (κ : Type u) (σ : Type v) where
  status : κ → Option σ
  holder : Option κ

namespace Custody

variable {κ : Type u} {σ : Type v} (stage : σ → Stage)

/-- What may happen to an item that is not in custody: nothing, its arrival, or that
it is given up while it waits. -/
inductive Idle : Option σ → Option σ → Prop
  | same (status : Option σ) : Idle status status
  | arrives {new : σ} (h : stage new ≠ .held) : Idle none (some new)
  | givenUp {old new : σ} (hold : stage old = .waiting) (hnew : stage new = .done) :
      Idle (some old) (some new)

/-- What one party may do to the records and the slot. -/
inductive Step (c c' : Custody κ σ) : Prop
  | idle (items : ∀ k, Idle stage (c.status k) (c'.status k)) (holder : c'.holder = c.holder)
  /-- An item that waits is taken into the empty slot. -/
  | take (k : κ) (old new : σ) (empty : c.holder = none) (was : c.status k = some old)
      (waiting : stage old = .waiting) (held : stage new = .held)
      (now : c'.status k = some new) (others : ∀ k', k' ≠ k → c'.status k' = c.status k')
      (holder : c'.holder = some k)
  /-- The record of the item in custody changes, and it stays in custody. -/
  | keep (k : κ) (new : σ) (inside : c.holder = some k) (held : stage new = .held)
      (now : c'.status k = some new) (others : ∀ k', k' ≠ k → c'.status k' = c.status k')
      (holder : c'.holder = some k)
  /-- The item in custody leaves it. -/
  | release (k : κ) (new : σ) (inside : c.holder = some k) (freed : stage new ≠ .held)
      (now : c'.status k = some new) (others : ∀ k', k' ≠ k → c'.status k' = c.status k')
      (holder : c'.holder = none)

/-- Whether a record says that its item is held. -/
def Active (status : Option σ) : Prop := ∃ s, status = some s ∧ stage s = .held

/-- The slot names exactly the items whose records say that they are held. -/
def Agrees (c : Custody κ σ) : Prop := ∀ k, Active stage (c.status k) ↔ c.holder = some k

variable {stage}

@[simp]
theorem active_none : ¬Active stage none := by
  rintro ⟨s, h, -⟩
  cases h

@[simp]
theorem active_some {s : σ} : Active stage (some s) ↔ stage s = .held := by
  constructor
  · rintro ⟨s', h, hstage⟩
    cases h
    exact hstage
  · exact fun h => ⟨s, rfl, h⟩

/-- Nothing that happens out of custody makes an item held or frees it. -/
theorem Idle.active_iff {before after : Option σ} (h : Idle stage before after) :
    Active stage after ↔ Active stage before := by
  cases h with
  | same status => exact Iff.rfl
  | arrives hnew => simp [hnew]
  | givenUp hold hnew => simp [hold, hnew]

/-- An item that is done with is left alone. -/
theorem Idle.done {before after : Option σ} (h : Idle stage before after) {s : σ}
    (hs : before = some s) (hdone : stage s = .done) : after = some s := by
  cases h with
  | same status => exact hs
  | arrives hnew => cases hs
  | givenUp hold hnew =>
      cases hs
      rw [hold] at hdone
      cases hdone

/-- Every step keeps the slot and the records in agreement. -/
theorem Agrees.step {c c' : Custody κ σ} (hc : Agrees stage c) (h : Step stage c c') :
    Agrees stage c' := by
  intro k'
  cases h with
  | idle items holder => rw [holder, ← hc k', (items k').active_iff]
  | take k old new empty was waiting held now others holder =>
      by_cases hk : k' = k
      · rw [hk, now, holder]
        simpa using held
      · rw [others k' hk, hc k', empty, holder]
        simpa using Ne.symm hk
  | keep k new inside held now others holder =>
      by_cases hk : k' = k
      · rw [hk, now, holder]
        simpa using held
      · rw [others k' hk, hc k', inside, holder]
  | release k new inside freed now others holder =>
      by_cases hk : k' = k
      · rw [hk, now, holder]
        simpa using freed
      · rw [others k' hk, hc k', inside, holder]
        simpa using Ne.symm hk

/-- No step touches an item that is done with. -/
theorem Step.done {c c' : Custody κ σ} (h : Step stage c c') (hc : Agrees stage c) {k : κ} {s : σ}
    (hs : c.status k = some s) (hdone : stage s = .done) : c'.status k = some s := by
  -- The one item that a step acts on waits or is held before it.
  have other : ∀ acted, (Active stage (c.status acted) ∨
      ∃ old, c.status acted = some old ∧ stage old = .waiting) → k ≠ acted := by
    rintro acted hacted rfl
    rw [hs] at hacted
    rcases hacted with hactive | ⟨old, hold, hwaiting⟩
    · rw [active_some, hdone] at hactive
      cases hactive
    · cases hold
      rw [hdone] at hwaiting
      cases hwaiting
  cases h with
  | idle items holder => exact (items k).done hs hdone
  | take acted old new empty was waiting held now others holder =>
      rw [others k (other acted (Or.inr ⟨old, was, waiting⟩))]
      exact hs
  | keep acted new inside held now others holder =>
      rw [others k (other acted (Or.inl ((hc acted).mpr inside)))]
      exact hs
  | release acted new inside freed now others holder =>
      rw [others k (other acted (Or.inl ((hc acted).mpr inside)))]
      exact hs

/-- A step in which nothing happens. -/
theorem Step.refl (c : Custody κ σ) : Step stage c c :=
  .idle (fun k => .same (c.status k)) rfl

end Custody

end ImageStream.Base
