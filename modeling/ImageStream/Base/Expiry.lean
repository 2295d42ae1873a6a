/-
# Entries that expire

Some entries of a table stop counting at some time and never count again. Two tables are
alike from a time on when they hold the same entries among those that still count then or
later, so entries that have expired can be left in a table or taken out of it at will.
-/

import ImageStream.Base.Table
import Mathlib.Order.Defs.PartialOrder

namespace ImageStream.Base

universe u v w

/-- Which values count at a time. -/
structure Expiry (τ : Type u) (υ : Type v) [LE τ] where
  live : τ → υ → Bool
  live_of_le : ∀ {early late : τ} {value : υ}, early ≤ late → live late value = true →
    live early value = true

namespace Expiry

variable {τ : Type u} {υ : Type v} {κ : Type w} [Preorder τ] [DecidableEq κ]
  (expiry : Expiry τ υ)

/-- The entries that count at a time. -/
def purge (now : τ) (d : Dict κ υ) : Dict κ υ where
  rows := d.rows.filter fun entry => expiry.live now entry.2
  keys_nodup := (List.filter_sublist.map Prod.fst).nodup d.keys_nodup

/-- The entry of a key, if it counts at a time. -/
def liveAt (now : τ) (d : Dict κ υ) (k : κ) : Option υ :=
  (d.get? k).filter (expiry.live now)

theorem get?_purge (now : τ) (d : Dict κ υ) (k : κ) :
    (expiry.purge now d).get? k = expiry.liveAt now d k := by
  apply Option.ext
  intro value
  have hentry : (k, value) ∈ (expiry.purge now d).rows ↔
      (k, value) ∈ d.rows ∧ expiry.live now value = true := by simp [purge, List.mem_filter]
  rw [Dict.get?_eq_some_iff, hentry, liveAt, Option.filter_eq_some_iff, Dict.get?_eq_some_iff]

/-- Whether two tables hold the same entries among those that count from a time on. -/
def SameLive (first second : Dict κ υ) (now : τ) : Prop :=
  ∀ later, now ≤ later → ∀ k, expiry.liveAt later first k = expiry.liveAt later second k

variable {expiry} {first second third : Dict κ υ} {now : τ}

namespace SameLive

theorem refl (d : Dict κ υ) (now : τ) : expiry.SameLive d d now :=
  fun _ _ _ => rfl

theorem trans (h : expiry.SameLive first second now) (h' : expiry.SameLive second third now) :
    expiry.SameLive first third now :=
  fun later hlater k => (h later hlater k).trans (h' later hlater k)

theorem mono (h : expiry.SameLive first second now) {later : τ} (hle : now ≤ later) :
    expiry.SameLive first second later :=
  fun last hlast => h last (le_trans hle hlast)

theorem of_get? (h : ∀ k, first.get? k = second.get? k) : expiry.SameLive first second now := by
  intro later _ k
  unfold liveAt
  rw [h]

/-- What has expired can be taken out. -/
theorem purge (d : Dict κ υ) (now : τ) : expiry.SameLive d (expiry.purge now d) now := by
  intro later hlater k
  have hget := expiry.get?_purge now d k
  unfold liveAt at hget ⊢
  rw [hget]
  cases d.get? k with
  | none => rfl
  | some value =>
      by_cases hlive : expiry.live later value = true
      · simp only [Option.filter_some, hlive, expiry.live_of_le hlater hlive, if_true]
      · by_cases hnow : expiry.live now value = true
        · simp only [Option.filter_some, hnow, if_true]
        · simp only [Option.filter_some, Option.filter_none, hlive, hnow, if_false,
            Bool.false_eq_true]

theorem set (h : expiry.SameLive first second now) (k : κ) (value : υ) :
    expiry.SameLive (first.set k value) (second.set k value) now := by
  intro later hlater k'
  unfold liveAt
  rw [Dict.get?_set, Dict.get?_set]
  by_cases hk : k' = k
  · rw [if_pos hk, if_pos hk]
  · rw [if_neg hk, if_neg hk]
    exact h later hlater k'

theorem pop (h : expiry.SameLive first second now) (k : κ) :
    expiry.SameLive (first.pop k) (second.pop k) now := by
  intro later hlater k'
  unfold liveAt
  rw [Dict.get?_pop, Dict.get?_pop]
  by_cases hk : k' = k
  · rw [if_pos hk, if_pos hk]
  · rw [if_neg hk, if_neg hk]
    exact h later hlater k'

/-- An entry that has expired can be taken out by itself. -/
theorem pop_expired {d : Dict κ υ} {k : κ} (h : expiry.liveAt now d k = none) :
    expiry.SameLive (d.pop k) d now := by
  intro later hlater k'
  unfold liveAt at h ⊢
  rw [Dict.get?_pop]
  by_cases hk : k' = k
  · rw [if_pos hk, hk]
    cases hget : d.get? k with
    | none => rfl
    | some value =>
        rw [hget, Option.filter_eq_none_iff] at h
        have hdead : ¬expiry.live later value = true := fun hlive =>
          h value rfl (expiry.live_of_le hlater hlive)
        simp only [Option.filter_some, Option.filter_none, hdead, if_false, Bool.false_eq_true]
  · rw [if_neg hk]

end SameLive

end Expiry

end ImageStream.Base
