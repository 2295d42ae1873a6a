/-
# Slots of a grid

A periodic activity that has missed some of its slots goes on at the first slot that is still to
come. Slots are counted from the one it stands at, so the next one is the least positive count
whose slot is later than now.
-/

import Mathlib.Algebra.Order.Floor.Ring
import Mathlib.Order.Bounds.Basic
import Mathlib.Tactic.Linarith
import Mathlib.Tactic.Ring

namespace ImageStream.Base

universe u

variable {K : Type u} [Field K] {origin interval now : K}

/-- Whether an instant is a slot of a grid. -/
def OnGrid (origin interval instant : K) : Prop :=
  ∃ n : ℕ, instant = origin + n * interval

theorem onGrid_self : OnGrid origin interval origin :=
  ⟨0, by rw [Nat.cast_zero, zero_mul, add_zero]⟩

/-- A slot that is counted from a slot is one of the same grid. -/
theorem OnGrid.later {slot : K} (h : OnGrid origin interval slot) {k : ℤ} (hk : 1 ≤ k) :
    OnGrid origin interval (slot + k * interval) := by
  obtain ⟨n, rfl⟩ := h
  refine ⟨n + k.toNat, ?_⟩
  have hcount : ((k.toNat : ℕ) : K) = (k : K) := by
    rw [← Int.cast_natCast, Int.toNat_of_nonneg (by omega)]
  rw [Nat.cast_add, hcount]
  ring

variable [LinearOrder K]

/-- The next slot of a grid: the least positive count of intervals that leads past now. -/
def IsNextSlot (origin interval now : K) (k : ℤ) : Prop :=
  IsLeast {k : ℤ | 1 ≤ k ∧ now < origin + k * interval} k

theorem IsNextSlot.unique {j k : ℤ} (h : IsNextSlot origin interval now j)
    (h' : IsNextSlot origin interval now k) : j = k :=
  IsLeast.unique h h'

/-- No slot is missed. -/
theorem isNextSlot_one (h : now < origin + interval) : IsNextSlot origin interval now 1 := by
  constructor
  · refine ⟨le_refl 1, ?_⟩
    rw [Int.cast_one, one_mul]
    exact h
  · exact fun k hk => hk.1

variable [IsStrictOrderedRing K]

theorem lt_later (hinterval : 0 < interval) {slot : K} {k : ℤ} (hk : 1 ≤ k) :
    slot < slot + k * interval := by
  have hpos : (0 : K) < k := Int.cast_pos.mpr (by omega)
  exact lt_add_of_pos_right slot (mul_pos hpos hinterval)

/-- Slots that come one after the other are counted at least one by one. -/
theorem exists_count_of_increasing (hinterval : 0 < interval) {instants : List K}
    (hincreasing : instants.Pairwise (· < ·))
    (hgrid : ∀ instant ∈ instants, OnGrid origin interval instant) {i : ℕ} {instant : K}
    (h : instants[i]? = some instant) : ∃ n : ℕ, i ≤ n ∧ instant = origin + n * interval := by
  induction i generalizing instant with
  | zero =>
      obtain ⟨n, hn⟩ := hgrid instant (List.mem_of_getElem? h)
      exact ⟨n, Nat.zero_le n, hn⟩
  | succ i ih =>
      obtain ⟨hi, hlast⟩ := List.getElem?_eq_some_iff.mp h
      have hbefore : instants[i]? = some instants[i] := List.getElem?_eq_getElem (by omega)
      obtain ⟨m, hm, hslot⟩ := ih hbefore
      obtain ⟨n, hn⟩ := hgrid instant (List.mem_of_getElem? h)
      have hlater : instants[i] < instant := by
        rw [← hlast]
        exact List.pairwise_iff_getElem.mp hincreasing i (i + 1) _ hi (Nat.lt_succ_self i)
      rw [hslot, hn, add_lt_add_iff_left, mul_lt_mul_iff_left₀ hinterval, Nat.cast_lt] at hlater
      exact ⟨n, by omega, hn⟩

/-- The instant that comes after `i` others is no earlier than slot `i`. -/
theorem slot_le_of_increasing (hinterval : 0 < interval) {instants : List K}
    (hincreasing : instants.Pairwise (· < ·))
    (hgrid : ∀ instant ∈ instants, OnGrid origin interval instant) {i : ℕ} {instant : K}
    (h : instants[i]? = some instant) : origin + i * interval ≤ instant := by
  obtain ⟨n, hn, rfl⟩ := exists_count_of_increasing hinterval hincreasing hgrid h
  rw [add_le_add_iff_left, mul_le_mul_iff_left₀ hinterval, Nat.cast_le]
  exact hn

variable [FloorRing K]

/-- The slots up to now are missed. One that falls on now is missed too. -/
theorem isNextSlot_of_missed (hinterval : 0 < interval) (h : origin + interval ≤ now) :
    IsNextSlot origin interval now (⌊(now - (origin + interval)) / interval⌋ + 1 + 1) := by
  have hmissed : 0 ≤ ⌊(now - (origin + interval)) / interval⌋ :=
    Int.floor_nonneg.mpr (div_nonneg (sub_nonneg.mpr h) hinterval.le)
  constructor
  · refine ⟨by omega, ?_⟩
    have hlater := Int.lt_floor_add_one ((now - (origin + interval)) / interval)
    rw [div_lt_iff₀ hinterval] at hlater
    push_cast
    linarith
  · rintro k ⟨-, hk⟩
    by_contra hless
    rw [not_le] at hless
    have hfloor : ((k - 1 : ℤ) : K) ≤ (now - (origin + interval)) / interval :=
      Int.le_floor.mp (by omega)
    rw [le_div_iff₀ hinterval] at hfloor
    push_cast at hfloor
    linarith

end ImageStream.Base
