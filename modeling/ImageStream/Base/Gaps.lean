/-
# Gaps in numbering

Whoever sees only the numbers that arrive can count, at each arrival, the numbers that were
jumped over since the one before. The sum never misses a number: each one between the first
arrival and another that has never arrived was jumped over. It may count a number more than
once, or one that arrives late, but not while the numbers ascend.
-/

import Mathlib.Algebra.Order.Ring.Int
import Mathlib.Data.Finset.Card

namespace ImageStream.Base

open Finset

/-- How many numbers are jumped over from one to the next. -/
def skipped (last next : ℤ) : ℤ :=
  if last + 1 < next then next - last - 1 else 0

/-- The numbers between two. -/
def between (last next : ℤ) : Finset ℤ :=
  ((List.range (next - last - 1).toNat).map fun (k : ℕ) => last + 1 + (k : ℤ)).toFinset

theorem mem_between_iff {last next n : ℤ} : n ∈ between last next ↔ last < n ∧ n < next := by
  rw [between, List.mem_toFinset, List.mem_map]
  constructor
  · rintro ⟨k, hk, rfl⟩
    rw [List.mem_range] at hk
    omega
  · rintro ⟨hlast, hnext⟩
    refine ⟨(n - last - 1).toNat, ?_, by omega⟩
    rw [List.mem_range]
    omega

theorem between_self (n : ℤ) : between n n = ∅ := by
  rw [eq_empty_iff_forall_notMem]
  intro m hm
  rw [mem_between_iff] at hm
  omega

theorem skipped_eq_card (last next : ℤ) : skipped last next = (between last next).card := by
  have hnodup : ((List.range (next - last - 1).toNat).map fun (k : ℕ) =>
      last + 1 + (k : ℤ)).Nodup :=
    List.nodup_range.map fun i j (h : last + 1 + (i : ℤ) = last + 1 + (j : ℤ)) => by omega
  rw [between, List.toFinset_card_of_nodup hnodup, List.length_map, List.length_range, skipped]
  split <;> omega

def totalSkipped : List ℤ → ℤ
  | first :: second :: rest => skipped first second + totalSkipped (second :: rest)
  | _ => 0

@[simp]
theorem totalSkipped_nil : totalSkipped [] = 0 := rfl

@[simp]
theorem totalSkipped_singleton (n : ℤ) : totalSkipped [n] = 0 := rfl

theorem totalSkipped_nonneg : ∀ numbers : List ℤ, 0 ≤ totalSkipped numbers
  | [] => le_rfl
  | [_] => le_rfl
  | first :: second :: rest => by
      have hrest := totalSkipped_nonneg (second :: rest)
      have hfirst : 0 ≤ skipped first second := by
        rw [skipped_eq_card]
        exact Int.natCast_nonneg _
      exact add_nonneg hfirst hrest

theorem totalSkipped_concat (numbers : List ℤ) (next : ℤ) :
    totalSkipped (numbers ++ [next]) =
      totalSkipped numbers + (numbers.getLast?.elim 0 fun last => skipped last next) := by
  induction numbers with
  | nil => rfl
  | cons first rest ih =>
      cases rest with
      | nil => exact add_comm _ _
      | cons second rest =>
          show skipped first second + totalSkipped (second :: rest ++ [next]) = _
          rw [ih, totalSkipped, add_assoc]
          rfl

/-- The numbers between the first arrival and a bound that have not arrived. -/
def missing (first : ℤ) (rest : List ℤ) (bound : ℤ) : Finset ℤ :=
  {n ∈ between first bound | n ∉ first :: rest}

theorem mem_missing_iff {first bound n : ℤ} {rest : List ℤ} :
    n ∈ missing first rest bound ↔ first < n ∧ n < bound ∧ n ∉ rest := by
  rw [missing, mem_filter, mem_between_iff, List.mem_cons]
  constructor
  · rintro ⟨⟨hfirst, hbound⟩, hnew⟩
    exact ⟨hfirst, hbound, fun hrest => hnew (Or.inr hrest)⟩
  · rintro ⟨hfirst, hbound, hrest⟩
    exact ⟨⟨hfirst, hbound⟩, fun hold => hold.elim hfirst.ne' hrest⟩

/-- A missing number is jumped over at the first step or is missing from there on. -/
theorem missing_cons_subset (first second : ℤ) (rest : List ℤ) (bound : ℤ) :
    missing first (second :: rest) bound ⊆ between first second ∪ missing second rest bound := by
  intro n hn
  obtain ⟨hfirst, hbound, hrest⟩ := mem_missing_iff.mp hn
  rw [List.mem_cons, not_or] at hrest
  rw [mem_union, mem_between_iff, mem_missing_iff]
  rcases lt_or_gt_of_ne hrest.1 with hbefore | hafter
  · exact Or.inl ⟨hfirst, hbefore⟩
  · exact Or.inr ⟨hafter, hbound, hrest.2⟩

/-- **Nothing is missed.** A number below an arrival that has never arrived is counted. -/
theorem card_missing_le_totalSkipped {first bound : ℤ} {rest : List ℤ} (h : bound ∈ rest) :
    ((missing first rest bound).card : ℤ) ≤ totalSkipped (first :: rest) := by
  induction rest generalizing first with
  | nil => cases h
  | cons second rest ih =>
      have hsplit : ((missing first (second :: rest) bound).card : ℤ) ≤
          skipped first second + (missing second rest bound).card := by
        rw [skipped_eq_card, ← Nat.cast_add, Nat.cast_le]
        exact (card_le_card (missing_cons_subset first second rest bound)).trans
          (card_union_le _ _)
      refine hsplit.trans (Int.add_le_add_left ?_ _)
      rcases List.mem_cons.mp h with rfl | hrest
      · -- Nothing lies between a number and itself.
        have hnone : missing bound rest bound = ∅ := by
          rw [missing, between_self, filter_empty]
        rw [hnone, card_empty, Nat.cast_zero]
        exact totalSkipped_nonneg _
      · exact ih hrest

/-- While the numbers ascend, what is jumped over at the first step is missing, and not again. -/
theorem missing_cons_of_ascending {first second last : ℤ} {rest : List ℤ}
    (h : (first :: second :: rest).Pairwise (· < ·)) (hlast : second ≤ last) :
    missing first (second :: rest) last = between first second ∪ missing second rest last := by
  refine (missing_cons_subset first second rest last).antisymm fun n hn => ?_
  obtain ⟨hhead, hrest⟩ := List.pairwise_cons.mp h
  have hfirst : first < second := hhead second List.mem_cons_self
  have habove : ∀ m ∈ rest, second < m := (List.pairwise_cons.mp hrest).1
  rw [mem_missing_iff, List.mem_cons, not_or]
  rcases mem_union.mp hn with hjumped | hmissing
  · obtain ⟨hlow, hhigh⟩ := mem_between_iff.mp hjumped
    exact ⟨hlow, hhigh.trans_le hlast, hhigh.ne, fun hmem => (habove n hmem).not_gt hhigh⟩
  · obtain ⟨hlow, hhigh, hnew⟩ := mem_missing_iff.mp hmissing
    exact ⟨hfirst.trans hlow, hhigh, hlow.ne', hnew⟩

/-- **Ascending numbers.** Exactly the numbers that have not arrived are counted. -/
theorem totalSkipped_of_ascending {first last : ℤ} {rest : List ℤ}
    (h : (first :: rest).Pairwise (· < ·)) (hlast : (first :: rest).getLast? = some last) :
    totalSkipped (first :: rest) = (missing first rest last).card := by
  induction rest generalizing first with
  | nil =>
      rw [List.getLast?_singleton, Option.some.injEq] at hlast
      rw [hlast, missing, between_self, filter_empty]
      rfl
  | cons second rest ih =>
      have htail := (List.pairwise_cons.mp h).2
      have hlater : (second :: rest).getLast? = some last := by
        rwa [List.getLast?_cons_cons] at hlast
      have hle : second ≤ last := by
        rcases List.mem_cons.mp (List.mem_of_getLast? hlater) with heq | hmem
        · exact heq.ge
        · exact ((List.pairwise_cons.mp htail).1 last hmem).le
      have hdisjoint : Disjoint (between first second) (missing second rest last) := by
        rw [disjoint_left]
        intro n hjumped hmissing
        exact (mem_between_iff.mp hjumped).2.not_gt (mem_missing_iff.mp hmissing).1
      rw [missing_cons_of_ascending h hle, card_union_of_disjoint hdisjoint, Nat.cast_add,
        ← skipped_eq_card, ← ih htail hlater]
      rfl

end ImageStream.Base
