/-
# Workers that are counted

Workers take steps one at a time, and something shared counts those of them that have a
property. Here the workers are a list, and a step replaces one of them. A count changes by what
the one worker gains or loses.
-/

import Mathlib.Data.List.Basic

namespace ImageStream.Base.Crew

universe u

variable {ω : Type u} {crew : List ω} {i : ℕ} {before after : ω} {p : ω → Bool}

theorem mem_of_found (h : crew[i]? = some before) : before ∈ crew :=
  List.mem_of_getElem? h

/-- What all workers have, they all have after a step, if the one that takes it does. -/
theorem forall_set {P : ω → Prop} (h : ∀ worker ∈ crew, P worker) (hafter : P after) :
    ∀ worker ∈ crew.set i after, P worker := by
  intro worker hmem
  rcases List.mem_or_eq_of_mem_set hmem with hold | rfl
  · exact h worker hold
  · exact hafter

theorem forall_snoc {P : ω → Prop} (h : ∀ worker ∈ crew, P worker) (hafter : P after) :
    ∀ worker ∈ crew ++ [after], P worker := by
  intro worker hmem
  rcases List.mem_append.mp hmem with hold | hnew
  · exact h worker hold
  · rw [List.mem_singleton.mp hnew]
    exact hafter

/-- A worker of a crew that one has joined was there before, or is the one that has joined. -/
theorem found_snoc {worker : ω} (h : (crew ++ [after])[i]? = some worker) :
    crew[i]? = some worker ∨ i = crew.length ∧ worker = after := by
  by_cases hlt : i < crew.length
  · rw [List.getElem?_append_left hlt] at h
    exact Or.inl h
  · rw [List.getElem?_append_right (Nat.le_of_not_lt hlt), List.getElem?_singleton] at h
    split at h
    · rename_i hlast
      cases h
      exact Or.inr ⟨by omega, rfl⟩
    · cases h

/-- The count after a step, and what the worker counted before, are the count before it and what
the worker counts after. -/
theorem countP_set_add (h : crew[i]? = some before) :
    (crew.set i after).countP p + (if p before then 1 else 0) =
      crew.countP p + (if p after then 1 else 0) := by
  obtain ⟨hlt, hbefore⟩ := List.getElem?_eq_some_iff.mp h
  have hcount := @List.countP_set _ p crew i after hlt
  rw [hbefore] at hcount
  have hle : (if p before = true then 1 else 0) ≤ crew.countP p := by
    split
    · rename_i hcounted
      exact List.one_le_countP_iff.mpr ⟨before, List.mem_of_getElem? h, hcounted⟩
    · exact Nat.zero_le _
  omega

theorem countP_set_of_same (h : crew[i]? = some before) (hsame : p after = p before) :
    (crew.set i after).countP p = crew.countP p := by
  have hcount := @countP_set_add _ crew i before after p h
  rw [hsame] at hcount
  exact Nat.add_right_cancel hcount

theorem countP_set_of_gains (h : crew[i]? = some before) (hbefore : p before = false)
    (hafter : p after = true) : (crew.set i after).countP p = crew.countP p + 1 := by
  have hcount := @countP_set_add _ crew i before after p h
  rw [hbefore, hafter] at hcount
  exact hcount

theorem countP_set_of_loses (h : crew[i]? = some before) (hbefore : p before = true)
    (hafter : p after = false) : (crew.set i after).countP p = crew.countP p - 1 := by
  have hcount := @countP_set_add _ crew i before after p h
  rw [hbefore, hafter] at hcount
  exact Nat.eq_sub_of_add_eq hcount

theorem countP_snoc_of_false (hafter : p after = false) :
    (crew ++ [after]).countP p = crew.countP p := by
  rw [List.countP_append, List.countP_singleton, hafter]
  rfl

end ImageStream.Base.Crew
