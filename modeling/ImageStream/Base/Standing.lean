/-
# What stands in a history

Some events of a history open something under a key and others close it again. It
stands when it has been opened and not closed since. The rules say how this changes
with one more event, and what a later part of the history tells about the whole.
-/

import Mathlib.Data.List.DropRight

namespace ImageStream.Base

universe u v

variable {ε : Type u} {κ : Type v} {opens closes : ε → Option κ}

/-- Whether a key has been opened and not closed since. -/
def Standing (opens closes : ε → Option κ) (past : List ε) (k : κ) : Prop :=
  ∃ before e since, past = before ++ e :: since ∧ opens e = some k ∧
    ∀ e' ∈ since, closes e' ≠ some k

namespace Standing

theorem not_nil (k : κ) : ¬Standing opens closes [] k := by
  rintro ⟨before, e, since, hsplit, -⟩
  simp at hsplit

/-- One more event opens a key, or leaves standing what it does not close. -/
theorem snoc_iff {past : List ε} {e : ε} {k : κ} :
    Standing opens closes (past ++ [e]) k ↔
      opens e = some k ∨ (Standing opens closes past k ∧ closes e ≠ some k) := by
  constructor
  · rintro ⟨before, opener, since, hsplit, hopens, hsince⟩
    rcases List.eq_nil_or_concat since with rfl | ⟨since, last, rfl⟩
    · obtain ⟨-, hlast⟩ := List.append_inj' hsplit rfl
      cases hlast
      exact Or.inl hopens
    · rw [List.concat_eq_append, ← List.cons_append, ← List.append_assoc] at hsplit
      obtain ⟨rfl, hlast⟩ := List.append_inj' hsplit rfl
      cases hlast
      exact Or.inr ⟨⟨before, opener, since, rfl, hopens, fun e' he' => hsince e' (by simp [he'])⟩,
        hsince _ (by simp)⟩
  · rintro (hopens | ⟨⟨before, opener, since, rfl, hopens, hsince⟩, hcloses⟩)
    · exact ⟨past, e, [], rfl, hopens, fun e' he' => by cases he'⟩
    · refine ⟨before, opener, since ++ [e], by simp, hopens, fun e' he' => ?_⟩
      rcases List.mem_append.mp he' with hold | hnew
      · exact hsince e' hold
      · rw [List.mem_singleton.mp hnew]
        exact hcloses

/-- An event that neither opens nor closes the key changes nothing. -/
theorem snoc_of_quiet {past : List ε} {e : ε} {k : κ} (hopens : opens e = none)
    (hcloses : closes e = none) :
    Standing opens closes (past ++ [e]) k ↔ Standing opens closes past k := by
  rw [snoc_iff, hopens, hcloses]
  simp

/-- What stands by the last part of a history stands. -/
theorem of_suffix {before since : List ε} {k : κ} (h : Standing opens closes since k) :
    Standing opens closes (before ++ since) k := by
  obtain ⟨first, e, rest, rfl, hopens, hrest⟩ := h
  exact ⟨before ++ first, e, rest, by simp, hopens, hrest⟩

end Standing

/-- The events after the last one that is marked. -/
def sinceLast (mark : ε → Bool) (past : List ε) : List ε :=
  past.rtakeWhile fun e => !mark e

theorem sinceLast_concat_marked {mark : ε → Bool} {e : ε} (h : mark e = true) (past : List ε) :
    sinceLast mark (past ++ [e]) = [] :=
  List.rtakeWhile_concat_neg _ _ _ (by simp [h])

theorem sinceLast_concat {mark : ε → Bool} {e : ε} (h : mark e = false) (past : List ε) :
    sinceLast mark (past ++ [e]) = sinceLast mark past ++ [e] :=
  List.rtakeWhile_concat_pos _ _ _ (by simp [h])

theorem of_mem_sinceLast {mark : ε → Bool} {e : ε} {past : List ε} (h : e ∈ sinceLast mark past) :
    mark e = false := by
  simpa using List.mem_rtakeWhile_imp h

theorem exists_append_sinceLast (mark : ε → Bool) (past : List ε) :
    ∃ before, past = before ++ sinceLast mark past :=
  ⟨_, List.rdropWhile_append_rtakeWhile.symm⟩

end ImageStream.Base
