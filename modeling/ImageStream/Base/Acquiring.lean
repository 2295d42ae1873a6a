/-
# What a machine holds, and from where

Two ways in which a part of a state tells of the past. What is held under a key was acquired
there in some exchange, and after everything was last forgotten, if every step that does not
forget holds what was held before or has just been acquired. And a part that each step drives by
some events is what the events of the whole history drive it to.
-/

import ImageStream.Base.Machine
import ImageStream.Base.Standing

namespace ImageStream.Base

universe u v w x y

variable {σ : Type u} {ι : Type v} {ο : Type w}

/-- A machine that holds only what it has acquired since it last forgot everything. -/
structure Acquiring (κ : Type x) (υ : Type y) (step : σ → ι → σ × ο) where
  held : σ → κ → Option υ
  Acquires : σ → ι → κ → υ → Prop
  forgets : ι → Bool := fun _ => false
  held_step : ∀ s i k value, held (step s i).1 k = some value → forgets i = false ∧
    (held s k = some value ∨ Acquires s i k value)

namespace Acquiring

variable {κ : Type x} {υ : Type y} {step : σ → ι → σ × ο} (acquiring : Acquiring κ υ step)

/-- The exchanges since everything was forgotten. -/
def sinceForgot (past : List (Exchange σ ι ο)) : List (Exchange σ ι ο) :=
  sinceLast (fun e => acquiring.forgets e.input) past

/-- What is held has been acquired in the history. -/
def Sourced (past : List (Exchange σ ι ο)) (s : σ) : Prop :=
  ∀ k value, acquiring.held s k = some value →
    ∃ e ∈ acquiring.sinceForgot past, acquiring.Acquires e.before e.input k value

theorem Sourced.snoc {acquiring : Acquiring κ υ step} {past : List (Exchange σ ι ο)} {s : σ}
    (h : acquiring.Sourced past s) (i : ι) :
    acquiring.Sourced (past ++ [Machine.exchange step s i]) (step s i).1 := by
  intro k value hheld
  obtain ⟨hkeeps, hsource⟩ := acquiring.held_step s i k value hheld
  have hsplit : acquiring.sinceForgot (past ++ [Machine.exchange step s i]) =
      acquiring.sinceForgot past ++ [Machine.exchange step s i] :=
    @sinceLast_concat (Exchange σ ι ο) (fun e => acquiring.forgets e.input)
      (Machine.exchange step s i) hkeeps past
  rw [hsplit]
  rcases hsource with hold | hnew
  · obtain ⟨e, he, hacquires⟩ := h k value hold
    exact ⟨e, List.mem_append_left _ he, hacquires⟩
  · exact ⟨_, List.mem_append_right _ List.mem_cons_self, hnew⟩

/-- **Sources.** Whatever is held after a run was acquired in one of its exchanges, after
everything was last forgotten. -/
theorem sourced_history {s : σ} (hinit : ∀ k, acquiring.held s k = none) (is : List ι) :
    acquiring.Sourced (Machine.history step s is) (Machine.after step s is) := by
  apply Machine.history_invariant step (I := acquiring.Sourced)
  · intro k value hheld
    rw [hinit] at hheld
    cases hheld
  · exact fun past t i h => h.snoc i

/-- An exchange since everything was forgotten, with those before and after it. -/
theorem exists_split_of_mem_sinceForgot {past : List (Exchange σ ι ο)} {e : Exchange σ ι ο}
    (h : e ∈ acquiring.sinceForgot past) :
    ∃ earlier later, past = earlier ++ e :: later ∧
      ∀ e' ∈ later, acquiring.forgets e'.input = false := by
  obtain ⟨before, hsplit⟩ :=
    exists_append_sinceLast (fun e : Exchange σ ι ο => acquiring.forgets e.input) past
  obtain ⟨first, later, hsince⟩ := List.append_of_mem h
  refine ⟨before ++ first, later, ?_, fun e' he' => ?_⟩
  · rw [hsplit]
    change before ++ acquiring.sinceForgot past = _
    rw [hsince, List.append_assoc]
  · have hmem : e' ∈ acquiring.sinceForgot past := by
      rw [hsince]
      exact List.mem_append_right _ (List.mem_cons_of_mem _ he')
    exact @of_mem_sinceLast _ (fun e : Exchange σ ι ο => acquiring.forgets e.input) _ _ hmem

theorem mem_of_mem_sinceForgot {past : List (Exchange σ ι ο)} {e : Exchange σ ι ο}
    (h : e ∈ acquiring.sinceForgot past) : e ∈ past := by
  obtain ⟨earlier, later, rfl, -⟩ := acquiring.exists_split_of_mem_sinceForgot h
  exact List.mem_append_right _ List.mem_cons_self

end Acquiring

/-- A part of the state that each step drives by events is driven by those of the history. -/
theorem Machine.part_after {step : σ → ι → σ × ο} {π : Type x} {ε : Type y} (part : σ → π)
    (events : σ → ι → List ε) (drive : π → ε → π)
    (h : ∀ s i, part (step s i).1 = (events s i).foldl drive (part s)) (s : σ) (is : List ι) :
    part (Machine.after step s is) =
      ((Machine.history step s is).flatMap fun e => events e.before e.input).foldl drive
        (part s) := by
  induction is generalizing s with
  | nil => rfl
  | cons i is ih =>
      rw [Machine.after_cons, ih, Machine.history, List.flatMap_cons, List.foldl_append, h]
      rfl

end ImageStream.Base
