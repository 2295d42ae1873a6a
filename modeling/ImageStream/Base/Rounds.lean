/-
# Loops that may be left

A loop over a list of inputs goes on to the next input or is left early, with what it is left
for. `rounds` runs it. Two runs whose inputs agree up to the place where one of them is left
are compared by `rounds_append_of_leaves`: all that the longer run does more than the shorter
one is the round in which it is left.
-/

import Mathlib.Init

namespace ImageStream.Base

universe u v w

/-- What one round of a loop comes to. -/
inductive Round (σ : Type u) (ε : Type w) where
  | next (s : σ)
  | leave (s : σ) (ending : ε)

variable {σ : Type u} {ι : Type v} {ε : Type w} (round : σ → ι → Round σ ε)

/-- Run a loop over its inputs: the state it ends in, and what it is left for if it is. -/
def rounds (s : σ) : List ι → σ × Option ε
  | [] => (s, none)
  | i :: is =>
      match round s i with
      | .next s' => rounds s' is
      | .leave s' ending => (s', some ending)

variable {round}

@[simp]
theorem rounds_nil (s : σ) : rounds round s [] = (s, none) := rfl

theorem rounds_cons_of_next {s s' : σ} {i : ι} (is : List ι) (h : round s i = .next s') :
    rounds round s (i :: is) = rounds round s' is := by
  simp only [rounds, h]

theorem rounds_cons_of_leave {s s' : σ} {i : ι} {ending : ε} (is : List ι)
    (h : round s i = .leave s' ending) : rounds round s (i :: is) = (s', some ending) := by
  simp only [rounds, h]

/-- What every round preserves, whether it goes on or leaves, the loop preserves. -/
theorem rounds_invariant {P : σ → Prop} (hnext : ∀ s s' i, P s → round s i = .next s' → P s')
    (hleave : ∀ s s' i ending, P s → round s i = .leave s' ending → P s') {s : σ} (hs : P s)
    (is : List ι) : P (rounds round s is).1 := by
  induction is generalizing s with
  | nil => exact hs
  | cons i is ih =>
      cases hround : round s i with
      | next s' =>
          rw [rounds_cons_of_next is hround]
          exact ih (hnext s s' i hs hround)
      | leave s' ending =>
          rw [rounds_cons_of_leave is hround]
          exact hleave s s' i ending hs hround

/-- A loop that is not left goes on with the inputs that follow. -/
theorem rounds_append_of_none {s s' : σ} {first : List ι} (second : List ι)
    (h : rounds round s first = (s', none)) :
    rounds round s (first ++ second) = rounds round s' second := by
  induction first generalizing s with
  | nil =>
      cases h
      rfl
  | cons i is ih =>
      rw [List.cons_append]
      cases hround : round s i with
      | next t =>
          rw [rounds_cons_of_next _ hround] at h ⊢
          exact ih h
      | leave t ending =>
          rw [rounds_cons_of_leave _ hround] at h
          cases h

/-- A loop that is left does not see the inputs that follow. -/
theorem rounds_append_of_some {s s' : σ} {ending : ε} {first : List ι} (second : List ι)
    (h : rounds round s first = (s', some ending)) :
    rounds round s (first ++ second) = (s', some ending) := by
  induction first generalizing s with
  | nil => cases h
  | cons i is ih =>
      rw [List.cons_append]
      cases hround : round s i with
      | next t =>
          rw [rounds_cons_of_next _ hround] at h ⊢
          exact ih h
      | leave t reason =>
          rw [rounds_cons_of_leave _ hround] at h ⊢
          exact h

/-- A run with an input that always leaves the loop is the run up to that input, but for what
the round that is left changes. -/
theorem rounds_append_of_leaves {E : σ → σ → Prop} (hrefl : ∀ s, E s s) {i : ι}
    (hleaves : ∀ s, ∃ s' ending, round s i = .leave s' ending ∧ E s s') (s : σ)
    (first second : List ι) :
    (rounds round s (first ++ i :: second)).2 ≠ none ∧
      E (rounds round s first).1 (rounds round s (first ++ i :: second)).1 := by
  cases hfirst : rounds round s first with
  | mk s' left =>
      cases left with
      | none =>
          obtain ⟨t, ending, hround, hsame⟩ := hleaves s'
          rw [rounds_append_of_none _ hfirst, rounds_cons_of_leave _ hround]
          exact ⟨nofun, hsame⟩
      | some ending =>
          rw [rounds_append_of_some _ hfirst]
          exact ⟨nofun, hrefl s'⟩

end ImageStream.Base
