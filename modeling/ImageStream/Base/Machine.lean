/-
# Runs of a machine that answers its inputs

A service under a lock, a store behind transactions and a receiver behind
`BEGIN IMMEDIATE` have one shape: each input is consumed atomically, changes the
state and is answered. This module fixes that shape once. A run keeps the whole
history of exchanges, because the properties of such services are usually about
earlier answers and not only about the state that is left.

The rules at the end package the induction over runs: what one step preserves,
every run preserves, for histories and for states, with or without a condition
on the steps taken.
-/

import Mathlib.Data.List.Basic
import Mathlib.Data.List.Infix

namespace ImageStream.Base

universe u v w

variable {σ : Type u} {ι : Type v} {ο : Type w}

/-- One answered input, with the state that it found and the state it left. -/
structure Exchange (σ : Type u) (ι : Type v) (ο : Type w) where
  before : σ
  input : ι
  output : ο
  after : σ

/-- An exchange seen through projections. -/
def Exchange.map {σ' : Type u} {ι' : Type v} {ο' : Type w} (onState : σ → σ')
    (onInput : ι → ι') (onOutput : ο → ο') (e : Exchange σ ι ο) : Exchange σ' ι' ο' where
  before := onState e.before
  input := onInput e.input
  output := onOutput e.output
  after := onState e.after

namespace Machine

variable (step : σ → ι → σ × ο)

/-- The exchange of one input at a state. -/
def exchange (s : σ) (i : ι) : Exchange σ ι ο :=
  ⟨s, i, (step s i).2, (step s i).1⟩

/-- The state after a list of inputs. -/
def after (s : σ) : List ι → σ
  | [] => s
  | i :: is => after (step s i).1 is

/-- The exchanges of a list of inputs, oldest first. -/
def history (s : σ) : List ι → List (Exchange σ ι ο)
  | [] => []
  | i :: is => exchange step s i :: history (step s i).1 is

@[simp]
theorem after_nil (s : σ) : after step s [] = s := rfl

@[simp]
theorem history_nil (s : σ) : history step s [] = [] := rfl

theorem after_cons (s : σ) (i : ι) (is : List ι) :
    after step s (i :: is) = after step (step s i).1 is := rfl

theorem after_append (s : σ) (first second : List ι) :
    after step s (first ++ second) = after step (after step s first) second := by
  induction first generalizing s with
  | nil => rfl
  | cons i is ih => exact ih (step s i).1

theorem history_append (s : σ) (first second : List ι) :
    history step s (first ++ second) =
      history step s first ++ history step (after step s first) second := by
  induction first generalizing s with
  | nil => rfl
  | cons i is ih => simp only [List.cons_append, history, after, ih]

@[simp]
theorem after_snoc (s : σ) (is : List ι) (i : ι) :
    after step s (is ++ [i]) = (step (after step s is) i).1 := by
  rw [after_append]
  rfl

@[simp]
theorem history_snoc (s : σ) (is : List ι) (i : ι) :
    history step s (is ++ [i]) =
      history step s is ++ [exchange step (after step s is) i] := by
  rw [history_append]
  rfl

/-- Every exchange of a run is the step of one of its inputs, taken at the state
that the inputs before it have left. -/
theorem exists_split_of_mem_history {s : σ} {is : List ι} {e : Exchange σ ι ο}
    (he : e ∈ history step s is) :
    ∃ first i second, is = first ++ i :: second ∧
      e = exchange step (after step s first) i := by
  induction is generalizing s with
  | nil => simp [history] at he
  | cons i is ih =>
      rcases List.mem_cons.mp he with rfl | hrest
      · exact ⟨[], i, is, rfl, rfl⟩
      · obtain ⟨first, j, second, rfl, rfl⟩ := ih hrest
        exact ⟨i :: first, j, second, rfl, rfl⟩

/-- A split of a history is that of a split of its inputs. -/
theorem exists_split_of_history_eq {s : σ} {is : List ι} {earlier later : List (Exchange σ ι ο)}
    {e : Exchange σ ι ο} (h : history step s is = earlier ++ e :: later) :
    ∃ first i second, is = first ++ i :: second ∧ earlier = history step s first ∧
      e = exchange step (after step s first) i := by
  induction earlier generalizing s is with
  | nil =>
      cases is with
      | nil => simp at h
      | cons i is => exact ⟨[], i, is, rfl, rfl, (List.cons.inj h).1.symm⟩
  | cons e' earlier ih =>
      cases is with
      | nil => simp at h
      | cons i is =>
          obtain ⟨rfl, hrest⟩ := List.cons.inj h
          obtain ⟨first, j, second, rfl, rfl, rfl⟩ := ih hrest
          exact ⟨i :: first, j, second, rfl, rfl, rfl⟩

/-- What every exchange of a run leaves holds after the run. -/
theorem after_of_forall_history {P : σ → Prop} {s : σ} {is : List ι} (hinit : P s)
    (h : ∀ e ∈ history step s is, P e.after) : P (after step s is) := by
  induction is generalizing s with
  | nil => exact hinit
  | cons i is ih =>
      have hnext : P (step s i).1 := h (exchange step s i) (List.mem_cons_self ..)
      exact ih hnext fun e he => h e (List.mem_cons_of_mem _ he)

/-- A condition on steps, read at the history and the state before each one. -/
def EachStep (C : List (Exchange σ ι ο) → σ → ι → Prop) (s : σ) (is : List ι) : Prop :=
  ∀ first i second, is = first ++ i :: second →
    C (history step s first) (after step s first) i

theorem EachStep.of_append {C : List (Exchange σ ι ο) → σ → ι → Prop} {s : σ}
    {first second : List ι} (h : EachStep step C s (first ++ second)) :
    EachStep step C s first := by
  intro before i rest hsplit
  exact h before i (rest ++ second) (by rw [hsplit]; simp)

theorem EachStep.last {C : List (Exchange σ ι ο) → σ → ι → Prop} {s : σ}
    {is : List ι} {i : ι} (h : EachStep step C s (is ++ [i])) :
    C (history step s is) (after step s is) i :=
  h is i [] rfl

theorem eachStep_nil {C : List (Exchange σ ι ο) → σ → ι → Prop} {s : σ} :
    EachStep step C s [] := by
  intro first i second hsplit
  cases first <;> cases hsplit

theorem eachStep_snoc {C : List (Exchange σ ι ο) → σ → ι → Prop} {s : σ} {is : List ι} {i : ι} :
    EachStep step C s (is ++ [i]) ↔
      EachStep step C s is ∧ C (history step s is) (after step s is) i := by
  constructor
  · exact fun h => ⟨EachStep.of_append step h, EachStep.last step h⟩
  · rintro ⟨hbefore, hlast⟩ first j second hsplit
    rcases List.eq_nil_or_concat second with rfl | ⟨rest, last, rfl⟩
    · obtain ⟨rfl, hj⟩ := List.append_inj' hsplit rfl
      cases hj
      exact hlast
    · rw [List.concat_eq_append, ← List.cons_append, ← List.append_assoc] at hsplit
      obtain ⟨rfl, -⟩ := List.append_inj' hsplit rfl
      exact hbefore first j rest rfl

/-- A condition that is met by all exchanges of a run is met at each of its steps. -/
theorem eachStep_of_forall_history {C : σ → ι → Prop} {s : σ} {is : List ι}
    (h : ∀ e ∈ history step s is, C e.before e.input) : EachStep step (fun _ => C) s is := by
  intro first i second hsplit
  apply h (exchange step (after step s first) i)
  rw [hsplit, history_append]
  exact List.mem_append_right _ List.mem_cons_self

/-! ## Rules for runs -/

/-- An invariant of histories that one conditioned step preserves holds of every
run whose steps meet the condition. -/
theorem history_invariant_of {C : List (Exchange σ ι ο) → σ → ι → Prop}
    {I : List (Exchange σ ι ο) → σ → Prop} {s : σ} (hinit : I [] s)
    (hstep : ∀ past t i, I past t → C past t i →
      I (past ++ [exchange step t i]) (step t i).1)
    {is : List ι} (hC : EachStep step C s is) :
    I (history step s is) (after step s is) := by
  induction is using List.reverseRecOn with
  | nil => exact hinit
  | append_singleton is i ih =>
      rw [history_snoc, after_snoc]
      exact hstep _ _ i (ih (EachStep.of_append step hC)) (EachStep.last step hC)

/-- Where an invariant and a law of single exchanges come out of a step exactly under a
condition, they hold along a run exactly when all of its steps meet the condition. -/
theorem forall_history_iff {P : σ → Prop} {Q : Exchange σ ι ο → Prop} {C : σ → ι → Prop}
    (hstep : ∀ t i, P t → (P (step t i).1 ∧ Q (exchange step t i) ↔ C t i)) {s : σ}
    (hinit : P s) (is : List ι) :
    (∀ e ∈ history step s is, P e.after ∧ Q e) ↔ EachStep step (fun _ t i => C t i) s is := by
  induction is using List.reverseRecOn with
  | nil =>
      constructor
      · exact fun _ => eachStep_nil step
      · intro _ e he
        cases he
  | append_singleton is i ih =>
      rw [history_snoc, eachStep_snoc, ← ih, List.forall_mem_append, List.forall_mem_singleton]
      apply and_congr_right
      intro hbefore
      exact hstep _ i (after_of_forall_history step hinit fun e he => (hbefore e he).1)

/-- Where an invariant of histories makes a law of steps equivalent to a condition, and is kept by
the steps that meet the condition, a run keeps the law exactly when its steps meet it. -/
theorem eachStep_iff_of_invariant {C L : List (Exchange σ ι ο) → σ → ι → Prop}
    {I : List (Exchange σ ι ο) → σ → Prop} {s : σ} (hinit : I [] s)
    (hstep : ∀ past t i, I past t → C past t i →
      I (past ++ [exchange step t i]) (step t i).1)
    (hiff : ∀ past t i, I past t → (L past t i ↔ C past t i)) (is : List ι) :
    EachStep step L s is ↔ EachStep step C s is := by
  induction is using List.reverseRecOn with
  | nil => exact ⟨fun _ => eachStep_nil step, fun _ => eachStep_nil step⟩
  | append_singleton is i ih =>
      rw [eachStep_snoc, eachStep_snoc, ih]
      apply and_congr_right
      intro hbefore
      exact hiff _ _ i (history_invariant_of step hinit hstep hbefore)

/-- An invariant of histories that every step preserves holds of every run. -/
theorem history_invariant {I : List (Exchange σ ι ο) → σ → Prop} {s : σ}
    (hinit : I [] s)
    (hstep : ∀ past t i, I past t → I (past ++ [exchange step t i]) (step t i).1)
    (is : List ι) : I (history step s is) (after step s is) :=
  history_invariant_of step (C := fun _ _ _ => True) hinit
    (fun past t i hI _ => hstep past t i hI) (fun _ _ _ _ => trivial)

/-- Where each step keeps an invariant of histories and obeys a law of its exchange and of what
came before it, every exchange of a run obeys the law. -/
theorem law_of_invariant {I : List (Exchange σ ι ο) → σ → Prop}
    {L : List (Exchange σ ι ο) → Exchange σ ι ο → Prop} {s : σ} (hinit : I [] s)
    (hstep : ∀ past t i, I past t →
      L past (exchange step t i) ∧ I (past ++ [exchange step t i]) (step t i).1)
    {is : List ι} {past rest : List (Exchange σ ι ο)} {e : Exchange σ ι ο}
    (hsplit : history step s is = past ++ e :: rest) : L past e := by
  induction is using List.reverseRecOn generalizing rest with
  | nil => cases past <;> cases hsplit
  | append_singleton is i ih =>
      rw [history_snoc] at hsplit
      rcases List.eq_nil_or_concat rest with rfl | ⟨before, last, rfl⟩
      · obtain ⟨rfl, hlast⟩ := List.append_inj' hsplit rfl
        cases hlast
        have hinvariant := history_invariant step hinit (fun past t i hI => (hstep past t i hI).2) is
        exact (hstep _ _ i hinvariant).1
      · rw [List.concat_eq_append, ← List.cons_append, ← List.append_assoc] at hsplit
        obtain ⟨hbefore, -⟩ := List.append_inj' hsplit rfl
        exact ih hbefore

/-- An invariant of states that every step preserves holds after every run. -/
theorem invariant_after {I : σ → Prop} {s : σ} (hinit : I s)
    (hstep : ∀ t i, I t → I (step t i).1) (is : List ι) : I (after step s is) :=
  history_invariant step (I := fun _ t => I t) hinit
    (fun _ t i hI => hstep t i hI) is

/-- Each exchange of a run starts at a state in which the invariant holds. -/
theorem invariant_before_of_mem_history {I : σ → Prop} {s : σ} (hinit : I s)
    (hstep : ∀ t i, I t → I (step t i).1) {is : List ι} {e : Exchange σ ι ο}
    (he : e ∈ history step s is) :
    I e.before ∧ e = exchange step e.before e.input := by
  obtain ⟨first, i, second, -, rfl⟩ := exists_split_of_mem_history step he
  exact ⟨invariant_after step hinit hstep first, rfl⟩

/-- The same where only the inputs of the run preserve the invariant. -/
theorem invariant_before_of_inputs {I : σ → Prop} {s : σ} (hinit : I s) {is : List ι}
    (hstep : ∀ t, ∀ i ∈ is, I t → I (step t i).1) {e : Exchange σ ι ο}
    (he : e ∈ history step s is) :
    I e.before ∧ e = exchange step e.before e.input ∧ e.input ∈ is := by
  induction is generalizing s with
  | nil => cases he
  | cons i is ih =>
      rcases List.mem_cons.mp he with rfl | hrest
      · exact ⟨hinit, rfl, List.mem_cons_self⟩
      · have hnext := hstep s i List.mem_cons_self hinit
        obtain ⟨hbefore, hexchange, hmem⟩ := ih hnext
          (fun t j hj => hstep t j (List.mem_cons_of_mem i hj)) hrest
        exact ⟨hbefore, hexchange, List.mem_cons_of_mem i hmem⟩

/-- **Lockstep.** Two machines whose related states answer alike and stay related give the
same answers along a run, as long as the first one's steps meet the condition. -/
theorem outputs_eq_of_lockstep {σ' : Type u} {step' : σ' → ι → σ' × ο} {R : σ → σ' → Prop}
    {C : σ → ι → Prop} {s : σ} {s' : σ'} (hinit : R s s') {is : List ι}
    (hstep : ∀ t t', ∀ i ∈ is, R t t' → C t i →
      R (step t i).1 (step' t' i).1 ∧ (step' t' i).2 = (step t i).2)
    (hC : EachStep step (fun _ => C) s is) :
    R (after step s is) (after step' s' is) ∧
      (history step' s' is).map (·.output) = (history step s is).map (·.output) := by
  induction is using List.reverseRecOn with
  | nil => exact ⟨hinit, rfl⟩
  | append_singleton is i ih =>
      obtain ⟨hrelated, houtputs⟩ := ih
        (fun t t' j hj => hstep t t' j (List.mem_append_left _ hj)) (EachStep.of_append step hC)
      obtain ⟨hrelated', houtput⟩ := hstep _ _ i (List.mem_append_right _ List.mem_cons_self)
        hrelated (EachStep.last step hC)
      rw [after_snoc, after_snoc, history_snoc, history_snoc, List.map_append, List.map_append,
        houtputs]
      exact ⟨hrelated', congrArg (fun o => _ ++ [o]) houtput⟩

/-- **Lockstep under a condition.** Two machines that stay related by the steps that meet a
condition, and answer such a step alike but no other one, give the same answers along a run
exactly when its steps meet the condition. -/
theorem outputs_eq_iff_of_lockstep {σ' : Type u} {ο' : Type w} {step' : σ' → ι → σ' × ο}
    (f : ο → ο') {R : List ι → σ → σ' → Prop} {C : σ → ι → Prop} {s : σ} {s' : σ'}
    (hinit : R [] s s') {is : List ι}
    (hstep : ∀ past t t' i, (past ++ [i]).IsPrefix is → R past t t' →
      (f (step t i).2 = f (step' t' i).2 ↔ C t i) ∧
        (C t i → R (past ++ [i]) (step t i).1 (step' t' i).1)) :
    ((history step s is).map fun e => f e.output) = ((history step' s' is).map fun e => f e.output) ↔
      EachStep step (fun _ => C) s is := by
  have hboth : (((history step s is).map fun e => f e.output) =
        ((history step' s' is).map fun e => f e.output) ↔ EachStep step (fun _ => C) s is) ∧
      (EachStep step (fun _ => C) s is → R is (after step s is) (after step' s' is)) := by
    induction is using List.reverseRecOn with
    | nil => exact ⟨iff_of_true rfl (eachStep_nil step), fun _ => hinit⟩
    | append_singleton is i ih =>
        obtain ⟨houtputs, hrelated⟩ := ih fun past t t' j hpart =>
          hstep past t t' j (hpart.trans (List.prefix_append is [i]))
        have hlast := hstep is (after step s is) (after step' s' is) i (List.prefix_refl _)
        have hsplit : ∀ (first second : List ο') (a b : ο'),
            first ++ [a] = second ++ [b] ↔ first = second ∧ a = b := by
          intro first second a b
          constructor
          · intro h
            obtain ⟨hinit', hlast'⟩ := List.append_inj' h rfl
            exact ⟨hinit', List.singleton_inj.mp hlast'⟩
          · rintro ⟨rfl, rfl⟩
            rfl
        rw [history_snoc, history_snoc, List.map_append, List.map_append, after_snoc, after_snoc,
          eachStep_snoc, ← houtputs]
        constructor
        · refine (hsplit _ _ _ _).trans (and_congr_right fun hbefore => ?_)
          exact (hlast (hrelated (houtputs.mp hbefore))).1
        · rintro ⟨hbefore, hcondition⟩
          exact (hlast (hrelated (houtputs.mp hbefore))).2 hcondition
  exact hboth.1

/-- **Lockstep on related inputs.** Where related inputs take related states to related states
by related exchanges, related runs have related exchanges throughout. -/
theorem history_forall₂ {σ' : Type u} {ι' : Type v} {ο' : Type w} {step' : σ' → ι' → σ' × ο'}
    {R : σ → σ' → Prop} {A : ι → ι' → Prop} {Q : Exchange σ ι ο → Exchange σ' ι' ο' → Prop}
    (hstep : ∀ t t' i i', R t t' → A i i' →
      R (step t i).1 (step' t' i').1 ∧ Q (exchange step t i) (exchange step' t' i'))
    {s : σ} {s' : σ'} (hinit : R s s') {is : List ι} {is' : List ι'}
    (h : List.Forall₂ A is is') :
    List.Forall₂ Q (history step s is) (history step' s' is') := by
  induction h generalizing s s' with
  | nil => exact .nil
  | cons hinput _ ih =>
      obtain ⟨hnext, hexchange⟩ := hstep s s' _ _ hinit hinput
      exact .cons hexchange (ih hnext)

/-- **Simulation.** Where each step of a machine, seen through projections, is a step of another
one, each run is seen as a run of the other one. -/
theorem history_map {σ' : Type u} {ι' : Type v} {ο' : Type w} {step' : σ' → ι' → σ' × ο'}
    {onState : σ → σ'} {onInput : ι → ι'} {onOutput : ο → ο'}
    (hstep : ∀ t i, step' (onState t) (onInput i) = (onState (step t i).1, onOutput (step t i).2))
    (s : σ) (is : List ι) :
    history step' (onState s) (is.map onInput) =
      (history step s is).map (Exchange.map onState onInput onOutput) := by
  induction is generalizing s with
  | nil => rfl
  | cons i is ih =>
      rw [List.map_cons, history, history, List.map_cons, exchange, hstep, ih]
      rfl

end Machine

end ImageStream.Base
