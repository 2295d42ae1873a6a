/-
# Actions that may raise

A method of a client reads and writes a state, and it may raise an exception; what it
has written until then stays written. `EStateM` is that shape. `Ensures` is the weakest
precondition of an action at a state, with one postcondition for the value returned and
one for the exception raised. The rules below take an action apart along its structure,
so a proof about a method follows the method's text.

The state is not rolled back by a handler, so what an action does before it raises has to
be accounted for in its second postcondition.
-/

import Mathlib.Order.Defs.Unbundled

namespace ImageStream.Base

universe u

/-- An action on states `σ`, which returns a value or raises an exception of type `ε`. -/
abbrev Action (σ ε : Type u) : Type u → Type u := EStateM ε σ

variable {σ ε α β : Type u}

/-- What holds of the value or of the exception, with the state that is left. -/
def Ensures (x : Action σ ε α) (s : σ) (Q : α → σ → Prop) (R : ε → σ → Prop) : Prop :=
  match x s with
  | .ok a s' => Q a s'
  | .error e s' => R e s'

/-- A sequence of results has a value when both of its parts have one. -/
theorem bind_eq_ok {x : Except ε α} {f : α → Except ε β} {b : β} :
    (x >>= f) = .ok b ↔ ∃ a, x = .ok a ∧ f a = .ok b := by
  cases x with
  | error e => exact ⟨fun h => (by cases h), fun ⟨a, hx, _⟩ => (by cases hx)⟩
  | ok a => exact ⟨fun h => ⟨a, rfl, h⟩, fun ⟨a', hx, hf⟩ => by cases hx; exact hf⟩

/-- A sequence of results is an error when one of its parts is. -/
theorem bind_eq_error {x : Except ε α} {f : α → Except ε β} {e : ε} :
    (x >>= f) = .error e ↔ x = .error e ∨ ∃ a, x = .ok a ∧ f a = .error e := by
  cases x with
  | error e' =>
      exact ⟨fun h => Or.inl (by cases h; rfl),
        fun h => h.elim (fun h => by cases h; rfl) fun ⟨_, hx, _⟩ => by cases hx⟩
  | ok a =>
      exact ⟨fun h => Or.inr ⟨a, rfl, h⟩,
        fun h => h.elim (fun h => by cases h) fun ⟨_, hx, hf⟩ => by cases hx; exact hf⟩

/-! ## Loops whose rounds read and then record

A round gets `g x`, which may raise, and records it in the state with `h`. -/

section Loops

variable {g : α → Except ε β} {h : σ → α → β → σ} {xs : List α} {s t : σ}

theorem foldlM_map_cons {x : α} {y : β} (hx : g x = .ok y) :
    (x :: xs).foldlM (fun s x => (g x).map (h s x)) s =
      xs.foldlM (fun s x => (g x).map (h s x)) (h s x y) := by
  rw [List.foldlM_cons, hx]
  rfl

theorem foldlM_map_cons_error {x : α} {e : ε} (hx : g x = .error e) :
    (x :: xs).foldlM (fun s x => (g x).map (h s x)) s = .error e := by
  rw [List.foldlM_cons, hx]
  rfl

/-- A loop that ends has read every input. -/
theorem ok_of_foldlM_map (hrun : xs.foldlM (fun s x => (g x).map (h s x)) s = .ok t) :
    ∀ x ∈ xs, ∃ y, g x = .ok y := by
  induction xs generalizing s with
  | nil => exact fun x hx => absurd hx List.not_mem_nil
  | cons x xs ih =>
      cases hx : g x with
      | error e =>
          rw [foldlM_map_cons_error hx] at hrun
          cases hrun
      | ok y =>
          rw [foldlM_map_cons hx] at hrun
          intro x' hx'
          rcases List.mem_cons.mp hx' with rfl | hrest
          · exact ⟨y, hx⟩
          · exact ih hrun x' hrest

/-- A loop that can read every input records what it reads. -/
theorem foldlM_map_of_ok {v : α → β} (hv : ∀ x ∈ xs, g x = .ok (v x)) :
    xs.foldlM (fun s x => (g x).map (h s x)) s = .ok (xs.foldl (fun s x => h s x (v x)) s) := by
  induction xs generalizing s with
  | nil => rfl
  | cons x xs ih =>
      rw [foldlM_map_cons (hv x List.mem_cons_self), List.foldl_cons]
      exact ih fun x' hx' => hv x' (List.mem_cons_of_mem _ hx')

/-- What recording keeps holds at the end of a loop. -/
theorem foldlM_map_invariant {P : σ → Prop} (hrecord : ∀ s x y, P s → P (h s x y))
    (hrun : xs.foldlM (fun s x => (g x).map (h s x)) s = .ok t) (hs : P s) : P t := by
  induction xs generalizing s with
  | nil =>
      cases hrun
      exact hs
  | cons x xs ih =>
      cases hx : g x with
      | error e =>
          rw [foldlM_map_cons_error hx] at hrun
          cases hrun
      | ok y =>
          rw [foldlM_map_cons hx] at hrun
          exact ih hrun (hrecord s x y hs)

end Loops

namespace Action

/-- What an action comes to: its value, or what it raises. -/
def attempt (x : Action σ ε α) : Action σ ε (Except ε α) := fun s =>
  match x s with
  | .ok a s' => .ok (.ok a) s'
  | .error e s' => .ok (.error e) s'

/-- A result that has been computed without the state. -/
def ofExcept : Except ε α → Action σ ε α
  | .ok a => pure a
  | .error e => throw e

end Action

namespace Ensures

variable {x : Action σ ε α} {s : σ} {Q Q' : α → σ → Prop} {R R' : ε → σ → Prop}

theorem of_eq_ok {a : α} {s' : σ} (hx : x s = .ok a s') (h : Q a s') : Ensures x s Q R := by
  unfold Ensures
  rw [hx]
  exact h

theorem of_eq_error {e : ε} {s' : σ} (hx : x s = .error e s') (h : R e s') :
    Ensures x s Q R := by
  unfold Ensures
  rw [hx]
  exact h

theorem ok (h : Ensures x s Q R) {a : α} {s' : σ} (hx : x s = .ok a s') : Q a s' := by
  unfold Ensures at h
  rw [hx] at h
  exact h

theorem error (h : Ensures x s Q R) {e : ε} {s' : σ} (hx : x s = .error e s') : R e s' := by
  unfold Ensures at h
  rw [hx] at h
  exact h

/-- The rule of consequence. -/
theorem imp (h : Ensures x s Q R) (hQ : ∀ a s', Q a s' → Q' a s')
    (hR : ∀ e s', R e s' → R' e s') : Ensures x s Q' R' := by
  cases hx : x s with
  | ok a s' => exact of_eq_ok hx (hQ a s' (h.ok hx))
  | error e s' => exact of_eq_error hx (hR e s' (h.error hx))

theorem and (h : Ensures x s Q R) (h' : Ensures x s Q' R') :
    Ensures x s (fun a s' => Q a s' ∧ Q' a s') fun e s' => R e s' ∧ R' e s' := by
  cases hx : x s with
  | ok a s' => exact of_eq_ok hx ⟨h.ok hx, h'.ok hx⟩
  | error e s' => exact of_eq_error hx ⟨h.error hx, h'.error hx⟩

@[simp]
theorem pure_iff {a : α} : Ensures (pure a : Action σ ε α) s Q R ↔ Q a s := Iff.rfl

@[simp]
theorem throw_iff {e : ε} : Ensures (throw e : Action σ ε α) s Q R ↔ R e s := Iff.rfl

/-- The rule of sequencing. -/
theorem bind_iff {f : α → Action σ ε β} {Q : β → σ → Prop} :
    Ensures (x >>= f) s Q R ↔ Ensures x s (fun a s' => Ensures (f a) s' Q R) R := by
  have hbind : (x >>= f) s = EStateM.bind x f s := rfl
  unfold Ensures
  rw [hbind, EStateM.bind]
  cases x s <;> exact Iff.rfl

/-- A sequence, from a specification of its first action. -/
theorem bind {f : α → Action σ ε β} {P : α → σ → Prop} {Q : β → σ → Prop}
    (hx : Ensures x s P R') (hR : ∀ e s', R' e s' → R e s')
    (hf : ∀ a s', P a s' → Ensures (f a) s' Q R) : Ensures (x >>= f) s Q R :=
  bind_iff.mpr (hx.imp hf hR)

/-- A handler sees what has been raised, in the state that has been left. -/
theorem attempt_iff {Q : Except ε α → σ → Prop} :
    Ensures x.attempt s Q R ↔ Ensures x s (fun a => Q (.ok a)) fun e => Q (.error e) := by
  unfold Ensures Action.attempt
  cases x s <;> exact Iff.rfl

theorem ofExcept_iff {result : Except ε α} :
    Ensures (Action.ofExcept result) s Q R ↔
      (∀ a, result = .ok a → Q a s) ∧ ∀ e, result = .error e → R e s := by
  cases result with
  | ok a => simp [Action.ofExcept]
  | error e => simp [Action.ofExcept]

theorem ite {c : Prop} [Decidable c] {y : Action σ ε α} (hthen : c → Ensures x s Q R)
    (helse : ¬c → Ensures y s Q R) : Ensures (if c then x else y) s Q R := by
  by_cases h : c
  · rw [if_pos h]
    exact hthen h
  · rw [if_neg h]
    exact helse h

end Ensures

/-! ## Frames -/

/-- Every run of an action takes its state to a related one, however it ends. -/
def Action.Within (r : σ → σ → Prop) (x : Action σ ε α) : Prop :=
  ∀ s, Ensures x s (fun _ => r s) fun _ => r s

namespace Action.Within

variable {x : Action σ ε α} {r r' : σ → σ → Prop}

theorem imp (h : Within r x) (hr : ∀ s s', r s s' → r' s s') : Within r' x :=
  fun s => (h s).imp (fun _ => hr s) fun _ => hr s

section Preorder

variable [IsPreorder σ r]

theorem pure (a : α) : Within r (Pure.pure a : Action σ ε α) := Std.Refl.refl

theorem throw (e : ε) : Within r (MonadExcept.throw e : Action σ ε α) := Std.Refl.refl

theorem ofExcept (result : Except ε α) : Within r (Action.ofExcept result) := by
  cases result with
  | ok a => exact pure a
  | error e => exact throw e

/-- Sequences stay within what is transitive. -/
theorem bind {f : α → Action σ ε β} (hx : Within r x) (hf : ∀ a, Within r (f a)) :
    Within r (x >>= f) :=
  fun s => (hx s).bind (fun _ _ h => h) fun a s' hs =>
    (hf a s').imp (fun _ _ => IsTrans.trans _ _ _ hs) fun _ _ => IsTrans.trans _ _ _ hs

end Preorder

theorem ite {c : Prop} [Decidable c] {y : Action σ ε α} (hx : Within r x) (hy : Within r y) :
    Within r (if c then x else y) :=
  fun s => Ensures.ite (fun _ => hx s) fun _ => hy s

end Action.Within

/-- A sequence whose first action is a detour: what it leaves is related to the state it has
found, and so is what the rest leaves. -/
theorem Ensures.after_within {x : Action σ ε α} {s : σ} {f : α → Action σ ε β}
    {r : σ → σ → Prop} {Q : β → σ → Prop} {R : ε → σ → Prop} (hx : x.Within r)
    (hR : ∀ e s', r s s' → R e s') (hf : ∀ a s', r s s' → Ensures (f a) s' Q R) :
    Ensures (x >>= f) s Q R :=
  (hx s).bind hR hf

end ImageStream.Base
