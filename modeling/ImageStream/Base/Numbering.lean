/-
# Numbers issued in epochs

A counter issues stamps. Within an epoch it counts one, two, three and so on; it leaves
the epoch by drawing a fresh one, in which it starts again at one. A stamp may carry a
label, and the counter keeps to the label of its epoch: it issues another label only when
it draws a fresh epoch for it. Stamps without a label go with any epoch.

As long as what is drawn is fresh, the stamps of an epoch are numbered without gap and
repetition, follow each other without a stamp of another epoch between them, and carry
one label at most.
-/

import Mathlib.Algebra.Group.Int.Defs
import Mathlib.Data.List.Basic
import Mathlib.Data.List.Nodup

namespace ImageStream.Base

universe u v

structure Stamp (ρ : Type u) (α : Type v) where
  epoch : ρ
  number : ℤ
  label : Option α

/-- A counter: its epoch, the next number and the label that the epoch has got. -/
structure Counter (ρ : Type u) (α : Type v) where
  epoch : ρ
  next : ℤ := 1
  label : Option α := none

namespace Numbering

variable {ρ : Type u} {α : Type v}

/-- What a counter may do when these epochs have been drawn. -/
inductive Step (drawn : List ρ) (c : Counter ρ α) :
    List ρ → Option (Stamp ρ α) → Counter ρ α → Prop
  /-- Nothing is issued; what is drawn is not used. -/
  | quiet (more : List ρ) : Step drawn c more none c
  | issue (more : List ρ) (label : Option α) (fits : ∀ a ∈ label, ∀ b ∈ c.label, a = b) :
      Step drawn c more (some ⟨c.epoch, c.next, label⟩)
        { c with next := c.next + 1, label := label.or c.label }
  | rotate (fresh : ρ) (unseen : fresh ∉ drawn) (label : α) :
      Step drawn c [fresh] (some ⟨fresh, 1, some label⟩)
        { epoch := fresh, next := 2, label := some label }

/-- A run of a counter that starts in an epoch, with what has been drawn and issued. -/
inductive Run (first : ρ) : List ρ → List (Stamp ρ α) → Counter ρ α → Prop
  | start : Run first [first] [] { epoch := first }
  | snoc {drawn more : List ρ} {stamps : List (Stamp ρ α)} {issued : Option (Stamp ρ α)}
      {c c' : Counter ρ α} (before : Run first drawn stamps c)
      (step : Step drawn c more issued c') :
      Run first (drawn ++ more) (stamps ++ issued.toList) c'

/-! ## Counting -/

/-- One, two, three and so on. -/
def countUp (n : ℕ) : List ℤ := (List.range n).map fun (i : ℕ) => (i : ℤ) + 1

@[simp]
theorem length_countUp (n : ℕ) : (countUp n).length = n := by
  simp [countUp]

theorem countUp_succ (n : ℕ) : countUp (n + 1) = countUp n ++ [(n : ℤ) + 1] := by
  simp [countUp, List.range_succ]

/-- The numbers of an epoch's stamps, in the order of issue. -/
def numbersOf [DecidableEq ρ] (stamps : List (Stamp ρ α)) (epoch : ρ) : List ℤ :=
  (stamps.filter fun stamp => stamp.epoch = epoch).map Stamp.number

section NumbersOf

variable [DecidableEq ρ] (stamps : List (Stamp ρ α))

theorem numbersOf_snoc_self (number : ℤ) (epoch : ρ) (label : Option α) :
    numbersOf (stamps ++ [⟨epoch, number, label⟩]) epoch = numbersOf stamps epoch ++ [number] := by
  simp [numbersOf, List.filter_append]

theorem numbersOf_snoc_of_ne {stamp : Stamp ρ α} {epoch : ρ} (h : stamp.epoch ≠ epoch) :
    numbersOf (stamps ++ [stamp]) epoch = numbersOf stamps epoch := by
  simp [numbersOf, List.filter_append, h]

theorem numbersOf_eq_nil {epoch : ρ} (h : ∀ stamp ∈ stamps, stamp.epoch ≠ epoch) :
    numbersOf stamps epoch = [] := by
  unfold numbersOf
  rw [List.map_eq_nil_iff, List.filter_eq_nil_iff]
  exact fun stamp hstamp => by simpa using h stamp hstamp

end NumbersOf

/-! ## Splitting at a last stamp -/

/-- A split of a list that has grown is a split of the old one, or is at the new item. -/
theorem split_snoc {β : Type u} {items before after : List β} {last item : β}
    (h : items ++ [last] = before ++ item :: after) :
    (after = [] ∧ items = before ∧ item = last) ∨
      ∃ rest, after = rest ++ [last] ∧ items = before ++ item :: rest := by
  rcases List.eq_nil_or_concat after with rfl | ⟨rest, final, rfl⟩
  · obtain ⟨rfl, hlast⟩ := List.append_inj' h rfl
    cases hlast
    exact Or.inl ⟨rfl, rfl, rfl⟩
  · rw [List.concat_eq_append, ← List.cons_append, ← List.append_assoc] at h
    obtain ⟨hitems, hlast⟩ := List.append_inj' h rfl
    cases hlast
    exact Or.inr ⟨rest, List.concat_eq_append, hitems⟩

/-! ## What runs keep -/

/-- What the stamps of a run obey. -/
structure Lawful [DecidableEq ρ] (stamps : List (Stamp ρ α)) : Prop where
  numbers : ∀ epoch, numbersOf stamps epoch = countUp (numbersOf stamps epoch).length
  uniform : ∀ s ∈ stamps, ∀ t ∈ stamps, s.epoch = t.epoch →
    ∀ a ∈ s.label, ∀ b ∈ t.label, a = b
  contiguous : ∀ before s between t after, stamps = before ++ s :: (between ++ t :: after) →
    s.epoch = t.epoch → ∀ u ∈ between, u.epoch = s.epoch

theorem Lawful.nodup_numbersOf [DecidableEq ρ] {stamps : List (Stamp ρ α)} (h : Lawful stamps)
    (epoch : ρ) : (numbersOf stamps epoch).Nodup := by
  rw [h.numbers epoch, countUp]
  refine List.Nodup.map (fun first second heq => ?_) List.nodup_range
  exact_mod_cast add_right_cancel heq

/-- What the counter knows of the stamps that it has issued. -/
structure Sound [DecidableEq ρ] (drawn : List ρ) (stamps : List (Stamp ρ α))
    (c : Counter ρ α) : Prop where
  lawful : Lawful stamps
  current : c.epoch ∈ drawn
  known : ∀ s ∈ stamps, s.epoch ∈ drawn
  next : c.next = (numbersOf stamps c.epoch).length + 1
  label : ∀ s ∈ stamps, s.epoch = c.epoch → ∀ a ∈ s.label, c.label = some a
  unbroken : ∀ before s after, stamps = before ++ s :: after → s.epoch = c.epoch →
    ∀ u ∈ after, u.epoch = c.epoch

namespace Sound

variable [DecidableEq ρ] {drawn more : List ρ} {stamps : List (Stamp ρ α)}
  {issued : Option (Stamp ρ α)} {c c' : Counter ρ α}

theorem start (first : ρ) : Sound [first] ([] : List (Stamp ρ α)) { epoch := first } where
  lawful :=
    { numbers := fun _ => rfl
      uniform := fun _ hs => by cases hs
      contiguous := fun before _ _ _ _ h => by cases before <;> cases h }
  current := List.mem_singleton_self first
  known _ hs := by cases hs
  next := rfl
  label _ hs := by cases hs
  unbroken before _ _ h := by cases before <;> cases h

/-- Drawing without use. -/
theorem quiet (h : Sound drawn stamps c) (more : List ρ) : Sound (drawn ++ more) stamps c :=
  { h with
    current := List.mem_append_left _ h.current
    known := fun s hs => List.mem_append_left _ (h.known s hs) }

/-- The next number of the epoch. -/
theorem issue (h : Sound drawn stamps c) {label : Option α}
    (fits : ∀ a ∈ label, ∀ b ∈ c.label, a = b) :
    Sound drawn (stamps ++ [⟨c.epoch, c.next, label⟩])
      { c with next := c.next + 1, label := label.or c.label } where
  lawful :=
    { numbers := by
        intro epoch
        by_cases hepoch : c.epoch = epoch
        · subst hepoch
          have hlength := numbersOf_snoc_self stamps c.next c.epoch label
          rw [hlength, List.length_append, List.length_singleton, countUp_succ,
            ← h.lawful.numbers c.epoch, h.next]
        · rw [numbersOf_snoc_of_ne stamps hepoch]
          exact h.lawful.numbers epoch
      uniform := by
        -- A new label is the label of the epoch, which all older stamps have.
        intro s hs t ht hepoch a ha b hb
        rcases List.mem_append.mp hs with hs | hs <;> rcases List.mem_append.mp ht with ht | ht
        · exact h.lawful.uniform s hs t ht hepoch a ha b hb
        · rw [List.mem_singleton] at ht
          subst ht
          exact (fits b hb a (h.label s hs hepoch a ha)).symm
        · rw [List.mem_singleton] at hs
          subst hs
          exact fits a ha b (h.label t ht hepoch.symm b hb)
        · rw [List.mem_singleton] at hs ht
          subst hs ht
          exact Option.some.inj (ha.symm.trans hb)
      contiguous := by
        intro before s between t after hsplit hepoch u hu
        rcases split_snoc hsplit with ⟨hnil, -, -⟩ | ⟨rest, hrest, hold⟩
        · simp at hnil
        rcases split_snoc hrest.symm with ⟨rfl, rfl, rfl⟩ | ⟨rest', rfl, rfl⟩
        · exact (h.unbroken before s _ hold hepoch u hu).trans hepoch.symm
        · exact h.lawful.contiguous before s between t rest' hold hepoch u hu }
  current := h.current
  known s hs := by
    rcases List.mem_append.mp hs with hs | hs
    · exact h.known s hs
    · rw [List.mem_singleton.mp hs]
      exact h.current
  next := by
    show c.next + 1 = _
    rw [numbersOf_snoc_self, List.length_append, List.length_singleton, h.next]
    simp
  label s hs hepoch a ha := by
    rcases List.mem_append.mp hs with hs | hs
    · have hlabel := h.label s hs hepoch a ha
      cases label with
      | none => exact hlabel
      | some b => exact congrArg some (fits b rfl a hlabel)
    · rw [List.mem_singleton] at hs
      subst hs
      cases ha
      rfl
  unbroken before s after hsplit hepoch u hu := by
    rcases split_snoc hsplit with ⟨rfl, -, -⟩ | ⟨rest, rfl, hold⟩
    · cases hu
    · rcases List.mem_append.mp hu with hu | hu
      · exact h.unbroken before s rest hold hepoch u hu
      · rw [List.mem_singleton.mp hu]

/-- The first number of a fresh epoch. -/
theorem rotate (h : Sound drawn stamps c) {fresh : ρ} (unseen : fresh ∉ drawn) (label : α) :
    Sound (drawn ++ [fresh]) (stamps ++ [⟨fresh, 1, some label⟩])
      { epoch := fresh, next := 2, label := some label } := by
  have hother : ∀ s ∈ stamps, s.epoch ≠ fresh := fun s hs heq => unseen (heq ▸ h.known s hs)
  have hnone := numbersOf_eq_nil stamps hother
  have hone := numbersOf_snoc_self stamps 1 fresh (some label)
  rw [hnone, List.nil_append] at hone
  refine
    { lawful := { numbers := ?numbers, uniform := ?uniform, contiguous := ?contiguous }
      current := by simp
      known := ?known
      next := by rw [hone]; rfl
      label := ?label
      unbroken := ?unbroken }
  case numbers =>
    intro epoch
    by_cases hepoch : fresh = epoch
    · subst hepoch
      rw [hone]
      rfl
    · rw [numbersOf_snoc_of_ne stamps hepoch]
      exact h.lawful.numbers epoch
  case uniform =>
    intro s hs t ht hepoch a ha b hb
    rcases List.mem_append.mp hs with hs | hs <;> rcases List.mem_append.mp ht with ht | ht
    · exact h.lawful.uniform s hs t ht hepoch a ha b hb
    · rw [List.mem_singleton.mp ht] at hepoch
      exact absurd hepoch (hother s hs)
    · rw [List.mem_singleton.mp hs] at hepoch
      exact absurd hepoch.symm (hother t ht)
    · rw [List.mem_singleton] at hs ht
      subst hs ht
      exact Option.some.inj (ha.symm.trans hb)
  case contiguous =>
    intro before s between t after hsplit hepoch u hu
    rcases split_snoc hsplit with ⟨hnil, -, -⟩ | ⟨rest, hrest, hold⟩
    · simp at hnil
    rcases split_snoc hrest.symm with ⟨rfl, rfl, rfl⟩ | ⟨rest', rfl, rfl⟩
    · exact absurd hepoch (hother s (by rw [hold]; simp))
    · exact h.lawful.contiguous before s between t rest' hold hepoch u hu
  case known =>
    intro s hs
    rcases List.mem_append.mp hs with hs | hs
    · exact List.mem_append_left _ (h.known s hs)
    · rw [List.mem_singleton.mp hs]
      simp
  case label =>
    intro s hs hepoch a ha
    rcases List.mem_append.mp hs with hs | hs
    · exact absurd hepoch (hother s hs)
    · rw [List.mem_singleton] at hs
      subst hs
      exact ha
  case unbroken =>
    intro before s after hsplit hepoch u hu
    rcases split_snoc hsplit with ⟨rfl, -, -⟩ | ⟨rest, rfl, hold⟩
    · cases hu
    · exact absurd hepoch (hother s (by rw [hold]; simp))

/-- Every step keeps what the counter knows. -/
theorem step (h : Sound drawn stamps c) (hstep : Step drawn c more issued c') :
    Sound (drawn ++ more) (stamps ++ issued.toList) c' := by
  cases hstep with
  | quiet => simpa using h.quiet more
  | issue _ label fits => exact (h.issue fits).quiet more
  | rotate fresh unseen label => exact h.rotate unseen label

end Sound

theorem Run.sound [DecidableEq ρ] {first : ρ} {drawn : List ρ} {stamps : List (Stamp ρ α)}
    {c : Counter ρ α} (h : Run first drawn stamps c) : Sound drawn stamps c := by
  induction h with
  | start => exact Sound.start first
  | snoc before step ih => exact ih.step step

end Numbering

end ImageStream.Base
