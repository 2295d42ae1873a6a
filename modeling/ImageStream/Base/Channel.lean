/-
# A channel that moves forward

Items are taken into a channel in the order of a strict relation: each is behind nothing
that has been taken before. Items may be lost at any time. Picking an item drops whatever
is not later than it. So what is picked afterwards comes after the pick, and no item that
a pick has passed over is picked any more.
-/

import Mathlib.Data.List.Pairwise
import Mathlib.Order.Defs.Unbundled

namespace ImageStream.Base

universe u

/-- The items that can be picked, and the item that was taken last. -/
structure Channel (α : Type u) where
  held : List α := []
  mark : Option α := none

namespace Channel

/-- What a move takes and what it picks. -/
structure Move (α : Type u) where
  taken : Option α := none
  picked : Option α := none

variable {α : Type u} (precedes later : α → α → Prop)

/-- One move of a channel. -/
structure Step (ch : Channel α) (move : Move α) (ch' : Channel α) : Prop where
  fresh : ∀ x ∈ move.taken, ∀ m ∈ ch.mark, precedes m x
  picked : ∀ p ∈ move.picked, p ∈ ch.held ++ move.taken.toList
  held : ch'.held.Sublist (ch.held ++ move.taken.toList)
  passed : ∀ p ∈ move.picked, ∀ y ∈ ch'.held, later p y
  mark : ch'.mark = move.taken.or ch.mark

/-- The moves of a run, oldest first. -/
def Run (ch : Channel α) : List (Move α) → Channel α → Prop
  | [], ch' => ch' = ch
  | move :: moves, ch'' => ∃ ch', Step precedes later ch move ch' ∧ Run ch' moves ch''

/-- The items that have been taken. -/
def takes (moves : List (Move α)) : List α := moves.filterMap Move.taken

@[simp]
theorem takes_append (first second : List (Move α)) :
    takes (first ++ second) = takes first ++ takes second :=
  List.filterMap_append

@[simp]
theorem takes_singleton (move : Move α) : takes [move] = move.taken.toList := by
  unfold takes
  cases hmove : move.taken <;> simp [hmove]

variable {precedes later}

theorem Run.append_iff {ch ch'' : Channel α} {first second : List (Move α)} :
    Run precedes later ch (first ++ second) ch'' ↔
      ∃ ch', Run precedes later ch first ch' ∧ Run precedes later ch' second ch'' := by
  induction first generalizing ch with
  | nil => exact ⟨fun h => ⟨ch, rfl, h⟩, fun ⟨_, hch, h⟩ => hch ▸ h⟩
  | cons move moves ih =>
      constructor
      · rintro ⟨next, hstep, hrun⟩
        obtain ⟨ch', hfirst, hsecond⟩ := ih.mp hrun
        exact ⟨ch', ⟨next, hstep, hfirst⟩, hsecond⟩
      · rintro ⟨ch', ⟨next, hstep, hfirst⟩, hsecond⟩
        exact ⟨next, hstep, ih.mpr ⟨ch', hfirst, hsecond⟩⟩

/-- An item is at the mark or precedes it. -/
def UpTo (precedes : α → α → Prop) (ch : Channel α) (x : α) : Prop :=
  ∃ m ∈ ch.mark, x = m ∨ precedes x m

/-- A channel whose items are in order, with what has been taken so far. -/
structure Sound (precedes : α → α → Prop) (taken : List α) (ch : Channel α) : Prop where
  ordered : ch.held.Pairwise precedes
  held : ∀ x ∈ ch.held, x ∈ taken
  upTo : ∀ x ∈ taken, UpTo precedes ch x

section Steps

variable [IsStrictOrder α precedes] {ch ch' : Channel α} {move : Move α} {taken : List α}

/-- A taken item comes after everything up to the mark. -/
theorem UpTo.precedes_taken (hstep : Step precedes later ch move ch') {x y : α}
    (hx : UpTo precedes ch x) (hy : y ∈ move.taken) : precedes x y := by
  obtain ⟨m, hm, rfl | hxm⟩ := hx
  · exact hstep.fresh y hy x hm
  · exact IsTrans.trans _ _ _ hxm (hstep.fresh y hy m hm)

theorem UpTo.step (hstep : Step precedes later ch move ch') {x : α} (hx : UpTo precedes ch x) :
    UpTo precedes ch' x := by
  cases htaken : move.taken with
  | none =>
      have hmark := hstep.mark
      rw [htaken, Option.none_or] at hmark
      unfold UpTo
      rwa [hmark]
  | some y =>
      have hmark := hstep.mark
      rw [htaken, Option.some_or] at hmark
      exact ⟨y, hmark, Or.inr (hx.precedes_taken hstep htaken)⟩

/-- What is held together with what is taken is in order. -/
theorem Sound.pairwise (h : Sound precedes taken ch) (hstep : Step precedes later ch move ch') :
    (ch.held ++ move.taken.toList).Pairwise precedes := by
  rw [List.pairwise_append]
  refine ⟨h.ordered, ?_, fun x hx y hy => ?_⟩
  · cases move.taken <;> simp
  · exact (h.upTo x (h.held x hx)).precedes_taken hstep (Option.mem_toList.mp hy)

theorem Sound.step (h : Sound precedes taken ch) (hstep : Step precedes later ch move ch') :
    Sound precedes (taken ++ move.taken.toList) ch' := by
  constructor
  case ordered => exact (h.pairwise hstep).sublist hstep.held
  case held =>
    intro x hx
    have hmem := hstep.held.subset hx
    rw [List.mem_append] at hmem ⊢
    exact hmem.imp_left (h.held x)
  case upTo =>
    intro x hx
    rcases List.mem_append.mp hx with hold | hnew
    · exact (h.upTo x hold).step hstep
    · have hmark := hstep.mark
      rw [Option.mem_toList.mp hnew, Option.some_or] at hmark
      exact ⟨x, hmark, Or.inl rfl⟩

theorem Sound.run {moves : List (Move α)} {ch : Channel α} {taken : List α}
    (h : Sound precedes taken ch) (hrun : Run precedes later ch moves ch') :
    Sound precedes (taken ++ takes moves) ch' := by
  induction moves generalizing ch taken with
  | nil =>
      obtain rfl := hrun
      rwa [takes, List.filterMap_nil, List.append_nil]
  | cons move moves ih =>
      obtain ⟨next, hstep, hrest⟩ := hrun
      have hafter := ih (h.step hstep) hrest
      rwa [← List.singleton_append, takes_append, takes_singleton, ← List.append_assoc]

/-- What a run from the empty channel comes to. -/
theorem Run.sound {moves : List (Move α)} (hrun : Run precedes later {} moves ch') :
    Sound precedes (takes moves) ch' := by
  have hstart : Sound precedes ([] : List α) {} :=
    ⟨List.Pairwise.nil, fun _ h => (by cases h), fun _ h => (by cases h)⟩
  exact hstart.run hrun

/-! ## What a pick leaves behind -/

/-- An item that everything held comes after. -/
structure Behind (precedes : α → α → Prop) (ch : Channel α) (x : α) : Prop where
  held : ∀ y ∈ ch.held, precedes x y
  upTo : UpTo precedes ch x

/-- An item that is gone. -/
structure Gone (precedes : α → α → Prop) (ch : Channel α) (x : α) : Prop where
  held : x ∉ ch.held
  upTo : UpTo precedes ch x

theorem Behind.step {x : α} (h : Behind precedes ch x) (hstep : Step precedes later ch move ch') :
    Behind precedes ch' x ∧ ∀ p ∈ move.picked, precedes x p := by
  have hall : ∀ y ∈ ch.held ++ move.taken.toList, precedes x y := by
    intro y hy
    rcases List.mem_append.mp hy with hold | hnew
    · exact h.held y hold
    · exact h.upTo.precedes_taken hstep (Option.mem_toList.mp hnew)
  exact ⟨⟨fun y hy => hall y (hstep.held.subset hy), h.upTo.step hstep⟩,
    fun p hp => hall p (hstep.picked p hp)⟩

theorem Gone.step {x : α} (h : Gone precedes ch x) (hstep : Step precedes later ch move ch') :
    Gone precedes ch' x ∧ x ∉ move.picked := by
  have hnot : x ∉ ch.held ++ move.taken.toList := by
    intro hmem
    rcases List.mem_append.mp hmem with hold | hnew
    · exact h.held hold
    · exact irrefl x (h.upTo.precedes_taken hstep (Option.mem_toList.mp hnew))
  exact ⟨⟨fun hmem => hnot (hstep.held.subset hmem), h.upTo.step hstep⟩,
    fun hp => hnot (hstep.picked x hp)⟩

theorem Behind.run {x : α} {moves : List (Move α)} {ch : Channel α} (h : Behind precedes ch x)
    (hrun : Run precedes later ch moves ch') : Behind precedes ch' x := by
  induction moves generalizing ch with
  | nil =>
      obtain rfl := hrun
      exact h
  | cons move moves ih =>
      obtain ⟨next, hstep, hrest⟩ := hrun
      exact ih (h.step hstep).1 hrest

theorem Gone.run {x : α} {moves : List (Move α)} {ch : Channel α} (h : Gone precedes ch x)
    (hrun : Run precedes later ch moves ch') : Gone precedes ch' x := by
  induction moves generalizing ch with
  | nil =>
      obtain rfl := hrun
      exact h
  | cons move moves ih =>
      obtain ⟨next, hstep, hrest⟩ := hrun
      exact ih (h.step hstep).1 hrest

/-- A pick leaves itself behind. -/
theorem Sound.behind (h : Sound precedes taken ch) (hstep : Step precedes later ch move ch')
    (hlater : ∀ x y, later x y → x ≠ y ∧ ¬precedes y x) {p : α} (hp : p ∈ move.picked) :
    Behind precedes ch' p := by
  have hmem := hstep.picked p hp
  refine ⟨fun y hy => ?_, (h.step hstep).upTo p ?_⟩
  · obtain ⟨hne, hnot⟩ := hlater p y (hstep.passed p hp y hy)
    have hboth : precedes p y ∨ precedes y p := by
      have hpairwise : (ch.held ++ move.taken.toList).Pairwise fun a b =>
          precedes a b ∨ precedes b a := (h.pairwise hstep).imp Or.inl
      have : Std.Symm fun a b => precedes a b ∨ precedes b a := ⟨fun _ _ => Or.symm⟩
      exact hpairwise.forall hmem (hstep.held.subset hy) hne
    exact hboth.resolve_right hnot
  · rw [List.mem_append] at hmem ⊢
    exact hmem.imp_left (h.held p)

/-- What a pick passes over is gone. -/
theorem Sound.gone (h : Sound precedes taken ch) (hstep : Step precedes later ch move ch')
    {p x : α} (hp : p ∈ move.picked) (hx : x ∈ taken ++ move.taken.toList)
    (hpassed : ¬later p x) : Gone precedes ch' x :=
  ⟨fun hmem => hpassed (hstep.passed p hp x hmem), (h.step hstep).upTo x hx⟩

/-- **Picks move forward.** Of two picks of a run the second comes after the first, and it
is none of the items that the first one has passed over. -/
theorem Run.forward (hlater : ∀ x y, later x y → x ≠ y ∧ ¬precedes y x)
    {before between after : List (Move α)} {first second : Move α}
    (hrun : Run precedes later {} (before ++ first :: (between ++ second :: after)) ch')
    {p q : α} (hp : p ∈ first.picked) (hq : q ∈ second.picked) :
    precedes p q ∧ ∀ x ∈ takes (before ++ [first]), ¬later p x → x ≠ q := by
  obtain ⟨ch₁, hbefore, ch₂, hfirst, hrest⟩ := append_iff.mp hrun
  obtain ⟨ch₃, hbetween, ch₄, hsecond, -⟩ := append_iff.mp hrest
  have hsound := hbefore.sound
  constructor
  · exact (((hsound.behind hfirst hlater hp).run hbetween).step hsecond).2 q hq
  · rintro x hx hpassed rfl
    rw [takes_append, takes_singleton] at hx
    exact (((hsound.gone hfirst hp hx hpassed).run hbetween).step hsecond).2 hq

/-- What is picked has been taken. -/
theorem Run.picked_mem_takes {before after : List (Move α)} {move : Move α}
    (hrun : Run precedes later {} (before ++ move :: after) ch') {p : α} (hp : p ∈ move.picked) :
    p ∈ takes (before ++ [move]) := by
  obtain ⟨ch₁, hbefore, ch₂, hstep, -⟩ := append_iff.mp hrun
  have hmem := hstep.picked p hp
  rw [takes_append, takes_singleton]
  rw [List.mem_append] at hmem ⊢
  exact hmem.imp_left (hbefore.sound.held p)

end Steps

end Channel

end ImageStream.Base
