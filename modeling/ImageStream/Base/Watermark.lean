/-
# Picks above a watermark

A party picks items one after the other and remembers the last one, its watermark.
It may pick an item that ranks above the watermark; the watermark itself it may pick
once more when that has been granted since. The picks then never go back in rank, and
the same item is picked twice running only after a grant in between.

Runs grow at their end, because what is allowed next depends on all that has happened.
-/

import ImageStream.Base.Standing
import Mathlib.Order.Basic

namespace ImageStream.Base

universe u v

/-- The last picked item, and the item that may be picked again. -/
structure Watermark (α : Type u) where
  last : Option α := none
  again : Option α := none

namespace Watermark

inductive Event (α : Type u)
  | pick (item : α)
  | grant (item : α)
  | other

def Event.picked? {α : Type u} : Event α → Option α
  | .pick item => some item
  | _ => none

variable {α : Type u} {β : Type v} [Preorder β] (rank : α → β)

/-- What may happen at a watermark. -/
inductive Step (w : Watermark α) : Event α → Watermark α → Prop
  | pick (item : α)
      (allowed : ∀ top, w.last = some top → w.again = some item ∨ rank top < rank item) :
      Step w (.pick item) { last := some item, again := none }
  | grant (item : α) (top : w.last = some item) :
      Step w (.grant item) { last := some item, again := some item }
  | revoke : Step w .other { last := w.last, again := none }
  | same : Step w .other w

/-- A run from an empty watermark. -/
inductive Run : List (Event α) → Watermark α → Prop
  | start : Run [] {}
  | snoc {events : List (Event α)} {event : Event α} {w w' : Watermark α}
      (before : Run events w) (step : Step rank w event w') : Run (events ++ [event]) w'

/-- The picked items, in order. -/
def picks (events : List (Event α)) : List α := events.filterMap Event.picked?

/-- The events after the last pick. -/
def sincePick (events : List (Event α)) : List (Event α) :=
  sinceLast (fun event => event.picked?.isSome) events

@[simp]
theorem picks_append (first second : List (Event α)) :
    picks (first ++ second) = picks first ++ picks second :=
  List.filterMap_append

theorem sincePick_concat_pick (events : List (Event α)) (item : α) :
    sincePick (events ++ [.pick item]) = [] :=
  sinceLast_concat_marked rfl events

theorem sincePick_concat {event : Event α} (h : event.picked? = none) (events : List (Event α)) :
    sincePick (events ++ [event]) = sincePick events ++ [event] :=
  sinceLast_concat (by rw [h]; rfl) events

/-- After a pick, the events that follow without another pick. -/
theorem sincePick_of_split (before : List (Event α)) (item : α) {since : List (Event α)}
    (h : ∀ event ∈ since, event.picked? = none) :
    sincePick (before ++ .pick item :: since) = since := by
  induction since using List.reverseRecOn with
  | nil => exact sincePick_concat_pick before item
  | append_singleton since event ih =>
      rw [← List.cons_append, ← List.append_assoc, sincePick_concat (h event (by simp))]
      rw [ih fun event' hevent' => h event' (List.mem_append_left _ hevent')]

theorem picks_eq_nil {events : List (Event α)} (h : ∀ event ∈ events, event.picked? = none) :
    picks events = [] :=
  List.filterMap_eq_nil_iff.mpr h

theorem picks_concat {event : Event α} (h : event.picked? = none) (events : List (Event α)) :
    picks (events ++ [event]) = picks events := by
  have hnone : picks [event] = [] := picks_eq_nil (by simpa using h)
  rw [picks_append, hnone, List.append_nil]

/-- What every run keeps. -/
structure Lawful (events : List (Event α)) (w : Watermark α) : Prop where
  last : w.last = (picks events).getLast?
  ascending : (picks events).Pairwise fun first second => rank first ≤ rank second
  again : ∀ item, w.again = some item → w.last = some item ∧ .grant item ∈ sincePick events

variable {rank}

theorem Lawful.snoc {events : List (Event α)} {w w' : Watermark α} {event : Event α}
    (h : Lawful rank events w) (hstep : Step rank w event w') :
    Lawful rank (events ++ [event]) w' := by
  cases hstep with
  | pick item allowed =>
      refine ⟨by simp [picks, Event.picked?], ?_, fun item' hagain => by cases hagain⟩
      rw [picks_append, List.pairwise_append]
      refine ⟨h.ascending, List.pairwise_singleton _ _, fun first hfirst second hsecond => ?_⟩
      obtain rfl : second = item := by simpa [picks, Event.picked?] using hsecond
      -- The watermark ranks above all picks so far, and the new one is not below it.
      obtain ⟨init, top, hpicks⟩ : ∃ init top, picks events = init ++ [top] := by
        rcases List.eq_nil_or_concat (picks events) with hnil | ⟨init, top, hconcat⟩
        · rw [hnil] at hfirst
          cases hfirst
        · exact ⟨init, top, hconcat.trans (List.concat_eq_append)⟩
      have hlast : w.last = some top := by simp [h.last, hpicks]
      have htop : rank top ≤ rank second := by
        rcases allowed top hlast with hagain | hlt
        · have hsame := (h.again second hagain).1
          rw [hlast] at hsame
          cases hsame
          exact le_refl _
        · exact le_of_lt hlt
      have hascending := h.ascending
      rw [hpicks, List.pairwise_append] at hascending
      rw [hpicks, List.mem_append, List.mem_singleton] at hfirst
      rcases hfirst with hinit | rfl
      · exact le_trans (hascending.2.2 first hinit top (List.mem_singleton_self top)) htop
      · exact htop
  | grant item top =>
      have hpicks : picks (events ++ [.grant item]) = picks events := picks_concat rfl events
      refine ⟨by rw [hpicks, ← h.last, top], by rw [hpicks]; exact h.ascending, ?_⟩
      intro item' hagain
      cases hagain
      rw [sincePick_concat rfl]
      exact ⟨rfl, List.mem_append_right _ (List.mem_singleton_self _)⟩
  | revoke =>
      have hpicks : picks (events ++ [.other]) = picks events := picks_concat rfl events
      exact ⟨by rw [hpicks, ← h.last], by rw [hpicks]; exact h.ascending,
        fun item' hagain => by cases hagain⟩
  | same =>
      have hpicks : picks (events ++ [.other]) = picks events := picks_concat rfl events
      refine ⟨by rw [hpicks, ← h.last], by rw [hpicks]; exact h.ascending, ?_⟩
      intro item' hagain
      rw [sincePick_concat rfl]
      exact ⟨(h.again item' hagain).1, List.mem_append_left _ (h.again item' hagain).2⟩

theorem Run.lawful {events : List (Event α)} {w : Watermark α} (h : Run rank events w) :
    Lawful rank events w := by
  induction h with
  | start => exact ⟨rfl, List.Pairwise.nil, fun item hagain => by cases hagain⟩
  | snoc before step ih => exact ih.snoc step

/-- The picks of a run never go back in rank. -/
theorem Run.ascending {events : List (Event α)} {w : Watermark α} (h : Run rank events w) :
    (picks events).Pairwise fun first second => rank first ≤ rank second :=
  h.lawful.ascending

/-- Each event of a run is a step from where the events before it lead. -/
theorem Run.split {before rest : List (Event α)} {event : Event α} {w : Watermark α}
    (h : Run rank (before ++ event :: rest) w) :
    ∃ w' w'', Run rank before w' ∧ Step rank w' event w'' := by
  generalize hevents : before ++ event :: rest = events at h
  induction h generalizing rest with
  | start => simp at hevents
  | @snoc init last w w' hinit hstep ih =>
      rcases List.eq_nil_or_concat rest with rfl | ⟨rest', last', rfl⟩
      · obtain ⟨rfl, hlast⟩ := List.append_inj' hevents rfl
        cases hlast
        exact ⟨w, w', hinit, hstep⟩
      · rw [List.concat_eq_append, ← List.cons_append, ← List.append_assoc] at hevents
        obtain ⟨hinit', -⟩ := List.append_inj' hevents rfl
        exact ih hinit'

/-- An item is picked twice running only after a grant of it in between. -/
theorem Run.grant_between {before since rest : List (Event α)} {item : α} {w : Watermark α}
    (h : Run rank (before ++ .pick item :: (since ++ .pick item :: rest)) w)
    (hsince : ∀ event ∈ since, event.picked? = none) : .grant item ∈ since := by
  rw [← List.cons_append, ← List.append_assoc] at h
  obtain ⟨w', w'', hrun, hstep⟩ := h.split
  have hlast : w'.last = some item := by
    rw [hrun.lawful.last, picks_append]
    have hpick : picks (.pick item :: since) = [item] :=
      congrArg (item :: ·) (picks_eq_nil hsince)
    simp [hpick]
  cases hstep with
  | pick _ allowed =>
      rcases allowed item hlast with hagain | hlt
      · have hgrant := (hrun.lawful.again item hagain).2
        rwa [sincePick_of_split before item hsince] at hgrant
      · exact absurd hlt (lt_irrefl _)

end Watermark

end ImageStream.Base
