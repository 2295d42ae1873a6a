/-
# Deques of bounded length

A deque of bounded length that is appended to holds the last items of all that came, which
`List.rtake` takes. An item that is appended to a full deque drops the oldest one, so whoever
keeps books about the items has to forget that one, and no other, at that moment.
-/

import Mathlib.Data.List.DropRight
import Mathlib.Data.Finset.Basic

namespace ImageStream.Base

universe u v w

variable {α : Type u} {κ : Type v}

theorem length_rtake_le (n : ℕ) (items : List α) : (items.rtake n).length ≤ n := by
  rw [List.rtake, List.length_drop]
  omega

theorem rtake_of_length_le {n : ℕ} {items : List α} (h : items.length ≤ n) :
    items.rtake n = items := by
  rw [List.rtake, Nat.sub_eq_zero_of_le h, List.drop_zero]

theorem rtake_sublist (n : ℕ) (items : List α) : (items.rtake n).Sublist items :=
  List.drop_sublist _ _

theorem map_rtake {β : Type w} (f : α → β) (n : ℕ) (items : List α) :
    (items.rtake n).map f = (items.map f).rtake n := by
  rw [List.rtake, List.rtake, List.map_drop, List.length_map]

/-- A deque of distinct items holds those that are not among the dropped ones. -/
theorem mem_rtake_iff {n : ℕ} {items : List α} (h : items.Nodup) {item : α} :
    item ∈ items.rtake n ↔ item ∈ items ∧ item ∉ items.take (items.length - n) := by
  rw [List.rtake]
  constructor
  · intro hlate
    exact ⟨List.mem_of_mem_drop hlate, fun hearly =>
      List.disjoint_take_drop h le_rfl hearly hlate⟩
  · rintro ⟨hmem, hlate⟩
    rw [← List.take_append_drop (items.length - n) items, List.mem_append] at hmem
    exact hmem.resolve_left hlate

/-- What a deque holds after an item is appended are the last items of all. -/
theorem rtake_rtake_concat (n : ℕ) (items : List α) (item : α) :
    (items.rtake n ++ [item]).rtake n = (items ++ [item]).rtake n := by
  cases n with
  | zero => simp
  | succ n =>
      rw [List.rtake_concat_succ, List.rtake_concat_succ]
      congr 1
      rw [List.rtake, List.rtake, List.rtake, List.length_drop, List.drop_drop]
      congr 1
      omega

/-- A deque that is not full keeps what it holds. -/
theorem rtake_concat_of_lt {n : ℕ} {items : List α} (h : items.length < n) (item : α) :
    (items ++ [item]).rtake n = items ++ [item] :=
  rtake_of_length_le (by rw [List.length_append]; exact h)

/-- A full deque drops its oldest item. -/
theorem rtake_concat_of_full {n : ℕ} {oldest : α} {items : List α}
    (h : (oldest :: items).length = n) (item : α) :
    (oldest :: items ++ [item]).rtake n = items ++ [item] := by
  rw [List.rtake, List.length_append, List.length_singleton, h, Nat.add_sub_cancel_left]
  rfl

/-! ## Two deques of the same items -/

/-- Two deques that are appended to together, of which the first one has lost some items: it keeps
within the second one unless that one drops an item which the first one still holds. -/
theorem rtake_concat_sublist_iff {n : ℕ} {held kept : List α} (hsublist : held.Sublist kept)
    (hnodup : kept.Nodup) (hlength : kept.length ≤ n) {item : α} (hnew : item ∉ kept) :
    ((held ++ [item]).rtake n).Sublist ((kept ++ [item]).rtake n) ↔
      (kept.length = n → held.length < n → ∀ oldest ∈ kept.head?, oldest ∉ held) := by
  rcases hlength.lt_or_eq with hroom | hfull
  · rw [rtake_concat_of_lt hroom, rtake_concat_of_lt (hsublist.length_le.trans_lt hroom)]
    exact iff_of_true (hsublist.append_right _) fun hfull => absurd hfull hroom.ne
  rcases (hsublist.length_le.trans hlength).lt_or_eq with hless | hall
  · cases kept with
    | nil =>
        rw [List.sublist_nil.mp hsublist]
        exact iff_of_true (List.Sublist.refl _) fun _ _ _ holdest => by cases holdest
    | cons oldest rest =>
        obtain ⟨hfirst, -⟩ := List.nodup_cons.mp hnodup
        rw [rtake_concat_of_full hfull, rtake_concat_of_lt hless]
        constructor
        · rintro hlater - - _ ⟨⟩ hheld
          rcases List.mem_append.mp (hlater.subset (List.mem_append_left _ hheld)) with
            hrest | hitem
          · exact hfirst hrest
          · exact hnew (List.mem_singleton.mp hitem ▸ List.mem_cons_self)
        · intro hkeeps
          refine List.Sublist.append_right ?_ _
          rcases List.sublist_cons_iff.mp hsublist with hrest | ⟨later, rfl, -⟩
          · exact hrest
          · exact absurd List.mem_cons_self (hkeeps hfull hless oldest rfl)
  · -- The first deque has lost nothing, so both drop the same item.
    rw [hsublist.eq_of_length (hall.trans hfull.symm)]
    exact iff_of_true (List.Sublist.refl _) fun _ hless => absurd hfull hless.ne

/-! ## Books about the items -/

section Books

variable [DecidableEq κ] (key : α → κ)

/-- Whether the books of a deque tell its keys, no two of which are equal. -/
structure Booked (items : List α) (keys : Finset κ) : Prop where
  keys_eq : keys = (items.map key).toFinset
  nodup : (items.map key).Nodup

variable {key}

theorem Booked.nil : Booked key [] (∅ : Finset κ) := ⟨rfl, List.nodup_nil⟩

theorem Booked.mem_iff {items : List α} {keys : Finset κ} (h : Booked key items keys) (k : κ) :
    k ∈ keys ↔ ∃ item ∈ items, key item = k := by
  rw [h.keys_eq, List.mem_toFinset, List.mem_map]

/-- An item with a new key is booked. -/
theorem Booked.concat {items : List α} {keys : Finset κ} (h : Booked key items keys) {item : α}
    (hnew : key item ∉ keys) : Booked key (items ++ [item]) (insert (key item) keys) where
  keys_eq := by
    ext k
    simp [h.keys_eq, or_comm]
  nodup := by
    rw [h.keys_eq, List.mem_toFinset] at hnew
    rw [List.map_append, List.map_singleton, List.nodup_append]
    refine ⟨h.nodup, List.nodup_singleton _, ?_⟩
    intro k hk k' hk'
    rw [List.mem_singleton.mp hk']
    exact fun heq => hnew (heq ▸ hk)

/-- The key of the oldest item is struck out with it. -/
theorem Booked.tail {oldest : α} {items : List α} {keys : Finset κ}
    (h : Booked key (oldest :: items) keys) : Booked key items (keys.erase (key oldest)) where
  keys_eq := by
    have holdest : key oldest ∉ items.map key := (List.nodup_cons.mp h.nodup).1
    rw [h.keys_eq, List.map_cons, List.toFinset_cons,
      Finset.erase_insert (by rwa [List.mem_toFinset])]
  nodup := (List.nodup_cons.mp h.nodup).2

end Books

end ImageStream.Base
