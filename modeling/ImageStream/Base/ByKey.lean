/-
# Values kept by key

A dictionary that is updated with one item at a time, each under its own key, holds for every
key what the items of that key alone amount to, however they are mixed with the others.
-/

import ImageStream.Base.Table
import Mathlib.Data.List.Induction

namespace ImageStream.Base.Dict

universe u v w

variable {κ : Type u} {υ : Type v} {ι : Type w} [DecidableEq κ]

/-- The value under a key, or the one that a key starts with. -/
def valueAt (start : κ → υ) (d : Dict κ υ) (k : κ) : υ := (d.get? k).getD (start k)

/-- Update the value under an item's key. -/
def absorb (key : ι → κ) (start : κ → υ) (update : υ → ι → υ) (d : Dict κ υ) (item : ι) :
    Dict κ υ :=
  d.set (key item) (update (d.valueAt start (key item)) item)

variable {key : ι → κ} {start : κ → υ} {update : υ → ι → υ}

theorem get?_absorb (d : Dict κ υ) (item : ι) (k : κ) :
    (d.absorb key start update item).get? k =
      if k = key item then some (update (d.valueAt start k) item) else d.get? k := by
  rw [absorb, get?_set]
  split
  case isTrue h => rw [h]
  case isFalse => rfl

/-- **Each key by itself.** A key holds what its own items make of the value it starts with. -/
theorem get?_foldl_absorb (items : List ι) (k : κ) :
    (items.foldl (absorb key start update) (Table.empty : Dict κ υ)).get? k =
      if items.any (fun item => k = key item) then
        some ((items.filter fun item => k = key item).foldl update (start k))
      else none := by
  induction items using List.reverseRecOn with
  | nil => rfl
  | append_singleton items item ih =>
      rw [List.foldl_append, List.foldl_cons, List.foldl_nil, get?_absorb, List.any_append,
        List.filter_append]
      by_cases hkey : k = key item
      · -- Without an earlier item of the key its own items start from the same value.
        have hvalue : valueAt start (items.foldl (absorb key start update) Table.empty) k =
            (items.filter fun item => k = key item).foldl update (start k) := by
          rw [valueAt, ih]
          split
          case isTrue => rfl
          case isFalse hnone =>
            have hempty : (items.filter fun item => k = key item) = [] := by
              simpa [List.filter_eq_nil_iff] using hnone
            rw [hempty]
            rfl
        rw [if_pos hkey, hvalue]
        simp [hkey]
      · rw [if_neg hkey, ih]
        simp [hkey]

end ImageStream.Base.Dict
