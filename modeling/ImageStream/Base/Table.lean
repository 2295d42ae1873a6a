/-
# Keyed tables and insertion-ordered dictionaries

A database table with a primary key and a dictionary that remembers insertion
order are the same data: a list of rows in which no key occurs twice. `Table`
carries that fact as a field, so a second row under one key cannot be built and
no later proof has to exclude it.

`Dict` is the table whose rows are key/value pairs. Assigning to a present key
keeps its place and assigning to a new one appends, as in the dictionaries of the
language that is modelled.
-/

import Mathlib.Data.List.Basic
import Mathlib.Data.List.Nodup

namespace ImageStream.Base

universe u v

/-- Rows with pairwise different keys. -/
structure Table {κ : Type u} {ρ : Type v} (key : ρ → κ) where
  rows : List ρ
  keys_nodup : (rows.map key).Nodup

namespace Table

variable {κ : Type u} {ρ : Type v} {key : ρ → κ}

@[ext]
theorem ext {first second : Table key} (h : first.rows = second.rows) : first = second := by
  cases first
  cases second
  cases h
  rfl

instance [DecidableEq ρ] : DecidableEq (Table key) := fun first second =>
  decidable_of_iff (first.rows = second.rows) ⟨Table.ext, fun h => by rw [h]⟩

/-- The table without rows. -/
def empty : Table key := ⟨[], List.nodup_nil⟩

@[simp]
theorem rows_empty : (empty : Table key).rows = [] := rfl

/-- Two rows under one key are one row. -/
theorem eq_of_key_eq (t : Table key) {r r' : ρ} (hr : r ∈ t.rows) (hr' : r' ∈ t.rows)
    (h : key r = key r') : r = r' :=
  List.inj_on_of_nodup_map t.keys_nodup hr hr' h

variable [DecidableEq κ]

/-- The row under a key. -/
def find (t : Table key) (k : κ) : Option ρ :=
  t.rows.find? fun r => key r = k

@[simp]
theorem find_empty (k : κ) : (empty : Table key).find k = none := rfl

theorem find_eq_some_iff (t : Table key) {k : κ} {r : ρ} :
    t.find k = some r ↔ r ∈ t.rows ∧ key r = k := by
  constructor
  · intro h
    exact ⟨List.mem_of_find?_eq_some h, by simpa using List.find?_some h⟩
  · rintro ⟨hr, rfl⟩
    cases hfind : t.find (key r) with
    | none =>
        have habsent := List.find?_eq_none.mp hfind r hr
        simp at habsent
    | some r' =>
        have hr' : r' ∈ t.rows := List.mem_of_find?_eq_some hfind
        have hkey : key r' = key r := by simpa using List.find?_some hfind
        rw [t.eq_of_key_eq hr' hr hkey]

theorem find_eq_none_iff (t : Table key) {k : κ} :
    t.find k = none ↔ ∀ r ∈ t.rows, key r ≠ k := by
  simp [find, List.find?_eq_none]

theorem mem_of_find (t : Table key) {k : κ} {r : ρ} (h : t.find k = some r) :
    r ∈ t.rows :=
  (t.find_eq_some_iff.mp h).1

theorem key_of_find (t : Table key) {k : κ} {r : ρ} (h : t.find k = some r) :
    key r = k :=
  (t.find_eq_some_iff.mp h).2

theorem find_of_mem (t : Table key) {r : ρ} (h : r ∈ t.rows) : t.find (key r) = some r :=
  t.find_eq_some_iff.mpr ⟨h, rfl⟩

theorem find_ne_none_of_mem (t : Table key) {r : ρ} (h : r ∈ t.rows) :
    t.find (key r) ≠ none := by
  rw [t.find_of_mem h]
  simp

theorem length_filter_key_le_one (t : Table key) (k : κ) :
    (t.rows.filter fun r => key r = k).length ≤ 1 := by
  have hnodup : ((t.rows.filter fun r => key r = k).map key).Nodup :=
    t.keys_nodup.sublist (List.filter_sublist.map key)
  have hkeys : (t.rows.filter fun r => key r = k).map key =
      List.replicate (t.rows.filter fun r => key r = k).length k := by
    rw [List.eq_replicate_iff]
    refine ⟨by simp, fun k' hk' => ?_⟩
    obtain ⟨r, hr, rfl⟩ := List.mem_map.mp hk'
    simpa using (List.mem_filter.mp hr).2
  rw [hkeys] at hnodup
  exact List.nodup_replicate.mp hnodup

/-! ## Updates -/

/-- Rewrite every row by a function that keeps keys. -/
def mapRows (t : Table key) (f : ρ → ρ) (hf : ∀ r, key (f r) = key r) : Table key :=
  ⟨t.rows.map f, by
    have hkeys : (t.rows.map f).map key = t.rows.map key := by
      simp [List.map_map, Function.comp_def, hf]
    rw [hkeys]
    exact t.keys_nodup⟩

omit [DecidableEq κ] in
@[simp]
theorem rows_mapRows (t : Table key) (f : ρ → ρ) (hf : ∀ r, key (f r) = key r) :
    (t.mapRows f hf).rows = t.rows.map f := rfl

@[simp]
theorem find_mapRows (t : Table key) (f : ρ → ρ) (hf : ∀ r, key (f r) = key r) (k : κ) :
    (t.mapRows f hf).find k = (t.find k).map f := by
  simp only [find, rows_mapRows, List.find?_map, Function.comp_def, hf]

/-- Rewrite the row under one key. -/
def update (t : Table key) (k : κ) (f : ρ → ρ) (hf : ∀ r, key (f r) = key r) : Table key :=
  t.mapRows (fun r => if key r = k then f r else r) fun r => by
    split
    · exact hf r
    · rfl

theorem find_update (t : Table key) (k : κ) (f : ρ → ρ) (hf : ∀ r, key (f r) = key r)
    (k' : κ) :
    (t.update k f hf).find k' = if k' = k then (t.find k').map f else t.find k' := by
  rw [update, find_mapRows]
  cases hfind : t.find k' with
  | none => simp
  | some r =>
      have hkey := t.key_of_find hfind
      simp only [Option.map_some, hkey]
      split <;> rfl

@[simp]
theorem find_update_self (t : Table key) (k : κ) (f : ρ → ρ)
    (hf : ∀ r, key (f r) = key r) : (t.update k f hf).find k = (t.find k).map f := by
  rw [find_update, if_pos rfl]

theorem find_update_of_ne (t : Table key) {k k' : κ} (f : ρ → ρ)
    (hf : ∀ r, key (f r) = key r) (h : k' ≠ k) : (t.update k f hf).find k' = t.find k' := by
  rw [find_update, if_neg h]

/-- Rewriting the rows of some keys one after the other. -/
theorem find_foldl_update (t : Table key) (f : ρ → ρ → ρ) (hf : ∀ r x, key (f r x) = key x)
    {rs : List ρ} (hnodup : (rs.map key).Nodup) (k : κ) :
    (rs.foldl (fun t r => t.update (key r) (f r) (hf r)) t).find k =
      match rs.find? fun r => key r = k with
      | none => t.find k
      | some r => (t.find k).map (f r) := by
  induction rs generalizing t with
  | nil => rfl
  | cons r rs ih =>
      rw [List.map_cons, List.nodup_cons] at hnodup
      rw [List.foldl_cons, ih _ hnodup.2, List.find?_cons]
      by_cases hkey : key r = k
      · have hrest : rs.find? (fun r => decide (key r = k)) = none := by
          rw [List.find?_eq_none]
          intro r' hr' hkey'
          rw [decide_eq_true_eq, ← hkey] at hkey'
          exact hnodup.1 (hkey' ▸ List.mem_map_of_mem hr')
        rw [hrest, decide_eq_true hkey, ← hkey]
        exact t.find_update_self (key r) (f r) (hf r)
      · rw [decide_eq_false hkey, t.find_update_of_ne (f r) (hf r) fun hk => hkey hk.symm]

/-- Rewriting every row of a table under its own key. -/
theorem find_foldl_update_rows (t : Table key) (f : ρ → ρ → ρ)
    (hf : ∀ r x, key (f r x) = key x) (k : κ) :
    (t.rows.foldl (fun t r => t.update (key r) (f r) (hf r)) t).find k =
      (t.find k).map fun r => f r r := by
  rw [t.find_foldl_update f hf t.keys_nodup k]
  change (match t.find k with
    | none => t.find k
    | some r => (t.find k).map (f r)) = (t.find k).map fun r => f r r
  cases t.find k with
  | none => rfl
  | some r => rfl

/-- Assign a row to its key: in place when the key is there, at the end otherwise. -/
def put (t : Table key) (r : ρ) : Table key :=
  match h : t.find (key r) with
  | some _ => t.update (key r) (fun x => if key x = key r then r else x) fun x => by
      split
      · rename_i hx
        exact hx.symm
      · rfl
  | none => ⟨t.rows ++ [r], by
      rw [List.map_append, List.nodup_append]
      refine ⟨t.keys_nodup, by simp, ?_⟩
      intro a ha b hb
      obtain ⟨x, hx, rfl⟩ := List.mem_map.mp ha
      rw [List.map_singleton, List.mem_singleton] at hb
      rw [hb]
      exact t.find_eq_none_iff.mp h x hx⟩

theorem rows_put_of_absent (t : Table key) {r : ρ} (h : t.find (key r) = none) :
    (t.put r).rows = t.rows ++ [r] := by
  unfold put
  split
  · rename_i hsome
    rw [h] at hsome
    cases hsome
  · rfl

theorem rows_put_of_present (t : Table key) {r : ρ} (h : t.find (key r) ≠ none) :
    (t.put r).rows = t.rows.map fun x => if key x = key r then r else x := by
  unfold put
  split
  · refine List.map_congr_left fun x _ => ?_
    by_cases hx : key x = key r <;> simp [hx]
  · rename_i hnone
    exact absurd hnone h

@[simp]
theorem find_put_self (t : Table key) (r : ρ) : (t.put r).find (key r) = some r := by
  cases hfind : t.find (key r) with
  | none =>
      apply Table.find_of_mem
      rw [t.rows_put_of_absent hfind]
      simp
  | some x =>
      have hkey := t.key_of_find hfind
      unfold put
      split
      · simp [hfind, hkey]
      · rename_i hnone
        rw [hfind] at hnone
        cases hnone

theorem find_put_of_ne (t : Table key) {r : ρ} {k : κ} (h : k ≠ key r) :
    (t.put r).find k = t.find k := by
  cases hfind : t.find (key r) with
  | none =>
      simp only [find, t.rows_put_of_absent hfind, List.find?_append]
      have hne : key r ≠ k := fun hk => h hk.symm
      simp [hne]
  | some x =>
      unfold put
      split
      · exact t.find_update_of_ne _ _ h
      · rename_i hnone
        rw [hfind] at hnone
        cases hnone

theorem find_put (t : Table key) (r : ρ) (k : κ) :
    (t.put r).find k = if k = key r then some r else t.find k := by
  split
  · rename_i h
    rw [h, find_put_self]
  · rename_i h
    exact t.find_put_of_ne h

theorem mem_put_iff (t : Table key) {r x : ρ} :
    x ∈ (t.put r).rows ↔ x = r ∨ (x ∈ t.rows ∧ key x ≠ key r) := by
  constructor
  · intro hx
    have hfind := (t.put r).find_of_mem hx
    rw [find_put] at hfind
    split at hfind
    · exact Or.inl (Option.some.inj hfind).symm
    · rename_i hne
      exact Or.inr ⟨t.mem_of_find hfind, hne⟩
  · rintro (rfl | ⟨hx, hne⟩)
    · exact (t.put x).mem_of_find (t.find_put_self x)
    · apply (t.put r).mem_of_find (k := key x)
      rw [t.find_put_of_ne hne]
      exact t.find_of_mem hx

/-- Remove the row under a key. -/
def erase (t : Table key) (k : κ) : Table key :=
  ⟨t.rows.filter fun r => key r ≠ k, t.keys_nodup.sublist
    (List.filter_sublist.map key)⟩

@[simp]
theorem mem_erase_iff (t : Table key) {k : κ} {r : ρ} :
    r ∈ (t.erase k).rows ↔ r ∈ t.rows ∧ key r ≠ k := by
  simp [erase]

theorem find_erase (t : Table key) (k k' : κ) :
    (t.erase k).find k' = if k' = k then none else t.find k' := by
  split
  · rename_i h
    rw [find_eq_none_iff]
    intro r hr
    rw [h]
    exact (t.mem_erase_iff.mp hr).2
  · rename_i h
    cases hfind : t.find k' with
    | none =>
        rw [find_eq_none_iff] at hfind ⊢
        intro r hr
        exact hfind r (t.mem_erase_iff.mp hr).1
    | some r =>
        rw [find_eq_some_iff] at hfind ⊢
        refine ⟨t.mem_erase_iff.mpr ⟨hfind.1, ?_⟩, hfind.2⟩
        rw [hfind.2]
        exact h

end Table

/-! ## Dictionaries -/

/-- A dictionary that keeps insertion order. -/
abbrev Dict (κ : Type u) (υ : Type v) : Type (max u v) :=
  Table (Prod.fst : κ × υ → κ)

namespace Dict

variable {κ : Type u} {υ : Type v}

/-- The values, in the order of their keys' first assignment. -/
def values (d : Dict κ υ) : List υ := d.rows.map Prod.snd

/-- The keys, in the order of their first assignment. -/
def keys (d : Dict κ υ) : List κ := d.rows.map Prod.fst

theorem keys_nodup (d : Dict κ υ) : d.keys.Nodup := Table.keys_nodup d

/-- Every value replaced by its image. -/
def mapValues {υ' : Type v} (f : υ → υ') (d : Dict κ υ) : Dict κ υ' :=
  ⟨d.rows.map fun entry => (entry.1, f entry.2), by
    rw [List.map_map]
    exact d.keys_nodup⟩

@[simp]
theorem rows_mapValues {υ' : Type v} (f : υ → υ') (d : Dict κ υ) :
    (d.mapValues f).rows = d.rows.map fun entry => (entry.1, f entry.2) := rfl

@[simp]
theorem mapValues_empty {υ' : Type v} (f : υ → υ') : mapValues f (Table.empty : Dict κ υ) = Table.empty := rfl

@[simp]
theorem values_mapValues {υ' : Type v} (f : υ → υ') (d : Dict κ υ) :
    (d.mapValues f).values = d.values.map f := by
  simp [values, Function.comp_def]

theorem mapValues_eq_self {f : υ → υ} {d : Dict κ υ} (h : ∀ value ∈ d.values, f value = value) :
    d.mapValues f = d := by
  apply Table.ext
  rw [rows_mapValues]
  conv_rhs => rw [← List.map_id d.rows]
  apply List.map_congr_left
  intro entry hentry
  rw [h entry.2 (List.mem_map_of_mem hentry)]
  rfl

variable [DecidableEq κ]

/-- `d.get(k)`. -/
def get? (d : Dict κ υ) (k : κ) : Option υ := (d.find k).map Prod.snd

/-- `d[k] = value`. -/
def set (d : Dict κ υ) (k : κ) (value : υ) : Dict κ υ := d.put (k, value)

/-- `d.pop(k, None)`, keeping the dictionary. -/
def pop (d : Dict κ υ) (k : κ) : Dict κ υ := d.erase k

/-- Rewrite the value under a key, when there is one. -/
def modify (d : Dict κ υ) (k : κ) (f : υ → υ) : Dict κ υ :=
  d.update k (fun entry => (entry.1, f entry.2)) fun _ => rfl

@[simp]
theorem get?_empty (k : κ) : get? (Table.empty : Dict κ υ) k = none := rfl

theorem get?_eq_some_iff (d : Dict κ υ) {k : κ} {value : υ} :
    d.get? k = some value ↔ (k, value) ∈ d.rows := by
  unfold get?
  constructor
  · intro h
    obtain ⟨entry, hentry, rfl⟩ := Option.map_eq_some_iff.mp h
    have hkey := d.key_of_find hentry
    rw [← hkey]
    exact d.mem_of_find hentry
  · intro h
    have hfind := d.find_of_mem h
    rw [hfind]
    rfl

theorem mem_values_iff (d : Dict κ υ) {value : υ} :
    value ∈ d.values ↔ ∃ k, d.get? k = some value := by
  simp only [values, List.mem_map, get?_eq_some_iff]
  constructor
  · rintro ⟨⟨k, v⟩, hmem, rfl⟩
    exact ⟨k, hmem⟩
  · rintro ⟨k, hmem⟩
    exact ⟨(k, value), hmem, rfl⟩

theorem mem_keys_iff (d : Dict κ υ) {k : κ} : k ∈ d.keys ↔ ∃ value, d.get? k = some value := by
  simp only [keys, List.mem_map, get?_eq_some_iff]
  constructor
  · rintro ⟨⟨k', value⟩, hmem, rfl⟩
    exact ⟨value, hmem⟩
  · rintro ⟨value, hmem⟩
    exact ⟨(k, value), hmem, rfl⟩

theorem mem_values_of_get? (d : Dict κ υ) {k : κ} {value : υ} (h : d.get? k = some value) :
    value ∈ d.values :=
  d.mem_values_iff.mpr ⟨k, h⟩

theorem get?_set (d : Dict κ υ) (k k' : κ) (value : υ) :
    (d.set k value).get? k' = if k' = k then some value else d.get? k' := by
  unfold get? set
  rw [Table.find_put]
  split <;> rfl

@[simp]
theorem get?_set_self (d : Dict κ υ) (k : κ) (value : υ) :
    (d.set k value).get? k = some value := by
  rw [get?_set, if_pos rfl]

theorem get?_set_of_ne (d : Dict κ υ) {k k' : κ} (value : υ) (h : k' ≠ k) :
    (d.set k value).get? k' = d.get? k' := by
  rw [get?_set, if_neg h]

theorem get?_pop (d : Dict κ υ) (k k' : κ) :
    (d.pop k).get? k' = if k' = k then none else d.get? k' := by
  unfold get? pop
  rw [Table.find_erase]
  split <;> rfl

/-- Popping some keys one after the other. -/
theorem get?_foldl_pop (ks : List κ) (d : Dict κ υ) (k : κ) :
    (ks.foldl (fun d popped => d.pop popped) d).get? k = if k ∈ ks then none else d.get? k := by
  induction ks generalizing d with
  | nil => rw [List.foldl_nil, if_neg List.not_mem_nil]
  | cons popped ks ih =>
      rw [List.foldl_cons, ih, get?_pop]
      by_cases hk : k = popped
      · rw [if_pos hk, if_pos (List.mem_cons.mpr (Or.inl hk)), ite_self]
      · rw [if_neg hk]
        exact if_congr (List.mem_cons.trans (or_iff_right hk)).symm rfl rfl

theorem get?_modify (d : Dict κ υ) (k k' : κ) (f : υ → υ) :
    (d.modify k f).get? k' = if k' = k then (d.get? k').map f else d.get? k' := by
  unfold get? modify
  rw [Table.find_update]
  split
  · rw [Option.map_map, Option.map_map]
    rfl
  · rfl

@[simp]
theorem keys_modify (d : Dict κ υ) (k : κ) (f : υ → υ) : (d.modify k f).keys = d.keys := by
  unfold keys modify Table.update
  rw [Table.rows_mapRows, List.map_map]
  apply List.map_congr_left
  intro entry _
  simp only [Function.comp_apply]
  split <;> rfl

/-! ### The order of the keys -/

/-- Assigning to a key that is there leaves the order of the keys. -/
theorem keys_set_of_mem (d : Dict κ υ) {k : κ} (value : υ) (h : k ∈ d.keys) :
    (d.set k value).keys = d.keys := by
  obtain ⟨old, hold⟩ := d.mem_keys_iff.mp h
  have hfind : d.find k ≠ none := by
    intro hnone
    rw [get?, hnone] at hold
    cases hold
  unfold keys set
  rw [Table.rows_put_of_present d hfind, List.map_map]
  apply List.map_congr_left
  intro entry _
  show Prod.fst (if entry.1 = k then (k, value) else entry) = entry.1
  split
  · rename_i hk
    exact hk.symm
  · rfl

/-- A new key comes last. -/
theorem keys_set_of_notMem (d : Dict κ υ) {k : κ} (value : υ) (h : k ∉ d.keys) :
    (d.set k value).keys = d.keys ++ [k] := by
  have hfind : d.find k = none := by
    cases hfind : d.find k with
    | none => rfl
    | some entry =>
        apply absurd _ h
        rw [← d.key_of_find hfind]
        exact List.mem_map_of_mem (d.mem_of_find hfind)
  unfold keys set
  rw [Table.rows_put_of_absent d hfind, List.map_append]
  rfl

theorem mem_keys_set_iff (d : Dict κ υ) {k k' : κ} (value : υ) :
    k' ∈ (d.set k value).keys ↔ k' = k ∨ k' ∈ d.keys := by
  by_cases hmem : k ∈ d.keys
  · rw [d.keys_set_of_mem value hmem]
    constructor
    · exact Or.inr
    · rintro (rfl | hk)
      · exact hmem
      · exact hk
  · rw [d.keys_set_of_notMem value hmem, List.mem_append, List.mem_singleton, or_comm]

/-- A dictionary is its keys in their order with their values. -/
theorem rows_eq_map_of_get? {first second : Dict κ υ} {f : κ → υ → υ}
    (hkeys : first.keys = second.keys)
    (hget : ∀ k ∈ first.keys, first.get? k = (second.get? k).map (f k)) :
    first.rows = second.rows.map fun entry => (entry.1, f entry.1 entry.2) := by
  apply List.ext_getElem?
  intro i
  have hkey : (first.rows[i]?).map Prod.fst = (second.rows[i]?).map Prod.fst := by
    rw [← List.getElem?_map, ← List.getElem?_map]
    exact congrArg (fun keys : List κ => keys[i]?) hkeys
  rw [List.getElem?_map]
  cases hfirst : first.rows[i]? with
  | none =>
      rw [hfirst, Option.map_none, eq_comm, Option.map_eq_none_iff] at hkey
      rw [hkey, Option.map_none]
  | some entry =>
      rw [hfirst, Option.map_some, eq_comm, Option.map_eq_some_iff] at hkey
      obtain ⟨other, hsecond, hsame⟩ := hkey
      have hentry := List.mem_of_getElem? hfirst
      have hother := List.mem_of_getElem? hsecond
      have hvalue := hget entry.1 (List.mem_map_of_mem hentry)
      rw [first.get?_eq_some_iff.mpr hentry, ← hsame, second.get?_eq_some_iff.mpr hother] at hvalue
      rw [hsecond, Option.map_some, ← Option.some.inj hvalue, hsame]

theorem ext_of_get? {first second : Dict κ υ} (hkeys : first.keys = second.keys)
    (hget : ∀ k ∈ first.keys, first.get? k = second.get? k) : first = second := by
  apply Table.ext
  have hrows := rows_eq_map_of_get? (f := fun _ value => value) hkeys fun k hk => by
    rw [hget k hk, Option.map_id']
  rw [hrows, List.map_id']

/-! ### Gathering what the values hold -/

section Gather

universe w

variable {β : Type w}

theorem mem_rows_pop_iff (d : Dict κ υ) {k : κ} {entry : κ × υ} :
    entry ∈ (d.pop k).rows ↔ entry ∈ d.rows ∧ entry.1 ≠ k :=
  d.mem_erase_iff

omit [DecidableEq κ] in
theorem rows_nodup (d : Dict κ υ) : d.rows.Nodup := d.keys_nodup.of_map

theorem pop_cons_nodup (d : Dict κ υ) (k : κ) (value : υ) :
    ((k, value) :: (d.pop k).rows).Nodup :=
  List.nodup_cons.mpr ⟨fun h => (d.mem_rows_pop_iff.mp h).2 rfl, (d.pop k).rows_nodup⟩

/-- A dictionary is one of its entries and the rest. -/
theorem rows_perm_of_get? (d : Dict κ υ) {k : κ} {value : υ} (h : d.get? k = some value) :
    d.rows.Perm ((k, value) :: (d.pop k).rows) := by
  rw [List.perm_ext_iff_of_nodup d.rows_nodup (d.pop_cons_nodup k value)]
  rintro ⟨k', value'⟩
  rw [List.mem_cons, mem_rows_pop_iff, ← get?_eq_some_iff]
  constructor
  · intro h'
    by_cases hk : k' = k
    · rw [hk, h] at h'
      cases h'
      exact Or.inl (by rw [hk])
    · exact Or.inr ⟨h', hk⟩
  · rintro (heq | ⟨h', -⟩)
    · cases heq
      exact h
    · exact h'

/-- An assignment leaves the new entry and the entries of other keys. -/
theorem rows_set_perm (d : Dict κ υ) (k : κ) (value : υ) :
    (d.set k value).rows.Perm ((k, value) :: (d.pop k).rows) := by
  rw [List.perm_ext_iff_of_nodup (d.set k value).rows_nodup (d.pop_cons_nodup k value)]
  intro entry
  rw [List.mem_cons, mem_rows_pop_iff, set, Table.mem_put_iff]

/-- What the values hold, all together. -/
def gather (f : υ → List β) (d : Dict κ υ) : List β := d.values.flatMap f

omit [DecidableEq κ] in
theorem gather_eq (f : υ → List β) (d : Dict κ υ) :
    d.gather f = d.rows.flatMap fun entry => f entry.2 := by
  simp [gather, values, List.flatMap_map]

theorem gather_set_perm (f : υ → List β) (d : Dict κ υ) (k : κ) (value : υ) :
    ((d.set k value).gather f).Perm (f value ++ (d.pop k).gather f) := by
  simpa only [gather_eq, List.flatMap_cons] using (d.rows_set_perm k value).flatMap_right _

theorem rows_pop_of_absent (d : Dict κ υ) {k : κ} (h : d.get? k = none) :
    (d.pop k).rows = d.rows := by
  apply List.filter_eq_self.mpr
  intro entry hentry
  have hne : entry.1 ≠ k := by
    rintro rfl
    rw [(d.get?_eq_some_iff).mpr hentry] at h
    cases h
  simpa using hne

/-- What the values hold is what the value of one key holds and the rest. -/
theorem gather_perm (f : υ → List β) (d : Dict κ υ) (k : κ) :
    (d.gather f).Perm ((d.get? k).toList.flatMap f ++ (d.pop k).gather f) := by
  cases h : d.get? k with
  | none => simp [gather_eq, d.rows_pop_of_absent h]
  | some value =>
      simpa [gather_eq] using (d.rows_perm_of_get? h).flatMap_right fun entry => f entry.2

end Gather

/-! ### Dictionaries with rewritten values -/

section MapValues

variable {υ' : Type v} (f : υ → υ')

theorem find_mapValues (d : Dict κ υ) (k : κ) :
    (d.mapValues f).find k = (d.find k).map fun entry => (entry.1, f entry.2) := by
  unfold Table.find
  rw [rows_mapValues, List.find?_map]
  rfl

@[simp]
theorem get?_mapValues (d : Dict κ υ) (k : κ) :
    (d.mapValues f).get? k = (d.get? k).map f := by
  unfold get?
  rw [find_mapValues, Option.map_map, Option.map_map]
  rfl

theorem mapValues_set (d : Dict κ υ) (k : κ) (value : υ) :
    (d.set k value).mapValues f = (d.mapValues f).set k (f value) := by
  apply Table.ext
  unfold set
  by_cases hfind : d.find k = none
  · have hmapped : (d.mapValues f).find k = none := by
      rw [find_mapValues, hfind]
      rfl
    rw [rows_mapValues, Table.rows_put_of_absent d hfind, Table.rows_put_of_absent _ hmapped]
    simp
  · have hmapped : (d.mapValues f).find k ≠ none := by
      rw [find_mapValues]
      simpa using hfind
    rw [rows_mapValues, Table.rows_put_of_present d hfind, Table.rows_put_of_present _ hmapped,
      rows_mapValues, List.map_map, List.map_map]
    apply List.map_congr_left
    intro entry _
    by_cases hkey : entry.1 = k <;> simp [hkey]

theorem mapValues_pop (d : Dict κ υ) (k : κ) :
    (d.pop k).mapValues f = (d.mapValues f).pop k := by
  apply Table.ext
  show (d.rows.filter _).map _ = (d.rows.map _).filter _
  rw [List.filter_map]
  rfl

theorem mapValues_modify {g : υ → υ} (g' : υ' → υ') (h : ∀ value, f (g value) = g' (f value))
    (d : Dict κ υ) (k : κ) :
    (d.modify k g).mapValues f = (d.mapValues f).modify k g' := by
  apply Table.ext
  show (d.rows.map _).map _ = (d.rows.map _).map _
  rw [List.map_map, List.map_map]
  apply List.map_congr_left
  intro entry _
  by_cases hkey : entry.1 = k <;> simp [hkey, h]

end MapValues

end Dict

end ImageStream.Base
