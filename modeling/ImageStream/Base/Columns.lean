/-
# Tables with named columns

Each row of a table with named columns has a value or none in each column. Such a table changes
in two ways under the rows that it holds: a column is added, in which every row has the default,
or another table with columns of its own takes over the rows, each of them as a copy.

A table carries another one when it has its rows, each with every value that it had there. Adding
columns always does. A copy does exactly as far as it drops no value that a row has.
-/

import ImageStream.Base.Table
import Mathlib.Logic.Function.Basic

namespace ImageStream.Base

universe u v w

structure Column (κ : Type v) (ν : Type w) where
  name : κ
  nullable : Bool := true
  default : Option ν := none

/-- Rows under keys, which have no value outside the columns. -/
structure ColumnTable (ρ : Type u) (κ : Type v) (ν : Type w) where
  columns : List (Column κ ν)
  rows : Dict ρ (κ → Option ν)
  absent : ∀ row ∈ rows.values, ∀ c ∉ columns.map Column.name, row c = none

namespace ColumnTable

variable {ρ : Type u} {κ : Type v} {ν : Type w}

def names (t : ColumnTable ρ κ ν) : List κ := t.columns.map Column.name

section Changes

variable [DecidableEq κ]

/-- A copy of a row into columns, outside of which it has no value. -/
def copyInto (columns : List (Column κ ν)) (copy : (κ → Option ν) → κ → Option ν)
    (row : κ → Option ν) : κ → Option ν :=
  fun c => if c ∈ columns.map Column.name then copy row c else none

/-- Take over the rows of another table. -/
def copied (columns : List (Column κ ν)) (copy : (κ → Option ν) → κ → Option ν)
    (t : ColumnTable ρ κ ν) : ColumnTable ρ κ ν where
  columns := columns
  rows := t.rows.mapValues (copyInto columns copy)
  absent row hrow c hc := by
    rw [Dict.values_mapValues] at hrow
    obtain ⟨former, -, rfl⟩ := List.mem_map.mp hrow
    exact if_neg hc

def addColumn (t : ColumnTable ρ κ ν) (column : Column κ ν) : ColumnTable ρ κ ν where
  columns := t.columns ++ [column]
  rows := t.rows.mapValues fun row => Function.update row column.name column.default
  absent row hrow c hc := by
    rw [Dict.values_mapValues] at hrow
    obtain ⟨former, hformer, rfl⟩ := List.mem_map.mp hrow
    rw [List.map_append, List.map_singleton, List.mem_append, List.mem_singleton, not_or] at hc
    rw [Function.update_of_ne hc.2]
    exact t.absent former hformer c hc.1

theorem rows_addColumn (t : ColumnTable ρ κ ν) (column : Column κ ν) :
    (t.addColumn column).rows =
      t.rows.mapValues fun row => Function.update row column.name column.default := rfl

@[simp]
theorem names_addColumn (t : ColumnTable ρ κ ν) (column : Column κ ν) :
    (t.addColumn column).names = t.names ++ [column.name] := by
  rw [names, names, addColumn, List.map_append, List.map_singleton]

def addColumns (t : ColumnTable ρ κ ν) (columns : List (Column κ ν)) : ColumnTable ρ κ ν :=
  columns.foldl addColumn t

@[simp]
theorem columns_addColumns (t : ColumnTable ρ κ ν) (columns : List (Column κ ν)) :
    (t.addColumns columns).columns = t.columns ++ columns := by
  unfold addColumns
  induction columns generalizing t with
  | nil => exact (List.append_nil _).symm
  | cons column columns ih =>
      rw [List.foldl_cons, ih, addColumn, List.append_assoc, List.singleton_append]

/-- Columns without defaults leave the rows as they are, if these have no value there. -/
theorem rows_addColumns_of_absent (t : ColumnTable ρ κ ν) {columns : List (Column κ ν)}
    (hnew : ∀ column ∈ columns,
      column.default = none ∧ ∀ row ∈ t.rows.values, row column.name = none) :
    (t.addColumns columns).rows = t.rows := by
  unfold addColumns
  induction columns generalizing t with
  | nil => rfl
  | cons column columns ih =>
      obtain ⟨hdefault, habsent⟩ := hnew column List.mem_cons_self
      have hrows : (t.addColumn column).rows = t.rows := by
        rw [rows_addColumn]
        apply Dict.mapValues_eq_self
        intro row hrow
        rw [hdefault, ← habsent row hrow, Function.update_eq_self]
      rw [List.foldl_cons, ih _ fun later hlater => ?_, hrows]
      rw [hrows]
      exact hnew later (List.mem_cons_of_mem _ hlater)

theorem mem_names_addColumns (t : ColumnTable ρ κ ν) (columns : List (Column κ ν)) (c : κ) :
    c ∈ (t.addColumns columns).names ↔ c ∈ t.names ∨ c ∈ columns.map Column.name := by
  rw [names, columns_addColumns, List.map_append, List.mem_append, names]

end Changes

/-! ## What a table carries -/

section Carries

variable [DecidableEq ρ]

/-- The second table has the rows of the first one, each with every value that it has there. -/
structure Carries (t t' : ColumnTable ρ κ ν) : Prop where
  keys : t'.rows.keys = t.rows.keys
  values : ∀ k row, t.rows.get? k = some row →
    ∃ row', t'.rows.get? k = some row' ∧ ∀ c v, row c = some v → row' c = some v

theorem Carries.of_rows {t t' : ColumnTable ρ κ ν} (h : t'.rows = t.rows) : t.Carries t' where
  keys := congrArg Dict.keys h
  values k row hrow := by
    rw [h]
    exact ⟨row, hrow, fun _ _ hv => hv⟩

theorem Carries.refl (t : ColumnTable ρ κ ν) : t.Carries t := .of_rows rfl

theorem Carries.trans {t t' t'' : ColumnTable ρ κ ν} (h : t.Carries t') (h' : t'.Carries t'') :
    t.Carries t'' where
  keys := h'.keys.trans h.keys
  values k row hrow := by
    obtain ⟨row', hrow', hvalues⟩ := h.values k row hrow
    obtain ⟨row'', hrow'', hvalues'⟩ := h'.values k row' hrow'
    exact ⟨row'', hrow'', fun c v hv => hvalues' c v (hvalues c v hv)⟩

/-- A table whose rows are images of the rows of another carries it exactly when no image drops a
value. -/
theorem carries_iff_of_rows {t t' : ColumnTable ρ κ ν} {copy : (κ → Option ν) → κ → Option ν}
    (hrows : t'.rows = t.rows.mapValues copy) :
    t.Carries t' ↔ ∀ row ∈ t.rows.values, ∀ c v, row c = some v → copy row c = some v := by
  constructor
  · intro h row hrow
    obtain ⟨k, hk⟩ := t.rows.mem_values_iff.mp hrow
    obtain ⟨row', hrow', hvalues⟩ := h.values k row hk
    rw [hrows, Dict.get?_mapValues, hk] at hrow'
    cases hrow'
    exact hvalues
  · intro h
    constructor
    · rw [hrows, Dict.keys, Dict.rows_mapValues, List.map_map]
      rfl
    · intro k row hrow
      refine ⟨copy row, ?_, h row (t.rows.mem_values_of_get? hrow)⟩
      rw [hrows, Dict.get?_mapValues, hrow]
      rfl

variable [DecidableEq κ]

theorem carries_addColumn (t : ColumnTable ρ κ ν) {column : Column κ ν}
    (hnew : column.name ∉ t.names) : t.Carries (t.addColumn column) := by
  apply (carries_iff_of_rows (t.rows_addColumn column)).mpr
  intro row hrow c v hv
  have hne : c ≠ column.name := by
    rintro rfl
    rw [t.absent row hrow _ hnew] at hv
    cases hv
  rw [Function.update_of_ne hne, hv]

theorem carries_addColumns (t : ColumnTable ρ κ ν) {columns : List (Column κ ν)}
    (hnodup : (columns.map Column.name).Nodup) (hnew : ∀ column ∈ columns, column.name ∉ t.names) :
    t.Carries (t.addColumns columns) := by
  unfold addColumns
  induction columns generalizing t with
  | nil => exact .refl t
  | cons column columns ih =>
      rw [List.map_cons, List.nodup_cons] at hnodup
      refine (t.carries_addColumn (hnew column List.mem_cons_self)).trans (ih _ hnodup.2 ?_)
      intro later hlater
      rw [names_addColumn, List.mem_append, List.mem_singleton, not_or]
      refine ⟨hnew later (List.mem_cons_of_mem _ hlater), ?_⟩
      exact fun hsame => hnodup.1 (hsame ▸ List.mem_map_of_mem hlater)

end Carries

/-! ## Uniqueness -/

/-- Whether two rows have the same values in some columns, each of which has one. -/
def Agree (cs : List κ) (row row' : κ → Option ν) : Prop :=
  ∀ c ∈ cs, row c ≠ none ∧ row' c = row c

/-- Whether no two rows agree in some columns. -/
def UniqueOn (cs : List κ) (rows : List (κ → Option ν)) : Prop :=
  rows.Pairwise fun row row' => ¬Agree cs row row'

instance [DecidableEq ν] (cs : List κ) (row row' : κ → Option ν) : Decidable (Agree cs row row') :=
  inferInstanceAs (Decidable (∀ c ∈ cs, row c ≠ none ∧ row' c = row c))

instance [DecidableEq ν] (cs : List κ) (rows : List (κ → Option ν)) :
    Decidable (UniqueOn cs rows) :=
  inferInstanceAs (Decidable (List.Pairwise _ _))

/-- Copies that keep the values of some columns are unique there if the rows are. -/
theorem uniqueOn_map_iff {cs : List κ} {rows : List (κ → Option ν)}
    {copy : (κ → Option ν) → κ → Option ν} (h : ∀ row ∈ rows, ∀ c ∈ cs, copy row c = row c) :
    UniqueOn cs (rows.map copy) ↔ UniqueOn cs rows := by
  unfold UniqueOn
  rw [List.pairwise_map]
  apply List.Pairwise.iff_of_mem
  intro row row' hrow hrow'
  unfold Agree
  apply not_congr
  apply forall₂_congr
  intro c hc
  rw [h row hrow c hc, h row' hrow' c hc]

end ColumnTable

end ImageStream.Base
