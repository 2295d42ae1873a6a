/-
# Stripped text and canonical JSON

The two text operations that identities are built from. `strip` removes
whitespace at both ends and `canonicalJson` is the compact rendering with sorted
object keys in which non-ASCII characters stay as they are. Both are ordinary
functions on strings and compute.
-/

import Mathlib.Data.List.DropRight
import Mathlib.Data.List.Sort
import Mathlib.Data.String.Basic

namespace ImageStream.Base

/-- The characters for which `str.isspace` holds. -/
def isSpace (c : Char) : Bool :=
  let n := c.toNat
  (9 ≤ n && n ≤ 13) || (28 ≤ n && n ≤ 32) || n == 0x85 || n == 0xa0 || n == 0x1680 ||
    (0x2000 ≤ n && n ≤ 0x200a) || n == 0x2028 || n == 0x2029 || n == 0x202f ||
    n == 0x205f || n == 0x3000

/-- `str.strip()`. -/
def strip (s : String) : String :=
  String.ofList ((s.toList.dropWhile isSpace).rdropWhile isSpace)

/-- Text without blanks has nothing to strip. -/
theorem strip_eq_self {s : String} (h : ∀ c ∈ s.toList, isSpace c = false) : strip s = s := by
  have hfront : s.toList.dropWhile isSpace = s.toList := by
    rw [List.dropWhile_eq_self_iff]
    intro hlen
    simp [h _ (List.getElem_mem hlen)]
  have hback : s.toList.rdropWhile isSpace = s.toList := by
    rw [List.rdropWhile_eq_self_iff]
    intro hne
    simp [h _ (List.getLast_mem hne)]
  rw [strip, hfront, hback, String.ofList_toList]

/-- What has nothing to strip: no blank in front and none behind. -/
theorem strip_eq_self_iff {s : String} :
    strip s = s ↔ s.toList.dropWhile isSpace = s.toList ∧
      s.toList.rdropWhile isSpace = s.toList := by
  rw [strip, ← String.toList_inj, String.toList_ofList]
  constructor
  · intro h
    have hback := (List.rdropWhile_prefix isSpace (l := s.toList.dropWhile isSpace)).length_le
    have hfront : s.toList.dropWhile isSpace = s.toList := by
      apply (List.dropWhile_suffix isSpace).eq_of_length_le
      rwa [h] at hback
    exact ⟨hfront, by rwa [hfront] at h⟩
  · rintro ⟨hfront, hback⟩
    rw [hfront, hback]

/-- Stripped text has nothing to strip. -/
@[simp]
theorem strip_strip (s : String) : strip (strip s) = strip s := by
  rw [strip_eq_self_iff, strip, String.toList_ofList]
  refine ⟨?_, List.rdropWhile_idempotent isSpace _⟩
  rw [List.dropWhile_eq_self_iff]
  intro hpos
  have hpart := List.rdropWhile_prefix isSpace (l := s.toList.dropWhile isSpace)
  have hfirst := hpart.getElem hpos
  rw [hfirst]
  exact List.dropWhile_get_zero_not isSpace s.toList (hpos.trans_le hpart.length_le)

/-- Text between two texts that have nothing to strip and are not empty keeps its blanks. -/
theorem strip_append {front middle back : String} (hfront : strip front = front)
    (hback : strip back = back) (hfront_ne : front ≠ "") (hback_ne : back ≠ "") :
    strip (front ++ middle ++ back) = front ++ middle ++ back := by
  have hlist : ∀ {s : String}, s ≠ "" → s.toList ≠ [] := by
    intro s hne hnil
    exact hne (String.toList_inj.mp hnil)
  rw [strip_eq_self_iff, String.toList_append, String.toList_append]
  constructor
  · obtain ⟨c, rest, hcons⟩ := List.exists_cons_of_ne_nil (hlist hfront_ne)
    have hkept := (strip_eq_self_iff.mp hfront).1
    rw [hcons, List.dropWhile_eq_self_iff] at hkept
    rw [hcons, List.dropWhile_eq_self_iff]
    intro _
    exact hkept (Nat.zero_lt_succ _)
  · have hkept := (strip_eq_self_iff.mp hback).2
    rw [List.rdropWhile_eq_self_iff] at hkept ⊢
    intro _
    rw [List.getLast_append_of_ne_nil _ (hlist hback_ne)]
    exact hkept _

/-- Truth of an optional string: neither missing nor empty. -/
def truthy (value : Option String) : Bool :=
  match value with
  | some s => s != ""
  | none => false

@[simp]
theorem truthy_none : truthy none = false := rfl

@[simp]
theorem truthy_some (s : String) : truthy (some s) = (s != "") := rfl

theorem truthy_eq_true_iff {value : Option String} :
    truthy value = true ↔ ∃ s, value = some s ∧ s ≠ "" := by
  cases value <;> simp

/-- The JSON values that identities and manifests are made of. -/
inductive Json where
  | null
  | int (value : ℤ)
  | str (value : String)
  | arr (items : List Json)
  | obj (fields : List (String × Json))

namespace Json

/-- An optional string as a JSON value. -/
def ofOption : Option String → Json
  | some s => .str s
  | none => .null

/-- An optional integer as a JSON value. -/
def ofOptionInt : Option ℤ → Json
  | some n => .int n
  | none => .null

end Json

/-- One lower-case hexadecimal digit. -/
def hexDigit (n : ℕ) : Char :=
  Char.ofNat (if n < 10 then 48 + n else 87 + n)

/-- The JSON escape of one character when non-ASCII text is kept. -/
def escapeChar (c : Char) : List Char :=
  if c = '"' then ['\\', '"']
  else if c = '\\' then ['\\', '\\']
  else if c = '\n' then ['\\', 'n']
  else if c = '\r' then ['\\', 'r']
  else if c = '\t' then ['\\', 't']
  else if c.toNat = 8 then ['\\', 'b']
  else if c.toNat = 12 then ['\\', 'f']
  else if c.toNat < 32 then
    ['\\', 'u', '0', '0', hexDigit (c.toNat / 16), hexDigit (c.toNat % 16)]
  else [c]

/-- A JSON string literal. -/
def quoteJson (s : String) : String :=
  String.ofList (['"'] ++ s.toList.flatMap escapeChar ++ ['"'])

mutual

/-- Compact JSON with sorted object keys. -/
def canonicalJson : Json → String
  | .null => "null"
  | .int n => toString n
  | .str s => quoteJson s
  | .arr items => "[" ++ String.intercalate "," (canonicalItems items) ++ "]"
  | .obj fields =>
      -- The fields are rendered before the sort, which reads their keys only.
      let entries := (canonicalFields fields).insertionSort fun first second =>
        first.1 ≤ second.1
      "\x7b" ++ String.intercalate "," (entries.map Prod.snd) ++ "\x7d"

def canonicalItems : List Json → List String
  | [] => []
  | item :: items => canonicalJson item :: canonicalItems items

def canonicalFields : List (String × Json) → List (String × String)
  | [] => []
  | (name, value) :: fields =>
      (name, quoteJson name ++ ":" ++ canonicalJson value) :: canonicalFields fields

end

example : canonicalJson (.obj [("b", .arr [.int 1, .null]), ("a", .str "x\ny")]) =
    "\x7b\"a\":\"x\\ny\",\"b\":[1,null]\x7d" := by
  decide +kernel

end ImageStream.Base
