/-
# Canonical JSON can be read back

Canonical JSON sorts the keys of an object and leaves out all blanks. Apart from the order
of the keys nothing is lost: two values with the same text are the same value once their
keys are sorted. A text is split at the end of a value in one way only, because a quoted
string ends at its first bare quote, a number where its digits end, and a compound value
at its own bracket.
-/

import ImageStream.Base.Text
import Mathlib.Data.List.Find
import Mathlib.Data.List.Sort
import Std.Data.String.ToInt

namespace ImageStream.Base

/-! ## Quoted strings -/

/-- The value of a lower-case hexadecimal digit. -/
def hexValue (c : Char) : ℕ := if c.toNat < 58 then c.toNat - 48 else c.toNat - 87

/-- The character that an escaped text begins with, and the rest. -/
def unescape : List Char → Option (Char × List Char)
  | '\\' :: 'u' :: '0' :: '0' :: high :: low :: rest =>
      some (Char.ofNat (16 * hexValue high + hexValue low), rest)
  | '\\' :: 'n' :: rest => some ('\n', rest)
  | '\\' :: 'r' :: rest => some ('\r', rest)
  | '\\' :: 't' :: rest => some ('\t', rest)
  | '\\' :: 'b' :: rest => some (Char.ofNat 8, rest)
  | '\\' :: 'f' :: rest => some (Char.ofNat 12, rest)
  | '\\' :: c :: rest => some (c, rest)
  | c :: rest => some (c, rest)
  | [] => none

theorem char_eq_ofNat {c : Char} {n : ℕ} (h : c.toNat = n) : c = Char.ofNat n := by
  rw [← h, Char.ofNat_toNat]

theorem hexValue_control :
    ∀ n < 32, 16 * hexValue (hexDigit (n / 16)) + hexValue (hexDigit (n % 16)) = n := by
  decide

theorem unescape_escapeChar (c : Char) (rest : List Char) :
    unescape (escapeChar c ++ rest) = some (c, rest) := by
  unfold escapeChar
  by_cases hquote : c = '"'
  · subst hquote
    rfl
  by_cases hslash : c = '\\'
  · subst hslash
    rfl
  by_cases hline : c = '\n'
  · subst hline
    rfl
  by_cases hreturn : c = '\r'
  · subst hreturn
    rfl
  by_cases htab : c = '\t'
  · subst htab
    rfl
  rw [if_neg hquote, if_neg hslash, if_neg hline, if_neg hreturn, if_neg htab]
  by_cases hback : c.toNat = 8
  · rw [if_pos hback, char_eq_ofNat hback]
    rfl
  by_cases hfeed : c.toNat = 12
  · rw [if_neg hback, if_pos hfeed, char_eq_ofNat hfeed]
    rfl
  rw [if_neg hback, if_neg hfeed]
  by_cases hcontrol : c.toNat < 32
  · rw [if_pos hcontrol]
    show some (Char.ofNat _, rest) = some (c, rest)
    rw [hexValue_control c.toNat hcontrol, Char.ofNat_toNat]
  · rw [if_neg hcontrol]
    show unescape (c :: rest) = some (c, rest)
    unfold unescape
    split <;> simp_all

/-- An escaped character does not begin with a bare quote. -/
theorem head_escapeChar (c : Char) (rest : List Char) :
    ∃ first more, escapeChar c ++ rest = first :: more ∧ first ≠ '"' := by
  unfold escapeChar
  split
  · exact ⟨_, _, rfl, by decide⟩
  rename_i hquote
  repeat' split
  all_goals first
    | exact ⟨_, _, rfl, by decide⟩
    | exact ⟨_, _, rfl, hquote⟩

/-- A quoted text ends at its first bare quote. -/
theorem escaped_inj {s t x y : List Char}
    (h : s.flatMap escapeChar ++ '"' :: x = t.flatMap escapeChar ++ '"' :: y) :
    s = t ∧ x = y := by
  induction s generalizing t with
  | nil =>
      cases t with
      | nil => exact ⟨rfl, List.tail_eq_of_cons_eq h⟩
      | cons d t =>
          rw [List.flatMap_nil, List.nil_append, List.flatMap_cons, List.append_assoc] at h
          obtain ⟨first, more, hsplit, hne⟩ :=
            head_escapeChar d (t.flatMap escapeChar ++ '"' :: y)
          rw [hsplit] at h
          exact absurd (List.head_eq_of_cons_eq h).symm hne
  | cons c s ih =>
      cases t with
      | nil =>
          rw [List.flatMap_nil, List.nil_append, List.flatMap_cons, List.append_assoc] at h
          obtain ⟨first, more, hsplit, hne⟩ :=
            head_escapeChar c (s.flatMap escapeChar ++ '"' :: x)
          rw [hsplit] at h
          exact absurd (List.head_eq_of_cons_eq h) hne
      | cons d t =>
          rw [List.flatMap_cons, List.flatMap_cons, List.append_assoc, List.append_assoc] at h
          have hread := congrArg unescape h
          rw [unescape_escapeChar, unescape_escapeChar] at hread
          obtain ⟨rfl, hrest⟩ := Prod.ext_iff.mp (Option.some.inj hread)
          obtain ⟨rfl, hxy⟩ := ih hrest
          exact ⟨rfl, hxy⟩

/-- A quoted string as a list of characters. -/
def quoted (s : String) : List Char := '"' :: s.toList.flatMap escapeChar ++ ['"']

theorem toList_quoteJson (s : String) : (quoteJson s).toList = quoted s := by
  unfold quoteJson quoted
  rw [String.toList_ofList]
  rfl

theorem quoted_inj {s t : String} {x y : List Char} (h : quoted s ++ x = quoted t ++ y) :
    s = t ∧ x = y := by
  unfold quoted at h
  rw [List.cons_append, List.cons_append, List.append_assoc, List.append_assoc] at h
  obtain ⟨hst, hxy⟩ := escaped_inj (List.tail_eq_of_cons_eq h)
  exact ⟨String.toList_inj.mp hst, hxy⟩

/-! ## Numbers -/

/-- What may follow a value: the end, or a separator. -/
def Stops (x : List Char) : Prop := ∀ c ∈ x.head?, c = ',' ∨ c = ']' ∨ c = '\x7d'

/-- The characters of a number. -/
def isNumeric (c : Char) : Bool := c.isDigit || c = '-'

theorem toList_toString (n : ℤ) :
    (toString n).toList = Nat.toDigits 10 n.toNat ∨
      ∃ m, (toString n).toList = '-' :: Nat.toDigits 10 m := by
  cases n with
  | ofNat n =>
      left
      show (Nat.repr n).toList = _
      simp [Nat.repr]
  | negSucc n =>
      right
      refine ⟨n + 1, ?_⟩
      show ("-" ++ Nat.repr (n + 1)).toList = _
      simp [Nat.repr]

theorem isNumeric_of_mem_toString {n : ℤ} {c : Char} (h : c ∈ (toString n).toList) :
    isNumeric c := by
  have hdigit : ∀ m, c ∈ Nat.toDigits 10 m → isNumeric c := fun m hc => by
    simp [isNumeric, Nat.isDigit_of_mem_toDigits (by decide) (by decide) hc]
  rcases toList_toString n with heq | ⟨m, heq⟩
  · rw [heq] at h
    exact hdigit _ h
  · rw [heq] at h
    rcases List.mem_cons.mp h with rfl | hc
    · rfl
    · exact hdigit m hc

/-- A number begins with a digit or a sign. -/
theorem head_toString (n : ℤ) : ∃ c rest, (toString n).toList = c :: rest ∧ isNumeric c := by
  cases hchars : (toString n).toList with
  | nil =>
      rcases toList_toString n with heq | ⟨m, heq⟩
      · rw [hchars] at heq
        exact absurd heq.symm Nat.toDigits_ne_nil
      · rw [hchars] at heq
        cases heq
  | cons c rest =>
      refine ⟨c, rest, rfl, isNumeric_of_mem_toString (n := n) ?_⟩
      rw [hchars]
      exact List.mem_cons_self

/-- A number ends where its digits end. -/
theorem takeWhile_toString (n : ℤ) {x : List Char} (hx : Stops x) :
    ((toString n).toList ++ x).takeWhile isNumeric = (toString n).toList := by
  rw [List.takeWhile_append_of_pos fun c hc => isNumeric_of_mem_toString hc]
  cases x with
  | nil => simp
  | cons c x =>
      have hstop : isNumeric c = false := by
        rcases hx c rfl with rfl | rfl | rfl <;> decide
      simp [hstop]

theorem toString_inj {m n : ℤ} {x y : List Char} (hx : Stops x) (hy : Stops y)
    (h : (toString m).toList ++ x = (toString n).toList ++ y) : m = n ∧ x = y := by
  have hsame : (toString m).toList = (toString n).toList := by
    rw [← takeWhile_toString m hx, ← takeWhile_toString n hy, h]
  rw [hsame] at h
  refine ⟨?_, List.append_cancel_left h⟩
  exact Int.repr_injective (String.toList_inj.mp hsame)

/-! ## Values -/

namespace Json

mutual

/-- The text of a value with the fields of its objects in the order that they have. -/
def render : Json → List Char
  | .null => ['n', 'u', 'l', 'l']
  | .int n => (toString n).toList
  | .str s => quoted s
  | .arr items => '[' :: renderItems true items
  | .obj fields => '\x7b' :: renderFields true fields

/-- The rest of an array. Each item but the first follows a comma. -/
def renderItems (isFirst : Bool) : List Json → List Char
  | [] => [']']
  | item :: items =>
      (if isFirst then [] else [',']) ++ (render item ++ renderItems false items)

def renderFields (isFirst : Bool) : List (String × Json) → List Char
  | [] => ['\x7d']
  | (name, value) :: fields =>
      (if isFirst then [] else [',']) ++
        (quoted name ++ ':' :: (render value ++ renderFields false fields))

end

theorem stops_cons {c : Char} (h : c = ',' ∨ c = ']' ∨ c = '\x7d') (x : List Char) :
    Stops (c :: x) := by
  intro c' hc'
  cases hc'
  exact h

theorem stops_renderItems (items : List Json) (x : List Char) :
    Stops (renderItems false items ++ x) := by
  cases items with
  | nil => exact stops_cons (by simp) x
  | cons item items => exact stops_cons (by simp) _

theorem stops_renderFields (fields : List (String × Json)) (x : List Char) :
    Stops (renderFields false fields ++ x) := by
  cases fields with
  | nil => exact stops_cons (by simp) x
  | cons field fields => exact stops_cons (by simp) _

/-- The kind of a value, which its first character gives away. -/
def kind : Json → ℕ
  | .null => 0
  | .int _ => 1
  | .str _ => 2
  | .arr _ => 3
  | .obj _ => 4

def kindOfHead (c : Char) : ℕ :=
  if c = 'n' then 0
  else if isNumeric c then 1
  else if c = '"' then 2
  else if c = '[' then 3
  else if c = '\x7b' then 4
  else 5

theorem head_render (a : Json) : ∃ c rest, render a = c :: rest ∧ kindOfHead c = a.kind := by
  cases a with
  | null => exact ⟨_, _, rfl, rfl⟩
  | int n =>
      obtain ⟨c, rest, hsplit, hnumeric⟩ := head_toString n
      refine ⟨c, rest, hsplit, ?_⟩
      have hne : c ≠ 'n' := by
        rintro rfl
        revert hnumeric
        decide
      simp [kindOfHead, hne, hnumeric, kind]
  | str s => exact ⟨_, _, rfl, rfl⟩
  | arr items => exact ⟨_, _, rfl, rfl⟩
  | obj fields => exact ⟨_, _, rfl, rfl⟩

/-- No value begins with such a character. -/
theorem render_ne_cons {a : Json} {c : Char} (hc : kindOfHead c = 5) (x y : List Char) :
    render a ++ x ≠ c :: y := by
  intro h
  obtain ⟨d, rest, hd, hkind⟩ := head_render a
  rw [hd] at h
  rw [List.head_eq_of_cons_eq h, hc] at hkind
  cases a <;> cases hkind

/-- Two values whose texts begin in the same way are of the same kind. -/
theorem kind_eq {a b : Json} {x y : List Char} (h : render a ++ x = render b ++ y) :
    a.kind = b.kind := by
  obtain ⟨c, rest, hc, hkind⟩ := head_render a
  obtain ⟨d, rest', hd, hkind'⟩ := head_render b
  rw [hc, hd] at h
  rw [← hkind, ← hkind', List.head_eq_of_cons_eq h]

mutual

/-- **A text begins with one value only.** -/
theorem render_inj {x y : List Char} (hx : Stops x) (hy : Stops y) :
    ∀ a b : Json, render a ++ x = render b ++ y → a = b ∧ x = y
  | .null, b, h => by
      have hkind := kind_eq h
      cases b with
      | null => exact ⟨rfl, List.append_cancel_left h⟩
      | _ => cases hkind
  | .int m, b, h => by
      have hkind := kind_eq h
      cases b with
      | int n =>
          obtain ⟨rfl, hxy⟩ := toString_inj hx hy h
          exact ⟨rfl, hxy⟩
      | _ => cases hkind
  | .str s, b, h => by
      have hkind := kind_eq h
      cases b with
      | str t =>
          obtain ⟨rfl, hxy⟩ := quoted_inj h
          exact ⟨rfl, hxy⟩
      | _ => cases hkind
  | .arr items, b, h => by
      have hkind := kind_eq h
      cases b with
      | arr items' =>
          obtain ⟨rfl, hxy⟩ := renderItems_inj true items items' (List.tail_eq_of_cons_eq h)
          exact ⟨rfl, hxy⟩
      | _ => cases hkind
  | .obj fields, b, h => by
      have hkind := kind_eq h
      cases b with
      | obj fields' =>
          obtain ⟨rfl, hxy⟩ := renderFields_inj true fields fields' (List.tail_eq_of_cons_eq h)
          exact ⟨rfl, hxy⟩
      | _ => cases hkind

theorem renderItems_inj {x y : List Char} (isFirst : Bool) :
    ∀ as bs : List Json, renderItems isFirst as ++ x = renderItems isFirst bs ++ y →
      as = bs ∧ x = y
  | [], [], h => ⟨rfl, List.tail_eq_of_cons_eq h⟩
  | [], b :: bs, h => by
      cases isFirst with
      | true => exact absurd h.symm (by simpa [renderItems] using render_ne_cons (by decide) _ _)
      | false => exact absurd (List.head_eq_of_cons_eq h) (by decide)
  | a :: as, [], h => by
      cases isFirst with
      | true => exact absurd h (by simpa [renderItems] using render_ne_cons (by decide) _ _)
      | false => exact absurd (List.head_eq_of_cons_eq h) (by decide)
  | a :: as, b :: bs, h => by
      simp only [renderItems, List.append_assoc] at h
      have hrest := List.append_cancel_left h
      obtain ⟨rfl, hitems⟩ := render_inj (stops_renderItems as x) (stops_renderItems bs y) a b hrest
      obtain ⟨rfl, hxy⟩ := renderItems_inj false as bs hitems
      exact ⟨rfl, hxy⟩

theorem renderFields_inj {x y : List Char} (isFirst : Bool) :
    ∀ as bs : List (String × Json), renderFields isFirst as ++ x = renderFields isFirst bs ++ y →
      as = bs ∧ x = y
  | [], [], h => ⟨rfl, List.tail_eq_of_cons_eq h⟩
  | [], (name, value) :: bs, h => by
      cases isFirst with
      | true => exact absurd (List.head_eq_of_cons_eq h) (by decide)
      | false => exact absurd (List.head_eq_of_cons_eq h) (by decide)
  | (name, value) :: as, [], h => by
      cases isFirst with
      | true => exact absurd (List.head_eq_of_cons_eq h) (by decide)
      | false => exact absurd (List.head_eq_of_cons_eq h) (by decide)
  | (name, value) :: as, (name', value') :: bs, h => by
      simp only [renderFields, List.append_assoc, List.cons_append] at h
      obtain ⟨rfl, hvalue⟩ := quoted_inj (List.append_cancel_left h)
      have hrest := List.tail_eq_of_cons_eq hvalue
      obtain ⟨rfl, hfields⟩ :=
        render_inj (stops_renderFields as x) (stops_renderFields bs y) value value' hrest
      obtain ⟨rfl, hxy⟩ := renderFields_inj false as bs hfields
      exact ⟨rfl, hxy⟩

end

/-! ## Sorted keys -/

mutual

/-- A value with the keys of all its objects sorted. -/
def sorted : Json → Json
  | .arr items => .arr (sortedItems items)
  | .obj fields =>
      .obj ((sortedFields fields).insertionSort fun first second => first.1 ≤ second.1)
  | other => other

def sortedItems : List Json → List Json
  | [] => []
  | item :: items => sorted item :: sortedItems items

def sortedFields : List (String × Json) → List (String × Json)
  | [] => []
  | (name, value) :: fields => (name, sorted value) :: sortedFields fields

end

/-- The text of one field. -/
def renderField (field : String × Json) : List Char :=
  quoted field.1 ++ ':' :: render field.2

theorem renderItems_eq (items : List Json) :
    renderItems true items = [','].intercalate (items.map render) ++ [']'] := by
  induction items with
  | nil => rfl
  | cons item items ih =>
      cases items with
      | nil => simp [renderItems]
      | cons next items =>
          have hnext : renderItems false (next :: items) =
              ',' :: renderItems true (next :: items) := by
            simp [renderItems]
          rw [List.map_cons, List.map_cons, List.intercalate_cons_cons, ← List.map_cons,
            List.append_assoc, ← ih, renderItems, hnext]
          simp

theorem renderFields_eq (fields : List (String × Json)) :
    renderFields true fields = [','].intercalate (fields.map renderField) ++ ['\x7d'] := by
  induction fields with
  | nil => rfl
  | cons field fields ih =>
      cases fields with
      | nil => simp [renderFields, renderField]
      | cons next fields =>
          have hnext : renderFields false (next :: fields) =
              ',' :: renderFields true (next :: fields) := by
            simp [renderFields]
          rw [List.map_cons, List.map_cons, List.intercalate_cons_cons, ← List.map_cons,
            List.append_assoc, ← ih, renderFields, hnext]
          simp [renderField]

/-- A field that is rendered, under its name. -/
def namedText (field : String × Json) : String × List Char := (field.1, renderField field)

mutual

/-- Canonical JSON is the text of the value with sorted keys. -/
theorem toList_canonicalJson : ∀ a : Json, (canonicalJson a).toList = render a.sorted
  | .null => rfl
  | .int _ => rfl
  | .str s => toList_quoteJson s
  | .arr items => by
      have hitems := toList_canonicalItems items
      simp only [canonicalJson, sorted, render, renderItems_eq, String.toList_append,
        String.toList_intercalate, hitems]
      rfl
  | .obj fields => by
      have hfields := toList_canonicalFields fields
      have hsorted : (((canonicalFields fields).insertionSort fun first second =>
            first.1 ≤ second.1).map Prod.snd).map String.toList =
          ((sortedFields fields).insertionSort fun first second => first.1 ≤ second.1).map
            renderField := by
        have htexts := List.map_insertionSort (fun first second : String × String =>
            first.1 ≤ second.1) (fun first second : String × List Char => first.1 ≤ second.1)
          (fun entry => (entry.1, entry.2.toList)) (canonicalFields fields) (by simp)
        have hnamed := List.map_insertionSort (fun first second : String × Json =>
            first.1 ≤ second.1) (fun first second : String × List Char => first.1 ≤ second.1)
          namedText (sortedFields fields) (by simp [namedText])
        rw [hfields, ← hnamed] at htexts
        have hsecond := congrArg (List.map Prod.snd) htexts
        rw [List.map_map, List.map_map] at hsecond
        rw [List.map_map]
        exact hsecond
      simp only [canonicalJson, sorted, render, renderFields_eq, String.toList_append,
        String.toList_intercalate, hsorted]
      rfl

theorem toList_canonicalItems :
    ∀ items : List Json, (canonicalItems items).map String.toList = (sortedItems items).map render
  | [] => rfl
  | item :: items => by
      rw [canonicalItems, sortedItems, List.map_cons, List.map_cons, toList_canonicalJson item,
        toList_canonicalItems items]

theorem toList_canonicalFields : ∀ fields : List (String × Json),
    (canonicalFields fields).map (fun entry => (entry.1, entry.2.toList)) =
      (sortedFields fields).map namedText
  | [] => rfl
  | (name, value) :: fields => by
      rw [canonicalFields, sortedFields, List.map_cons, List.map_cons,
        toList_canonicalFields fields]
      simp [namedText, renderField, toList_canonicalJson value, toList_quoteJson]

end

/-- **Canonical JSON loses nothing but the order of the keys.** -/
theorem canonicalJson_inj {a b : Json} (h : canonicalJson a = canonicalJson b) :
    a.sorted = b.sorted := by
  have hstops : Stops [] := fun c hc => by cases hc
  have hlist := congrArg String.toList h
  rw [toList_canonicalJson, toList_canonicalJson] at hlist
  refine (render_inj hstops hstops a.sorted b.sorted ?_).1
  rw [hlist]

/-! ## Reading fields -/

theorem sortedItems_eq (items : List Json) : sortedItems items = items.map sorted := by
  induction items with
  | nil => rfl
  | cons item items ih => rw [sortedItems, List.map_cons, ih]

theorem sortedFields_eq (fields : List (String × Json)) :
    sortedFields fields = fields.map fun field => (field.1, field.2.sorted) := by
  induction fields with
  | nil => rfl
  | cons field fields ih =>
      obtain ⟨name, value⟩ := field
      rw [sortedFields, List.map_cons, ih]

/-- The value under a name of an object. -/
def field? (name : String) : Json → Option Json
  | .obj fields => (fields.find? fun field => field.1 = name).map Prod.snd
  | _ => none

/-- In a list without repeated names the value under a name does not depend on the order. -/
theorem find?_eq_of_perm {α : Type} {first second : List (String × α)}
    (hperm : first.Perm second) (hnodup : (first.map Prod.fst).Nodup) (name : String) :
    first.find? (fun field => field.1 = name) = second.find? (fun field => field.1 = name) := by
  refine List.find?_eq_find?_of_perm hperm ?_
  rintro field ⟨hfield, hname⟩ other ⟨hother, hname'⟩
  exact List.inj_on_of_nodup_map hnodup hfield hother
    ((of_decide_eq_true hname).trans (of_decide_eq_true hname').symm)

/-- Sorting leaves each value under its name. -/
theorem field?_sorted {fields : List (String × Json)} (hnodup : (fields.map Prod.fst).Nodup)
    (name : String) :
    (sorted (.obj fields)).field? name = ((Json.obj fields).field? name).map sorted := by
  have hnames : ((sortedFields fields).map Prod.fst).Nodup := by
    rw [sortedFields_eq, List.map_map]
    exact hnodup
  have hfind := find?_eq_of_perm (List.perm_insertionSort
    (fun first second : String × Json => first.1 ≤ second.1) (sortedFields fields)).symm
    hnames name
  show ((List.insertionSort _ (sortedFields fields)).find? _).map Prod.snd = _
  rw [← hfind, sortedFields_eq, List.find?_map]
  show Option.map Prod.snd (Option.map _ (fields.find? fun field => field.1 = name)) =
    Option.map sorted (Option.map Prod.snd (fields.find? fun field => field.1 = name))
  cases fields.find? fun field => field.1 = name <;> rfl

end Json

end ImageStream.Base
