/-
# Texts of UUIDs

A UUID can be read from many texts: with or without hyphens, in braces, as a URN, in either
case, and as whatever else is a number of thirty-two characters. Rendering it and comparing
leaves one text for each UUID, up to case.
-/

import ImageStream.Base.Digest
import Mathlib.Data.List.Induction

namespace ImageStream.Base.Digest

/-! ## Reading -/

/-- `text.replace(pattern, "")`, where some characters of a pattern have still to be left out. -/
def removeFrom (pattern : List Char) : ℕ → List Char → List Char
  | _, [] => []
  | skip + 1, _ :: rest => removeFrom pattern skip rest
  | 0, c :: rest =>
      if pattern.isPrefixOf (c :: rest) then removeFrom pattern (pattern.length - 1) rest
      else c :: removeFrom pattern 0 rest

/-- The value of a hexadecimal digit of either case. -/
def hexDigitValue? (c : Char) : Option ℕ :=
  (List.range 16).find? fun n => hexDigit n = c.toLower

/-- The number that some digits continue, with single underscores between them. Whether the
next character has to be a digit is an argument. -/
def readDigits : Bool → ℕ → List Char → Option ℕ
  | wanted, number, [] => if wanted then none else some number
  | wanted, number, c :: rest =>
      if c = '_' then
        if wanted then none else readDigits true number rest
      else
        match hexDigitValue? c with
        | some digit => readDigits false (16 * number + digit) rest
        | none => none

/-- Leave out what may stand before the digits of a number. -/
def dropBase : List Char → List Char
  | '0' :: 'x' :: '_' :: rest => rest
  | '0' :: 'X' :: '_' :: rest => rest
  | '0' :: 'x' :: rest => rest
  | '0' :: 'X' :: rest => rest
  | digits => digits

def dropSign : List Char → List Char
  | '+' :: rest => rest
  | digits => digits

/-- `int(text, 16)` for text without a minus sign. -/
def readHex (text : List Char) : Option ℕ :=
  readDigits true 0 (dropBase (dropSign ((text.dropWhile isSpace).rdropWhile isSpace)))

/-- The last bytes of a number. -/
def bytesOf : ℕ → ℕ → List UInt8
  | 0, _ => []
  | count + 1, number => bytesOf count (number / 256) ++ [UInt8.ofNat (number % 256)]

def isBrace (c : Char) : Bool := c == '{' || c == '}'

/-- `UUID(text)`. -/
def Uuid.ofText (text : String) : Option Uuid :=
  let named := removeFrom "uuid:".toList 0 (removeFrom "urn:".toList 0 text.toList)
  let digits := ((named.dropWhile isBrace).rdropWhile isBrace).filter (· ≠ '-')
  if digits.length ≠ 32 then none else (readHex digits).map (bytesOf 16)

/-! ## Reading what was rendered -/

/-- Whether a character, in either case, is one of a rendered UUID. -/
def IsUuidChar (c : Char) : Prop := c.toLower = '-' ∨ ∃ n < 16, c.toLower = hexDigit n

theorem not_isUuidChar {c : Char} (hhyphen : c.toLower ≠ '-')
    (hdigit : ∀ n : Fin 16, c.toLower ≠ hexDigit n) : ¬IsUuidChar c := by
  rintro (h | ⟨n, hn, h⟩)
  · exact hhyphen h
  · exact hdigit ⟨n, hn⟩ h

theorem not_isUuidChar_colon : ¬IsUuidChar ':' := not_isUuidChar (by decide) (by decide)

theorem not_isUuidChar_underscore : ¬IsUuidChar '_' := not_isUuidChar (by decide) (by decide)

theorem not_isUuidChar_of_isBrace {c : Char} (h : isBrace c = true) : ¬IsUuidChar c := by
  rcases Bool.or_eq_true_iff.mp h with hopen | hclose
  · rw [beq_iff_eq.mp hopen]
    exact not_isUuidChar (by decide) (by decide)
  · rw [beq_iff_eq.mp hclose]
    exact not_isUuidChar (by decide) (by decide)

/-- A text without the last character of a pattern has nothing to remove. -/
theorem removeFrom_eq_self {pattern : List Char} {c : Char} (hc : c ∈ pattern) {text : List Char}
    (h : c ∉ text) : removeFrom pattern 0 text = text := by
  induction text with
  | nil => rfl
  | cons d text ih =>
      have hno : pattern.isPrefixOf (d :: text) = false := by
        rw [Bool.eq_false_iff]
        intro hpre
        exact h ((List.isPrefixOf_iff_prefix.mp hpre).subset hc)
      rw [removeFrom, hno, if_neg Bool.false_ne_true,
        ih fun hmem => h (List.mem_cons_of_mem _ hmem)]

theorem hexDigitValue?_eq {c : Char} {n : ℕ} (hn : n < 16) (h : c.toLower = hexDigit n) :
    hexDigitValue? c = some n := by
  unfold hexDigitValue?
  rw [h, List.find?_range_eq_some]
  refine ⟨by simp, by simpa using hn, fun m hm => ?_⟩
  simpa using fun heq => hm.ne (hexDigit_inj (hm.trans hn) hn heq)

theorem readDigits_cons {c : Char} {n : ℕ} (hn : n < 16) (h : c.toLower = hexDigit n)
    (wanted : Bool) (number : ℕ) (rest : List Char) :
    readDigits wanted number (c :: rest) = readDigits false (16 * number + n) rest := by
  have hdigit : c ≠ '_' := by
    rintro rfl
    exact not_isUuidChar_underscore (Or.inr ⟨n, hn, h⟩)
  rw [readDigits, if_neg hdigit, hexDigitValue?_eq hn h]

/-- The number that some bytes continue. -/
def numberOf (number : ℕ) (bytes : List UInt8) : ℕ :=
  bytes.foldl (fun number byte => 256 * number + byte.toNat) number

/-- Rendered bytes are read back, in either case. -/
theorem readDigits_hexDigits (bytes : List UInt8) {digits : List Char} (number : ℕ)
    (h : digits.map Char.toLower = hexDigits (bytes.map UInt8.toNat)) :
    readDigits false number digits = some (numberOf number bytes) := by
  induction bytes generalizing digits number with
  | nil =>
      rw [List.map_eq_nil_iff.mp h]
      rfl
  | cons byte bytes ih =>
      obtain ⟨high, later, rfl, hhigh, hlater⟩ := List.map_eq_cons_iff.mp h
      obtain ⟨low, rest, rfl, hlow, hrest⟩ := List.map_eq_cons_iff.mp hlater
      have hbyte := byte.toNat_lt
      have hnumber : 16 * (16 * number + byte.toNat / 16 % 16) + byte.toNat % 16 =
          256 * number + byte.toNat := by omega
      rw [readDigits_cons (Nat.mod_lt _ (by decide)) hhigh,
        readDigits_cons (Nat.mod_lt _ (by decide)) hlow, hnumber, ih _ hrest]
      rfl

theorem bytesOf_numberOf (bytes : List UInt8) :
    bytesOf bytes.length (numberOf 0 bytes) = bytes := by
  induction bytes using List.reverseRecOn with
  | nil => rfl
  | append_singleton bytes byte ih =>
      have hnumber : numberOf 0 (bytes ++ [byte]) = 256 * numberOf 0 bytes + byte.toNat := by
        rw [numberOf, List.foldl_append]
        rfl
      have hbyte := byte.toNat_lt
      rw [List.length_append, List.length_singleton, bytesOf, hnumber]
      rw [show (256 * numberOf 0 bytes + byte.toNat) / 256 = numberOf 0 bytes by omega,
        show (256 * numberOf 0 bytes + byte.toNat) % 256 = byte.toNat by omega, ih,
        UInt8.ofNat_toNat]

theorem length_bytesOf (count number : ℕ) : (bytesOf count number).length = count := by
  induction count generalizing number with
  | zero => rfl
  | succ count ih => rw [bytesOf, List.length_append, ih, List.length_singleton]

theorem length_hexDigits (bytes : List ℕ) : (hexDigits bytes).length = 2 * bytes.length := by
  induction bytes with
  | nil => rfl
  | cons byte bytes ih =>
      rw [hexDigits, List.flatMap_cons, List.length_append, ← hexDigits, ih, List.length_cons]
      simp only [List.length_cons, List.length_nil]
      omega

theorem exists_of_mem_hexDigits {bytes : List ℕ} {c : Char} (h : c ∈ hexDigits bytes) :
    ∃ n < 16, c = hexDigit n := by
  obtain ⟨byte, -, hbyte⟩ := List.mem_flatMap.mp h
  rcases List.mem_cons.mp hbyte with rfl | hlow
  · exact ⟨_, Nat.mod_lt _ (by decide), rfl⟩
  · exact ⟨_, Nat.mod_lt _ (by decide), List.mem_singleton.mp hlow⟩

theorem isUuidChar_of_mem {uuid : Uuid} {c : Char} (h : c.toLower ∈ uuid.text.toList) :
    IsUuidChar c := by
  by_cases hhyphen : c.toLower = '-'
  · exact Or.inl hhyphen
  · have hdigit : c.toLower ∈ uuid.text.toList.filter (· ≠ '-') :=
      List.mem_filter.mpr ⟨h, by simpa using hhyphen⟩
    rw [Uuid.filter_text] at hdigit
    exact Or.inr (exists_of_mem_hexDigits hdigit)

theorem toLower_eq_self {c : Char} (h : c.toNat < 65 ∨ 90 < c.toNat) : c.toLower = c := by
  unfold Char.toLower
  rw [dif_neg]
  rintro ⟨hlow, hhigh⟩
  have hlow' : 65 ≤ c.toNat := hlow
  have hhigh' : c.toNat ≤ 90 := hhigh
  omega

theorem not_isUuidChar_of_isSpace {c : Char} (h : isSpace c = true) : ¬IsUuidChar c := by
  have hlower : c.toLower = c := by
    apply toLower_eq_self
    simp only [isSpace, Bool.or_eq_true, Bool.and_eq_true, decide_eq_true_eq, beq_iff_eq] at h
    omega
  rintro (hhyphen | ⟨n, hn, hdigit⟩)
  · rw [hlower] at hhyphen
    rw [hhyphen] at h
    exact absurd h (by decide)
  · rw [hlower] at hdigit
    rw [hdigit, isSpace_hexDigit hn] at h
    cases h

theorem toLower_eq_hyphen_iff {c : Char} : c.toLower = '-' ↔ c = '-' := by
  refine ⟨fun h => ?_, fun h => by rw [h]; decide⟩
  by_cases hupper : c.toNat < 65 ∨ 90 < c.toNat
  · rwa [toLower_eq_self hupper] at h
  · exfalso
    unfold Char.toLower at h
    rw [dif_pos ⟨(by omega : 65 ≤ c.toNat), (by omega : c.toNat ≤ 90)⟩] at h
    have hval : (c.val + ('a'.val - 'A'.val)).toNat = 45 := congrArg Char.toNat h
    have hoffset : ('a'.val - 'A'.val).toNat = 32 := rfl
    have hnat : c.val.toNat = c.toNat := rfl
    rw [UInt32.toNat_add, hoffset, hnat] at hval
    omega

/-- Text without such characters at its ends stays as it is. -/
theorem dropEnds_eq_self {p : Char → Bool} {text : List Char} (h : ∀ c ∈ text, p c = false) :
    (text.dropWhile p).rdropWhile p = text := by
  have hfront : text.dropWhile p = text := by
    rw [List.dropWhile_eq_self_iff]
    intro hlen
    simp [h _ (List.getElem_mem hlen)]
  rw [hfront, List.rdropWhile_eq_self_iff]
  intro hne
  simp [h _ (List.getLast_mem hne)]

theorem dropSign_eq_self {digits : List Char} (h : '+' ∉ digits) : dropSign digits = digits := by
  unfold dropSign
  split
  · exact absurd List.mem_cons_self h
  · rfl

theorem dropBase_eq_self {digits : List Char} (hlower : 'x' ∉ digits) (hupper : 'X' ∉ digits) :
    dropBase digits = digits := by
  unfold dropBase
  split
  · exact absurd (by simp) hlower
  · exact absurd (by simp) hupper
  · exact absurd (by simp) hlower
  · exact absurd (by simp) hupper
  · rfl

theorem readHex_hexDigits {bytes : List UInt8} (hne : bytes ≠ []) {digits : List Char}
    (h : digits.map Char.toLower = hexDigits (bytes.map UInt8.toNat)) :
    readHex digits = some (numberOf 0 bytes) := by
  have hdigits : ∀ c ∈ digits, IsUuidChar c := by
    intro c hc
    have hmem : c.toLower ∈ hexDigits (bytes.map UInt8.toNat) := by
      rw [← h]
      exact List.mem_map_of_mem hc
    exact Or.inr (exists_of_mem_hexDigits hmem)
  have habsent : ∀ c, ¬IsUuidChar c → c ∉ digits := fun c hc hmem => hc (hdigits c hmem)
  have hspace : ∀ c ∈ digits, isSpace c = false := fun c hc =>
    Bool.eq_false_iff.mpr fun hs => not_isUuidChar_of_isSpace hs (hdigits c hc)
  unfold readHex
  rw [dropEnds_eq_self hspace,
    dropSign_eq_self (habsent _ (not_isUuidChar (by decide) (by decide))),
    dropBase_eq_self (habsent _ (not_isUuidChar (by decide) (by decide)))
      (habsent _ (not_isUuidChar (by decide) (by decide)))]
  -- The first character is a digit, so it does not matter that one is wanted.
  obtain ⟨byte, rest, rfl⟩ := List.exists_cons_of_ne_nil hne
  obtain ⟨high, later, rfl, hhigh, -⟩ := List.map_eq_cons_iff.mp h
  rw [readDigits_cons (Nat.mod_lt _ (by decide)) hhigh,
    ← readDigits_cons (Nat.mod_lt _ (by decide)) hhigh false]
  exact readDigits_hexDigits _ 0 h

/-- **A rendered UUID is read back**, in either case. -/
theorem Uuid.ofText_of_toLower {uuid : Uuid} (hlength : uuid.length = 16) {text : String}
    (h : text.toLower = uuid.text) : Uuid.ofText text = some uuid := by
  have hchars : text.toList.map Char.toLower = uuid.text.toList := by
    have hlower : text.toLower = text.map Char.toLower := rfl
    rw [← h, hlower, String.toList_map]
  have hall : ∀ c ∈ text.toList, IsUuidChar c := by
    intro c hc
    have hmem : c.toLower ∈ uuid.text.toList := by
      rw [← hchars]
      exact List.mem_map_of_mem hc
    exact isUuidChar_of_mem hmem
  have hcolon : ':' ∉ text.toList := fun hmem => not_isUuidChar_colon (hall _ hmem)
  have hbrace : ∀ c ∈ text.toList, isBrace c = false := fun c hc =>
    Bool.eq_false_iff.mpr fun hb => not_isUuidChar_of_isBrace hb (hall c hc)
  have hdigits : (text.toList.filter (· ≠ '-')).map Char.toLower =
      hexDigits (uuid.map UInt8.toNat) := by
    rw [← Uuid.filter_text, ← hchars, List.filter_map]
    congr 1
    apply List.filter_congr
    intro c _
    simp [toLower_eq_hyphen_iff]
  have hcount : (text.toList.filter (· ≠ '-')).length = 32 := by
    rw [← List.length_map (f := Char.toLower), hdigits, length_hexDigits, List.length_map, hlength]
  unfold ofText
  rw [removeFrom_eq_self (c := ':') (by decide) hcolon,
    removeFrom_eq_self (c := ':') (by decide) hcolon]
  dsimp only
  rw [dropEnds_eq_self hbrace, if_neg (not_not.mpr hcount),
    readHex_hexDigits (by rintro rfl; cases hlength) hdigits, Option.map_some, ← hlength,
    bytesOf_numberOf]

theorem Uuid.length_of_ofText {text : String} {uuid : Uuid} (h : Uuid.ofText text = some uuid) :
    uuid.length = 16 := by
  unfold ofText at h
  dsimp only at h
  split at h
  · cases h
  · obtain ⟨number, -, rfl⟩ := Option.map_eq_some_iff.mp h
    exact length_bytesOf 16 number

/-- **Canonical texts.** What reads as a UUID and is its rendering up to case. -/
theorem Uuid.canonical_iff {text canonical : String} :
    (∃ uuid, Uuid.ofText text = some uuid ∧ uuid.text = text.toLower ∧ uuid.text = canonical) ↔
      text.toLower = canonical ∧ ∃ uuid : Uuid, uuid.length = 16 ∧ uuid.text = canonical := by
  constructor
  · rintro ⟨uuid, hread, hlower, rfl⟩
    exact ⟨hlower.symm, uuid, length_of_ofText hread, rfl⟩
  · rintro ⟨hlower, uuid, hlength, rfl⟩
    exact ⟨uuid, ofText_of_toLower hlength hlower, hlower.symm, rfl⟩

end ImageStream.Base.Digest
