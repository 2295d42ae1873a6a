/-
# SHA-1, SHA-256 and version-5 UUIDs

The digests that identities are made of, as the standards define them, over lists
of bytes and with 32-bit words as natural numbers below `2 ^ 32`. They compute, so
identities of concrete inputs can be evaluated; apart from that only the shape of
the results matters: a rendered digest is made of hexadecimal digits.
-/

import ImageStream.Base.Text

namespace ImageStream.Base.Digest

/-! ## Words and blocks -/

/-- Reduce to 32 bits. -/
def word (n : ℕ) : ℕ := n % 2 ^ 32

def rotateLeft (n x : ℕ) : ℕ := word (x <<< n) ||| x >>> (32 - n)

def rotateRight (n x : ℕ) : ℕ := word (x <<< (32 - n)) ||| x >>> n

/-- Bitwise complement of a word. -/
def complement (x : ℕ) : ℕ := x ^^^ 0xffffffff

/-- The `count` low bytes of a number, highest first. -/
def bigEndian (count n : ℕ) : List ℕ :=
  (List.range count).map fun i => n / 256 ^ (count - 1 - i) % 256

/-- A message with its padding and its length in bits. -/
def padded (message : List ℕ) : List ℕ :=
  message ++ 0x80 :: List.replicate ((119 - message.length % 64) % 64) 0 ++
    bigEndian 8 (8 * message.length)

/-- Four bytes at a time as words. -/
def words : List ℕ → List ℕ
  | a :: b :: c :: d :: rest =>
      (a * 2 ^ 24 + b * 2 ^ 16 + c * 2 ^ 8 + d) :: words rest
  | _ => []

/-- Sixteen words at a time as blocks. -/
def chunks : ℕ → List ℕ → List (List ℕ)
  | 0, _ => []
  | count + 1, ws => ws.take 16 :: chunks count (ws.drop 16)

def blocks (message : List ℕ) : List (List ℕ) :=
  let ws := words (padded message)
  chunks (ws.length / 16) ws

/-! ## SHA-256 -/

structure Sha256State where
  (a b c d e f g h : ℕ)

def sha256Constants : List ℕ :=
  [0x428a2f98, 0x71374491, 0xb5c0fbcf, 0xe9b5dba5, 0x3956c25b, 0x59f111f1, 0x923f82a4,
    0xab1c5ed5, 0xd807aa98, 0x12835b01, 0x243185be, 0x550c7dc3, 0x72be5d74, 0x80deb1fe,
    0x9bdc06a7, 0xc19bf174, 0xe49b69c1, 0xefbe4786, 0x0fc19dc6, 0x240ca1cc, 0x2de92c6f,
    0x4a7484aa, 0x5cb0a9dc, 0x76f988da, 0x983e5152, 0xa831c66d, 0xb00327c8, 0xbf597fc7,
    0xc6e00bf3, 0xd5a79147, 0x06ca6351, 0x14292967, 0x27b70a85, 0x2e1b2138, 0x4d2c6dfc,
    0x53380d13, 0x650a7354, 0x766a0abb, 0x81c2c92e, 0x92722c85, 0xa2bfe8a1, 0xa81a664b,
    0xc24b8b70, 0xc76c51a3, 0xd192e819, 0xd6990624, 0xf40e3585, 0x106aa070, 0x19a4c116,
    0x1e376c08, 0x2748774c, 0x34b0bcb5, 0x391c0cb3, 0x4ed8aa4a, 0x5b9cca4f, 0x682e6ff3,
    0x748f82ee, 0x78a5636f, 0x84c87814, 0x8cc70208, 0x90befffa, 0xa4506ceb, 0xbef9a3f7,
    0xc67178f2]

/-- The message schedule, built newest word first. -/
def sha256Schedule : ℕ → List ℕ → List ℕ
  | 0, ws => ws.reverse
  | count + 1, ws =>
      let x := ws.getD 14 0
      let y := ws.getD 1 0
      let small := rotateRight 7 x ^^^ rotateRight 18 x ^^^ x >>> 3
      let large := rotateRight 17 y ^^^ rotateRight 19 y ^^^ y >>> 10
      sha256Schedule count (word (large + ws.getD 6 0 + small + ws.getD 15 0) :: ws)

def sha256Round (s : Sha256State) (k : ℕ × ℕ) : Sha256State :=
  let first := s.h + (rotateRight 6 s.e ^^^ rotateRight 11 s.e ^^^ rotateRight 25 s.e) +
    ((s.e &&& s.f) ^^^ (complement s.e &&& s.g)) + k.1 + k.2
  let second := (rotateRight 2 s.a ^^^ rotateRight 13 s.a ^^^ rotateRight 22 s.a) +
    ((s.a &&& s.b) ^^^ (s.a &&& s.c) ^^^ (s.b &&& s.c))
  ⟨word (first + second), s.a, s.b, s.c, word (s.d + first), s.e, s.f, s.g⟩

def sha256Block (s : Sha256State) (block : List ℕ) : Sha256State :=
  let r := (sha256Constants.zip (sha256Schedule 48 block.reverse)).foldl sha256Round s
  ⟨word (s.a + r.a), word (s.b + r.b), word (s.c + r.c), word (s.d + r.d), word (s.e + r.e),
    word (s.f + r.f), word (s.g + r.g), word (s.h + r.h)⟩

def sha256 (message : List UInt8) : List ℕ :=
  let s := (blocks (message.map UInt8.toNat)).foldl sha256Block
    ⟨0x6a09e667, 0xbb67ae85, 0x3c6ef372, 0xa54ff53a, 0x510e527f, 0x9b05688c, 0x1f83d9ab,
      0x5be0cd19⟩
  [s.a, s.b, s.c, s.d, s.e, s.f, s.g, s.h].flatMap (bigEndian 4)

/-! ## SHA-1 -/

structure Sha1State where
  (a b c d e : ℕ)

/-- The message schedule, built newest word first. -/
def sha1Schedule : ℕ → List ℕ → List ℕ
  | 0, ws => ws.reverse
  | count + 1, ws =>
      sha1Schedule count
        (rotateLeft 1 (ws.getD 2 0 ^^^ ws.getD 7 0 ^^^ ws.getD 13 0 ^^^ ws.getD 15 0) :: ws)

/-- The function and the constant of a round. -/
def sha1Mix (s : Sha1State) (round : ℕ) : ℕ :=
  if round < 20 then ((s.b &&& s.c) ||| (complement s.b &&& s.d)) + 0x5a827999
  else if round < 40 then (s.b ^^^ s.c ^^^ s.d) + 0x6ed9eba1
  else if round < 60 then ((s.b &&& s.c) ||| (s.b &&& s.d) ||| (s.c &&& s.d)) + 0x8f1bbcdc
  else (s.b ^^^ s.c ^^^ s.d) + 0xca62c1d6

def sha1Round (s : Sha1State) (k : ℕ × ℕ) : Sha1State :=
  ⟨word (rotateLeft 5 s.a + sha1Mix s k.1 + s.e + k.2), s.a, rotateLeft 30 s.b, s.c, s.d⟩

def sha1Block (s : Sha1State) (block : List ℕ) : Sha1State :=
  let r := ((List.range 80).zip (sha1Schedule 64 block.reverse)).foldl sha1Round s
  ⟨word (s.a + r.a), word (s.b + r.b), word (s.c + r.c), word (s.d + r.d), word (s.e + r.e)⟩

def sha1 (message : List UInt8) : List ℕ :=
  let s := (blocks (message.map UInt8.toNat)).foldl sha1Block
    ⟨0x67452301, 0xefcdab89, 0x98badcfe, 0x10325476, 0xc3d2e1f0⟩
  [s.a, s.b, s.c, s.d, s.e].flatMap (bigEndian 4)

/-! ## Rendering -/

/-- Two hexadecimal digits for each byte. -/
def hexDigits (bytes : List ℕ) : List Char :=
  bytes.flatMap fun byte => [hexDigit (byte / 16 % 16), hexDigit (byte % 16)]

/-- `hashlib.sha256(message).hexdigest()`. -/
def sha256Hex (message : List UInt8) : String :=
  String.ofList (hexDigits (sha256 message))

/-- The sixteen bytes of a UUID. -/
abbrev Uuid := List UInt8

/-- `uuid5(namespace, name)`, the name given by its bytes. -/
def uuid5 (space : Uuid) (name : List UInt8) : Uuid :=
  ((sha1 (space ++ name)).take 16).zipIdx.map fun (byte, index) =>
    UInt8.ofNat
      (if index = 6 then byte % 16 + 0x50 else if index = 8 then byte % 64 + 0x80 else byte)

/-- `str(uuid)`. -/
def Uuid.text (uuid : Uuid) : String :=
  let digits := hexDigits (uuid.map UInt8.toNat)
  String.ofList (digits.take 8 ++ '-' :: (digits.drop 8).take 4 ++ '-' :: (digits.drop 12).take 4 ++
    '-' :: (digits.drop 16).take 4 ++ '-' :: digits.drop 20)

example : sha256Hex [97, 98, 99] =
    "ba7816bf8f01cfea414140de5dae2223b00361a396177a9cb410ff61f20015ad" := by
  decide +kernel

/-! ## The shape of rendered digests -/

theorem isSpace_hexDigit {n : ℕ} (h : n < 16) : isSpace (hexDigit n) = false := by
  have hall : ∀ m : Fin 16, isSpace (hexDigit m) = false := by decide
  exact hall ⟨n, h⟩

theorem isSpace_of_mem_hexDigits {bytes : List ℕ} {c : Char} (hc : c ∈ hexDigits bytes) :
    isSpace c = false := by
  obtain ⟨byte, -, hbyte⟩ := List.mem_flatMap.mp hc
  rcases List.mem_cons.mp hbyte with rfl | hlow
  · exact isSpace_hexDigit (Nat.mod_lt _ (by decide))
  · rw [List.mem_singleton.mp hlow]
    exact isSpace_hexDigit (Nat.mod_lt _ (by decide))

theorem sha256Hex_ne_empty (message : List UInt8) : sha256Hex message ≠ "" := by
  intro h
  have hlist := congrArg String.toList h
  simp [sha256Hex, sha256, hexDigits, bigEndian, List.range_succ] at hlist

/-- A digest has no blanks to strip. -/
theorem strip_sha256Hex (message : List UInt8) : strip (sha256Hex message) = sha256Hex message := by
  apply strip_eq_self
  intro c hc
  rw [sha256Hex, String.toList_ofList] at hc
  exact isSpace_of_mem_hexDigits hc

theorem Uuid.text_ne_empty (uuid : Uuid) : uuid.text ≠ "" := by
  intro h
  have hlist := congrArg String.toList h
  simp [text] at hlist

/-! ## Reading rendered digests back -/

theorem hexDigit_inj {m n : ℕ} (hm : m < 16) (hn : n < 16) (h : hexDigit m = hexDigit n) :
    m = n := by
  have hall : ∀ a b : Fin 16, hexDigit a = hexDigit b → a = b := by decide
  exact congrArg Fin.val (hall ⟨m, hm⟩ ⟨n, hn⟩ h)

theorem hexDigits_inj {first second : List UInt8}
    (h : hexDigits (first.map UInt8.toNat) = hexDigits (second.map UInt8.toNat)) :
    first = second := by
  induction first generalizing second with
  | nil =>
      cases second with
      | nil => rfl
      | cons byte bytes => simp [hexDigits] at h
  | cons byte bytes ih =>
      cases second with
      | nil => simp [hexDigits] at h
      | cons byte' bytes' =>
          simp only [hexDigits, List.map_cons, List.flatMap_cons, List.cons_append,
            List.nil_append, List.cons.injEq] at h
          obtain ⟨hhigh, hlow, hrest⟩ := h
          have hhigh' := hexDigit_inj (Nat.mod_lt _ (by decide)) (Nat.mod_lt _ (by decide)) hhigh
          have hlow' := hexDigit_inj (Nat.mod_lt _ (by decide)) (Nat.mod_lt _ (by decide)) hlow
          have hbyte : byte = byte' := by
            apply UInt8.toNat_inj.mp
            have hlt := byte.toNat_lt
            have hlt' := byte'.toNat_lt
            omega
          rw [hbyte, ih hrest]

theorem hexDigit_ne_hyphen {n : ℕ} (h : n < 16) : hexDigit n ≠ '-' := by
  have hall : ∀ m : Fin 16, hexDigit m ≠ '-' := by decide
  exact hall ⟨n, h⟩

theorem ne_hyphen_of_mem_hexDigits {bytes : List ℕ} {c : Char} (hc : c ∈ hexDigits bytes) :
    c ≠ '-' := by
  obtain ⟨byte, -, hbyte⟩ := List.mem_flatMap.mp hc
  rcases List.mem_cons.mp hbyte with rfl | hlow
  · exact hexDigit_ne_hyphen (Nat.mod_lt _ (by decide))
  · rw [List.mem_singleton.mp hlow]
    exact hexDigit_ne_hyphen (Nat.mod_lt _ (by decide))

/-- Without its hyphens a rendered UUID is its digits. -/
theorem Uuid.filter_text (uuid : Uuid) :
    uuid.text.toList.filter (· ≠ '-') = hexDigits (uuid.map UInt8.toNat) := by
  have hkeep : ∀ digits : List Char, (∀ c ∈ digits, c ∈ hexDigits (uuid.map UInt8.toNat)) →
      digits.filter (· ≠ '-') = digits := by
    intro digits hdigits
    exact List.filter_eq_self.mpr fun c hc => by
      simpa using ne_hyphen_of_mem_hexDigits (hdigits c hc)
  have hdrop : ∀ n c, c ∈ (hexDigits (uuid.map UInt8.toNat)).drop n →
      c ∈ hexDigits (uuid.map UInt8.toNat) := fun n c hc => List.mem_of_mem_drop hc
  rw [text, String.toList_ofList]
  simp only [List.filter_append, List.filter_cons, ne_eq, not_true_eq_false, decide_false,
    Bool.false_eq_true, if_false]
  rw [hkeep _ fun c hc => List.mem_of_mem_take hc,
    hkeep _ fun c hc => hdrop 8 c (List.mem_of_mem_take hc),
    hkeep _ fun c hc => hdrop 12 c (List.mem_of_mem_take hc),
    hkeep _ fun c hc => hdrop 16 c (List.mem_of_mem_take hc), hkeep _ fun c hc => hdrop 20 c hc]
  generalize hexDigits (uuid.map UInt8.toNat) = digits
  have hgroup : ∀ n, (digits.drop n).take 4 ++ digits.drop (n + 4) = digits.drop n := by
    intro n
    rw [← List.drop_drop]
    exact List.take_append_drop 4 _
  rw [List.append_assoc, List.append_assoc, List.append_assoc, hgroup 16, hgroup 12, hgroup 8]
  exact List.take_append_drop 8 digits

/-- Different UUIDs are rendered differently. -/
theorem Uuid.text_inj {first second : Uuid} (h : first.text = second.text) : first = second := by
  apply hexDigits_inj
  rw [← Uuid.filter_text, ← Uuid.filter_text, h]

end ImageStream.Base.Digest
