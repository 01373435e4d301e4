import Mathlib.Algebra.Group.Nat.Defs
import Mathlib.Data.List.Basic
import Mathlib.Data.String.Defs
import TaxLiability.Machinery.Java
import TaxLiability.Machinery.Url

/-!
# Machinery/Uuid — name-based UUIDs, version 5, and the texts of UUIDs

`sha1` is the 160-bit hash of a byte string, `uuid5` the first 128 bits of the hash of a namespace
followed by a name, with the version and variant fields set, and `format` its 36-character text.
`fromString` reads a text as Java does, which is not only what `format` writes.
-/

namespace Uuid

/-! ## SHA-1 -/

/-- A 32-bit word. -/
abbrev Word := BitVec 32

/-- The chaining state. -/
structure Chain where
  a : Word
  b : Word
  c : Word
  d : Word
  e : Word
  deriving DecidableEq

def Chain.initial : Chain := ⟨0x67452301, 0xefcdab89, 0x98badcfe, 0x10325476, 0xc3d2e1f0⟩

/-- Big-endian bytes of a number, `n` of them. -/
def bytesBE : ℕ → ℕ → List ℕ
  | 0, _ => []
  | n + 1, v => bytesBE n (v / 256) ++ [v % 256]

/-- The message, a one bit, zeros up to 8 bytes short of a block, and the length in bits. -/
def pad (message : List ℕ) : List ℕ :=
  message ++ 0x80 :: List.replicate ((119 - message.length % 64) % 64) 0
    ++ bytesBE 8 (8 * message.length)

/-- Big-endian words of a byte string. -/
def words : List ℕ → List Word
  | a :: b :: c :: d :: r => BitVec.ofNat 32 (((a * 256 + b) * 256 + c) * 256 + d) :: words r
  | _ => []

/-- The next schedule word, from the last sixteen, latest first. -/
def nextWord (w : List Word) : Word :=
  (w.getD 2 0 ^^^ w.getD 7 0 ^^^ w.getD 13 0 ^^^ w.getD 15 0).rotateLeft 1

/-- The mixing function and constant of a round. -/
def mix (t : ℕ) (b c d : Word) : Word × Word :=
  if t < 20 then ((b &&& c) ||| (~~~b &&& d), 0x5a827999)
  else if t < 40 then (b ^^^ c ^^^ d, 0x6ed9eba1)
  else if t < 60 then ((b &&& c) ||| (b &&& d) ||| (c &&& d), 0x8f1bbcdc)
  else (b ^^^ c ^^^ d, 0xca62c1d6)

/-- One round with schedule word `w`. -/
def round (t : ℕ) (s : Chain) (w : Word) : Chain :=
  let f := mix t s.b s.c s.d
  ⟨s.a.rotateLeft 5 + f.1 + s.e + f.2 + w, s.a, s.b.rotateLeft 30, s.c, s.d⟩

/-- `n` rounds from round `t` on: the words still to use, then the ones computed, latest first. -/
def rounds : ℕ → ℕ → Chain → List Word → List Word → Chain
  | 0, _, s, _, _ => s
  | n + 1, t, s, w :: ws, recent => rounds n (t + 1) (round t s w) ws (w :: recent.take 15)
  | n + 1, t, s, [], recent =>
    rounds n (t + 1) (round t s (nextWord recent)) [] (nextWord recent :: recent.take 15)

/-- Fold a block into the state. -/
def compress (s : Chain) (block : List Word) : Chain :=
  let r := rounds 80 0 s block []
  ⟨s.a + r.a, s.b + r.b, s.c + r.c, s.d + r.d, s.e + r.e⟩

/-- Fold all blocks, `fuel` at most. -/
def blocks : ℕ → Chain → List Word → Chain
  | 0, s, _ => s
  | fuel + 1, s, ws => if ws = [] then s else blocks fuel (compress s (ws.take 16)) (ws.drop 16)

/-- **The hash of a byte string**, as a number below `2 ^ 160`. -/
def sha1 (message : List ℕ) : ℕ :=
  let ws := words (pad message)
  let s := blocks ws.length Chain.initial ws
  (((s.a.toNat * 2 ^ 32 + s.b.toNat) * 2 ^ 32 + s.c.toNat) * 2 ^ 32 + s.d.toNat) * 2 ^ 32
    + s.e.toNat

example : sha1 [97, 98, 99] = 0xa9993e364706816aba3e25717850c26c9cd0d89d := by decide +kernel

/-! ## UUIDs -/

/-- The bytes of a text in UTF-8. -/
def utf8 (s : List Char) : List ℕ := s.flatMap fun c => (String.utf8EncodeChar c).map UInt8.toNat

/-- **The version 5 UUID of a name in a namespace**, as a 128-bit number. -/
def uuid5 (ns : ℕ) (name : List Char) : ℕ :=
  let h := sha1 (bytesBE 16 ns ++ utf8 name) / 2 ^ 32
  -- bits 76 to 79 hold the version, bits 62 and 63 the variant
  let v := h / 2 ^ 80 * 2 ^ 80 + 5 * 2 ^ 76 + h % 2 ^ 76
  v / 2 ^ 64 * 2 ^ 64 + 2 * 2 ^ 62 + v % 2 ^ 62

/-- `n` hexadecimal digits. -/
def hex : ℕ → ℕ → List Char
  | 0, _ => []
  | n + 1, v => hex n (v / 16) ++ [Nat.digitChar (v % 16)]

/-- **The text of a UUID.** -/
def format (v : ℕ) : List Char :=
  hex 8 (v / 2 ^ 96) ++ '-' :: hex 4 (v / 2 ^ 80) ++ '-' :: hex 4 (v / 2 ^ 64)
    ++ '-' :: hex 4 (v / 2 ^ 48) ++ '-' :: hex 12 v

theorem notMem_hex {c : Char} (hc : ∀ d < 16, c ≠ Nat.digitChar d) (n v : ℕ) : c ∉ hex n v := by
  induction n generalizing v with
  | zero => exact List.not_mem_nil
  | succ n ih =>
    rw [hex, List.mem_append, List.mem_singleton, not_or]
    exact ⟨ih _, hc _ (Nat.mod_lt _ (by decide))⟩

/-- A text of a UUID has no character but the digits and the dash. -/
theorem notMem_format {c : Char} (hc : ∀ d < 16, c ≠ Nat.digitChar d) (hdash : c ≠ '-') (v : ℕ) :
    c ∉ format v := by
  simp [format, notMem_hex hc, hdash]

theorem of_mem_format {c : Char} {v : ℕ} (h : c ∈ format v) :
    c = '-' ∨ ∃ d < 16, c = Nat.digitChar d := by
  by_contra hnot
  rw [not_or, not_exists] at hnot
  exact notMem_format (fun d hd heq => hnot.2 d ⟨hd, heq⟩) hnot.1 v h

theorem length_hex (n v : ℕ) : (hex n v).length = n := by
  induction n generalizing v with
  | zero => rfl
  | succ n ih => rw [hex, List.length_append, ih, List.length_singleton]

/-- A text of a UUID has 36 characters. -/
theorem length_format (v : ℕ) : (format v).length = 36 := by
  simp [format, length_hex]

/-! ## Java's reader -/

/-- **`Long.parseLong` to base 16** of a text of the characters a header can hold, without a minus
sign. -/
def parseLong (cs : List Char) : Option ℕ :=
  let digits := if cs.head? = some '+' then cs.tail else cs
  if digits = [] then none
  else (digits.mapM Url.hexValue).bind fun ds =>
    let v := ds.foldl (fun v d => 16 * v + d) 0
    if v < 2 ^ 63 then some v else none

/-- **`UUID.fromString`**: five groups of digits, each cut to its width. -/
def fromString (name : String) : Option ℕ :=
  if 36 < Java.length name then none
  else match (name.toList.splitOn '-').mapM parseLong with
    | some [a, b, c, d, e] => some
      ((((a % 2 ^ 32 * 2 ^ 16 + b % 2 ^ 16) * 2 ^ 16 + c % 2 ^ 16) * 2 ^ 16 + d % 2 ^ 16) * 2 ^ 48
        + e % 2 ^ 48)
    | _ => none

/-- A text need not be the one its UUID has. -/
example : (fromString "1-2-3-+4-5").map format
    = some "00000001-0002-0003-0004-000000000005".toList := by decide

theorem hexValue_digitChar {n : ℕ} (h : n < 16) : Url.hexValue (Nat.digitChar n) = some n := by
  have hall : ∀ n : Fin 16, Url.hexValue (Nat.digitChar n) = some n.1 := by decide
  exact hall ⟨n, h⟩

/-- Digits are read back, as many as there are. -/
theorem mapM_hex (n v : ℕ) : ∃ ds, (hex n v).mapM Url.hexValue = some ds
    ∧ ds.foldl (fun v d => 16 * v + d) 0 = v % 16 ^ n := by
  induction n generalizing v with
  | zero => exact ⟨[], rfl, by simp [Nat.mod_one]⟩
  | succ n ih =>
    obtain ⟨ds, hds, hvalue⟩ := ih (v / 16)
    refine ⟨ds ++ [v % 16], ?_, ?_⟩
    · rw [hex, List.mapM_append, hds, List.mapM_cons, List.mapM_nil,
        hexValue_digitChar (Nat.mod_lt v (by decide))]
      rfl
    · rw [List.foldl_append, hvalue, List.foldl_cons, List.foldl_nil, Nat.pow_succ', Nat.mod_mul,
        Nat.add_comm]

theorem parseLong_hex {n : ℕ} (v : ℕ) (h₀ : n ≠ 0) (h : 16 ^ n ≤ 2 ^ 63) :
    parseLong (hex n v) = some (v % 16 ^ n) := by
  obtain ⟨ds, hds, hvalue⟩ := mapM_hex n v
  have hplus : (hex n v).head? ≠ some '+' := fun hhead =>
    notMem_hex (by decide) n v (List.mem_of_head? hhead)
  have hne : hex n v ≠ [] := fun hnil => h₀ (length_hex n v ▸ congrArg List.length hnil)
  have hlt : v % 16 ^ n < 2 ^ 63 := (Nat.mod_lt v (Nat.pow_pos (by decide))).trans_le h
  simp only [parseLong, if_neg hplus, if_neg hne, hds, Option.bind_some, hvalue, if_pos hlt]

/-- A text of a UUID has as many UTF-16 units. -/
theorem javaLength_format (v : ℕ) : Java.length (String.ofList (format v)) = 36 := by
  have hascii : ∀ c ∈ format v, (if c.toNat < 0x10000 then 1 else 2) = 1 := by
    intro c hc
    obtain rfl | ⟨d, hd, rfl⟩ := of_mem_format hc
    · decide
    · have hall : ∀ d : Fin 16, (if (Nat.digitChar d).toNat < 0x10000 then 1 else 2) = 1 := by
        decide
      exact hall ⟨d, hd⟩
  rw [Java.length, String.toList_ofList, List.map_congr_left hascii, List.map_const',
    List.sum_replicate_nat, length_format]

/-- **The text of a UUID is read as that UUID.** -/
theorem fromString_format {v : ℕ} (h : v < 2 ^ 128) :
    fromString (String.ofList (format v)) = some v := by
  have hdash : ∀ n v, '-' ∉ hex n v := notMem_hex (by decide)
  have hgroups : (format v).splitOn '-'
      = [hex 8 (v / 2 ^ 96), hex 4 (v / 2 ^ 80), hex 4 (v / 2 ^ 64), hex 4 (v / 2 ^ 48),
        hex 12 v] := by
    simp only [format, List.append_assoc, List.cons_append,
      List.splitOn_append_cons_self_of_not_mem (hdash _ _), List.splitOn_eq_singleton (hdash _ _)]
  have hread : ((format v).splitOn '-').mapM parseLong = some [v / 2 ^ 96 % 16 ^ 8,
      v / 2 ^ 80 % 16 ^ 4, v / 2 ^ 64 % 16 ^ 4, v / 2 ^ 48 % 16 ^ 4, v % 16 ^ 12] := by
    rw [hgroups]
    simp only [List.mapM_cons, List.mapM_nil, parseLong_hex _ (show 8 ≠ 0 by decide) (by decide),
      parseLong_hex _ (show 4 ≠ 0 by decide) (by decide),
      parseLong_hex _ (show 12 ≠ 0 by decide) (by decide)]
    rfl
  rw [fromString, if_neg (by rw [javaLength_format]; decide), String.toList_ofList, hread]
  refine congrArg some ?_
  omega

/-- A UUID is a number of 128 bits. -/
theorem uuid5_lt (ns : ℕ) (name : List Char) : uuid5 ns name < 2 ^ 128 := by
  have hhash : sha1 (bytesBE 16 ns ++ utf8 name) < 2 ^ 160 := by
    have hword : ∀ w : Word, w.toNat < 2 ^ 32 := fun w => w.isLt
    unfold sha1
    dsimp only
    generalize blocks _ Chain.initial _ = s
    have := hword s.a
    have := hword s.b
    have := hword s.c
    have := hword s.d
    have := hword s.e
    omega
  unfold uuid5
  dsimp only
  omega

end Uuid
