import TaxLiability.Machinery.Uuid

/-!
# Machinery/Sha256 — the 256-bit hash of a byte string

The padding and the words of a block are those of the 160-bit hash; the schedule, the rounds and the
state are its own.
-/

namespace Sha256

open Uuid (Word)

/-- The constants of the rounds. -/
def constants : List Word :=
  [0x428a2f98, 0x71374491, 0xb5c0fbcf, 0xe9b5dba5, 0x3956c25b, 0x59f111f1,
    0x923f82a4, 0xab1c5ed5, 0xd807aa98, 0x12835b01, 0x243185be, 0x550c7dc3,
    0x72be5d74, 0x80deb1fe, 0x9bdc06a7, 0xc19bf174, 0xe49b69c1, 0xefbe4786,
    0x0fc19dc6, 0x240ca1cc, 0x2de92c6f, 0x4a7484aa, 0x5cb0a9dc, 0x76f988da,
    0x983e5152, 0xa831c66d, 0xb00327c8, 0xbf597fc7, 0xc6e00bf3, 0xd5a79147,
    0x06ca6351, 0x14292967, 0x27b70a85, 0x2e1b2138, 0x4d2c6dfc, 0x53380d13,
    0x650a7354, 0x766a0abb, 0x81c2c92e, 0x92722c85, 0xa2bfe8a1, 0xa81a664b,
    0xc24b8b70, 0xc76c51a3, 0xd192e819, 0xd6990624, 0xf40e3585, 0x106aa070,
    0x19a4c116, 0x1e376c08, 0x2748774c, 0x34b0bcb5, 0x391c0cb3, 0x4ed8aa4a,
    0x5b9cca4f, 0x682e6ff3, 0x748f82ee, 0x78a5636f, 0x84c87814, 0x8cc70208,
    0x90befffa, 0xa4506ceb, 0xbef9a3f7, 0xc67178f2]

/-- The chaining state. -/
structure Chain where
  a : Word
  b : Word
  c : Word
  d : Word
  e : Word
  f : Word
  g : Word
  h : Word

def Chain.initial : Chain :=
  ⟨0x6a09e667, 0xbb67ae85, 0x3c6ef372, 0xa54ff53a, 0x510e527f, 0x9b05688c, 0x1f83d9ab, 0x5be0cd19⟩

/-- The next schedule word, from the last sixteen, latest first. -/
def nextWord (w : List Word) : Word :=
  let x := w.getD 14 0
  let y := w.getD 1 0
  (x.rotateRight 7 ^^^ x.rotateRight 18 ^^^ (x >>> 3)) + w.getD 15 0 + w.getD 6 0
    + (y.rotateRight 17 ^^^ y.rotateRight 19 ^^^ (y >>> 10))

/-- One round with constant `k` and schedule word `w`. -/
def round (s : Chain) (k w : Word) : Chain :=
  let t₁ := s.h + (s.e.rotateRight 6 ^^^ s.e.rotateRight 11 ^^^ s.e.rotateRight 25)
    + ((s.e &&& s.f) ^^^ (~~~s.e &&& s.g)) + k + w
  let t₂ := (s.a.rotateRight 2 ^^^ s.a.rotateRight 13 ^^^ s.a.rotateRight 22)
    + ((s.a &&& s.b) ^^^ (s.a &&& s.c) ^^^ (s.b &&& s.c))
  ⟨t₁ + t₂, s.a, s.b, s.c, s.d + t₁, s.e, s.f, s.g⟩

/-- The rounds of these constants: the words still to use, then the ones computed, latest first. -/
def rounds : List Word → Chain → List Word → List Word → Chain
  | [], s, _, _ => s
  | k :: ks, s, w :: ws, recent => rounds ks (round s k w) ws (w :: recent.take 15)
  | k :: ks, s, [], recent =>
    rounds ks (round s k (nextWord recent)) [] (nextWord recent :: recent.take 15)

/-- Fold a block into the state. -/
def compress (s : Chain) (block : List Word) : Chain :=
  let r := rounds constants s block []
  ⟨s.a + r.a, s.b + r.b, s.c + r.c, s.d + r.d, s.e + r.e, s.f + r.f, s.g + r.g, s.h + r.h⟩

/-- Fold all blocks, `fuel` at most. -/
def blocks : ℕ → Chain → List Word → Chain
  | 0, s, _ => s
  | fuel + 1, s, ws => if ws = [] then s else blocks fuel (compress s (ws.take 16)) (ws.drop 16)

/-- **The hash of a byte string**, as its eight words. -/
def sha256 (message : List ℕ) : List Word :=
  let ws := Uuid.words (Uuid.pad message)
  let s := blocks ws.length Chain.initial ws
  [s.a, s.b, s.c, s.d, s.e, s.f, s.g, s.h]

/-- **The hash in hexadecimal**, 64 digits. -/
def hexdigest (message : List ℕ) : List Char :=
  (sha256 message).flatMap fun w => Uuid.hex 8 w.toNat

example : hexdigest [97, 98, 99]
    = "ba7816bf8f01cfea414140de5dae2223b00361a396177a9cb410ff61f20015ad".toList := by
  decide +kernel

end Sha256
