import Mathlib.Data.List.Basic

/-!
# Machinery/Python — what the Python sources use of their language's texts

Texts are lists of characters here, as long as Python counts them: one for each code point.
-/

namespace Python

/-- **`str.isspace`** of one character. -/
def isSpace (c : Char) : Bool :=
  let n := c.toNat
  (9 ≤ n && n ≤ 13) || (28 ≤ n && n ≤ 32) || n = 0x85 || n = 0xa0 || n = 0x1680
    || (0x2000 ≤ n && n ≤ 0x200a) || n = 0x2028 || n = 0x2029 || n = 0x202f || n = 0x205f
    || n = 0x3000

/-- **`str.strip`.** -/
def strip (s : List Char) : List Char :=
  ((s.dropWhile isSpace).reverse.dropWhile isSpace).reverse

/-- **`str.lower`**, as far as an ASCII text can tell: outside ASCII only two characters lower to
texts with an ASCII letter. -/
def lower (s : List Char) : List Char :=
  s.flatMap fun c =>
    if c = '\u0130' then ['i', '\u0307'] else if c = '\u212A' then ['k'] else [c.toLower]

/-- **`str.partition`** at one character: what stands before it and what stands after. -/
def partition (c : Char) (s : List Char) : List Char × List Char :=
  (s.takeWhile (· ≠ c), (s.dropWhile (· ≠ c)).tail)

/-- Characters that are no spaces are stripped of nothing. -/
theorem strip_eq_self {s : List Char} (h : s.all fun c => !isSpace c) : strip s = s := by
  have hdrop : ∀ t : List Char, (t.all fun c => !isSpace c) → t.dropWhile isSpace = t := fun t ht =>
    match t, ht with
    | [], _ => rfl
    | c :: t, ht => by
      have hc : isSpace c = false := by simpa using List.all_eq_true.mp ht c List.mem_cons_self
      rw [List.dropWhile_cons, hc]
      rfl
  rw [strip, hdrop s h, hdrop s.reverse (by simpa using h), List.reverse_reverse]

end Python
