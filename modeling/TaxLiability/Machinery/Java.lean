import Mathlib.Algebra.GroupWithZero.Nat
import Mathlib.Data.List.Basic
import Mathlib.Data.List.DropRight

/-!
# Machinery/Java — what the Java sources use of their library's texts and clocks

Texts are lists of characters here; `length` counts UTF-16 units and `IsBlank` goes by
`Character.isWhitespace`, as in Java.
-/

namespace Java

/-- An instant, counted from the epoch and negative before it. -/
abbrev Instant : Type := ℤ

/-- **`Character.isWhitespace`**: the separators that may break a line, and the ASCII controls
that separate text. -/
def isWhitespace (c : Char) : Bool :=
  let n := c.toNat
  (9 ≤ n && n ≤ 13) || (28 ≤ n && n ≤ 32) || n = 0x1680 || (0x2000 ≤ n && n ≤ 0x2006)
    || (0x2008 ≤ n && n ≤ 0x200a) || n = 0x2028 || n = 0x2029 || n = 0x205f || n = 0x3000

/-- **`String.isBlank`.** -/
def IsBlank (s : String) : Prop := s.toList.all isWhitespace = true

instance (s : String) : Decidable (IsBlank s) := inferInstanceAs (Decidable (_ = true))

/-- A text with a part that is not blank is not blank. -/
theorem not_isBlank_append {s : String} (h : ¬ IsBlank s) (t : String) : ¬ IsBlank (s ++ t) := by
  intro hblank
  rw [IsBlank, String.toList_append, List.all_append, Bool.and_eq_true] at hblank
  exact h hblank.1

/-- **`String.startsWith`.** -/
def StartsWith (s start : String) : Prop := start.toList.isPrefixOf s.toList = true

instance (s start : String) : Decidable (StartsWith s start) :=
  inferInstanceAs (Decidable (_ = true))

/-- A text put together starts with its first part. -/
theorem startsWith_append (start s : String) : StartsWith (start ++ s) start := by
  rw [StartsWith, String.toList_append]
  exact List.isPrefixOf_iff_prefix.mpr (List.prefix_append _ _)

/-- **`String.endsWith`.** -/
def EndsWith (s ending : String) : Prop := ending.toList.isSuffixOf s.toList = true

instance (s ending : String) : Decidable (EndsWith s ending) :=
  inferInstanceAs (Decidable (_ = true))

/-- **`String.length`**: characters beyond the basic plane count twice. -/
def length (s : String) : ℕ := (s.toList.map fun c => if c.toNat < 0x10000 then 1 else 2).sum

/-- What `trim` takes for whitespace: all the ASCII controls, and the space. -/
def isTrimmed (c : Char) : Bool := c.toNat ≤ 0x20

/-- **`String.trim`.** -/
def trim (s : String) : String :=
  String.ofList ((s.toList.dropWhile isTrimmed).rdropWhile isTrimmed)

/-- A text that begins with no whitespace is trimmed at its end only. -/
theorem toList_trim {s : String} {c : Char} (hhead : s.toList.head? = some c)
    (hc : isTrimmed c = false) : (trim s).toList = s.toList.rdropWhile isTrimmed := by
  obtain ⟨cs, hcs⟩ := List.head?_eq_some_iff.mp hhead
  rw [trim, String.toList_ofList, hcs, List.dropWhile_cons_of_neg (by simp [hc])]

/-- A text of ASCII has the length of its characters. -/
theorem length_eq_of_ascii {s : String} (h : ∀ c ∈ s.toList, c.toNat < 0x10000) :
    length s = s.toList.length := by
  have hone : s.toList.map (fun c => if c.toNat < 0x10000 then 1 else 2)
      = s.toList.map fun _ => 1 := List.map_congr_left fun c hc => if_pos (h c hc)
  rw [length, hone, List.map_const', List.sum_replicate_nat, mul_one]

end Java
