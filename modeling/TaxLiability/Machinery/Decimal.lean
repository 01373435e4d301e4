import Mathlib.Algebra.Order.Field.Rat
import Mathlib.Data.List.Induction
import Mathlib.Data.Rat.Cast.Defs
import Mathlib.Data.Rat.Floor
import Mathlib.Tactic.FieldSimp
import Mathlib.Tactic.Linarith
import TaxLiability.Machinery.BigDecimal
import TaxLiability.Machinery.Python

/-!
# Machinery/Decimal — finite decimals, their texts and their rounding

    text ──read──▸ (sign, coefficient, exponent) ──str──▸ text

`read_str`: what is printed reads back, its exponent included.  `str_eq_iff` says which texts print
back as they were.
-/

/-! ## Numerals -/

namespace Numeral

/-- The number a list of digits stands for. -/
abbrev val (s : List Char) : ℕ := Nat.ofDigitChars 10 s 0

/-- **A whole number as it is printed**: digits, and no zero in front of others. -/
structure Printed (s : List Char) : Prop where
  ne_nil : s ≠ []
  digits : s.all Char.isDigit
  head : s.head? = some '0' → s = ['0']

theorem digit_bounds {c : Char} (h : c.isDigit) : 48 ≤ c.toNat ∧ c.toNat ≤ 57 := by
  simp only [Char.isDigit, Bool.and_eq_true, decide_eq_true_eq] at h
  exact ⟨h.1, h.2⟩

/-- A digit is printed for the number it stands for. -/
theorem digitChar_toNat {c : Char} (h : c.isDigit) : Nat.digitChar (c.toNat - 48) = c := by
  obtain ⟨h₁, h₂⟩ := digit_bounds h
  have hall : ∀ d < 10, Nat.digitChar d = Char.ofNat (d + 48) := by decide
  rw [hall _ (by omega), Nat.sub_add_cancel h₁, Char.ofNat_toNat]

theorem val_append (s t : List Char) : val (s ++ t) = 10 ^ t.length * val s + val t := by
  rw [val, Nat.ofDigitChars_append, Nat.ofDigitChars_eq_ofDigitChars_zero]

theorem val_singleton (c : Char) : val [c] = c.toNat - 48 := by
  simp [val, Nat.ofDigitChars_cons]

theorem val_cons (c : Char) (s : List Char) :
    val (c :: s) = 10 ^ s.length * (c.toNat - 48) + val s := by
  rw [← List.singleton_append, val_append, val_singleton]

theorem val_lt {s : List Char} (h : s.all Char.isDigit) : val s < 10 ^ s.length := by
  induction s with
  | nil => simp [val]
  | cons c s ih =>
    rw [List.all_cons, Bool.and_eq_true] at h
    obtain ⟨h₁, h₂⟩ := digit_bounds h.1
    have hs := ih h.2
    have : 10 ^ s.length * (c.toNat - 48) ≤ 10 ^ s.length * 9 := Nat.mul_le_mul_left _ (by omega)
    rw [val_cons, List.length_cons, pow_succ]
    omega

theorem val_replicate_append (n : ℕ) (s : List Char) :
    val (List.replicate n '0' ++ s) = val s := by
  rw [val_append, val, Nat.ofDigitChars_replicate_zero, Nat.mul_zero, Nat.mul_zero, Nat.zero_add]

/-- Without a zero in front, the number has as many digits as the text. -/
theorem le_val {c : Char} {s : List Char} (h : c.isDigit) (hc : c ≠ '0') :
    10 ^ s.length ≤ val (c :: s) := by
  obtain ⟨h₁, h₂⟩ := digit_bounds h
  have hne : c.toNat ≠ 48 := fun h48 => hc (Char.toNat_inj.mp h48)
  rw [val_cons]
  have : 10 ^ s.length * 1 ≤ 10 ^ s.length * (c.toNat - 48) := Nat.mul_le_mul_left _ (by omega)
  omega

theorem all_isDigit_toDigits (n : ℕ) : (Nat.toDigits 10 n).all Char.isDigit :=
  List.all_eq_true.mpr fun _ hc => Nat.isDigit_of_mem_toDigits (by decide) (by decide) hc

/-- Whole numbers are printed so. -/
theorem printed_toDigits (n : ℕ) : Printed (Nat.toDigits 10 n) where
  ne_nil := Nat.toDigits_ne_nil
  digits := all_isDigit_toDigits n
  head := fun h => by
    obtain ⟨t, ht⟩ := List.head?_eq_some_iff.mp h
    rcases t with _ | ⟨c, t⟩
    · exact ht
    -- a zero in front of other digits, and the number would be printed with fewer
    · have hlt : n < 10 ^ (c :: t).length := by
        have hall := all_isDigit_toDigits n
        rw [ht, List.all_cons, Bool.and_eq_true] at hall
        calc n = val (Nat.toDigits 10 n) := Nat.ofDigitChars_ten_toDigits.symm
          _ = val ('0' :: c :: t) := by rw [ht]
          _ = val (c :: t) := val_replicate_append 1 _
          _ < 10 ^ (c :: t).length := val_lt hall.2
      have hlen := (Nat.length_toDigits_le_iff (by decide) (Nat.succ_pos _)).mpr hlt
      rw [ht] at hlen
      exact absurd hlen (Nat.not_succ_le_self _)

/-- **A printed number is printed back as it was.** -/
theorem toDigits_val {s : List Char} (h : Printed s) : Nat.toDigits 10 (val s) = s := by
  induction s using List.reverseRecOn with
  | nil => exact absurd rfl h.ne_nil
  | append_singleton l c ih =>
    have hall := h.digits
    rw [List.all_append, Bool.and_eq_true] at hall
    have hc : c.isDigit := by simpa using hall.2
    have hlast : Nat.toDigits 10 (val [c]) = [c] := by
      have := digit_bounds hc
      rw [val_singleton, Nat.toDigits_of_lt_base (by omega), digitChar_toNat hc]
    rcases l with _ | ⟨d, l⟩
    · exact hlast
    · have hd : d ≠ '0' := fun h0 => by
        have := h.head (by rw [h0]; rfl)
        simp at this
      have hdigit : d.isDigit := by
        rw [List.all_cons, Bool.and_eq_true] at hall
        exact hall.1.1
      have hfront : Nat.toDigits 10 (val (d :: l)) = d :: l :=
        ih ⟨List.cons_ne_nil _ _, hall.1, fun h0 => absurd (Option.some.inj h0) hd⟩
      have hpos : 0 < val (d :: l) := lt_of_lt_of_le (by positivity) (le_val hdigit hd)
      have hlt : val [c] < 10 := by
        have := digit_bounds hc
        rw [val_singleton]
        omega
      rw [val_append, List.length_singleton, pow_one,
        ← Nat.toDigits_append_toDigits (by decide) hpos hlt, hfront, hlast]

/-- Digits are a printed number behind zeros, unless the number is zero. -/
theorem eq_replicate_append {s : List Char} (h : s.all Char.isDigit) (hpos : 0 < val s) :
    s = List.replicate (s.length - (Nat.toDigits 10 (val s)).length) '0'
      ++ Nat.toDigits 10 (val s) := by
  induction s with
  | nil => exact absurd hpos (lt_irrefl 0)
  | cons c s ih =>
    rw [List.all_cons, Bool.and_eq_true] at h
    by_cases hc : c = '0'
    · have hval : val (c :: s) = val s := hc ▸ val_replicate_append 1 s
      rw [hval] at hpos ⊢
      have hs := ih h.2 hpos
      have hlen := congrArg List.length hs
      rw [List.length_append, List.length_replicate] at hlen
      rw [List.length_cons, Nat.succ_sub (by omega), List.replicate_succ, List.cons_append, ← hs,
        hc]
    · have hprinted : Printed (c :: s) :=
        ⟨List.cons_ne_nil _ _, by simp [h.1, h.2], fun h0 => absurd (Option.some.inj h0) hc⟩
      rw [toDigits_val hprinted, Nat.sub_self]
      rfl

end Numeral

/-! ## Texts -/

/-- **`decimal.Decimal`, finite**: `(-1)^negative · coefficient · 10^exponent`. -/
structure Decimal where
  negative : Bool
  coefficient : ℕ
  exponent : ℤ
  deriving DecidableEq, Repr

namespace Decimal

open Numeral

/-- A sign at the front of a text, and what follows it. -/
def takeSign : List Char → Bool × List Char
  | '-' :: s => (true, s)
  | '+' :: s => (false, s)
  | s => (false, s)

/-- The digits after a point at the front of a text, and what follows them. -/
def takeFraction : List Char → List Char × List Char
  | '.' :: s => (s.takeWhile Char.isDigit, s.dropWhile Char.isDigit)
  | s => ([], s)

/-- The exponent a text ends with. -/
def readExponent : List Char → Option ℤ
  | [] => some 0
  | c :: s =>
    let (negative, digits) := takeSign s
    if (c = 'e' ∨ c = 'E') ∧ digits ≠ [] ∧ digits.all Char.isDigit then
      some (if negative then -val digits else val digits)
    else none

/-- **A decimal read from ASCII text**: a sign, digits with a point among them or not, and an
exponent.  `Decimal(str)` and `BigDecimal(String)` take the same texts. -/
def read (s : List Char) : Option Decimal :=
  let (negative, s) := takeSign s
  let whole := s.takeWhile Char.isDigit
  let (fraction, s) := takeFraction (s.dropWhile Char.isDigit)
  if whole = [] ∧ fraction = [] then none
  else (readExponent s).map fun e => ⟨negative, val (whole ++ fraction), e - fraction.length⟩

/-- The digits before the point and those after it. -/
def split (int : List Char) (dotplace : ℤ) : List Char × List Char :=
  if dotplace ≤ 0 then (['0'], List.replicate (-dotplace).toNat '0' ++ int)
  else if int.length ≤ dotplace then
    (int ++ List.replicate (dotplace - int.length).toNat '0', [])
  else (int.take dotplace.toNat, int.drop dotplace.toNat)

/-- A fraction with its point, if there is any. -/
def point (fraction : List Char) : List Char := if fraction = [] then [] else '.' :: fraction

/-- A number with its sign, `+` included. -/
def signed (e : ℤ) : List Char := (if e < 0 then '-' else '+') :: Nat.toDigits 10 e.natAbs

/-- **`Decimal.__str__`**: the exponent shows unless it is at most zero and the number not too
small. -/
def str (x : Decimal) : List Char :=
  let int := Nat.toDigits 10 x.coefficient
  let leftdigits := x.exponent + int.length
  let dotplace := if x.exponent ≤ 0 ∧ -6 < leftdigits then leftdigits else 1
  let (intpart, fracpart) := split int dotplace
  (if x.negative then ['-'] else []) ++ intpart ++ point fracpart
    ++ if leftdigits = dotplace then [] else 'E' :: signed (leftdigits - dotplace)

/-- The exponent a text ends with starts with no digit and no point. -/
theorem head_of_readExponent {s : List Char} {e : ℤ} (h : readExponent s = some e) :
    ∀ c ∈ s.head?, c = 'e' ∨ c = 'E' := by
  intro c hc
  obtain ⟨t, rfl⟩ := List.head?_eq_some_iff.mp hc
  simp only [readExponent] at h
  exact (Option.ite_none_right_eq_some.mp h).1.1

theorem takeWhile_append_of_head {w r : List Char} (hw : w.all Char.isDigit)
    (hr : ∀ c ∈ r.head?, c.isDigit = false) :
    (w ++ r).takeWhile Char.isDigit = w ∧ (w ++ r).dropWhile Char.isDigit = r := by
  rw [List.takeWhile_append_of_pos (by simpa using hw), List.dropWhile_append_of_pos
    (by simpa using hw)]
  rcases r with _ | ⟨c, r⟩
  · simp
  · have hc := hr c rfl
    simp [hc]

theorem takeSign_append (negative : Bool) {s : List Char} (hs : ∃ c ∈ s.head?, c.isDigit) :
    takeSign ((if negative then ['-'] else []) ++ s) = (negative, s) := by
  obtain ⟨c, hc, hdigit⟩ := hs
  obtain ⟨t, rfl⟩ := List.head?_eq_some_iff.mp hc
  cases negative with
  | true => rfl
  | false =>
    unfold takeSign
    split
    · rename_i heq
      cases heq
      exact absurd hdigit (by decide)
    · rename_i heq
      cases heq
      exact absurd hdigit (by decide)
    · rfl

/-- **Reading a text put together.** -/
theorem read_append (negative : Bool) {w f r : List Char} {e : ℤ} (hne : w ≠ [])
    (hw : w.all Char.isDigit) (hf : f.all Char.isDigit) (he : readExponent r = some e) :
    read ((if negative then ['-'] else []) ++ w ++ point f ++ r)
      = some ⟨negative, val (w ++ f), e - f.length⟩ := by
  have hr : ∀ c ∈ r.head?, c.isDigit = false := fun c hc => by
    rcases head_of_readExponent he c hc with rfl | rfl <;> rfl
  have hpoint : ∀ c ∈ (point f ++ r).head?, c.isDigit = false := by
    intro c hc
    unfold point at hc
    split at hc
    · exact hr c hc
    · cases hc
      rfl
  have hsign : takeSign ((if negative then ['-'] else []) ++ (w ++ (point f ++ r)))
      = (negative, w ++ (point f ++ r)) := by
    refine takeSign_append negative ?_
    obtain ⟨c, t, rfl⟩ := List.exists_cons_of_ne_nil hne
    rw [List.all_cons, Bool.and_eq_true] at hw
    exact ⟨c, rfl, hw.1⟩
  obtain ⟨htake, hdrop⟩ := takeWhile_append_of_head hw hpoint
  have hfraction : takeFraction (point f ++ r) = (f, r) := by
    rcases f with _ | ⟨c, f⟩
    · rcases r with _ | ⟨c, r⟩
      · rfl
      · rcases head_of_readExponent he c rfl with rfl | rfl <;> rfl
    · obtain ⟨htake, hdrop⟩ := takeWhile_append_of_head hf hr
      exact Prod.ext htake hdrop
  simp only [read, List.append_assoc, hsign, htake, hdrop, hfraction, hne, false_and, if_false, he,
    Option.map_some]

theorem readExponent_signed (e : ℤ) : readExponent ('E' :: signed e) = some e := by
  have hdigits : (Nat.toDigits 10 e.natAbs).all Char.isDigit := all_isDigit_toDigits _
  have hval : val (Nat.toDigits 10 e.natAbs) = e.natAbs := Nat.ofDigitChars_ten_toDigits
  have hread : ∀ negative, takeSign (signed e) = (negative, Nat.toDigits 10 e.natAbs) →
      readExponent ('E' :: signed e) = some (if negative then -(e.natAbs : ℤ) else e.natAbs) := by
    intro negative hsign
    rw [readExponent, hsign]
    dsimp only
    rw [if_pos ⟨Or.inr rfl, Nat.toDigits_ne_nil, hdigits⟩, hval]
  rcases lt_or_ge e 0 with h | h
  · rw [hread true (by rw [signed, if_pos h]; rfl), if_pos rfl]
    exact congrArg some (by omega)
  · rw [hread false (by rw [signed, if_neg (not_lt.mpr h)]; rfl), if_neg Bool.false_ne_true]
    exact congrArg some (by omega)

/-- **What `split` keeps**: the digits' number, with the point `dotplace` digits from the left. -/
theorem split_spec {int : List Char} {dotplace : ℤ} (hne : int ≠ []) (hint : int.all Char.isDigit)
    (hle : dotplace ≤ int.length) :
    (split int dotplace).1 ≠ [] ∧ (split int dotplace).1.all Char.isDigit
      ∧ (split int dotplace).2.all Char.isDigit
      ∧ val ((split int dotplace).1 ++ (split int dotplace).2) = val int
      ∧ ((split int dotplace).2.length : ℤ) = int.length - dotplace := by
  unfold split
  split_ifs with h₀ hL
  · refine ⟨List.cons_ne_nil _ _, rfl, ?_, ?_, ?_⟩
    · simp only [List.all_append, hint, Bool.and_true, List.all_replicate]
      split <;> rfl
    · rw [← List.append_assoc]
      exact val_replicate_append (_ + 1) int
    · rw [List.length_append, List.length_replicate]
      omega
  · have h0 : (dotplace - int.length).toNat = 0 := by omega
    rw [h0, List.replicate_zero, List.append_nil, List.append_nil]
    exact ⟨hne, hint, rfl, rfl, by simp only [List.length_nil]; omega⟩
  · rw [List.take_append_drop]
    refine ⟨fun h => ?_, ?_, ?_, rfl, ?_⟩
    · rcases List.take_eq_nil_iff.mp h with h | h
      · omega
      · exact hne h
    · exact List.all_eq_true.mpr fun c hc => List.all_eq_true.mp hint c (List.mem_of_mem_take hc)
    · exact List.all_eq_true.mpr fun c hc => List.all_eq_true.mp hint c (List.mem_of_mem_drop hc)
    · rw [List.length_drop]
      omega

/-- **What is printed reads back.** -/
theorem read_str (x : Decimal) : read x.str = some x := by
  set int := Nat.toDigits 10 x.coefficient with hint
  set leftdigits : ℤ := x.exponent + int.length with hleft
  set dotplace : ℤ := if x.exponent ≤ 0 ∧ -6 < leftdigits then leftdigits else 1 with hdot
  have hlen : 1 ≤ int.length := List.length_pos_iff.mpr Nat.toDigits_ne_nil
  have hle : dotplace ≤ int.length := by
    rw [hdot]
    split_ifs <;> omega
  obtain ⟨hne, hw, hf, hval, hfl⟩ :=
    split_spec Nat.toDigits_ne_nil (all_isDigit_toDigits x.coefficient) hle
  have hE : readExponent
      (if leftdigits = dotplace then [] else 'E' :: signed (leftdigits - dotplace))
        = some (leftdigits - dotplace) := by
    split_ifs with h
    · rw [h, sub_self]
      rfl
    · exact readExponent_signed _
  have hread := read_append x.negative hne hw hf hE
  have hcoefficient : val int = x.coefficient := Nat.ofDigitChars_ten_toDigits
  rw [hval, hcoefficient, hfl] at hread
  refine hread.trans (congrArg some ?_)
  rw [show leftdigits - dotplace - (int.length - dotplace) = x.exponent by omega]

/-! ## Texts that print back as they were -/

/-- **The texts positive decimals are printed as**, if not too small. -/
inductive Canonical : List Char → Prop
  /-- `10` -/
  | whole {w : List Char} (hw : Printed w) : Canonical w
  /-- `10.50` -/
  | fraction {w f : List Char} (hw : Printed w) (hne : f ≠ []) (hf : f.all Char.isDigit) :
    Canonical (w ++ '.' :: f)
  /-- `1.5E+7`: the exponent is larger than the fraction is long -/
  | scientific {d : Char} {f n : List Char} (hd : d.isDigit) (h0 : d ≠ '0')
    (hf : f.all Char.isDigit) (hn : Printed n) (hlt : f.length < val n) :
    Canonical (d :: point f ++ 'E' :: '+' :: n)

theorem split_one (d : Char) (f : List Char) : split (d :: f) 1 = ([d], f) := by
  rcases f with _ | ⟨c, f⟩
  · rfl
  · have hlen : ¬ ((d :: c :: f).length : ℤ) ≤ 1 := by
      rw [List.length_cons, List.length_cons]
      omega
    rw [split, if_neg (by decide), if_neg hlen]
    rfl

/-- A decimal that prints without exponent. -/
theorem str_plain {x : Decimal} (hneg : x.negative = false) (he : x.exponent ≤ 0)
    (hsmall : -6 < x.exponent + (Nat.toDigits 10 x.coefficient).length) :
    x.str = (split (Nat.toDigits 10 x.coefficient)
        (x.exponent + (Nat.toDigits 10 x.coefficient).length)).1
      ++ point (split (Nat.toDigits 10 x.coefficient)
        (x.exponent + (Nat.toDigits 10 x.coefficient).length)).2 := by
  simp only [str, hneg, if_pos (And.intro he hsmall), if_true, List.append_nil]
  rfl

/-- A decimal that prints with its exponent. -/
theorem str_scientific {x : Decimal} {d : Char} {f : List Char} (hneg : x.negative = false)
    (he : 0 < x.exponent) (hint : Nat.toDigits 10 x.coefficient = d :: f) :
    x.str = d :: point f ++ 'E' :: '+' :: Nat.toDigits 10 (x.exponent.toNat + f.length) := by
  have hne : ¬ x.exponent + ((d :: f).length : ℤ) = 1 := by
    rw [List.length_cons]
    omega
  have habs : (x.exponent + ((d :: f).length : ℤ) - 1).natAbs = x.exponent.toNat + f.length := by
    rw [List.length_cons]
    omega
  have hsign : ¬ x.exponent + ((d :: f).length : ℤ) - 1 < 0 := by
    rw [List.length_cons]
    omega
  simp only [str, hneg, hint, if_neg (fun h : x.exponent ≤ 0 ∧ _ => absurd h.1 (not_le.mpr he)),
    split_one, if_neg hne, signed, if_neg hsign, habs]
  rfl

/-- Digits with a point among them are split at the point. -/
theorem split_digits {w f : List Char} (hw : Printed w) (hf : f.all Char.isDigit)
    (hpos : 0 < val (w ++ f)) :
    split (Nat.toDigits 10 (val (w ++ f)))
      (-f.length + (Nat.toDigits 10 (val (w ++ f))).length) = (w, f) := by
  by_cases h0 : w = ['0']
  · subst h0
    have hval : val (['0'] ++ f) = val f := val_replicate_append 1 f
    rw [hval] at hpos ⊢
    have hstrip := eq_replicate_append hf hpos
    have hlen := congrArg List.length hstrip
    rw [List.length_append, List.length_replicate] at hlen
    rw [split, if_pos (by omega), show (-(-(f.length : ℤ) + (Nat.toDigits 10 (val f)).length)).toNat
      = f.length - (Nat.toDigits 10 (val f)).length by omega, ← hstrip]
  · have hprinted : Printed (w ++ f) := by
      refine ⟨fun h => hw.ne_nil (List.append_eq_nil_iff.mp h).1, ?_, fun h => ?_⟩
      · rw [List.all_append, hw.digits, hf]
        rfl
      · rw [List.head?_append_of_ne_nil _ hw.ne_nil] at h
        exact absurd (hw.head h) h0
    have hwlen : 0 < w.length := List.length_pos_iff.mpr hw.ne_nil
    rw [toDigits_val hprinted, List.length_append, split, if_neg (by omega)]
    rcases f with _ | ⟨c, f⟩
    · simp
    · have htake : (-((c :: f).length : ℤ) + ((w.length + (c :: f).length : ℕ) : ℤ)).toNat
          = w.length := by omega
      rw [if_neg (by rw [List.length_append, List.length_cons]; omega), htake,
        List.take_left', List.drop_left'] <;> rfl

/-- The digits of a positive number start with no zero. -/
theorem toDigits_eq_cons {n : ℕ} (h : 0 < n) :
    ∃ d f, Nat.toDigits 10 n = d :: f ∧ d.isDigit ∧ d ≠ '0' ∧ f.all Char.isDigit := by
  obtain ⟨d, f, hdf⟩ := List.exists_cons_of_ne_nil (Nat.toDigits_ne_nil (b := 10) (n := n))
  have hall := all_isDigit_toDigits n
  rw [hdf, List.all_cons, Bool.and_eq_true] at hall
  refine ⟨d, f, hdf, hall.1, fun h0 => ?_, hall.2⟩
  have hzero := (printed_toDigits n).head (by rw [hdf, h0]; rfl)
  have hval : val (Nat.toDigits 10 n) = n := Nat.ofDigitChars_ten_toDigits
  rw [hzero] at hval
  exact absurd hval (ne_of_lt h)

theorem canonical_point {w f : List Char} (hw : Printed w) (hf : f.all Char.isDigit) :
    Canonical (w ++ point f) := by
  rcases f with _ | ⟨c, f⟩
  · rw [point, if_pos rfl, List.append_nil]
    exact .whole hw
  · exact .fraction hw (List.cons_ne_nil c f) hf

/-- What stands before the point of a printed number is printed. -/
theorem printed_split {int : List Char} {dotplace : ℤ} (hint : Printed int)
    (hle : dotplace ≤ int.length) : Printed (split int dotplace).1 := by
  obtain ⟨hne, hw, -, -, -⟩ := split_spec hint.ne_nil hint.digits hle
  refine ⟨hne, hw, ?_⟩
  unfold split
  split_ifs with h₀ hL
  · exact fun _ => rfl
  · rw [show (dotplace - int.length).toNat = 0 by omega, List.replicate_zero, List.append_nil]
    exact hint.head
  · intro h
    obtain ⟨c, t, rfl⟩ := List.exists_cons_of_ne_nil hint.ne_nil
    obtain ⟨n, hn⟩ : ∃ n, dotplace.toNat = n + 1 := ⟨dotplace.toNat - 1, by omega⟩
    rw [hn, List.take_succ_cons, List.head?_cons] at h
    have := hint.head (h ▸ rfl)
    rw [this] at hL
    exact absurd (show ((['0'].length : ℕ) : ℤ) ≤ dotplace by simp; omega) hL

/-- Positive decimals, if not too small, print canonically. -/
theorem canonical_str {x : Decimal} (hneg : x.negative = false) (hpos : 0 < x.coefficient)
    (hsmall : -6 < x.exponent + (Nat.toDigits 10 x.coefficient).length) : Canonical x.str := by
  have hprinted := printed_toDigits x.coefficient
  rcases le_or_gt x.exponent 0 with he | he
  · have hle : x.exponent + (Nat.toDigits 10 x.coefficient).length
        ≤ (Nat.toDigits 10 x.coefficient).length := by omega
    rw [str_plain hneg he hsmall]
    exact canonical_point (printed_split hprinted hle)
      (split_spec hprinted.ne_nil hprinted.digits hle).2.2.1
  · obtain ⟨d, f, hdf, hd, h0, hf⟩ := toDigits_eq_cons hpos
    rw [str_scientific hneg he hdf]
    refine Canonical.scientific hd h0 hf (printed_toDigits _) ?_
    have hval : val (Nat.toDigits 10 (x.exponent.toNat + f.length)) = x.exponent.toNat + f.length :=
      Nat.ofDigitChars_ten_toDigits
    omega

/-- …and canonical texts print back as they were. -/
theorem str_of_canonical {s : List Char} (hs : Canonical s) {x : Decimal} (h : read s = some x)
    (hpos : 0 < x.coefficient)
    (hsmall : -6 < x.exponent + (Nat.toDigits 10 x.coefficient).length) : x.str = s := by
  have hplain : ∀ {w f : List Char}, Printed w → f.all Char.isDigit →
      read (w ++ point f) = some x → x.str = w ++ point f := by
    intro w f hw hf h
    have hread := read_append false (f := f) hw.ne_nil hw.digits hf (r := []) (e := 0) rfl
    rw [if_neg Bool.false_ne_true, List.nil_append, List.append_nil, h, zero_sub] at hread
    obtain rfl := Option.some.inj hread
    rw [str_plain rfl (by dsimp only; omega) hsmall, split_digits hw hf hpos]
  cases hs with
  | whole hw =>
    have := hplain hw (f := []) rfl (by rw [point, if_pos rfl, List.append_nil, h])
    rwa [point, if_pos rfl, List.append_nil] at this
  | @fraction w f hw hne hf =>
    have hf' : w ++ '.' :: f = w ++ point f := by rw [point, if_neg hne]
    rw [hf'] at h ⊢
    exact hplain hw hf h
  | @scientific d f n hd h0 hf hn hlt =>
    have hexp : readExponent ('E' :: '+' :: n) = some (val n : ℤ) := by
      rw [readExponent]
      exact if_pos ⟨Or.inr rfl, hn.ne_nil, hn.digits⟩
    have hread := read_append false (w := [d]) (List.cons_ne_nil _ _) (by simp [hd]) hf hexp
    rw [if_neg Bool.false_ne_true, List.nil_append, List.singleton_append, h] at hread
    obtain rfl := Option.some.inj hread
    have hint : Nat.toDigits 10 (val (d :: f)) = d :: f :=
      toDigits_val ⟨List.cons_ne_nil _ _, by simp [hd, hf], fun h => absurd (Option.some.inj h) h0⟩
    rw [str_scientific rfl (by dsimp only; omega) hint]
    dsimp only
    rw [show ((val n : ℤ) - f.length).toNat + f.length = val n by omega, toDigits_val hn]

/-! ## Numbers -/

/-- The number. -/
def value (x : Decimal) : ℚ := (if x.negative then -1 else 1) * x.coefficient * 10 ^ x.exponent

/-- **`x > 0`.** -/
def Positive (x : Decimal) : Prop := x.negative = false ∧ 0 < x.coefficient

instance (x : Decimal) : Decidable x.Positive := inferInstanceAs (Decidable (_ ∧ _))

/-- The coefficient with its sign, at an exponent no larger than its own. -/
def scaled (x : Decimal) (e : ℤ) : ℤ :=
  (if x.negative then -1 else 1) * x.coefficient * 10 ^ (x.exponent - e).toNat

/-- **`x == y`**: as numbers. -/
def Equal (x y : Decimal) : Prop :=
  x.scaled (min x.exponent y.exponent) = y.scaled (min x.exponent y.exponent)

instance (x y : Decimal) : Decidable (x.Equal y) := inferInstanceAs (Decidable (_ = _))

/-- The coefficient at another exponent, to the nearest and halves up. -/
def rescale (x : Decimal) (e : ℤ) : ℕ :=
  if e ≤ x.exponent then x.coefficient * 10 ^ (x.exponent - e).toNat
  else (2 * x.coefficient + 10 ^ (e - x.exponent).toNat) / (2 * 10 ^ (e - x.exponent).toNat)

/-- **`quantize` to an exponent, `ROUND_HALF_UP`**, in a context of `prec` digits; `none` is an
`InvalidOperation`. -/
def quantize (prec : ℕ) (x : Decimal) (e : ℤ) : Option Decimal :=
  if x.rescale e < 10 ^ prec then some ⟨x.negative, x.rescale e, e⟩ else none

theorem zpow_pos' (e : ℤ) : (0 : ℚ) < 10 ^ e := zpow_pos (by norm_num) e

theorem positive_iff (x : Decimal) : x.Positive ↔ 0 < x.value := by
  have hpow := zpow_pos' x.exponent
  unfold Positive value
  cases x.negative with
  | false =>
    rw [if_neg Bool.false_ne_true, one_mul, mul_pos_iff_of_pos_right hpow, Nat.cast_pos]
    exact and_iff_right rfl
  | true =>
    rw [if_pos rfl]
    refine iff_of_false (fun h => absurd h.1 (by decide)) (not_lt.mpr ?_)
    have : (0 : ℚ) ≤ x.coefficient := Nat.cast_nonneg _
    exact mul_nonpos_of_nonpos_of_nonneg (by linarith) hpow.le

/-- The number, from the coefficient at an exponent. -/
theorem scaled_mul (x : Decimal) {e : ℤ} (h : e ≤ x.exponent) :
    (x.scaled e : ℚ) * 10 ^ e = x.value := by
  obtain ⟨k, hk⟩ := Int.eq_ofNat_of_zero_le (sub_nonneg.mpr h)
  have he : x.exponent = k + e := by omega
  rw [scaled, value, hk, he, zpow_add₀ (by norm_num), zpow_natCast]
  push_cast
  split_ifs <;> simp <;> ring

theorem equal_iff (x y : Decimal) : x.Equal y ↔ x.value = y.value := by
  have hpow := (zpow_pos' (min x.exponent y.exponent)).ne'
  rw [Equal, ← scaled_mul x (min_le_left x.exponent y.exponent),
    ← scaled_mul y (min_le_right x.exponent y.exponent), mul_left_inj' hpow, Int.cast_inj]

theorem value_of_positive {x : Decimal} (h : x.Positive) :
    x.value = x.coefficient * 10 ^ x.exponent := by
  rw [value, h.1, if_neg Bool.false_ne_true, one_mul]

/-- **The rounded coefficient**, told by what it reaches. -/
theorem le_rescale_iff {x : Decimal} (h : x.Positive) (e : ℤ) (n : ℕ) :
    n ≤ x.rescale e ↔ (n : ℚ) - 1 / 2 ≤ x.value * 10 ^ (-e) := by
  rw [value_of_positive h, mul_assoc, ← zpow_add₀ (by norm_num), rescale]
  split_ifs with he
  · obtain ⟨k, hk⟩ := Int.eq_ofNat_of_zero_le (sub_nonneg.mpr he)
    rw [hk, show x.exponent + -e = k by omega, zpow_natCast, Int.toNat_natCast]
    have hcast : (x.coefficient : ℚ) * 10 ^ k = ((x.coefficient * 10 ^ k : ℕ) : ℚ) := by
      push_cast
      rfl
    rw [hcast]
    constructor
    · intro hn
      have : (n : ℚ) ≤ (x.coefficient * 10 ^ k : ℕ) := Nat.cast_le.mpr hn
      linarith
    · intro hn
      by_contra hlt
      have : ((x.coefficient * 10 ^ k : ℕ) : ℚ) + 1 ≤ n := by exact_mod_cast not_le.mp hlt
      linarith
  · obtain ⟨k, hk⟩ := Int.eq_ofNat_of_zero_le (sub_nonneg.mpr (not_le.mp he).le)
    have hd : (0 : ℚ) < 10 ^ k := by positivity
    rw [hk, show x.exponent + -e = -k by omega, zpow_neg, zpow_natCast, Int.toNat_natCast,
      Nat.le_div_iff_mul_le (by positivity), ← div_eq_mul_inv, le_div_iff₀ hd]
    constructor
    · intro hn
      have : (n : ℚ) * (2 * 10 ^ k) ≤ 2 * x.coefficient + 10 ^ k := by exact_mod_cast hn
      linarith
    · intro hn
      have : (n : ℚ) * (2 * 10 ^ k) ≤ 2 * x.coefficient + 10 ^ k := by linarith
      exact_mod_cast this

/-- A whole number of units rounds to itself. -/
theorem rescale_eq {x : Decimal} (h : x.Positive) {e : ℤ} {n : ℕ} (hn : x.value * 10 ^ (-e) = n) :
    x.rescale e = n := by
  refine le_antisymm (not_lt.mp fun hlt => ?_) ((le_rescale_iff h e n).mpr (by rw [hn]; linarith))
  have hle := (le_rescale_iff h e (n + 1)).mp hlt
  rw [hn] at hle
  push_cast at hle
  linarith

/-- **Rounding leaves exactly the whole numbers of units equal.** -/
theorem equal_rescale_iff {x : Decimal} (h : x.Positive) (e : ℤ) :
    x.Equal ⟨x.negative, x.rescale e, e⟩ ↔ ∃ n : ℕ, x.value * 10 ^ (-e) = n := by
  have hvalue : value ⟨x.negative, x.rescale e, e⟩ = x.rescale e * 10 ^ e := by
    rw [value, h.1, if_neg Bool.false_ne_true, one_mul]
  have hunit : (10 : ℚ) ^ e * 10 ^ (-e) = 1 := by
    rw [← zpow_add₀ (by norm_num), add_neg_cancel, zpow_zero]
  rw [equal_iff, hvalue]
  constructor
  · intro heq
    exact ⟨x.rescale e, by rw [heq, mul_assoc, hunit, mul_one]⟩
  · rintro ⟨n, hn⟩
    rw [rescale_eq h hn, ← hn, mul_assoc, mul_comm (10 ^ (-e) : ℚ), hunit, mul_one]

/-! ## Python's texts -/

/-- The zeros of the decimal digits of Unicode 15, ASCII's own apart. -/
def zeros : List ℕ :=
  [0x660, 0x6f0, 0x7c0, 0x966, 0x9e6, 0xa66, 0xae6, 0xb66, 0xbe6, 0xc66, 0xce6, 0xd66, 0xde6, 0xe50,
    0xed0, 0xf20, 0x1040, 0x1090, 0x17e0, 0x1810, 0x1946, 0x19d0, 0x1a80, 0x1a90, 0x1b50, 0x1bb0,
    0x1c40, 0x1c50, 0xa620, 0xa8d0, 0xa900, 0xa9d0, 0xa9f0, 0xaa50, 0xabf0, 0xff10, 0x104a0,
    0x10d30, 0x11066, 0x110f0, 0x11136, 0x111d0, 0x112f0, 0x11450, 0x114d0, 0x11650, 0x116c0,
    0x11730, 0x118e0, 0x11950, 0x11c50, 0x11d50, 0x11da0, 0x11f50, 0x16a60, 0x16ac0, 0x16b50,
    0x1d7ce, 0x1d7d8, 0x1d7e2, 0x1d7ec, 0x1d7f6, 0x1e140, 0x1e2f0, 0x1e4f0, 0x1e950, 0x1fbf0]

/-- The ASCII digit of a decimal digit; other characters stay. -/
def asciiDigit (c : Char) : Char :=
  match zeros.find? fun z => z ≤ c.toNat && c.toNat < z + 10 with
  | some z => Nat.digitChar (c.toNat - z)
  | none => c

/-- The largest adjusted exponent. -/
def MAX_EMAX : ℤ := 999999999999999999

/-- The least exponent. -/
def MIN_ETINY : ℤ := -1999999999999999997

/-- **`Decimal(str)`**, `none` where it raises or is not finite: surrounding whitespace, underscores
and digits of other scripts are read past. -/
def parse (s : List Char) : Option Decimal :=
  (read (((Python.strip s).filter (· ≠ '_')).map asciiDigit)).filter fun x =>
    x.exponent + (Nat.toDigits 10 x.coefficient).length - 1 ≤ MAX_EMAX && MIN_ETINY ≤ x.exponent

/-- **`Decimal(int)`.** -/
def ofInt (n : ℤ) : Decimal := ⟨n < 0, n.natAbs, 0⟩

/-- A character of plain ASCII that is neither a space nor an underscore. -/
def Plain (c : Char) : Prop := c.toNat < 128 ∧ Python.isSpace c = false ∧ c ≠ '_'

instance (c : Char) : Decidable (Plain c) := inferInstanceAs (Decidable (_ ∧ _))

/-- ASCII has no other digits than its own. -/
theorem asciiDigit_of_ascii {c : Char} (h : c.toNat < 128) : asciiDigit c = c := by
  have hlarge : ∀ z ∈ zeros, 128 ≤ z := by decide
  have hnone : (zeros.find? fun z => z ≤ c.toNat && c.toNat < z + 10) = none := by
    refine List.find?_eq_none.mpr fun z hz => ?_
    have := hlarge z hz
    simp only [Bool.and_eq_true, decide_eq_true_eq, not_and]
    omega
  rw [asciiDigit, hnone]

/-- Plain ASCII has nothing to be read past. -/
theorem normal_of_plain {s : List Char} (hs : ∀ c ∈ s, Plain c) :
    ((Python.strip s).filter (· ≠ '_')).map asciiDigit = s := by
  have hstrip : Python.strip s = s :=
    Python.strip_eq_self (List.all_eq_true.mpr fun c hc => by rw [(hs c hc).2.1]; rfl)
  have hfilter : s.filter (· ≠ '_') = s :=
    List.filter_eq_self.mpr fun c hc => by simpa using (hs c hc).2.2
  have hdigit : s.map asciiDigit = s :=
    (List.map_congr_left fun c hc => asciiDigit_of_ascii (hs c hc).1).trans (List.map_id s)
  rw [hstrip, hfilter, hdigit]

/-- Plain ASCII is read as it stands. -/
theorem parse_eq_read {s : List Char} {x : Decimal}
    (hs : ∀ c ∈ s, Plain c) (h : parse s = some x) : read s = some x := by
  rw [parse, normal_of_plain hs] at h
  exact (Option.filter_eq_some_iff.mp h).1

/-- …and taken, if its exponent is in range. -/
theorem parse_of_read {s : List Char} {x : Decimal} (hs : ∀ c ∈ s, Plain c) (h : read s = some x)
    (hmax : x.exponent + (Nat.toDigits 10 x.coefficient).length - 1 ≤ MAX_EMAX)
    (hmin : MIN_ETINY ≤ x.exponent) : parse s = some x := by
  rw [parse, normal_of_plain hs]
  exact Option.filter_eq_some_iff.mpr ⟨h, by simp [hmax, hmin]⟩

theorem plain_of_digits {s : List Char} (hs : s.all Char.isDigit) : ∀ c ∈ s, Plain c := by
  intro c hc
  have hd : c.isDigit := List.all_eq_true.mp hs c hc
  have := digit_bounds hd
  refine ⟨by omega, Bool.eq_false_iff.mpr fun h => ?_, fun h => absurd (h ▸ hd) (by decide)⟩
  simp only [Python.isSpace, Bool.or_eq_true, Bool.and_eq_true, decide_eq_true_eq] at h
  omega

/-- A canonical text is plain. -/
theorem plain_of_canonical {s : List Char} (hs : Canonical s) : ∀ c ∈ s, Plain c := by
  cases hs with
  | whole hw => exact plain_of_digits hw.digits
  | fraction hw hne hf =>
    intro c hc
    rcases List.mem_append.mp hc with hc | hc
    · exact plain_of_digits hw.digits c hc
    · rcases List.mem_cons.mp hc with rfl | hc
      · decide
      · exact plain_of_digits hf c hc
  | @scientific d f n hd h0 hf hn hlt =>
    have hpoint : ∀ c ∈ point f, Plain c := fun c hc => by
      unfold point at hc
      split at hc
      · cases hc
      · rcases List.mem_cons.mp hc with rfl | hc
        · decide
        · exact plain_of_digits hf c hc
    intro c hc
    simp only [List.cons_append, List.mem_cons, List.mem_append] at hc
    rcases hc with rfl | hc | rfl | rfl | hc
    · exact plain_of_digits (s := [c]) (by simp [hd]) c List.mem_cons_self
    · exact hpoint c hc
    · decide
    · decide
    · exact plain_of_digits hn.digits c hc

/-- A positive number of hundredths is not too small to be printed plainly. -/
theorem small_of_value {x : Decimal} (h : x.Positive) (hle : 1 ≤ x.value * 100) :
    -6 < x.exponent + (Nat.toDigits 10 x.coefficient).length := by
  have hlen : x.coefficient < 10 ^ (Nat.toDigits 10 x.coefficient).length :=
    (Nat.length_toDigits_le_iff (by decide) Nat.length_toDigits_pos).mp le_rfl
  by_contra hsmall
  have hexp : (10 : ℚ) ^ x.exponent * 10 ^ (Nat.toDigits 10 x.coefficient).length
      ≤ 10 ^ (-6 : ℤ) := by
    rw [← zpow_natCast, ← zpow_add₀ (by norm_num)]
    exact zpow_le_zpow_right₀ (by norm_num) (by omega)
  have hlt : x.value ≤ (10 : ℚ) ^ x.exponent * 10 ^ (Nat.toDigits 10 x.coefficient).length := by
    rw [value_of_positive h, mul_comm]
    refine mul_le_mul_of_nonneg_left ?_ (zpow_pos' _).le
    exact_mod_cast hlen.le
  have hnum : (10 : ℚ) ^ (-6 : ℤ) = 1 / 1000000 := by norm_num
  rw [hnum] at hexp
  linarith

/-- **A decimal string prints back as it was sent** exactly when it is canonical. -/
theorem str_eq_iff_of_parse {s : List Char} {x : Decimal} (h : parse s = some x) (hx : x.Positive)
    (hle : 1 ≤ x.value * 100) : x.str = s ↔ Canonical s := by
  have hsmall := small_of_value hx hle
  constructor
  · intro heq
    exact heq ▸ canonical_str hx.1 hx.2 hsmall
  · intro hs
    exact str_of_canonical hs (parse_eq_read (plain_of_canonical hs) h) hx.2 hsmall

theorem positive_ofInt_iff {n : ℤ} : (ofInt n).Positive ↔ 0 < n := by
  unfold Positive ofInt
  rw [decide_eq_false_iff_not]
  dsimp only
  omega

/-- An integer prints as its digits. -/
theorem str_ofInt {n : ℤ} (h : 0 < n) : (ofInt n).str = Nat.toDigits 10 n.natAbs := by
  have hneg : (ofInt n).negative = false := decide_eq_false (not_lt.mpr h.le)
  have hread := read_append false (w := Nat.toDigits 10 n.natAbs) (f := []) (r := []) (e := 0)
    Nat.toDigits_ne_nil (all_isDigit_toDigits _) rfl rfl
  have hval : val (Nat.toDigits 10 n.natAbs) = n.natAbs := Nat.ofDigitChars_ten_toDigits
  rw [if_neg Bool.false_ne_true, point, if_pos rfl, List.nil_append, List.append_nil,
    List.append_nil, hval] at hread
  refine str_of_canonical (.whole (printed_toDigits _)) (hread.trans (congrArg some ?_))
    (Int.natAbs_pos.mpr h.ne') ?_
  · exact congrArg (Decimal.mk · n.natAbs 0) hneg.symm
  · have := Nat.length_toDigits_pos (b := 10) (n := n.natAbs)
    dsimp only [ofInt]
    omega

/-- **`int(Decimal)`**: toward zero. -/
def trunc (x : Decimal) : ℤ :=
  (if x.negative then -1 else 1)
    * (x.coefficient * 10 ^ x.exponent.toNat / 10 ^ (-x.exponent).toNat : ℕ)

example : parse " +1_0.50\n".toList = some ⟨false, 1050, -2⟩ := by decide
example : parse "٤٢".toList = some ⟨false, 42, 0⟩ := by decide
example : parse "1e400e".toList = none := by decide

end Decimal

/-! ## Java's decimals -/

namespace BigDecimal

/-- The number. -/
def value (x : BigDecimal) : ℚ := x.unscaled * 10 ^ (-x.scale)

/-- **`BigDecimal(String)`** of ASCII text, `none` where it throws. -/
def ofString (s : List Char) : Option BigDecimal :=
  (Decimal.read s).bind fun x =>
    if -2 ^ 31 ≤ -x.exponent ∧ -x.exponent < 2 ^ 31 then
      some ⟨(if x.negative then -1 else 1) * x.coefficient, -x.exponent⟩
    else none

/-- The digits after the point of a number with so many places. -/
def fractionDigits (n places : ℕ) : List Char :=
  List.replicate (places - (Nat.toDigits 10 (n % 10 ^ places)).length) '0'
    ++ Nat.toDigits 10 (n % 10 ^ places)

theorem length_fractionDigits {places : ℕ} (n : ℕ) (h : 0 < places) :
    (fractionDigits n places).length = places := by
  have hlen : (Nat.toDigits 10 (n % 10 ^ places)).length ≤ places :=
    (Nat.length_toDigits_le_iff (by decide) h).mpr (Nat.mod_lt _ (by positivity))
  rw [fractionDigits, List.length_append, List.length_replicate, Nat.sub_add_cancel hlen]

theorem all_isDigit_fractionDigits (n places : ℕ) : (fractionDigits n places).all Char.isDigit := by
  rw [fractionDigits, List.all_append, Numeral.all_isDigit_toDigits, Bool.and_true]
  exact List.all_eq_true.mpr fun c hc => by rw [List.eq_of_mem_replicate hc]; rfl

theorem val_fractionDigits (n places : ℕ) :
    Numeral.val (fractionDigits n places) = n % 10 ^ places := by
  rw [fractionDigits, Numeral.val_replicate_append]
  exact Nat.ofDigitChars_ten_toDigits

/-- **A plain text**: the whole part, and as many places as the scale says. -/
theorem toList_toPlainString {places : ℕ} (n : ℕ) (h : 0 < places) :
    (BigDecimal.mk n places).toPlainString.toList
      = Nat.toDigits 10 (n / 10 ^ places) ++ Decimal.point (fractionDigits n places) := by
  have hne : fractionDigits n places ≠ [] :=
    List.length_pos_iff.mp (h.trans_eq (length_fractionDigits n h).symm)
  have hsign : ¬ ((n : ℤ) < 0) := by omega
  have hscale : ¬ ((places : ℤ) ≤ 0) := by omega
  rw [toPlainString, Decimal.point, if_neg hne, if_neg hscale]
  simp [hsign, digits, fractionDigits]

/-- **A plain text is read**, as the number it was printed from. -/
theorem read_toPlainString {n places : ℕ} (h : 0 < places) :
    Decimal.read (BigDecimal.mk n places).toPlainString.toList = some ⟨false, n, -places⟩ := by
  have hf := all_isDigit_fractionDigits n places
  have hw := Numeral.all_isDigit_toDigits (n / 10 ^ places)
  have hval : Numeral.val (Nat.toDigits 10 (n / 10 ^ places) ++ fractionDigits n places) = n := by
    rw [Numeral.val_append, length_fractionDigits n h, val_fractionDigits]
    change _ * Nat.ofDigitChars 10 _ 0 + _ = _
    rw [Nat.ofDigitChars_ten_toDigits, Nat.div_add_mod]
  have hread := Decimal.read_append false (r := []) (e := 0) Nat.toDigits_ne_nil hw hf rfl
  simp only [Bool.false_eq_true, if_false, List.nil_append, List.append_nil, hval,
    length_fractionDigits n h, zero_sub] at hread
  rw [toList_toPlainString n h, hread]

/-- **A plain text reads back.** -/
theorem parse_toPlainString {n places : ℕ} (h : 0 < places) (hn : n < 10 ^ 100)
    (hplaces : places ≤ 100) :
    Decimal.parse (BigDecimal.mk n places).toPlainString.toList = some ⟨false, n, -places⟩ := by
  have hf := all_isDigit_fractionDigits n places
  have hw := Numeral.all_isDigit_toDigits (n / 10 ^ places)
  have hplain : ∀ c ∈ (BigDecimal.mk n places).toPlainString.toList, Decimal.Plain c := by
    rw [toList_toPlainString n h]
    intro c hc
    rcases List.mem_append.mp hc with hc | hc
    · exact Decimal.plain_of_digits hw c hc
    · unfold Decimal.point at hc
      split_ifs at hc
      · cases hc
      · rcases List.mem_cons.mp hc with rfl | hc
        · decide
        · exact Decimal.plain_of_digits hf c hc
  have hlen : (Nat.toDigits 10 n).length ≤ 100 :=
    (Nat.length_toDigits_le_iff (by decide) (by decide)).mpr hn
  refine Decimal.parse_of_read hplain (read_toPlainString h) ?_ ?_
  · change -(places : ℤ) + (Nat.toDigits 10 n).length - 1 ≤ Decimal.MAX_EMAX
    rw [Decimal.MAX_EMAX]
    omega
  · change Decimal.MIN_ETINY ≤ -(places : ℤ)
    rw [Decimal.MIN_ETINY]
    omega

theorem divHalfUp_mul (n : ℤ) {d : ℕ} (h : 0 < d) : divHalfUp (n * d) d = n := by
  have hdiv : (2 * (n.natAbs * d) + d) / (2 * d) = n.natAbs := by
    have hmul : n.natAbs * (2 * d) = 2 * (n.natAbs * d) := by ring
    rw [Nat.div_eq_iff (by omega)]
    omega
  have hd : ((d : ℤ)).sign = 1 := Int.sign_eq_one_of_pos (by omega)
  rw [divHalfUp, Int.natAbs_mul, Int.natAbs_natCast, hdiv, Int.sign_mul, hd, mul_one,
    Int.sign_mul_natAbs]

/-! ### Half up -/

/-- **Half up**: the nearest integer, and between two the one away from zero. -/
def halfUp (q : ℚ) : ℤ := if 0 ≤ q then ⌊q + 1 / 2⌋ else -⌊-q + 1 / 2⌋

theorem halfUp_neg (q : ℚ) : halfUp (-q) = -halfUp q := by
  rcases lt_trichotomy q 0 with h | rfl | h
  · rw [halfUp, halfUp, if_pos (by linarith), if_neg (not_le.mpr h), neg_neg]
  · norm_num [halfUp]
  · rw [halfUp, halfUp, if_neg (by linarith), if_pos h.le, neg_neg]

theorem divHalfUp_natCast {n d : ℕ} (hd : 0 < d) :
    divHalfUp n d = ((2 * n + d) / (2 * d) : ℕ) := by
  rcases Nat.eq_zero_or_pos n with rfl | hn
  · rw [Nat.div_eq_of_lt (by omega : 2 * 0 + d < 2 * d)]
    exact zero_mul _
  · rw [divHalfUp, Int.sign_natCast_of_ne_zero hn.ne', one_mul, Int.natAbs_natCast]

theorem divHalfUp_neg (u : ℤ) (d : ℕ) : divHalfUp (-u) d = -divHalfUp u d := by
  rw [divHalfUp, divHalfUp, Int.sign_neg, Int.natAbs_neg, neg_mul]

theorem halfUp_div (n : ℕ) {d : ℕ} (hd : 0 < d) :
    halfUp ((n : ℚ) / d) = ((2 * n + d) / (2 * d) : ℕ) := by
  have hd' : (d : ℚ) ≠ 0 := by positivity
  have hsum : (n : ℚ) / d + 1 / 2 = ((2 * n + d : ℕ) : ℚ) / ((2 * d : ℕ) : ℚ) := by
    push_cast
    field_simp
  rw [halfUp, if_pos (by positivity), hsum, Rat.floor_natCast_div_natCast, Int.natCast_div]

/-- An integer division that rounds half up rounds the quotient. -/
theorem divHalfUp_eq (u : ℤ) {d : ℕ} (hd : 0 < d) : divHalfUp u d = halfUp ((u : ℚ) / d) := by
  obtain ⟨n, rfl | rfl⟩ := Int.eq_nat_or_neg u
  · rw [divHalfUp_natCast hd, Int.cast_natCast, halfUp_div n hd]
  · rw [divHalfUp_neg, divHalfUp_natCast hd, Int.cast_neg, Int.cast_natCast, neg_div, halfUp_neg,
      halfUp_div n hd]

theorem halfUp_intCast (n : ℤ) : halfUp n = n := by
  have h := divHalfUp_eq n Nat.one_pos
  rw [Nat.cast_one, div_one] at h
  have hone := divHalfUp_mul n Nat.one_pos
  rw [Nat.cast_one, mul_one] at hone
  exact h.symm.trans hone

/-- **To set the scale is to round the value once**, half up. -/
theorem setScale_eq_halfUp (x : BigDecimal) (scale : ℤ) :
    x.setScale scale = ⟨halfUp (x.value * 10 ^ scale), scale⟩ := by
  have hvalue : x.value * 10 ^ scale = x.unscaled * 10 ^ (scale - x.scale) := by
    rw [value, mul_assoc, ← zpow_add₀ (by norm_num), neg_add_eq_sub]
  unfold setScale
  rw [hvalue]
  split_ifs with hs
  · obtain ⟨k, hk⟩ := Int.eq_ofNat_of_zero_le (sub_nonneg.mpr hs)
    have hint : (x.unscaled : ℚ) * 10 ^ k = ((x.unscaled * 10 ^ k : ℤ) : ℚ) := by push_cast; rfl
    rw [hk, Int.toNat_natCast, zpow_natCast, hint, halfUp_intCast]
  · obtain ⟨k, hk⟩ := Int.eq_ofNat_of_zero_le (sub_nonneg.mpr (not_le.mp hs).le)
    have hpow : (10 : ℚ) ^ (scale - x.scale) = (((10 ^ k : ℕ) : ℚ))⁻¹ := by
      rw [show scale - x.scale = -k by omega, zpow_neg, zpow_natCast]
      push_cast
      rfl
    rw [hk, Int.toNat_natCast, hpow, ← div_eq_mul_inv, divHalfUp_eq _ (by positivity)]

/-- **A whole number of units keeps its value** when the scale is set. -/
theorem setScale_eq {x : BigDecimal} {scale n : ℤ} (h : x.value * 10 ^ scale = n) :
    x.setScale scale = ⟨n, scale⟩ := by
  rw [setScale_eq_halfUp, h, halfUp_intCast]

theorem value_setScale (x : BigDecimal) (scale : ℤ) :
    (x.setScale scale).value = halfUp (x.value * 10 ^ scale) * 10 ^ (-scale) := by
  rw [setScale_eq_halfUp, value]

/-! ### Comparison -/

theorem signum_nonneg_iff (x : BigDecimal) : 0 ≤ x.signum ↔ 0 ≤ x.value := by
  have hunit : (0 : ℚ) < 10 ^ (-x.scale) := zpow_pos (by norm_num) _
  rw [signum, Int.sign_nonneg_iff, value, mul_nonneg_iff_of_pos_right hunit, Int.cast_nonneg_iff]

/-- At a larger scale a decimal has more units. -/
theorem unscaled_mul (x : BigDecimal) {scale : ℤ} (h : x.scale ≤ scale) :
    ((x.unscaled * 10 ^ (scale - x.scale).toNat : ℤ) : ℚ) = x.value * 10 ^ scale := by
  obtain ⟨k, hk⟩ := Int.eq_ofNat_of_zero_le (sub_nonneg.mpr h)
  rw [value, mul_assoc, ← zpow_add₀ (by norm_num), neg_add_eq_sub, hk, Int.toNat_natCast,
    zpow_natCast]
  push_cast
  rfl

/-- **Decimals compare as their values.** -/
theorem compareTo_neg_iff (x y : BigDecimal) : x.compareTo y < 0 ↔ x.value < y.value := by
  have hunit : (0 : ℚ) < 10 ^ max x.scale y.scale := zpow_pos (by norm_num) _
  rw [compareTo, Int.sign_neg_iff, sub_neg, ← Int.cast_lt (R := ℚ),
    unscaled_mul x (le_max_left _ _), unscaled_mul y (le_max_right _ _),
    mul_lt_mul_iff_left₀ hunit]

theorem compareTo_swap (x y : BigDecimal) : y.compareTo x = -x.compareTo y := by
  rw [compareTo, compareTo, max_comm, ← Int.sign_neg, neg_sub]

theorem compareTo_pos_iff (x y : BigDecimal) : 0 < x.compareTo y ↔ y.value < x.value := by
  rw [← compareTo_neg_iff, compareTo_swap, neg_pos]

theorem halfUp_mono {p q : ℚ} (hp : 0 ≤ p) (h : p ≤ q) : halfUp p ≤ halfUp q := by
  rw [halfUp, halfUp, if_pos hp, if_pos (hp.trans h)]
  exact Int.floor_mono (by linarith)

/-- **What half up tells apart**: two numbers with the middle between two integers above the one
and not above the other. -/
theorem halfUp_lt_halfUp_iff {p q : ℚ} (hp : 0 ≤ p) (hq : 0 ≤ q) :
    halfUp p < halfUp q ↔ ∃ k : ℤ, p < k + 1 / 2 ∧ k + 1 / 2 ≤ q := by
  rw [halfUp, halfUp, if_pos hp, if_pos hq, Int.lt_floor_iff]
  constructor
  · intro h
    refine ⟨⌊p + 1 / 2⌋, ?_, by linarith⟩
    have := Int.lt_floor_add_one (p + 1 / 2)
    linarith
  · rintro ⟨k, hk, hk'⟩
    have : ⌊p + 1 / 2⌋ ≤ k := Int.lt_add_one_iff.mp (Int.floor_lt.mpr (by push_cast; linarith))
    have : ((⌊p + 1 / 2⌋ : ℤ) : ℚ) ≤ k := by exact_mod_cast this
    linarith

/-- What is not negative is not rounded below zero. -/
theorem signum_setScale_nonneg {x : BigDecimal} (scale : ℤ) (h : 0 ≤ x.signum) :
    0 ≤ (x.setScale scale).signum := by
  rw [signum_nonneg_iff] at h ⊢
  rw [value_setScale]
  have hzero : halfUp 0 ≤ halfUp (x.value * 10 ^ scale) :=
    halfUp_mono le_rfl (mul_nonneg h (zpow_nonneg (by norm_num) _))
  have hround : (0 : ℚ) ≤ halfUp (x.value * 10 ^ scale) := by
    exact_mod_cast (halfUp_intCast 0).symm.trans_le hzero
  exact mul_nonneg hround (zpow_nonneg (by norm_num) _)

/-- An amount that is let through stays so, rounded to cents. -/
theorem signum_cents_nonneg {x : BigDecimal} (h : ¬ x.signum < 0) : 0 ≤ (x.setScale 2).signum :=
  signum_setScale_nonneg 2 (not_lt.mp h)

theorem scale_cents (x : BigDecimal) : (x.setScale 2).scale = 2 := x.setScale_scale 2

/-! ### Sums and integers -/

theorem value_add (x y : BigDecimal) : (x.add y).value = x.value + y.value := by
  have hunit : (10 : ℚ) ^ max x.scale y.scale ≠ 0 := zpow_ne_zero _ (by norm_num)
  simp only [add]
  rw [value, Int.cast_add, unscaled_mul x (le_max_left _ _), unscaled_mul y (le_max_right _ _),
    ← add_mul, mul_assoc, zpow_neg, mul_inv_cancel₀ hunit, mul_one]

/-- **`longValueExact` is exact.** -/
theorem value_of_longValueExact {x : BigDecimal} {n : ℤ} (h : x.longValueExact = some n) :
    x.value = n := by
  simp only [longValueExact] at h
  split_ifs at h with hwhole
  cases h
  rcases le_or_gt x.scale 0 with hscale | hscale
  · have hunits := unscaled_mul x hscale
    rw [zpow_zero, mul_one] at hunits
    rw [setScale, if_pos hscale, ← hunits]
  · obtain ⟨k, hk⟩ := Int.eq_ofNat_of_zero_le hscale.le
    have hunscaled := hwhole.resolve_left (not_le.mpr hscale)
    rw [hk, Int.toNat_natCast] at hunscaled
    rw [value, hk, zpow_neg, zpow_natCast, ← div_eq_mul_inv, div_eq_iff (by positivity)]
    exact_mod_cast hunscaled

end BigDecimal
