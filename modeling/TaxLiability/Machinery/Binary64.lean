import TaxLiability.Machinery.Rounding

/-!
# Machinery/Binary64 — the floats of Python, Java and JavaScript

    exact number ──nearest──▸ finite, or an infinity from 2¹⁰²⁴ − 2⁹⁷⁰ on

A float is named by the number it is; of zeros and of values that are no numbers there is one each.
-/

open Rounding

/-- **Fifty-three binary digits**, the least unit `2⁻¹⁰⁷⁴`. -/
def binary64 : Format := ⟨2, 53, -1074, by decide, by decide⟩

namespace Binary64

/-- Half a unit off, below a power of two. -/
theorem abs_round_sub_le_of_lt {q : ℚ} {e : ℤ} (hq : q ≠ 0) (h : |q| < 2 ^ e) (he : -1021 ≤ e) :
    |binary64.round q - q| ≤ 2 ^ (e - 53) / 2 := by
  have hu : binary64.unit q ≤ 2 ^ (e - 53) :=
    Format.unit_le hq h (by change (-1074 : ℤ) ≤ e - 53; omega)
  have hr := Format.abs_round_sub_le (F := binary64) q
  linarith

/-- The unit of a number below a power of two. -/
theorem exponent_le_of_lt {q : ℚ} {e : ℤ} (hq : q ≠ 0) (h : |q| < 2 ^ e) (he : -1021 ≤ e) :
    binary64.exponent q ≤ e - 53 :=
  Format.exponent_le hq h (by change (-1074 : ℤ) ≤ e - 53; omega)

theorem abs_lt_mul_unit (q : ℚ) : |q| < 2 ^ 53 * binary64.unit q :=
  Format.abs_lt_mul_unit (F := binary64) q

end Binary64

/-! ## Values -/

/-- **A float.** -/
inductive Float64
  | nan
  | infinite (negative : Bool)
  | finite (value : ℚ)
  deriving DecidableEq

namespace Float64

/-- **The float next to a number**: an infinity where that would be `2¹⁰²⁴`. -/
def nearest (q : ℚ) : Float64 :=
  if |binary64.round q| < 2 ^ 1024 then .finite (binary64.round q) else .infinite (q < 0)

/-- **The order of floats**: what is no number is not less than anything. -/
def lt : Float64 → Float64 → Bool
  | .nan, _ | _, .nan => false
  | .infinite negative, .infinite negative' => negative && !negative'
  | .infinite negative, .finite _ => negative
  | .finite _, .infinite negative => !negative
  | .finite p, .finite q => p < q

/-- **True division of integers**: `none` where the quotient is beyond the floats. -/
def trueDiv (a b : ℤ) : Option Float64 :=
  if |binary64.round (a / b)| < 2 ^ 1024 then some (.finite (binary64.round (a / b))) else none

/-- Where the numbers end whose float is finite. -/
def limit : ℚ := 2 ^ 1024 - 2 ^ 970

theorem one_lt_limit : 1 < limit := by
  have hstep : (2 : ℚ) ^ 971 = 2 * 2 ^ 970 := pow_succ' 2 970
  have hle : (2 : ℚ) ^ 971 ≤ 2 ^ 1024 := pow_le_pow_right₀ one_le_two (by decide)
  have hone : (1 : ℚ) < 2 ^ 970 := one_lt_pow₀ one_lt_two (by decide)
  have hlt : (2 : ℚ) ^ 970 ≤ limit := by
    rw [limit, le_sub_iff_add_le, ← two_mul, ← hstep]
    exact hle
  exact hone.trans_le hlt

theorem abs_round_lt_iff (q : ℚ) : |binary64.round q| < 2 ^ 1024 ↔ |q| < limit := by
  have hhalf : (2 : ℚ) ^ 971 / 2 = 2 ^ 970 := by rw [pow_succ, mul_div_cancel_right₀ _ two_ne_zero]
  have hiff := Format.abs_round_lt_pow_iff (F := binary64) (q := q) (e := 1024) rfl (by decide)
  change |_| < (2 : ℚ) ^ ((1024 : ℕ) : ℤ)
    ↔ |q| < (2 : ℚ) ^ ((1024 : ℕ) : ℤ) - (2 : ℚ) ^ ((971 : ℕ) : ℤ) / 2 at hiff
  rwa [zpow_natCast, zpow_natCast, hhalf, ← limit] at hiff

/-- **A number has a finite float** exactly below the limit. -/
theorem exists_nearest_eq_finite_iff {q : ℚ} : (∃ r, nearest q = .finite r) ↔ |q| < limit := by
  rw [← abs_round_lt_iff, nearest]
  split_ifs with h <;> simp [h]

end Float64
