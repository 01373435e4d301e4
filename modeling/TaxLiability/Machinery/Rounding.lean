import Mathlib.Algebra.BigOperators.Ring.Finset
import Mathlib.Algebra.Order.Field.Rat
import Mathlib.Data.Int.Log
import Mathlib.Data.Rat.Floor
import Mathlib.Tactic.FieldSimp
import Mathlib.Tactic.Linarith
import Mathlib.Tactic.Positivity
import Mathlib.Tactic.Ring

/-!
# Machinery/Rounding — numbers of so many digits, to the nearest and ties to the even one

    q ──÷ unit──▸ ──halfEven──▸ ──× unit──▸ round q

A format has a base, so many digits, and a least unit.  What is rounded is off by at most half a
unit (`abs_round_sub_le`), is a multiple of the unit it is near (`round_eq_of_near`), keeps the
order (`round_mono`), and reaches an even multiple from half a unit below it on
(`multiple_le_round_iff`).
-/

namespace Rounding

/-! ## To whole numbers -/

/-- **The nearest integer**, the even one between two. -/
def halfEven (q : ℚ) : ℤ :=
  if q - ⌊q⌋ < 1 / 2 then ⌊q⌋
  else if 1 / 2 < q - ⌊q⌋ then ⌊q⌋ + 1
  else ⌊q⌋ + ⌊q⌋ % 2

theorem abs_halfEven_sub_le (q : ℚ) : |(halfEven q : ℚ) - q| ≤ 1 / 2 := by
  have hlo := Int.floor_le q
  have hhi := Int.lt_floor_add_one q
  have h₀ : (0 : ℚ) ≤ (⌊q⌋ % 2 : ℤ) := by exact_mod_cast Int.emod_nonneg ⌊q⌋ two_ne_zero
  have h₁ : ((⌊q⌋ % 2 : ℤ) : ℚ) ≤ 1 := by
    have : ⌊q⌋ % 2 ≤ 1 := by omega
    exact_mod_cast this
  unfold halfEven
  split_ifs <;> push_cast <;> rw [abs_le] <;> constructor <;> linarith

/-- What is less than a half away is the nearest. -/
theorem halfEven_eq_of_near {q : ℚ} {n : ℤ} (h : |q - n| < 1 / 2) : halfEven q = n := by
  have hr := abs_le.mp (abs_halfEven_sub_le q)
  obtain ⟨h₁, h₂⟩ := abs_lt.mp h
  have hlt : (halfEven q : ℚ) < n + 1 := by linarith [hr.2]
  have hgt : (n : ℚ) - 1 < halfEven q := by linarith [hr.1]
  have hlt' : halfEven q < n + 1 := by exact_mod_cast hlt
  have hgt' : n - 1 < halfEven q := by exact_mod_cast hgt
  omega

@[simp] theorem halfEven_intCast (n : ℤ) : halfEven n = n :=
  halfEven_eq_of_near (by rw [sub_self, abs_zero]; norm_num)

theorem halfEven_mono {p q : ℚ} (h : p ≤ q) : halfEven p ≤ halfEven q := by
  by_contra hlt
  have hp := (abs_le.mp (abs_halfEven_sub_le p)).2
  have hq := (abs_le.mp (abs_halfEven_sub_le q)).1
  have hstep : (halfEven q : ℚ) + 1 ≤ halfEven p := by
    have : halfEven q + 1 ≤ halfEven p := by omega
    exact_mod_cast this
  -- a whole step down leaves no room between the two
  obtain rfl : p = q := by linarith
  exact hlt le_rfl

/-- Between two integers the even one is taken. -/
theorem halfEven_add_half (n : ℤ) : halfEven (n + 1 / 2) = n + n % 2 := by
  have hf : ⌊(n : ℚ) + 1 / 2⌋ = n := by
    rw [Int.floor_eq_iff]
    constructor <;> linarith
  rw [halfEven, hf, add_sub_cancel_left, if_neg (lt_irrefl _), if_neg (lt_irrefl _)]

/-- **An even integer is reached** from half below it on. -/
theorem le_halfEven_iff {q : ℚ} {n : ℤ} (hn : n % 2 = 0) : n ≤ halfEven q ↔ n - 1 / 2 ≤ q := by
  have hr := abs_le.mp (abs_halfEven_sub_le q)
  constructor
  · intro h
    have h' : (n : ℚ) ≤ halfEven q := by exact_mod_cast h
    linarith [hr.2]
  · intro h
    rcases h.eq_or_lt with h | h
    · have hq : q = ((n - 1 : ℤ) : ℚ) + 1 / 2 := by
        rw [← h]
        push_cast
        ring
      rw [hq, halfEven_add_half]
      omega
    · have hgt : (n : ℚ) - 1 < halfEven q := by linarith [hr.1]
      have hgt' : n - 1 < halfEven q := by exact_mod_cast hgt
      omega

theorem halfEven_neg (q : ℚ) : halfEven (-q) = -halfEven q := by
  by_cases h : |q - halfEven q| < 1 / 2
  · refine halfEven_eq_of_near ?_
    rw [Int.cast_neg, ← neg_add', abs_neg, ← sub_eq_add_neg]
    exact h
  · -- between two integers: the even one on this side is the even one on that side
    have hle := abs_halfEven_sub_le q
    rw [abs_sub_comm] at hle
    have heq : |q - halfEven q| = 1 / 2 := le_antisymm hle (not_lt.mp h)
    obtain ⟨n, rfl⟩ : ∃ n : ℤ, q = n + 1 / 2 := by
      rcases (abs_eq (by norm_num)).mp heq with h' | h'
      · exact ⟨halfEven q, by linarith⟩
      · refine ⟨halfEven q - 1, ?_⟩
        push_cast
        linarith
    have hneg : -((n : ℚ) + 1 / 2) = ((-n - 1 : ℤ) : ℚ) + 1 / 2 := by
      push_cast
      ring
    rw [hneg, halfEven_add_half, halfEven_add_half]
    omega

/-- **Toward zero**: what `int` makes of a number. -/
def trunc (q : ℚ) : ℤ := if 0 ≤ q then ⌊q⌋ else ⌈q⌉

theorem trunc_nonneg_iff {q : ℚ} : 0 ≤ trunc q ↔ -1 < q := by
  unfold trunc
  split_ifs with h
  · exact iff_of_true (Int.floor_nonneg.mpr h) (by linarith)
  · rw [Int.le_ceil_iff, Int.cast_zero, zero_sub]

/-! ## Sums of what is rounded down -/

section

variable {ι : Type*} {q : ι → ℚ} {l : List ι}

/-- What is lost of a sum is not gained… -/
theorem sum_floor_le (h : ∀ i ∈ l, 0 ≤ q i) :
    ((l.map fun i => ⌊q i⌋₊).sum : ℚ) ≤ (l.map q).sum := by
  rw [Nat.cast_list_sum, List.map_map]
  exact List.sum_le_sum fun i hi => Nat.floor_le (h i hi)

/-- …and is less than one for each, if there is any. -/
theorem sum_sub_length_lt (h : l ≠ []) :
    (l.map q).sum - l.length < ((l.map fun i => ⌊q i⌋₊).sum : ℚ) := by
  have hlt : (l.map q).sum < (l.map fun i => (⌊q i⌋₊ : ℚ) + 1).sum :=
    List.sum_lt_sum_of_ne_nil h _ _ fun i _ => Nat.lt_floor_add_one (q i)
  rw [List.sum_map_add, List.map_const', List.sum_replicate, nsmul_one] at hlt
  rw [Nat.cast_list_sum, List.map_map]
  exact sub_lt_iff_lt_add.mpr hlt

end

/-! ## Formats -/

/-- **A number format**: its base, how many digits a number has, and the exponent of the least
unit. -/
structure Format where
  base : ℕ
  digits : ℕ
  least : ℤ
  one_lt : 1 < base
  digits_pos : 0 < digits

namespace Format

variable (F : Format)

/-- The exponent of the unit of a number. -/
def exponent (q : ℚ) : ℤ := max (Int.log F.base |q| + 1 - F.digits) F.least

/-- **The unit of a number**: what its last digit counts. -/
def unit (q : ℚ) : ℚ := (F.base : ℚ) ^ F.exponent q

/-- **The nearest number of the format**, the even one between two. -/
def round (q : ℚ) : ℚ := halfEven (q / F.unit q) * F.unit q

variable {F}

theorem base_pos : (0 : ℚ) < F.base := by exact_mod_cast F.one_lt.le

theorem unit_pos (q : ℚ) : 0 < F.unit q := zpow_pos base_pos _

@[simp] theorem unit_neg (q : ℚ) : F.unit (-q) = F.unit q := by rw [unit, exponent, abs_neg]; rfl

@[simp] theorem round_neg (q : ℚ) : F.round (-q) = -F.round q := by
  rw [round, unit_neg, neg_div, halfEven_neg, Int.cast_neg, neg_mul]
  rfl

@[simp] theorem round_zero : F.round 0 = 0 := by
  have h : halfEven 0 = 0 := by simp [halfEven]
  rw [round, zero_div, h, Int.cast_zero, zero_mul]

/-- **Half a unit off at most.** -/
theorem abs_round_sub_le (q : ℚ) : |F.round q - q| ≤ F.unit q / 2 := by
  have hu := unit_pos (F := F) q
  have h := mul_le_mul_of_nonneg_right (abs_halfEven_sub_le (q / F.unit q)) hu.le
  have hq : F.round q - q = (halfEven (q / F.unit q) - q / F.unit q) * F.unit q := by
    rw [round, sub_mul, div_mul_cancel₀ _ hu.ne']
  rw [hq, abs_mul, abs_of_pos hu]
  linarith

/-- **What is less than half a unit away** from a multiple of the unit is rounded to it. -/
theorem round_eq_of_near {q : ℚ} {m : ℤ} (h : |q - m * F.unit q| < F.unit q / 2) :
    F.round q = m * F.unit q := by
  have hu := unit_pos (F := F) q
  have hdiv : |q / F.unit q - m| < 1 / 2 := by
    have hq : q / F.unit q - m = (q - m * F.unit q) / F.unit q := by
      rw [sub_div, mul_div_cancel_right₀ _ hu.ne']
    rw [hq, abs_div, abs_of_pos hu, div_lt_iff₀ hu]
    linarith
  rw [round, halfEven_eq_of_near hdiv]

/-- A number has no more digits than the format. -/
theorem abs_lt_mul_unit (q : ℚ) : |q| < (F.base : ℚ) ^ F.digits * F.unit q := by
  have hb : (1 : ℚ) ≤ F.base := by exact_mod_cast F.one_lt.le
  rw [unit, ← zpow_natCast, ← zpow_add₀ base_pos.ne']
  refine (Int.lt_zpow_succ_log_self F.one_lt |q|).trans_le (zpow_le_zpow_right₀ hb ?_)
  have := le_max_left (Int.log F.base |q| + 1 - F.digits) F.least
  rw [exponent]
  omega

/-- The exponent of a number below a power of the base. -/
theorem exponent_le {q : ℚ} {e : ℤ} (hq : q ≠ 0) (h : |q| < (F.base : ℚ) ^ e)
    (hleast : F.least ≤ e - F.digits) : F.exponent q ≤ e - F.digits := by
  have hb : (1 : ℚ) < F.base := by exact_mod_cast F.one_lt
  have hlog : Int.log F.base |q| < e := by
    have hle := Int.zpow_log_le_self F.one_lt (abs_pos.mpr hq)
    exact (zpow_lt_zpow_iff_right₀ hb).mp (hle.trans_lt h)
  exact max_le (by omega) hleast

/-- A multiple of a larger unit is one of the unit. -/
theorem exists_multiple {q : ℚ} {m e : ℤ} (he : F.exponent q ≤ e) :
    ∃ n : ℤ, (m : ℚ) * (F.base : ℚ) ^ e = n * F.unit q := by
  obtain ⟨k, hk⟩ := Int.eq_ofNat_of_zero_le (sub_nonneg.mpr he)
  refine ⟨m * F.base ^ k, ?_⟩
  rw [show e = k + F.exponent q by omega, zpow_add₀ base_pos.ne', zpow_natCast, unit]
  push_cast
  ring

/-- **A multiple of a larger unit** is rounded to from less than half a unit away. -/
theorem round_eq_of_near_multiple {q : ℚ} {m e : ℤ} (he : F.exponent q ≤ e)
    (h : |q - m * (F.base : ℚ) ^ e| < F.unit q / 2) : F.round q = m * (F.base : ℚ) ^ e := by
  obtain ⟨n, hn⟩ := exists_multiple (m := m) he
  rw [hn] at h ⊢
  exact round_eq_of_near h

/-- …and stays as it is. -/
theorem round_multiple {q : ℚ} {m e : ℤ} (hq : q = m * (F.base : ℚ) ^ e) (he : F.exponent q ≤ e) :
    F.round q = q := by
  have h := round_eq_of_near_multiple (F := F) (q := q) (m := m) he (by
    rw [← hq, sub_self, abs_zero]
    exact half_pos (unit_pos q))
  rw [h, ← hq]

/-- The unit of a number below a power of the base. -/
theorem unit_le {q : ℚ} {e : ℤ} (hq : q ≠ 0) (h : |q| < (F.base : ℚ) ^ e)
    (hleast : F.least ≤ e - F.digits) : F.unit q ≤ (F.base : ℚ) ^ (e - F.digits) := by
  exact zpow_le_zpow_right₀ (by exact_mod_cast F.one_lt.le) (exponent_le hq h hleast)

/-! ### Order -/

/-- The exponent of a larger number is no smaller. -/
theorem exponent_mono {q r : ℚ} (hq : q ≠ 0) (h : |q| ≤ |r|) : F.exponent q ≤ F.exponent r := by
  have hlog := Int.log_mono_right (b := F.base) (abs_pos.mpr hq) h
  exact max_le_max_right _ (by omega)

/-- A multiple of a larger unit is not passed. -/
theorem round_le_multiple {q : ℚ} {m e : ℤ} (he : F.exponent q ≤ e)
    (h : q ≤ m * (F.base : ℚ) ^ e) : F.round q ≤ m * (F.base : ℚ) ^ e := by
  obtain ⟨n, hn⟩ := exists_multiple (m := m) he
  have hu := unit_pos (F := F) q
  rw [hn] at h ⊢
  have hdiv : q / F.unit q ≤ n := (div_le_iff₀ hu).mpr h
  have hround : halfEven (q / F.unit q) ≤ n := by
    have hmono := halfEven_mono hdiv
    rwa [halfEven_intCast] at hmono
  exact mul_le_mul_of_nonneg_right (by exact_mod_cast hround) hu.le

/-- …from above either. -/
theorem multiple_le_round {q : ℚ} {m e : ℤ} (he : F.exponent q ≤ e)
    (h : m * (F.base : ℚ) ^ e ≤ q) : m * (F.base : ℚ) ^ e ≤ F.round q := by
  obtain ⟨n, hn⟩ := exists_multiple (m := m) he
  have hu := unit_pos (F := F) q
  rw [hn] at h ⊢
  have hdiv : n ≤ q / F.unit q := (le_div_iff₀ hu).mpr h
  have hround : n ≤ halfEven (q / F.unit q) := by
    have hmono := halfEven_mono hdiv
    rwa [halfEven_intCast] at hmono
  exact mul_le_mul_of_nonneg_right (by exact_mod_cast hround) hu.le

theorem round_nonneg {q : ℚ} (h : 0 ≤ q) : 0 ≤ F.round q := by
  simpa using multiple_le_round (m := 0) le_rfl (by simpa using h)

/-- **Between numbers of different units** there is a power of the base, a multiple of both. -/
theorem exists_pow_between {q r : ℚ} (hq : 0 < q) (hr : 0 < r) (he : F.exponent q < F.exponent r) :
    ∃ e : ℤ, F.exponent r ≤ e ∧ q ≤ (F.base : ℚ) ^ e ∧ (F.base : ℚ) ^ e ≤ r := by
  have hb : (1 : ℚ) ≤ F.base := by exact_mod_cast F.one_lt.le
  have hd := F.digits_pos
  have hlog : Int.log F.base q < Int.log F.base r := by
    by_contra hle
    refine he.not_ge (max_le_max_right _ ?_)
    rw [abs_of_pos hq, abs_of_pos hr]
    omega
  have hexp : F.exponent r ≤ Int.log F.base r := by
    have hleast : F.least ≤ F.exponent q := le_max_right _ _
    have hr' : F.exponent r = max (Int.log F.base r + 1 - F.digits) F.least := by
      rw [exponent, abs_of_pos hr]
    omega
  have hlow : q ≤ (F.base : ℚ) ^ Int.log F.base r :=
    (Int.lt_zpow_succ_log_self F.one_lt q).le.trans (zpow_le_zpow_right₀ hb (by omega))
  exact ⟨Int.log F.base r, hexp, hlow, Int.zpow_log_le_self F.one_lt hr⟩

/-- **Rounding keeps the order** of what is not negative. -/
theorem round_mono {q r : ℚ} (hq : 0 ≤ q) (h : q ≤ r) : F.round q ≤ F.round r := by
  rcases hq.eq_or_lt with rfl | hq
  · rw [round_zero]
    exact round_nonneg h
  have hr : 0 < r := hq.trans_le h
  have hexp : F.exponent q ≤ F.exponent r := by
    refine exponent_mono hq.ne' ?_
    rwa [abs_of_pos hq, abs_of_pos hr]
  rcases hexp.eq_or_lt with he | he
  · have hu := unit_pos (F := F) r
    have hunit : F.unit q = F.unit r := by rw [unit, unit, he]
    rw [round, round, hunit]
    have hmono := halfEven_mono ((div_le_div_iff_of_pos_right hu).mpr h)
    exact mul_le_mul_of_nonneg_right (by exact_mod_cast hmono) hu.le
  · obtain ⟨e, hle, hlow, hhigh⟩ := exists_pow_between hq hr he
    have hpow : (F.base : ℚ) ^ e = (1 : ℤ) * (F.base : ℚ) ^ e := by rw [Int.cast_one, one_mul]
    rw [hpow] at hlow hhigh
    exact (round_le_multiple (he.le.trans hle) hlow).trans (multiple_le_round hle hhigh)

/-- The exponent of a number between two powers of the base. -/
theorem exponent_eq {q : ℚ} {k : ℤ} (hlo : (F.base : ℚ) ^ k ≤ |q|)
    (hhi : |q| < (F.base : ℚ) ^ (k + 1)) : F.exponent q = max (k + 1 - F.digits) F.least := by
  have hpos : 0 < |q| := (zpow_pos base_pos k).trans_le hlo
  have h₁ := (Int.zpow_le_iff_le_log F.one_lt hpos).mp hlo
  have h₂ := (Int.lt_zpow_iff_log_lt F.one_lt hpos).mp hhi
  rw [exponent, show Int.log F.base |q| = k by omega]

/-- **An even multiple of the unit is reached** from half a unit below it on. -/
theorem multiple_le_round_iff {q : ℚ} {n e : ℤ} (hn : n % 2 = 0) (hq : 0 < q)
    (hexp : F.exponent ((n - 1 / 2) * (F.base : ℚ) ^ e) = e) :
    n * (F.base : ℚ) ^ e ≤ F.round q ↔ (n - 1 / 2) * (F.base : ℚ) ^ e ≤ q := by
  have hu : (0 : ℚ) < (F.base : ℚ) ^ e := zpow_pos base_pos e
  constructor
  · intro h
    by_contra hlt
    have hle : F.exponent q ≤ e := by
      rw [← hexp]
      refine exponent_mono hq.ne' ?_
      rw [abs_of_pos hq]
      exact (not_le.mp hlt).le.trans (le_abs_self _)
    have hunit : F.unit q ≤ (F.base : ℚ) ^ e :=
      zpow_le_zpow_right₀ (by exact_mod_cast F.one_lt.le) hle
    have hround := (abs_le.mp (abs_round_sub_le (F := F) q)).2
    linarith
  · intro h
    have hhalf : F.round ((n - 1 / 2) * (F.base : ℚ) ^ e)
        = halfEven (n - 1 / 2) * (F.base : ℚ) ^ e := by
      rw [round, unit, hexp, mul_div_cancel_right₀ _ hu.ne']
    have hreach : (n : ℚ) ≤ halfEven (n - 1 / 2) := by
      exact_mod_cast (le_halfEven_iff hn).mpr le_rfl
    rcases le_or_gt 0 (((n : ℚ) - 1 / 2) * (F.base : ℚ) ^ e) with h₀ | h₀
    · calc (n : ℚ) * (F.base : ℚ) ^ e
          ≤ halfEven (n - 1 / 2) * (F.base : ℚ) ^ e := mul_le_mul_of_nonneg_right hreach hu.le
        _ = F.round ((n - 1 / 2) * (F.base : ℚ) ^ e) := hhalf.symm
        _ ≤ F.round q := round_mono h₀ h
    · have hneg : (n : ℚ) - 1 / 2 < 0 := by
        by_contra hge
        exact h₀.not_ge (mul_nonneg (not_lt.mp hge) hu.le)
      have hn₀ : n ≤ 0 := by
        have hlt : (n : ℚ) < 1 := by linarith
        have hlt' : n < 1 := by exact_mod_cast hlt
        omega
      exact (mul_nonpos_of_nonpos_of_nonneg (by exact_mod_cast hn₀) hu.le).trans
        (round_nonneg hq.le)

/-- **A multiple of the unit is not left** before half a unit above it. -/
theorem round_le_of_lt_half {q : ℚ} {m e : ℤ} (hm : 0 < m) (hq : 0 ≤ q)
    (hlo : F.exponent (m * (F.base : ℚ) ^ e) = e)
    (hhi : F.exponent ((m + 1 / 2) * (F.base : ℚ) ^ e) = e)
    (h : q < (m + 1 / 2) * (F.base : ℚ) ^ e) : F.round q ≤ m * (F.base : ℚ) ^ e := by
  have hu : (0 : ℚ) < (F.base : ℚ) ^ e := zpow_pos base_pos e
  have hm₀ : (0 : ℚ) < m := by exact_mod_cast hm
  have hmu := mul_pos hm₀ hu
  -- the larger of the number and the multiple has the unit, and is near the multiple
  obtain ⟨s, hqs, hms, hs⟩ : ∃ s, q ≤ s ∧ m * (F.base : ℚ) ^ e ≤ s
      ∧ s < (m + 1 / 2) * (F.base : ℚ) ^ e := by
    refine ⟨max q (m * (F.base : ℚ) ^ e), le_max_left _ _, le_max_right _ _, max_lt h ?_⟩
    linarith
  have hspos := hmu.trans_le hms
  have hexp : F.exponent s = e := by
    refine le_antisymm ?_ ?_
    · rw [← hhi]
      exact exponent_mono hspos.ne' (by rw [abs_of_pos hspos]; exact hs.le.trans (le_abs_self _))
    · nth_rewrite 1 [← hlo]
      exact exponent_mono hmu.ne' (by rwa [abs_of_pos hspos, abs_of_pos hmu])
  have hround : F.round s = m * F.unit s := by
    refine round_eq_of_near ?_
    rw [unit, hexp, abs_of_nonneg (sub_nonneg.mpr hms)]
    linarith
  have hunit : F.unit s = (F.base : ℚ) ^ e := by rw [unit, hexp]
  rw [hunit] at hround
  exact (round_mono hq hqs).trans hround.le

/-- Half a unit below a power of the base there is the power before it. -/
theorem pow_pred_le (e : ℤ) :
    (F.base : ℚ) ^ (e - 1) ≤ (F.base : ℚ) ^ e - (F.base : ℚ) ^ (e - F.digits) / 2 := by
  have hd := F.digits_pos
  have hb : (2 : ℚ) ≤ F.base := by exact_mod_cast F.one_lt
  have hstep : (F.base : ℚ) ^ e = (F.base : ℚ) ^ (e - 1) * F.base := by
    rw [← zpow_add_one₀ base_pos.ne', sub_add_cancel]
  have hle : (F.base : ℚ) ^ (e - F.digits) ≤ (F.base : ℚ) ^ (e - 1) :=
    zpow_le_zpow_right₀ (by exact_mod_cast F.one_lt.le) (by omega)
  have hpos : (0 : ℚ) < (F.base : ℚ) ^ (e - 1) := zpow_pos base_pos _
  have hnext := mul_le_mul_of_nonneg_left hb hpos.le
  linarith

/-- **A power of the base is reached** from half a unit below it on: a base with an even power of so
many digits. -/
theorem pow_le_round_iff {q : ℚ} {e : ℤ} (heven : (F.base : ℤ) ^ F.digits % 2 = 0) (hq : 0 < q)
    (hleast : F.least ≤ e - F.digits) :
    (F.base : ℚ) ^ e ≤ F.round q ↔ (F.base : ℚ) ^ e - (F.base : ℚ) ^ (e - F.digits) / 2 ≤ q := by
  have hb₀ : (F.base : ℚ) ≠ 0 := base_pos.ne'
  have hwhole : ((F.base ^ F.digits : ℤ) : ℚ) * (F.base : ℚ) ^ (e - F.digits)
      = (F.base : ℚ) ^ e := by
    push_cast
    rw [← zpow_natCast, ← zpow_add₀ hb₀, add_sub_cancel]
  have hhalf : (((F.base ^ F.digits : ℤ) : ℚ) - 1 / 2) * (F.base : ℚ) ^ (e - F.digits)
      = (F.base : ℚ) ^ e - (F.base : ℚ) ^ (e - F.digits) / 2 := by
    rw [sub_mul, hwhole]
    ring
  have hunit : (0 : ℚ) < (F.base : ℚ) ^ (e - F.digits) := zpow_pos base_pos _
  have hlow := pow_pred_le (F := F) e
  have hpos := (zpow_pos (base_pos (F := F)) (e - 1)).trans_le hlow
  have hexp : F.exponent ((((F.base ^ F.digits : ℤ) : ℚ) - 1 / 2) * (F.base : ℚ) ^ (e - F.digits))
      = e - F.digits := by
    rw [hhalf, exponent_eq (k := e - 1), sub_add_cancel, max_eq_left hleast]
    · rwa [abs_of_pos hpos]
    · rw [abs_of_pos hpos, sub_add_cancel]
      linarith
  have hiff := multiple_le_round_iff (n := F.base ^ F.digits) heven hq hexp
  rwa [hwhole, hhalf] at hiff

/-- **What stays below a power of the base**, whatever its sign. -/
theorem abs_round_lt_pow_iff {q : ℚ} {e : ℤ} (heven : (F.base : ℤ) ^ F.digits % 2 = 0)
    (hleast : F.least ≤ e - F.digits) : |F.round q| < (F.base : ℚ) ^ e
      ↔ |q| < (F.base : ℚ) ^ e - (F.base : ℚ) ^ (e - F.digits) / 2 := by
  have hpos : ∀ {r : ℚ}, 0 < r → (|F.round r| < (F.base : ℚ) ^ e
      ↔ |r| < (F.base : ℚ) ^ e - (F.base : ℚ) ^ (e - F.digits) / 2) := fun {r} hr => by
    rw [abs_of_nonneg (round_nonneg hr.le), abs_of_pos hr, ← not_le, ← not_le,
      pow_le_round_iff heven hr hleast]
  rcases lt_trichotomy q 0 with h | rfl | h
  · have hneg := hpos (neg_pos.mpr h)
    rwa [round_neg, abs_neg, abs_neg] at hneg
  · have hb : (1 : ℚ) ≤ F.base := by exact_mod_cast F.one_lt.le
    have hle : (F.base : ℚ) ^ (e - F.digits) ≤ (F.base : ℚ) ^ e :=
      zpow_le_zpow_right₀ hb (by have := F.digits_pos; omega)
    have hlt : (0 : ℚ) < (F.base : ℚ) ^ (e - F.digits) := zpow_pos base_pos _
    rw [round_zero, abs_zero]
    refine iff_of_true (zpow_pos base_pos _) ?_
    linarith
  · exact hpos h

end Format

end Rounding
