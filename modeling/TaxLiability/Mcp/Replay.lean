import Mathlib.Data.List.Sort
import TaxLiability.Machinery.Binary64

/-!
# Mcp/Replay — the percentiles of a replay

    samples ──sorted──▸ ordered ──[round(q · n + 0.5) − 1]──▸ p50, p95, p99

The index is computed with floats, and the half added falls between two integers where `q · n` is
one: `round` then takes the even one, a rank too high where `q · n` is odd.  The element of rank
`⌈q · n⌉` is picked exactly if that does not happen, or makes no difference (`nearestRanks_iff`).
From `2 ^ 44` samples on, more than a process can hold, the floats lose hundredths as well.
-/

open Rounding

namespace Mcp.Replay

/-! ## `_percentiles` -/

variable {α : Type} [LinearOrder α]

/-- The quantiles reported, as they are written. -/
def QUANTILES : List ℚ := [1 / 2, 19 / 20, 99 / 100]

/-- **The index `pick` computes**: the literal `q`, its product with the length and the sum with
`0.5` are each the nearest float. -/
def pickIndex (q : ℚ) (n : ℕ) : ℤ :=
  let product := binary64.round (binary64.round q * binary64.round n)
  max 0 (min (n - 1) (halfEven (binary64.round (product + 1 / 2)) - 1))

/-- `sorted`. -/
def ordered (samples : List α) : List α := samples.insertionSort (· ≤ ·)

/-- **`pick`**, before its result is rounded. -/
def pick (samples : List α) (q : ℚ) : Option α :=
  (ordered samples)[(pickIndex q samples.length).toNat]?

/-- The nearest-rank percentile: the element of rank `⌈q · n⌉`. -/
def nearestRank (samples : List α) (q : ℚ) : Option α :=
  (ordered samples)[(⌈q * samples.length⌉ - 1).toNat]?

/-! ## The index -/

/-- **What is used of a literal**: it is a whole number of hundredths between 0 and 1, and its float
is next to it. -/
structure Literal (q : ℚ) : Prop where
  pos : 0 < q
  lt_one : q < 1
  hundredths : ∃ a : ℤ, q * 100 = a
  round_lt_one : binary64.round q < 1
  near : |binary64.round q - q| * 2 ^ 54 < binary64.round q

theorem literal_of_mem {q : ℚ} (h : q ∈ QUANTILES) : Literal q := by
  simp only [QUANTILES, List.mem_cons, List.not_mem_nil, or_false] at h
  rcases h with rfl | rfl | rfl
  · have hround : binary64.round (1 / 2) = 1 / 2 := by decide +kernel
    exact ⟨by norm_num, by norm_num, ⟨50, by norm_num⟩, by rw [hround]; norm_num,
      by rw [hround]; norm_num⟩
  · have hround : binary64.round (19 / 20) = 8556839292003942 / 2 ^ 53 := by decide +kernel
    exact ⟨by norm_num, by norm_num, ⟨95, by norm_num⟩, by rw [hround]; norm_num,
      by rw [hround]; norm_num⟩
  · have hround : binary64.round (99 / 100) = 8917127262193582 / 2 ^ 53 := by decide +kernel
    exact ⟨by norm_num, by norm_num, ⟨99, by norm_num⟩, by rw [hround]; norm_num,
      by rw [hround]; norm_num⟩

section Index

variable {q : ℚ} {n : ℕ}

theorem Literal.round_pos (hq : Literal q) : 0 < binary64.round q :=
  (by positivity : (0 : ℚ) ≤ _).trans_lt hq.near

/-- Before it is rounded the product is positive, and less than the length. -/
theorem Literal.product_mem (hq : Literal q) (hn : 0 < n) :
    0 < binary64.round q * n ∧ binary64.round q * n < n := by
  have hnpos : (0 : ℚ) < n := by exact_mod_cast hn
  have hlt := mul_lt_mul_of_pos_right hq.round_lt_one hnpos
  rw [one_mul] at hlt
  exact ⟨mul_pos hq.round_pos hnpos, hlt⟩

/-- A whole product is a rank. -/
theorem Literal.rank_mem (hq : Literal q) (hn : 0 < n) {m : ℕ} (hm : q * n = m) :
    0 < m ∧ m < n := by
  have hnpos : (0 : ℚ) < n := by exact_mod_cast hn
  have hpos : (0 : ℚ) < m := hm ▸ mul_pos hq.pos hnpos
  have hlt : (m : ℚ) < n := by
    rw [← hm]
    nlinarith [hq.lt_one]
  exact ⟨by exact_mod_cast hpos, by exact_mod_cast hlt⟩

/-- A length this small is a float. -/
theorem round_length (hn : 0 < n) (hlen : n < 2 ^ 44) : binary64.round n = n := by
  have hn₀ : (n : ℚ) ≠ 0 := by exact_mod_cast hn.ne'
  have hlt : |(n : ℚ)| < 2 ^ (53 : ℤ) := by
    rw [abs_of_nonneg (Nat.cast_nonneg n)]
    exact_mod_cast hlen.trans (by norm_num)
  exact Format.round_multiple (m := n) (e := 0) (by simp)
    (Binary64.exponent_le_of_lt hn₀ hlt (by norm_num))

/-- **A whole product is exact**: the literal is off by less than the float of it can show. -/
theorem round_product_of_whole (hq : Literal q) (hn : 0 < n) (hlen : n < 2 ^ 44) {m : ℕ}
    (hm : q * n = m) : binary64.round (binary64.round q * n) = m := by
  have hnpos : (0 : ℚ) < n := by exact_mod_cast hn
  obtain ⟨hx, hxn⟩ := hq.product_mem hn
  have hxlt : |binary64.round q * n| < 2 ^ (53 : ℤ) := by
    have hlen' : (n : ℚ) < 17592186044416 := by exact_mod_cast hlen
    rw [abs_of_pos hx]
    norm_num
    linarith
  have hnear : |binary64.round q * n - (m : ℤ) * (binary64.base : ℚ) ^ (0 : ℤ)|
      < binary64.unit (binary64.round q * n) / 2 := by
    have hunit := Binary64.abs_lt_mul_unit (binary64.round q * n)
    rw [abs_of_pos hx] at hunit
    have hscaled := mul_lt_mul_of_pos_right hq.near hnpos
    rw [zpow_zero, mul_one, Int.cast_natCast, ← hm, ← sub_mul, abs_mul, abs_of_pos hnpos]
    norm_num at hunit hscaled
    linarith
  have hexp : binary64.exponent (binary64.round q * n) ≤ 0 :=
    Binary64.exponent_le_of_lt hx.ne' hxlt (by norm_num)
  have hr := Format.round_eq_of_near_multiple (F := binary64) hexp hnear
  rw [hr, zpow_zero, mul_one, Int.cast_natCast]

/-- A half more is exact as well. -/
theorem round_add_half {m : ℕ} (hm : m < 2 ^ 44) :
    binary64.round ((m : ℚ) + 1 / 2) = m + 1 / 2 := by
  have hpos : (0 : ℚ) < m + 1 / 2 := by positivity
  have hlt : |(m : ℚ) + 1 / 2| < 2 ^ (52 : ℤ) := by
    have hm' : (m : ℚ) < 2 ^ 44 := by exact_mod_cast hm
    rw [abs_of_pos hpos]
    norm_num
    linarith
  have hexp : binary64.exponent ((m : ℚ) + 1 / 2) ≤ -1 :=
    Binary64.exponent_le_of_lt hpos.ne' hlt (by norm_num)
  refine Format.round_multiple (m := 2 * m + 1) (e := -1) ?_ hexp
  change _ = _ * ((2 : ℕ) : ℚ) ^ (-1 : ℤ)
  push_cast
  norm_num
  ring

/-- **The index where `q · n` is whole**: one rank too high where it is odd. -/
theorem pickIndex_of_whole (hq : Literal q) (hn : 0 < n) (hlen : n < 2 ^ 44) {m : ℕ}
    (hm : q * n = m) : pickIndex q n = m - 1 + m % 2 := by
  obtain ⟨hmpos, hmlt⟩ := hq.rank_mem hn hm
  have hhalf : halfEven ((m : ℚ) + 1 / 2) = m + m % 2 := by
    have := halfEven_add_half m
    rwa [Int.cast_natCast] at this
  simp only [pickIndex, round_length hn hlen, round_product_of_whole hq hn hlen hm,
    round_add_half (hmlt.trans hlen), hhalf]
  omega

/-- The product's float is close to `q · n`: the literal's is, and the product's to theirs. -/
theorem abs_product_sub_lt (hq : Literal q) (hn : 0 < n) (hlen : n < 2 ^ 44) :
    |binary64.round (binary64.round q * n) - q * n| < 1 / 512 := by
  have hnpos : (0 : ℚ) < n := by exact_mod_cast hn
  have hlen' : (n : ℚ) < 17592186044416 := by exact_mod_cast hlen
  obtain ⟨hx, hxn⟩ := hq.product_mem hn
  have hliteral : |binary64.round q * n - q * n| < 1 / 1024 := by
    have hscaled := mul_lt_mul_of_pos_right hq.near hnpos
    rw [← sub_mul, abs_mul, abs_of_pos hnpos]
    norm_num at hscaled
    linarith
  have hproduct := Binary64.abs_round_sub_le_of_lt (e := 44) hx.ne' (by
    rw [abs_of_pos hx]
    norm_num
    linarith) (by norm_num)
  norm_num at hproduct
  rw [abs_lt] at hliteral ⊢
  rw [abs_le] at hproduct
  constructor <;> linarith [hliteral.1, hliteral.2, hproduct.1, hproduct.2]

/-- **What the floats make of `q · n + 0.5`** is close to it. -/
theorem abs_sum_sub_le (hq : Literal q) (hn : 0 < n) (hlen : n < 2 ^ 44) :
    |binary64.round (binary64.round (binary64.round q * n) + 1 / 2) - (q * n + 1 / 2)|
      < 1 / 200 := by
  have hnpos : (0 : ℚ) < n := by exact_mod_cast hn
  have hlen' : (n : ℚ) < 17592186044416 := by exact_mod_cast hlen
  have hproduct := abs_lt.mp (abs_product_sub_lt hq hn hlen)
  have hqn : 0 < q * n := mul_pos hq.pos hnpos
  have hqn' : q * n < n := by nlinarith [hq.lt_one]
  have hy : 0 < binary64.round (binary64.round q * n) + 1 / 2 := by linarith [hproduct.1]
  have hsum := Binary64.abs_round_sub_le_of_lt (e := 45) hy.ne' (by
    rw [abs_of_pos hy]
    norm_num
    linarith [hproduct.2]) (by norm_num)
  norm_num at hsum
  rw [abs_le] at hsum
  rw [abs_lt]
  constructor <;> linarith [hproduct.1, hproduct.2, hsum.1, hsum.2]

/-- Whole numbers of hundredths are a hundredth apart. -/
theorem add_hundredth_le {x y : ℚ} {a b : ℤ} (hx : x * 100 = a) (hy : y * 100 = b) (h : x < y) :
    x + 1 / 100 ≤ y := by
  have hlt : (a : ℚ) < b := by
    rw [← hx, ← hy]
    linarith
  have hlt' : a < b := by exact_mod_cast hlt
  have hle : ((a + 1 : ℤ) : ℚ) ≤ b := by exact_mod_cast hlt'
  push_cast at hle
  rw [← hx, ← hy] at hle
  linarith

/-- **The index where `q · n` is not whole** is the one of its rank. -/
theorem pickIndex_of_not_whole (hq : Literal q) (hn : 0 < n) (hlen : n < 2 ^ 44)
    (hm : ∀ m : ℕ, q * n ≠ m) : pickIndex q n = ⌈q * n⌉ - 1 := by
  have hnpos : (0 : ℚ) < n := by exact_mod_cast hn
  obtain ⟨a, ha⟩ := hq.hundredths
  obtain ⟨k, hk⟩ := Int.eq_ofNat_of_zero_le (Int.floor_nonneg.mpr (mul_pos hq.pos hnpos).le)
  have hlo := Int.floor_le (q * n)
  have hhi := Int.lt_floor_add_one (q * n)
  rw [hk, Int.cast_natCast] at hlo hhi
  -- `q · n` is at least a hundredth away from the integers around it
  have hqn : q * n * 100 = ((a * n : ℤ) : ℚ) := by
    push_cast
    rw [← ha]
    ring
  have hlo' : (k : ℚ) + 1 / 100 ≤ q * n :=
    add_hundredth_le (a := 100 * k) (by push_cast; ring) hqn (lt_of_le_of_ne hlo (Ne.symm (hm k)))
  have hhi' : q * n + 1 / 100 ≤ (k : ℚ) + 1 :=
    add_hundredth_le (b := 100 * (k + 1)) hqn (by push_cast; ring) hhi
  have hsum := abs_lt.mp (abs_sum_sub_le hq hn hlen)
  have hrounded : halfEven (binary64.round (binary64.round (binary64.round q * n) + 1 / 2))
      = k + 1 := by
    refine halfEven_eq_of_near (abs_lt.mpr ?_)
    push_cast
    constructor <;> linarith [hsum.1, hsum.2]
  have hkn : k < n := by
    have : (k : ℚ) < n := by nlinarith [hq.lt_one]
    exact_mod_cast this
  have hceil : ⌈q * n⌉ = k + 1 := by
    rw [Int.ceil_eq_iff]
    push_cast
    constructor <;> linarith
  simp only [pickIndex, round_length hn hlen, hrounded, hceil]
  omega

end Index

/-! ## The percentiles -/

/-- **Every percentile is the nearest-rank one.** -/
def NearestRanks (samples : List α) : Prop :=
  ∀ q ∈ QUANTILES, pick samples q = nearestRank samples q

/-- **Where `q · n` is an odd integer** the samples of that rank and of the next are the same. -/
def TiedAtOddRanks (samples : List α) : Prop :=
  ∀ q ∈ QUANTILES, ∀ rank : ℕ, q * samples.length = rank → rank % 2 = 1 →
    (ordered samples)[rank]? = (ordered samples)[rank - 1]?

/-- **Where the float index is another one**, the sample there is the same. -/
def TiedAtFloatRanks (samples : List α) : Prop :=
  ∀ q ∈ QUANTILES, (pickIndex q samples.length).toNat ≠ (⌈q * samples.length⌉ - 1).toNat →
    (ordered samples)[(pickIndex q samples.length).toNat]? =
      (ordered samples)[(⌈q * samples.length⌉ - 1).toNat]?

/-- **The samples of the ranks that may be confused are the same**: up to `2 ^ 44` samples the odd
ones and their successors. -/
def Tied (samples : List α) : Prop :=
  if samples.length < 2 ^ 44 then TiedAtOddRanks samples else TiedAtFloatRanks samples

/-- One percentile of any list: the index is right or makes no difference. -/
theorem pick_eq_nearestRank_iff_index (samples : List α) (q : ℚ) :
    pick samples q = nearestRank samples q ↔
      ((pickIndex q samples.length).toNat ≠ (⌈q * samples.length⌉ - 1).toNat →
        (ordered samples)[(pickIndex q samples.length).toNat]? =
          (ordered samples)[(⌈q * samples.length⌉ - 1).toNat]?) := by
  refine ⟨fun h _ => h, fun h => ?_⟩
  by_cases hindex : (pickIndex q samples.length).toNat = (⌈q * samples.length⌉ - 1).toNat
  · rw [pick, nearestRank, hindex]
  · exact h hindex

/-- One percentile: off exactly if `q · n` is an odd integer and the samples there differ. -/
theorem pick_eq_nearestRank_iff {samples : List α} {q : ℚ} (hq : q ∈ QUANTILES)
    (hne : samples ≠ []) (hlen : samples.length < 2 ^ 44) :
    pick samples q = nearestRank samples q ↔
      ∀ rank : ℕ, q * samples.length = rank → rank % 2 = 1 →
        (ordered samples)[rank]? = (ordered samples)[rank - 1]? := by
  have hn : 0 < samples.length := List.length_pos_iff.mpr hne
  have hlit := literal_of_mem hq
  unfold pick nearestRank
  by_cases hwhole : ∃ m : ℕ, q * samples.length = m
  · obtain ⟨m, hm⟩ := hwhole
    have hceil : ⌈q * (samples.length : ℚ)⌉ = m := by rw [hm, Int.ceil_natCast]
    have hrank : ∀ rank : ℕ, q * samples.length = rank → rank = m := fun rank hr => by
      exact_mod_cast hr.symm.trans hm
    obtain ⟨hmpos, -⟩ := hlit.rank_mem hn hm
    have hright : ((m : ℤ) - 1).toNat = m - 1 := by omega
    rw [pickIndex_of_whole hlit hn hlen hm, hceil]
    rcases Nat.mod_two_eq_zero_or_one m with heven | hodd
    · have hleft : ((m : ℤ) - 1 + m % 2).toNat = m - 1 := by omega
      rw [hleft, hright]
      refine iff_of_true rfl fun rank hr hodd => ?_
      rw [hrank rank hr] at hodd
      omega
    · have hleft : ((m : ℤ) - 1 + m % 2).toNat = m := by omega
      rw [hleft, hright]
      exact ⟨fun h rank hr _ => by rw [hrank rank hr, h], fun h => h m hm hodd⟩
  · have hnot : ∀ m : ℕ, q * (samples.length : ℚ) ≠ m := fun m hm => hwhole ⟨m, hm⟩
    rw [pickIndex_of_not_whole hlit hn hlen hnot]
    exact iff_of_true rfl fun rank hr _ => absurd hr (hnot rank)

/-- **Nearest-rank percentiles** of every list: exactly where the samples of the ranks the floats
may confuse are the same. -/
theorem nearestRanks_iff (samples : List α) (hne : samples ≠ []) :
    NearestRanks samples ↔ Tied samples := by
  unfold Tied
  split_ifs with hlen
  · exact forall₂_congr fun _ hq => pick_eq_nearestRank_iff hq hne hlen
  · exact forall₂_congr fun q _ => pick_eq_nearestRank_iff_index samples q

/-- No rank of forty samples is odd. -/
theorem forty_samples_nearestRanks : NearestRanks (List.range 40) := by
  refine (nearestRanks_iff (List.range 40) (by decide)).mpr ?_
  rw [Tied, if_pos (by decide)]
  intro q hq rank hr hodd
  simp only [QUANTILES, List.mem_cons, List.not_mem_nil, or_false] at hq
  rw [List.length_range] at hr
  rcases hq with rfl | rfl | rfl <;> norm_num at hr
  · have h20 : rank = 20 := by exact_mod_cast hr.symm
    omega
  · have h38 : rank = 38 := by exact_mod_cast hr.symm
    omega
  · have h198 : ((198 : ℕ) : ℚ) = ((5 * rank : ℕ) : ℚ) := by
      push_cast
      linarith
    have := Nat.cast_injective h198
    omega

/-- **Twenty samples**, as the gate takes them: p95 is the twentieth, and rank `⌈19⌉` is the
nineteenth. -/
theorem twenty_samples_not_nearestRanks : ¬ NearestRanks (List.range 20) := by
  intro h
  have hq : (19 / 20 : ℚ) ∈ QUANTILES := by simp [QUANTILES]
  have htied := (pick_eq_nearestRank_iff hq (by decide) (by decide)).mp (h (19 / 20) hq) 19
    (by norm_num) rfl
  exact absurd htied (by decide)

end Mcp.Replay
