import Mathlib.Algebra.Group.Action.Defs
import Mathlib.Algebra.Order.BigOperators.Group.Finset
import Mathlib.Algebra.Order.Ring.Int
import Mathlib.Data.List.Basic
import Mathlib.Tactic.Ring

/-!
# Machinery/TokenBucket — tokens refilled by whole periods

    created ├── period 0 ──┼── period 1 ──┼── period 2 ──┤
              capacity       capacity       capacity         tokens at most, one a grant

A bucket is filled up when the first take of a period comes.  As long as its clock does not go
back, no period grants more than the capacity (`Inv.bounded`, kept by `Inv.tryConsume`).  A library
has buckets of its own, which are such as far as can be told (`Library`).
-/

namespace TokenBucket

/-- **A bucket**: when it was made and last filled, the tokens left, and the times of its grants,
latest first. -/
structure Bucket where
  created : ℕ
  refilled : ℕ
  tokens : ℕ
  grants : List ℕ
  deriving DecidableEq, Repr

variable (capacity period : ℕ)

/-- A bucket is made full. -/
def full (now : ℕ) : Bucket := ⟨now, now, capacity, []⟩

namespace Bucket

/-- The tokens of the whole periods gone by. -/
def refill (b : Bucket) (now : ℕ) : Bucket :=
  let elapsed := (now - b.refilled) / period
  if elapsed = 0 then b
  else { b with
    refilled := b.refilled + elapsed * period
    tokens := min capacity (b.tokens + elapsed * capacity) }

/-- **A token taken**, if one is left; a take refused leaves the bucket as it was. -/
def tryConsume (b : Bucket) (now : ℕ) : Option Bucket :=
  let b := b.refill capacity period now
  if b.tokens = 0 then none
  else some { b with tokens := b.tokens - 1, grants := now :: b.grants }

/-- How many tokens the `k`-th period granted. -/
def granted (b : Bucket) (k : ℕ) : ℕ := b.grants.countP fun t => (t - b.created) / period = k

/-- **The `n`-th period is the current one**, and what it granted and has left is one capacity. -/
structure Inv (b : Bucket) (n : ℕ) : Prop where
  refilled : b.refilled = b.created + n * period
  past : ∀ t ∈ b.grants, (t - b.created) / period ≤ n
  current : b.granted period n + b.tokens ≤ capacity
  bounded : ∀ k, b.granted period k ≤ capacity

variable {capacity period}

theorem refill_eq (b : Bucket) (now : ℕ) : b.refill capacity period now
    = if (now - b.refilled) / period = 0 then b
      else ⟨b.created, b.refilled + (now - b.refilled) / period * period,
        min capacity (b.tokens + (now - b.refilled) / period * capacity), b.grants⟩ := rfl

theorem tryConsume_eq (b : Bucket) (now : ℕ) : b.tryConsume capacity period now
    = if (b.refill capacity period now).tokens = 0 then none
      else some ⟨(b.refill capacity period now).created, (b.refill capacity period now).refilled,
        (b.refill capacity period now).tokens - 1,
        now :: (b.refill capacity period now).grants⟩ := rfl

theorem inv_full (now : ℕ) : (full capacity now).Inv capacity period 0 where
  refilled := by
    rw [Nat.zero_mul]
    rfl
  past := nofun
  current := Nat.le_of_eq (Nat.zero_add _)
  bounded := fun _ => Nat.zero_le _

/-- **A refill comes to the period of the clock.** -/
theorem Inv.refill {b : Bucket} {n : ℕ} (h : b.Inv capacity period n) {now : ℕ}
    (hperiod : 0 < period) (hclock : b.refilled ≤ now) :
    (b.refill capacity period now).Inv capacity period ((now - b.created) / period)
      ∧ (b.refill capacity period now).refilled ≤ now := by
  have hnow : (now - b.created) / period = n + (now - b.refilled) / period := by
    have hsplit : now - b.created = now - b.refilled + n * period := by
      have := h.refilled
      omega
    rw [hsplit, Nat.add_mul_div_right _ _ hperiod, Nat.add_comm]
  rw [refill_eq]
  split
  · next helapsed =>
    rw [hnow, helapsed]
    exact ⟨h, hclock⟩
  · next helapsed =>
    have hnone : b.granted period (n + (now - b.refilled) / period) = 0 := by
      refine List.countP_eq_zero.mpr fun t ht => ?_
      have hlater : n < n + (now - b.refilled) / period :=
        Nat.lt_add_of_pos_right (Nat.pos_of_ne_zero helapsed)
      simp only [decide_eq_true_eq]
      exact ((h.past t ht).trans_lt hlater).ne
    rw [hnow]
    refine ⟨⟨?_, fun t ht => (h.past t ht).trans (Nat.le_add_right _ _), ?_, h.bounded⟩, ?_⟩
    · change b.refilled + _ = b.created + _
      rw [h.refilled]
      ring
    · change b.granted period _ + min capacity _ ≤ capacity
      rw [hnone]
      omega
    · have := Nat.div_mul_le_self (now - b.refilled) period
      change b.refilled + _ ≤ now
      omega

/-- A take granted is noted. -/
theorem grants_tryConsume {b b' : Bucket} {now : ℕ}
    (h : b.tryConsume capacity period now = some b') : b'.grants = now :: b.grants := by
  have hgrants : (b.refill capacity period now).grants = b.grants := by
    rw [refill_eq]
    split <;> rfl
  rw [tryConsume_eq] at h
  split at h
  · cases h
  · cases h
    rw [hgrants]

/-- **A take is granted out of the period of the clock.** -/
theorem Inv.tryConsume {b b' : Bucket} {n : ℕ} (h : b.Inv capacity period n) {now : ℕ}
    (hperiod : 0 < period) (hclock : b.refilled ≤ now)
    (ht : b.tryConsume capacity period now = some b') :
    b'.Inv capacity period ((now - b.created) / period) ∧ b'.refilled ≤ now := by
  obtain ⟨hr, hclock'⟩ := h.refill hperiod hclock
  have hcreated : (b.refill capacity period now).created = b.created := by
    rw [refill_eq]
    split <;> rfl
  rw [tryConsume_eq] at ht
  split at ht
  · cases ht
  · next htokens =>
    cases ht
    have hgranted : ∀ k, Bucket.granted period ⟨(b.refill capacity period now).created,
        (b.refill capacity period now).refilled, (b.refill capacity period now).tokens - 1,
        now :: (b.refill capacity period now).grants⟩ k
        = (b.refill capacity period now).granted period k
          + if (now - b.created) / period = k then 1 else 0 := by
      intro k
      simp only [Bucket.granted, List.countP_cons, hcreated, decide_eq_true_eq]
    have hcurrent := hr.current
    refine ⟨⟨hr.refilled, fun t ht => ?_, ?_, fun k => ?_⟩, hclock'⟩
    · obtain rfl | ht := List.mem_cons.mp ht
      · exact Nat.le_of_eq (by rw [hcreated])
      · exact hr.past t ht
    · rw [hgranted, if_pos rfl]
      change _ + 1 + ((b.refill capacity period now).tokens - 1) ≤ capacity
      omega
    · rw [hgranted]
      split
      · next hk =>
        subst hk
        omega
      · exact hr.bounded k

/-! ## Nothing is withheld -/

variable (capacity period) in
/-- **What the current period has not granted is left**, and no grant is older than the bucket. -/
structure Exact (b : Bucket) (n : ℕ) : Prop extends b.Inv capacity period n where
  left : b.granted period n + b.tokens = capacity
  since : ∀ t ∈ b.grants, b.created ≤ t

theorem exact_full (now : ℕ) : (full capacity now).Exact capacity period 0 where
  toInv := inv_full now
  left := Nat.zero_add _
  since := nofun

variable {b b' : Bucket} {n now : ℕ}

/-- A refill of a later period finds none of it granted, and fills the bucket up. -/
theorem Exact.refill (h : b.Exact capacity period n) (hperiod : 0 < period)
    (hclock : b.refilled ≤ now) :
    (b.refill capacity period now).Exact capacity period ((now - b.created) / period) := by
  obtain ⟨hinv, -⟩ := h.toInv.refill hperiod hclock
  have hnow : (now - b.created) / period = n + (now - b.refilled) / period := by
    have hsplit : now - b.created = now - b.refilled + n * period := by
      have := h.refilled
      omega
    rw [hsplit, Nat.add_mul_div_right _ _ hperiod, Nat.add_comm]
  rw [refill_eq] at hinv ⊢
  split at hinv
  · next helapsed =>
    rw [if_pos helapsed]
    rw [helapsed, Nat.add_zero] at hnow
    exact ⟨hinv, hnow ▸ h.left, h.since⟩
  · next helapsed =>
    rw [if_neg helapsed]
    refine ⟨hinv, ?_, h.since⟩
    have hlater : n < (now - b.created) / period := by
      rw [hnow]
      exact Nat.lt_add_of_pos_right (Nat.pos_of_ne_zero helapsed)
    have hnone : b.granted period ((now - b.created) / period) = 0 :=
      List.countP_eq_zero.mpr fun t ht => by
        simpa using ((h.past t ht).trans_lt hlater).ne
    have hfull : capacity ≤ b.tokens + (now - b.refilled) / period * capacity :=
      Nat.le_add_left_of_le (Nat.le_mul_of_pos_left capacity (Nat.pos_of_ne_zero helapsed))
    change b.granted period ((now - b.created) / period)
      + min capacity (b.tokens + (now - b.refilled) / period * capacity) = capacity
    rw [hnone, Nat.zero_add, Nat.min_eq_left hfull]

theorem grants_refill (b : Bucket) (now : ℕ) :
    (b.refill capacity period now).grants = b.grants := by
  rw [refill_eq]
  split <;> rfl

theorem created_refill (b : Bucket) (now : ℕ) :
    (b.refill capacity period now).created = b.created := by
  rw [refill_eq]
  split <;> rfl

theorem created_tryConsume (h : b.tryConsume capacity period now = some b') :
    b'.created = b.created := by
  rw [tryConsume_eq] at h
  split at h
  · cases h
  · cases h
    exact created_refill b now

/-- **A take granted** leaves the rest of the period's tokens. -/
theorem Exact.tryConsume (h : b.Exact capacity period n) (hperiod : 0 < period)
    (hclock : b.refilled ≤ now) (ht : b.tryConsume capacity period now = some b') :
    b'.Exact capacity period ((now - b.created) / period) := by
  have hr := h.refill hperiod hclock
  have hinv := (h.toInv.tryConsume hperiod hclock ht).1
  have hgrants := grants_tryConsume ht
  have hcreated := created_tryConsume ht
  have hnow : b.created ≤ now := by
    have := h.refilled
    have := Nat.le_mul_of_pos_right n hperiod
    omega
  refine ⟨hinv, ?_, fun t hmem => ?_⟩
  · have hleft := hr.left
    rw [tryConsume_eq] at ht
    split at ht
    · cases ht
    · next htokens =>
      cases ht
      simp only [granted, List.countP_cons, created_refill, grants_refill, decide_eq_true_eq,
        if_true] at hleft ⊢
      omega
  · rw [hcreated]
    rw [hgrants] at hmem
    obtain rfl | hold := List.mem_cons.mp hmem
    · exact hnow
    · exact h.since t hold

/-- **A take is refused** exactly if its period has granted all it may. -/
theorem Exact.tryConsume_eq_none_iff (h : b.Exact capacity period n) (hperiod : 0 < period)
    (hclock : b.refilled ≤ now) : b.tryConsume capacity period now = none
      ↔ b.granted period ((now - b.created) / period) = capacity := by
  have hleft := (h.refill hperiod hclock).left
  simp only [granted, created_refill, grants_refill] at hleft
  rw [tryConsume_eq, granted]
  split
  · next htokens => exact iff_of_true rfl (by omega)
  · next htokens => exact iff_of_false nofun (by omega)

/-- What is counted in one of some classes is counted in all of them. -/
theorem countP_le_sum {α : Type*} (l : List α) (p : α → Bool) (q : ℕ → α → Bool) (m : ℕ)
    (h : ∀ x ∈ l, p x → ∃ k < m, q k x) :
    l.countP p ≤ ∑ k ∈ Finset.range m, l.countP (q k) := by
  induction l with
  | nil => exact Nat.zero_le _
  | cons x l ih =>
    have hl := ih fun y hy => h y (List.mem_cons_of_mem x hy)
    simp only [List.countP_cons, Finset.sum_add_distrib]
    refine Nat.add_le_add hl ?_
    split
    · next hp =>
      obtain ⟨k, hk, hq⟩ := h x List.mem_cons_self hp
      have hone := Finset.single_le_sum (f := fun k => if q k x then 1 else 0)
        (fun _ _ => Nat.zero_le _) (Finset.mem_range.mpr hk)
      rwa [if_pos hq] at hone
    · exact Nat.zero_le _

/-- **A window of `m` periods**, wherever it starts, meets `m + 1` periods of the bucket's own and
is granted no more than they are. -/
theorem Exact.countP_window_le (h : b.Exact capacity period n) (hperiod : 0 < period)
    (start m : ℕ) :
    b.grants.countP (fun t => start ≤ t ∧ t < start + m * period) ≤ capacity * (m + 1) := by
  have hclass : ∀ t ∈ b.grants, decide (start ≤ t ∧ t < start + m * period) = true →
      ∃ k < m + 1, decide ((t - b.created) / period = (start - b.created) / period + k) = true := by
    intro t ht hin
    obtain ⟨hlow, hhigh⟩ := of_decide_eq_true hin
    have hsince := h.since t ht
    have hle : (start - b.created) / period ≤ (t - b.created) / period :=
      Nat.div_le_div_right (by omega)
    have hlt : (t - b.created) / period ≤ (start - b.created) / period + m := by
      rw [← Nat.add_mul_div_right _ _ hperiod]
      exact Nat.div_le_div_right (by omega)
    exact ⟨(t - b.created) / period - (start - b.created) / period, by omega,
      decide_eq_true (by omega)⟩
  refine (countP_le_sum b.grants _ _ (m + 1) hclass).trans ?_
  refine (Finset.sum_le_card_nsmul _ _ capacity fun k _ => h.bounded _).trans ?_
  rw [Finset.card_range, smul_eq_mul, Nat.mul_comm]

end Bucket

/-! ## The buckets of a library -/

/-- **A library's buckets**: what can be told of one is a bucket, and they are made full and give
tokens as buckets do. -/
structure Library (capacity period : ℕ) where
  State : Type
  view : State → Bucket
  full : ℕ → State
  tryConsume : State → ℕ → Option State
  view_full : ∀ now, view (full now) = TokenBucket.full capacity now
  view_tryConsume : ∀ b now,
    (tryConsume b now).map view = (view b).tryConsume capacity period now

namespace Library

/-- The buckets themselves are such. -/
def self (capacity period : ℕ) : Library capacity period where
  State := Bucket
  view := id
  full := TokenBucket.full capacity
  tryConsume := Bucket.tryConsume capacity period
  view_full _ := rfl
  view_tryConsume _ _ := congrFun Option.map_id _

variable {capacity period : ℕ} {L : Library capacity period} {b b' : L.State} {now : ℕ}

theorem view_of_tryConsume (h : L.tryConsume b now = some b') :
    (L.view b).tryConsume capacity period now = some (L.view b') := by
  rw [← L.view_tryConsume, h, Option.map_some]

theorem tryConsume_eq_none_iff :
    L.tryConsume b now = none ↔ (L.view b).tryConsume capacity period now = none := by
  rw [← L.view_tryConsume, Option.map_eq_none_iff]

end Library

end TokenBucket
