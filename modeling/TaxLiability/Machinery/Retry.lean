import Mathlib.Data.Nat.Basic

/-!
# Machinery/Retry — once more, while that may help

    outcome 0 ──again──▸ outcome 1 ──again──▸ … ──▸ outcome k      k repeats, `rest` at most

The attempts of a bounded policy are numbered: the outcomes are those of a sequence, and the policy
says after each whether it is worth another: every attempt but the last was
(`again_of_lt_repeats`), and there are no more of them than the policy has (`repeats_le`).
-/

namespace Retry

variable {β : Type*} {again : β → Bool} {outcome : ℕ → β} {rest n k : ℕ}

/-- **How often an attempt is repeated**, from the `n`-th on: while its outcome is worth another,
and `rest` times at most. -/
def repeats (again : β → Bool) (outcome : ℕ → β) : ℕ → ℕ → ℕ
  | 0, _ => 0
  | rest + 1, n => if again (outcome n) then repeats again outcome rest (n + 1) + 1 else 0

theorem repeats_le (again : β → Bool) (outcome : ℕ → β) (rest n : ℕ) :
    repeats again outcome rest n ≤ rest := by
  induction rest generalizing n with
  | zero => exact Nat.le_refl 0
  | succ rest ih =>
    rw [repeats]
    split_ifs
    · exact Nat.succ_le_succ (ih _)
    · exact Nat.zero_le _

/-- **Every attempt but the last** was worth another. -/
theorem again_of_lt_repeats (h : k < repeats again outcome rest n) :
    again (outcome (n + k)) = true := by
  induction rest generalizing n k with
  | zero => exact absurd h (Nat.not_lt_zero k)
  | succ rest ih =>
    rw [repeats] at h
    split_ifs at h with hagain
    · cases k with
      | zero => exact hagain
      | succ k =>
        have hlast := ih (Nat.lt_of_succ_lt_succ h)
        rwa [Nat.add_right_comm] at hlast
    · exact absurd h (Nat.not_lt_zero k)

end Retry
