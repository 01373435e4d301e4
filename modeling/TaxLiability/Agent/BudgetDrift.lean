import Mathlib.Algebra.Order.Floor.Semifield
import TaxLiability.Agent.Budgets
import TaxLiability.Machinery.Rounding

/-!
# Agent/BudgetDrift — how far the tally is from the exact cost

    record_call response ──usage?──▸ record_usage in out ──÷ 1000──▸ spent +

A recorded usage loses less than a unit, so `n` of them lose less than `n` units, and none is ever
taken back (`spent_within`).  A tally of none has lost none.
-/

namespace Agent

/-! ## Records -/

/-- What is recorded of a call: its response, or two token counts. -/
inductive Record
  | call (usage : Option Usage)
  | usage (input_tokens output_tokens : ℕ)

/-- The token counts that are charged; a response without a usage block has none. -/
def Record.tokens : Record → Option (ℕ × ℕ)
  | .call none => none
  | .call (some u) => some (u.input_tokens.getD 0, u.output_tokens.getD 0)
  | .usage input_tokens output_tokens => some (input_tokens, output_tokens)

namespace BudgetGuard

/-- `record_call` or `record_usage`. -/
def record (g : BudgetGuard) : Record → BudgetGuard
  | .call usage => g.recordCall usage
  | .usage input_tokens output_tokens => g.recordUsage input_tokens output_tokens

/-- **A run of records**, one after the other. -/
def recordAll (g : BudgetGuard) (rs : List Record) : BudgetGuard := rs.foldl record g

end BudgetGuard

/-- The usages recorded. -/
def recorded (rs : List Record) : List (ℕ × ℕ) := rs.filterMap Record.tokens

/-- **The exact cost** of two token counts, in 1e-5 USD. -/
def exactCost (tokens : ℕ × ℕ) : ℚ :=
  (tokens.1 * PRICE_IN_E5_PER_KTOK + tokens.2 * PRICE_OUT_E5_PER_KTOK) / 1000

/-! ## The tally -/

section

variable {g : BudgetGuard} {rs rs' : List Record} {tokens : ℕ × ℕ}

theorem exactCost_nonneg : 0 ≤ exactCost tokens := by
  rw [exactCost]
  positivity

/-- What is charged is the exact cost rounded down. -/
theorem usageCost_eq : usageCost tokens.1 tokens.2 = ⌊exactCost tokens⌋₊ := by
  rw [exactCost, usageCost]
  exact_mod_cast (Nat.floor_div_eq_div (K := ℚ) _ _).symm

/-- The sum of what is charged. -/
def charged (usages : List (ℕ × ℕ)) : ℕ := (usages.map fun tokens => ⌊exactCost tokens⌋₊).sum

/-- A record adds the cost of its usage, if it has one. -/
theorem record_spent (r : Record) :
    (g.record r).spent = g.spent + charged r.tokens.toList := by
  rcases r with (_ | u) | ⟨i, o⟩
  · rfl
  · simp [charged, Record.tokens, BudgetGuard.record, costOf, Usage.cost, ← usageCost_eq]
  · simp [charged, Record.tokens, BudgetGuard.record, BudgetGuard.recordUsage, ← usageCost_eq]

/-- **A run adds the cost of each usage**, whichever way it is recorded. -/
theorem recordAll_spent : (g.recordAll rs).spent = g.spent + charged (recorded rs) := by
  induction rs generalizing g with
  | nil => rfl
  | cons r rs ih =>
    rw [BudgetGuard.recordAll, List.foldl_cons, ← BudgetGuard.recordAll, ih, record_spent]
    cases htokens : r.tokens <;> simp [recorded, charged, htokens, add_assoc]

/-- **Nothing recorded is taken back.** -/
theorem recordAll_mono (h : rs <+: rs') : (g.recordAll rs).spent ≤ (g.recordAll rs').spent := by
  obtain ⟨later, rfl⟩ := h
  have hrun : g.recordAll (rs ++ later) = (g.recordAll rs).recordAll later := List.foldl_append
  rw [hrun, recordAll_spent (g := g.recordAll rs)]
  exact Nat.le_add_right _ _

/-- **The order of the usages does not matter.** -/
theorem charged_perm {us us' : List (ℕ × ℕ)} (h : us.Perm us') : charged us = charged us' :=
  (h.map _).sum_eq

theorem spent_of_new {ceiling : ℤ} (h : BudgetGuard.new ceiling = .ok g) : g.spent = 0 := by
  rw [BudgetGuard.new] at h
  split_ifs at h
  obtain rfl := Except.ok.inj h
  rfl

end

/-- **The tally does not drift**: it never falls, it is at most the exact cost and, of `n ≥ 1`
usages, more than `n` units below it; and it is the same whichever way and in whichever order they
are recorded. -/
theorem spent_within {ceiling : ℤ} {g : BudgetGuard} (h : BudgetGuard.new ceiling = .ok g)
    (rs : List Record) :
    (∀ sofar, sofar <+: rs → (g.recordAll sofar).spent ≤ (g.recordAll rs).spent)
    ∧ ((g.recordAll rs).spent : ℚ) ≤ ((recorded rs).map exactCost).sum
    ∧ (recorded rs ≠ [] → ((recorded rs).map exactCost).sum - (recorded rs).length
      < (g.recordAll rs).spent)
    ∧ ∀ rs', (recorded rs').Perm (recorded rs) →
      (g.recordAll rs').spent = (g.recordAll rs).spent := by
  have hspent : ∀ rs, (g.recordAll rs).spent = charged (recorded rs) := fun rs => by
    rw [recordAll_spent, spent_of_new h, zero_add]
  refine ⟨fun _ => recordAll_mono, ?_, fun hne => ?_, fun rs' hperm => ?_⟩
  · rw [hspent]
    exact Rounding.sum_floor_le fun _ _ => exactCost_nonneg
  · rw [hspent]
    exact Rounding.sum_sub_length_lt hne
  · rw [hspent, hspent, charged_perm hperm]

/-- The default ceiling, and two usages recorded each way. -/
theorem spent_within_two :
    ((BudgetGuard.mk 25000 0 (by decide)).recordAll
      [.call (some ⟨some 1, some 1⟩), .usage 1 1]).spent = 2
    ∧ (([((1 : ℕ), (1 : ℕ)), (1, 1)].map exactCost).sum - 2 : ℚ) < (2 : ℕ) := by
  have hnew : BudgetGuard.new 25000 = .ok ⟨25000, 0, by decide⟩ := rfl
  obtain ⟨-, -, hlt, -⟩ := spent_within hnew [.call (some ⟨some 1, some 1⟩), .usage 1 1]
  exact ⟨rfl, hlt (by decide)⟩

/-- **A tally of no usage** is not more than the exact cost less none. -/
theorem spent_of_none : ¬ ((((recorded []).map exactCost).sum : ℚ) - (recorded []).length
    < ((BudgetGuard.mk 25000 0 (by decide)).recordAll []).spent) := by
  simp [recorded, BudgetGuard.recordAll]

end Agent
