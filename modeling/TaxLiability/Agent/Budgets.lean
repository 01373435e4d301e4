import Mathlib.Data.Nat.Basic
import Mathlib.Tactic.Common

/-!
# Agent/Budgets — the per-request cost ceiling

`BudgetGuard` is the tally every node of one request charges: read by `checkOrRaise` before a
completion, raised by `recordCall` or `recordUsage` after it.  Money is an integer in 1e-5 USD.
-/

namespace Agent

/-- Input price in 1e-5 USD per 1,000 tokens. -/
def PRICE_IN_E5_PER_KTOK : ℕ := 300

/-- Output price in 1e-5 USD per 1,000 tokens. -/
def PRICE_OUT_E5_PER_KTOK : ℕ := 1500

/-- What two token counts cost: the products are summed first and divided once. -/
def usageCost (input_tokens output_tokens : ℕ) : ℕ :=
  (input_tokens * PRICE_IN_E5_PER_KTOK + output_tokens * PRICE_OUT_E5_PER_KTOK) / 1000

/-- The `usage` block of a response.  Either count may be missing; a missing count reads as `0`. -/
structure Usage where
  input_tokens : Option ℕ
  output_tokens : Option ℕ
  deriving DecidableEq, Repr

/-- The cost of a usage block. -/
def Usage.cost (u : Usage) : ℕ := usageCost (u.input_tokens.getD 0) (u.output_tokens.getD 0)

/-- The cost of a response: one without a usage block contributes nothing. -/
def costOf (usage : Option Usage) : ℕ := (usage.map Usage.cost).getD 0

@[simp] theorem costOf_none : costOf none = 0 := rfl

/-- **A per-request cost ceiling.**  The constructor refuses a ceiling that is not positive. -/
structure BudgetGuard where
  ceiling : ℕ
  spent : ℕ
  ceiling_pos : 0 < ceiling
  deriving DecidableEq, Repr

namespace BudgetGuard

/-- Construct a guard, refusing a ceiling that is not positive. -/
def new (ceiling_usd_e5 : ℤ) : Except String BudgetGuard :=
  if h : ceiling_usd_e5 ≤ 0 then .error s!"ceiling must be positive, got {ceiling_usd_e5}"
  else .ok ⟨ceiling_usd_e5.toNat, 0, by omega⟩

/-- Raised when cumulative spend has reached the ceiling. -/
structure BudgetExceeded where
  spent : ℕ
  ceiling : ℕ
  deriving DecidableEq, Repr

def BudgetExceeded.message (e : BudgetExceeded) : String :=
  s!"spent={e.spent} >= ceiling={e.ceiling} (1e-5 USD minor units)"

/-- **Refuse the next call if the ceiling has been reached** — `>=`, not `>`. -/
def checkOrRaise (g : BudgetGuard) : Except BudgetExceeded Unit :=
  if g.ceiling ≤ g.spent then .error ⟨g.spent, g.ceiling⟩ else .ok ()

/-- Add a token count to the tally. -/
def recordUsage (g : BudgetGuard) (input_tokens output_tokens : ℕ) : BudgetGuard :=
  { g with spent := g.spent + usageCost input_tokens output_tokens }

/-- **Add one response's cost to the tally.** -/
def recordCall (g : BudgetGuard) (usage : Option Usage) : BudgetGuard :=
  match usage with
  | none => g
  | some u => g.recordUsage (u.input_tokens.getD 0) (u.output_tokens.getD 0)

/-- The check passes exactly below the ceiling. -/
theorem checkOrRaise_eq_ok {g : BudgetGuard} : g.checkOrRaise = .ok () ↔ g.spent < g.ceiling := by
  unfold checkOrRaise
  split <;> simp <;> omega

@[simp] theorem recordCall_spent (g : BudgetGuard) (usage : Option Usage) :
    (g.recordCall usage).spent = g.spent + costOf usage := by
  cases usage <;> rfl

@[simp] theorem recordCall_ceiling (g : BudgetGuard) (usage : Option Usage) :
    (g.recordCall usage).ceiling = g.ceiling := by
  cases usage <;> rfl

end BudgetGuard

end Agent
