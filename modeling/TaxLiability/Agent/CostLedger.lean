import Mathlib.Algebra.Order.Ring.Int
import Mathlib.Tactic.Linarith
import Mathlib.Tactic.Ring
import TaxLiability.Agent.Graph

/-!
# Agent/CostLedger — what the nodes report and what the guard was charged

A node reports `guard.spent_usd_e5 - spent_before`: everything recorded while its window was open,
whoever recorded it.  So a cost recorded with two windows open is reported twice, and what a window
has seen is reported by nobody when a deadline or an exception closes it.  `ledger_drift` says these
are the only two ways the `cost_usd_e5` channel can leave the guard.
-/

open Machine

namespace Agent

/-! ## Open windows and their credit -/

/-- Whether the body is between its `spent_before` and its return. -/
def Pc.isOpen : Pc → Bool
  | .completion _ _ _ | .tools _ _ _ => true
  | _ => false

/-- `1` for a body whose window is open. -/
def Pc.windows (p : Pc) : ℕ := if p.isOpen then 1 else 0

/-- The spend a body has seen and not yet written to the channel. -/
def Pc.credit (spent : ℕ) : Pc → ℤ
  | .completion before _ _ | .tools before _ _ => (spent : ℤ) - before
  | .returned c | .raised c => c
  | _ => 0

theorem Pc.credit_of_settled {p : Pc} (h : p.settled) (spent : ℕ) :
    p.credit spent = p.contribution := by
  cases p <;> first | rfl | cases h

/-- A node outside the current super-step: not begun or over. -/
def Pc.isIdle : Pc → Bool
  | .unrouted | .closed => true
  | _ => false

@[simp] theorem Pc.credit_of_isIdle {p : Pc} (h : p.isIdle) (spent : ℕ) : p.credit spent = 0 := by
  cases p <;> first | rfl | cases h

/-- A charge moves the credit of exactly the open windows. -/
theorem Pc.credit_add (p : Pc) (spent c : ℕ) :
    p.credit (spent + c) = p.credit spent + c * p.windows := by
  cases p <;> simp [credit, windows, isOpen] <;> ring

namespace Run

/-- The credit of all bodies. -/
def credit (r : Run) : ℤ :=
  (r.pc .retrievalAgent).credit r.guard.spent + (r.pc .apiAgent).credit r.guard.spent
    + (r.pc .synthesisAgent).credit r.guard.spent

/-- Moving one body changes the credit by that body's. -/
theorem credit_update (r r' : Run) (n : Node) (p : Pc) (hg : r'.guard = r.guard)
    (hp : r'.pc = Function.update r.pc n p) :
    r'.credit = r.credit - (r.pc n).credit r.guard.spent + p.credit r.guard.spent := by
  simp only [credit, hg, hp]
  cases n <;> simp only [Function.update_self, Function.update_of_ne, ne_eq, reduceCtorEq,
    not_false_eq_true] <;> ring

/-- **Only the nodes of the current super-step run.** -/
def Staged (r : Run) : Prop := ∀ n, n ∉ r.phase.nodes → (r.pc n).isIdle

theorem Staged.mem {r : Run} (hr : r.Staged) {n : Node} (h : (r.pc n).isIdle = false) :
    n ∈ r.phase.nodes := by
  by_contra hn
  simp [hr n hn] at h

/-- Moving a body of the current super-step keeps the super-step. -/
theorem Staged.update {r r' : Run} (hr : r.Staged) {n : Node} {p : Pc}
    (hn : n ∈ r.phase.nodes) (hph : r'.phase = r.phase)
    (hp : r'.pc = Function.update r.pc n p) : r'.Staged := by
  intro m hm
  rw [hph] at hm
  have hne : m ≠ n := fun h => hm (h ▸ hn)
  rw [hp, Function.update_of_ne hne]
  exact hr m hm

/-- A slice moves its own body, and leaves it owing exactly what its window has seen. -/
theorem Slice.moves {r r' : Run} {n : Node} {before : ℕ} (h : Slice r n before r') :
    r'.guard = r.guard ∧ r'.phase = r.phase ∧ r'.cost_usd_e5 = r.cost_usd_e5 ∧
      ∃ p, r'.pc = Function.update r.pc n p ∧ p.credit r.guard.spent = r.window before := by
  cases h with
  | issue turn _ => exact ⟨rfl, rfl, rfl, _, rfl, rfl⟩
  | rest p hp =>
    refine ⟨rfl, rfl, rfl, p, rfl, ?_⟩
    rcases hp with ⟨turn, left, rfl⟩ | rfl | rfl <;> rfl

theorem start_staged (g : BudgetGuard) (q : String) : (Run.start g q).Staged := by
  intro n hn
  cases n with
  | retrievalAgent => simp [start, Phase.nodes] at hn
  | apiAgent => simp [start, Phase.nodes] at hn
  | synthesisAgent => simp [start, synthesis_notMem_supervisor, Pc.isIdle]

@[simp] theorem start_credit (g : BudgetGuard) (q : String) : (Run.start g q).credit = 0 := by
  have h : ∀ n, ((Run.start g q).pc n).credit g.spent = 0 := by
    intro n
    simp only [start]
    split <;> rfl
  have hg : (Run.start g q).guard = g := rfl
  simp only [credit, hg, h, add_zero]

theorem Slice.staged {r r' : Run} {n : Node} {before : ℕ} (h : Slice r n before r')
    (hr : r.Staged) (hn : (r.pc n).isIdle = false) : r'.Staged := by
  obtain ⟨-, hph, -, p, hp, -⟩ := h.moves
  exact hr.update (hr.mem hn) hph hp

/-- Steps keep to the super-step. -/
theorem staged_did {r r' : Run} {e : Event} (hr : r.Staged) (hd : Did r e r') : r'.Staged := by
  cases hd with
  | connecting h => exact hr.update (hr.mem (by rw [h]; rfl)) rfl rfl
  | begun h hs => exact hs.staged hr (by rw [h]; rfl)
  | connected h hs => exact hs.staged hr (by rw [h]; rfl)
  | provider _ => exact hr
  | @delivered n before turn call m r' h _ hs =>
    have hr' : (r.record call m).Staged := hr
    exact hs.staged hr' (by change (r.pc n).isIdle = false; rw [h]; rfl)
  | answered h hs => exact hs.staged hr (by rw [h]; rfl)
  | refused h => exact hr.update (hr.mem (by rw [h]; rfl)) rfl rfl
  | erred h hs => exact hs.staged hr (by rw [h]; rfl)
  | toolErred h => exact hr.update (hr.mem (by rw [h]; rfl)) rfl rfl
  | cut h =>
    refine hr.update (hr.mem ?_) rfl rfl
    rcases h with h | h | ⟨_, _, _, h⟩ | ⟨_, _, _, h⟩ <;> rw [h] <;> rfl
  | barrier _ hne =>
    intro n hn
    cases hph : r.phase with
    | workers => cases n <;> simp_all [barrier, close, goto, Phase.nodes, Pc.isIdle]
    | synthesis =>
      by_cases hm : n ∈ r.phase.nodes
      · simp_all [barrier, close, Pc.isIdle]
      · have hi := hr n hm
        simp_all [barrier, close]
    | ended => exact absurd (by rw [hph]; rfl) hne
    | failed => exact absurd (by rw [hph]; rfl) hne
  | aborted _ =>
    intro n _
    by_cases hn : n ∈ r.phase.nodes
    · simp [close, hn, Pc.isIdle]
    · simp only [close, hn, if_false]
      exact hr n hn

theorem staged_step {r r' : Run} {e : Event} (hr : r.Staged) (h : r.step e = some r') :
    r'.Staged := staged_did hr (did_of_step h)

/-! ## What a step shares and what it forgoes -/

/-- The cost a step records in the guard. -/
def charge (r : Run) : Event → ℕ
  | .deliver n =>
    match r.pc n with
    | .completion _ _ call =>
      match r.calls[call]? with
      | some (.finished m) => costOf m.usage
      | _ => 0
    | _ => 0
  | _ => 0

/-- How many other bodies have their window open. -/
def othersOpen (r : Run) : Node → ℕ
  | .retrievalAgent => (r.pc .apiAgent).windows + (r.pc .synthesisAgent).windows
  | .apiAgent => (r.pc .retrievalAgent).windows + (r.pc .synthesisAgent).windows
  | .synthesisAgent => (r.pc .retrievalAgent).windows + (r.pc .apiAgent).windows

/-- **Spend reported again**: what the step records, once for each other open window. -/
def shared (r : Run) (e : Event) : ℤ :=
  match e with
  | .deliver n => r.charge e * r.othersOpen n
  | _ => 0

/-- **Spend reported by nobody**: what the windows a step closes without a return have seen. -/
def forgone (r : Run) : Event → ℤ
  | .deadline n => (r.pc n).credit r.guard.spent
  | .abort => r.credit
  | _ => 0

/-- Recording a completion credits every open window with it. -/
theorem record_credit (r : Run) {n : Node} (hn : (r.pc n).isOpen) (call : ℕ) (m : Message) :
    (r.record call m).credit = r.credit + costOf m.usage * (r.othersOpen n + 1) := by
  have hg : (r.record call m).guard.spent = r.guard.spent + costOf m.usage :=
    BudgetGuard.recordCall_spent _ _
  have hp : (r.record call m).pc = r.pc := rfl
  have hw : (r.pc n).windows = 1 := if_pos hn
  simp only [credit, hg, hp, Pc.credit_add]
  cases n <;> simp only [othersOpen, hw] <;> push_cast <;> ring

/-- A slice whose body owed nothing or exactly its window keeps the credit. -/
theorem Slice.credit_eq {r r' : Run} {n : Node} {before : ℕ} (h : Slice r n before r')
    (hn : (r.pc n).credit r.guard.spent = r.window before) : r'.credit = r.credit := by
  obtain ⟨hg, -, -, p, hp, hc⟩ := h.moves
  rw [credit_update r r' n p hg hp, hn, hc]
  ring

/-- All credit is with the nodes of the current super-step. -/
theorem Staged.credit_eq {r : Run} (hr : r.Staged) :
    r.credit = (r.phase.nodes.map fun n => (r.pc n).credit r.guard.spent).sum := by
  have h := hr
  cases hph : r.phase <;> simp only [Staged, hph, Phase.nodes] at h <;>
    simp [credit, Phase.nodes, Pc.credit_of_isIdle, h]

/-- Once its super-steps are over, no body has credit. -/
theorem Staged.credit_eq_zero {r : Run} (hr : r.Staged) (h : r.phase.nodes = []) :
    r.credit = 0 := by
  rw [hr.credit_eq, h]
  rfl

/-! ## The balance -/

/-- What the channel and the open windows hold beyond what the guard was charged. -/
def balance (r : Run) : ℤ := r.cost_usd_e5 + r.credit - r.guard.spent

/-- A slice keeps the balance. -/
theorem Slice.balance_eq {r r' : Run} {n : Node} {before : ℕ} (h : Slice r n before r')
    (hn : (r.pc n).credit r.guard.spent = r.window before) : r'.balance = r.balance := by
  obtain ⟨hg, -, hc, -⟩ := h.moves
  simp only [balance, h.credit_eq hn, hg, hc]

/-- So does moving a body that owes as much after as before. -/
theorem goto_balance (r : Run) (n : Node) (p : Pc)
    (hp : p.credit r.guard.spent = (r.pc n).credit r.guard.spent) :
    (r.goto n p).balance = r.balance := by
  have h := credit_update r (r.goto n p) n p rfl rfl
  rw [hp, sub_add_cancel] at h
  simp only [balance, h]
  rfl

/-- The barrier moves the credit of the returned bodies to the channel. -/
theorem barrier_balance {r : Run} (hr : r.Staged) (hr' : r.barrier.Staged)
    (h : ∀ n ∈ r.phase.nodes, (r.pc n).settled) : r.barrier.balance = r.balance := by
  have hg : r.barrier.guard = r.guard := by
    cases hph : r.phase <;> simp only [barrier, hph] <;> rfl
  have hc : r.barrier.cost_usd_e5 = r.cost_usd_e5 + r.credit := by
    have hsum : (r.phase.nodes.map fun n => (r.pc n).contribution)
        = r.phase.nodes.map fun n => (r.pc n).credit r.guard.spent :=
      List.map_congr_left fun n hn => (Pc.credit_of_settled (h n hn) _).symm
    rw [hr.credit_eq, ← hsum]
    cases hph : r.phase <;> simp only [barrier, hph]
    rfl
  have hz : r.barrier.credit = 0 := by
    rw [hr'.credit_eq]
    cases hph : r.phase
    all_goals simp [barrier, hph, Phase.nodes, goto, Pc.credit]
  simp only [balance, hg, hc, hz, add_zero]

/-- **One step**: the balance rises by what is reported again and falls by what is forgone. -/
theorem balance_did {r r' : Run} {e : Event} (hr : r.Staged) (hd : Did r e r') :
    r'.balance = r.balance + (r.shared e - r.forgone e) := by
  have hr' := staged_did hr hd
  cases hd with
  | connecting h =>
    rw [goto_balance r _ _ (by rw [h]; rfl)]
    simp [shared, forgone]
  | begun h hs =>
    rw [hs.balance_eq (by rw [h]; simp [Pc.credit, window])]
    simp [shared, forgone]
  | connected h hs =>
    rw [hs.balance_eq (by rw [h]; simp [Pc.credit, window])]
    simp [shared, forgone]
  | provider _ => simp [balance, shared, forgone, credit]
  | @delivered n before turn call m r' h hm hs =>
    have hc := record_credit r (n := n) (by rw [h]; rfl) call m
    have hp : (r.record call m).pc n = .completion before turn call := h
    have hg : (r.record call m).guard.spent = r.guard.spent + costOf m.usage :=
      BudgetGuard.recordCall_spent _ _
    have hx : r.charge (.deliver n) = costOf m.usage := by simp [charge, h, hm]
    rw [hs.balance_eq (by rw [hp]; rfl)]
    simp only [balance, hc, hg, shared, forgone, hx]
    push_cast
    change r.cost_usd_e5 + _ - _ = _
    ring
  | answered h hs =>
    rw [hs.balance_eq (by rw [h]; rfl)]
    simp [shared, forgone]
  | refused h =>
    rw [goto_balance r _ _ (by rw [h]; rfl)]
    simp [shared, forgone]
  | erred h hs =>
    rw [hs.balance_eq (by rw [h]; rfl)]
    simp [shared, forgone]
  | toolErred h =>
    rw [goto_balance r _ _ (by rw [h]; rfl)]
    simp [shared, forgone]
  | @cut n h =>
    have hcr := credit_update r (r.goto n .sentinel) n .sentinel rfl rfl
    simp only [balance, hcr, shared, forgone, Pc.credit]
    change r.cost_usd_e5 + _ - (r.guard.spent : ℤ) = _
    ring
  | barrier h hne => rw [barrier_balance hr hr' h]; simp [shared, forgone]
  | aborted h =>
    rw [balance, hr'.credit_eq_zero rfl]
    simp only [balance, shared, forgone, close]
    ring

/-- **The drift of a run**: what the channel gained beyond the guard's increase is what was reported
again less what was forgone, when the run is over. -/
theorem ledger_drift {g : BudgetGuard} {q : String} {es : List Event} {r : Run}
    (h : exec step (Run.start g q) es = some r) (hend : r.phase.nodes = []) :
    r.cost_usd_e5 - (r.guard.spent - g.spent)
      = tally step shared (Run.start g q) es - tally step forgone (Run.start g q) es := by
  have hstaged : r.Staged := exec_invariant staged_step (start_staged g q) h
  have hstep : ∀ {r r' : Run} {e : Event}, r.Staged → step r e = some r' →
      r'.balance = r.balance + (r.shared e + -r.forgone e) := fun hs he => by
    rw [balance_did hs (did_of_step he), sub_eq_add_neg]
  have hb := exec_tally balance (fun s e => shared s e + -forgone s e) staged_step hstep
    (start_staged g q) h
  have hneg : tally step (fun s e => -forgone s e) (Run.start g q) es
      = -tally step forgone (Run.start g q) es := tally_neg _ _
  have h₀ : (Run.start g q).balance = -g.spent := by
    rw [balance, start_credit]
    simp [start]
  rw [tally_add, hneg, h₀] at hb
  simp only [balance, hstaged.credit_eq_zero hend] at hb
  linarith

/-- A step that reports nothing twice and forgoes nothing: a charge falls into one window only, and
a window is closed without a return only before it has seen any. -/
def Clean (r : Run) : Event → Prop
  | .deliver n => r.charge (.deliver n) = 0 ∨ r.othersOpen n = 0
  | .deadline n => (r.pc n).credit r.guard.spent = 0
  | .abort => ∀ n, (r.pc n).credit r.guard.spent = 0
  | _ => True

instance (r : Run) : (e : Event) → Decidable (r.Clean e)
  | .deliver _ => inferInstanceAs (Decidable (_ ∨ _))
  | .deadline _ => inferInstanceAs (Decidable (_ = _))
  | .abort => inferInstanceAs (Decidable (∀ _, _ = _))
  | .begin _ | .connected | .provider _ _ | .toolResult | .error _ | .barrier =>
    inferInstanceAs (Decidable True)

theorem Clean.shared_forgone {r : Run} {e : Event} (h : r.Clean e) :
    r.shared e = 0 ∧ r.forgone e = 0 := by
  cases e with
  | deliver n =>
    refine ⟨?_, rfl⟩
    rcases h with h | h <;> simp [shared, h]
  | deadline n => exact ⟨rfl, h⟩
  | abort =>
    have hz : ∀ n, (r.pc n).credit r.guard.spent = 0 := h
    exact ⟨rfl, by simp only [forgone, credit, hz, add_zero]⟩
  | _ => exact ⟨rfl, rfl⟩

/-- **When the ledger balances.**  A run's contributions sum to the guard's increase exactly when
what is reported again makes up for what is forgone, and so whenever every step is clean. -/
theorem ledger_balances_iff (g : BudgetGuard) (q : String) (es : List Event) (r : Run)
    (h : exec step (Run.start g q) es = some r) (hend : r.phase.nodes = []) :
    (r.cost_usd_e5 = (r.guard.spent : ℤ) - g.spent
        ↔ tally step shared (Run.start g q) es = tally step forgone (Run.start g q) es)
      ∧ (Throughout step Clean (Run.start g q) es →
          r.cost_usd_e5 = (r.guard.spent : ℤ) - g.spent) := by
  have hd := ledger_drift h hend
  refine ⟨by omega, fun hc => ?_⟩
  have hs := tally_eq_zero (w := shared) (hc.mono fun h => h.shared_forgone.1)
  have hf := tally_eq_zero (w := forgone) (hc.mono fun h => h.shared_forgone.2)
  omega

/-- A completion of `n` output tokens. -/
def answer (n : ℕ) (valid : Bool) : Message := ⟨some ⟨some 0, some n⟩, false, 0, valid⟩

/-- Both workers, the api node connected when the retrieval node is done, and calling a tool; then
synthesis, whose first answer is repaired. -/
def docsRun : List Event :=
  [.begin .retrievalAgent, .begin .apiAgent, .provider 0 (answer 1000 true),
    .deliver .retrievalAgent, .provider 1 (answer 1000 true), .deliver .retrievalAgent, .connected,
    .provider 2 { answer 1000 true with tool_use := true, blocks := 1 }, .deliver .apiAgent,
    .toolResult, .provider 3 (answer 1000 true), .deliver .apiAgent, .barrier,
    .begin .synthesisAgent, .provider 4 (answer 1000 false), .deliver .synthesisAgent,
    .provider 5 (answer 1000 true), .deliver .synthesisAgent, .barrier]

theorem ledger_balances_docsRun :
    ∃ r, exec step (Run.start ⟨100000, 0, by decide⟩ "refund policy") docsRun = some r ∧
      r.guard.spent = 9000 ∧ r.cost_usd_e5 = r.guard.spent := by
  have hend : (exec step (Run.start ⟨100000, 0, by decide⟩ "refund policy") docsRun).map
      (fun r => (r.phase.nodes, r.guard.spent)) = some ([], 9000) := by decide
  obtain ⟨r, hr, hvals⟩ := Option.map_eq_some_iff.mp hend
  obtain ⟨hnodes, hspent⟩ := Prod.mk.inj hvals
  have h := (ledger_balances_iff _ _ _ r hr hnodes).2 (by decide)
  exact ⟨r, hr, hspent, by simpa using h⟩

/-- Both workers, the api node's one charge falling into both windows. -/
def bothRun : List Event :=
  [.begin .retrievalAgent, .begin .apiAgent, .connected, .provider 1 (answer 1000 true),
    .deliver .apiAgent, .provider 0 (answer 0 true), .deliver .retrievalAgent,
    .provider 2 (answer 0 true), .deliver .retrievalAgent, .barrier, .begin .synthesisAgent,
    .provider 3 (answer 0 true), .deliver .synthesisAgent, .barrier]

/-- **The ledger doubles**: one charge of 1,500, contributions of 3,000. -/
theorem ledger_doubles :
    ¬ ∀ (g : BudgetGuard) (q : String) (es : List Event) (r : Run),
      exec step (Run.start g q) es = some r → r.phase.nodes = [] →
        r.cost_usd_e5 = (r.guard.spent : ℤ) - g.spent := by
  intro h
  have hrun : (exec step (Run.start ⟨100000, 0, by decide⟩ "refund policy") bothRun).map
      (fun r => (r.phase.nodes, r.cost_usd_e5, r.guard.spent)) = some ([], 3000, 1500) := by decide
  obtain ⟨r, hr, hvals⟩ := Option.map_eq_some_iff.mp hrun
  simp only [Prod.mk.injEq] at hvals
  obtain ⟨hnodes, hcost, hspent⟩ := hvals
  have h' := h _ _ _ r hr hnodes
  rw [hcost, hspent] at h'
  exact absurd h' (by decide)

end Run

end Agent
