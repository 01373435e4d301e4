import TaxLiability.Machinery.Binary64

/-!
# Evals/CostGate — twenty scenarios, three gates, and the file a run leaves for the next

    last_run.json ──baseline──▸ run_eval ──▸ summary ──verdict──▸ trajectory, faithfulness, cost
          ▲                                    │
          └──────────── passed or not ─────────┘

The file is the baseline of the next run, whatever the verdict.  So a run that failed the cost gate
passes it when it is run again, and a run whose scenarios errored out, and so cost nothing, takes
the baseline away.  The next run is judged right, whatever it costs, exactly from the states that
are `Sound` (`unsilenced_iff`).
-/

open Rounding

namespace Evals.CostGate

/-! ## The suite -/

/-- A scenario, by what is gated of it. -/
structure Scenario where
  qid : String
  expected_nodes : List String

def docsOnly (qid : String) : Scenario := ⟨qid, ["retrieval_agent", "synthesis_agent"]⟩

def apiOnly (qid : String) : Scenario := ⟨qid, ["api_agent", "synthesis_agent"]⟩

def both (qid : String) : Scenario := ⟨qid, ["retrieval_agent", "api_agent", "synthesis_agent"]⟩

/-- **`SCENARIOS`.** -/
def SCENARIOS : List Scenario :=
  [docsOnly "docs-only-01", docsOnly "docs-only-02", docsOnly "docs-only-03",
    docsOnly "docs-only-04", docsOnly "docs-only-05", docsOnly "docs-only-06",
    docsOnly "docs-only-07", apiOnly "api-only-01", apiOnly "api-only-02", apiOnly "api-only-03",
    apiOnly "api-only-04", apiOnly "api-only-05", apiOnly "api-only-06", apiOnly "api-only-07",
    both "both-01", both "both-02", both "both-03", both "both-04", both "both-05", both "both-06"]

def TRAJECTORY_FLOOR : Float64 := .nearest (70 / 100)

def FAITHFULNESS_FLOOR : Float64 := .nearest (85 / 100)

def COST_REGRESSION_LIMIT : Float64 := .nearest (15 / 100)

/-- **`trajectory_match`**: each expected node is searched for in what remains after the one
before. -/
def trajectoryMatch : List String → List String → Bool
  | _, [] => true
  | [], _ :: _ => false
  | node :: actual, expected :: rest =>
    if node = expected then trajectoryMatch actual rest
    else trajectoryMatch actual (expected :: rest)

/-! ## A run -/

/-- **What became of a scenario**: its final state, or nothing of it. -/
inductive Outcome
  | state (visited_nodes : List String) (cost_usd_e5 : ℕ)
  | error

/-- `state.get("visited_nodes", ())`. -/
def Outcome.visited : Outcome → List String
  | .state visited_nodes _ => visited_nodes
  | .error => []

/-- `int(state.get("cost_usd_e5", 0))`. -/
def Outcome.cost : Outcome → ℕ
  | .state _ cost_usd_e5 => cost_usd_e5
  | .error => 0

/-- **A run of the suite**: what became of each scenario, what the judge scored, and whether a run
it could not score is let through. -/
structure Run where
  outcomes : List Outcome
  complete : outcomes.length = SCENARIOS.length
  faithfulness : Option Float64
  allow_unmeasured : Bool

namespace Run

/-- What each scenario cost. -/
def costs (r : Run) : List ℕ := r.outcomes.map Outcome.cost

/-- `mean_cost_usd_e5`. -/
def mean (r : Run) : ℕ := r.costs.sum / SCENARIOS.length

/-- How many scenarios ran as expected. -/
def matched (r : Run) : ℕ :=
  ((r.outcomes.zip SCENARIOS).filter fun p => trajectoryMatch p.1.visited p.2.expected_nodes).length

/-- Some scenario errored out. -/
def errored (r : Run) : Prop := .error ∈ r.outcomes

end Run

/-- **`cost_regression`**: `none` where the quotient is beyond the floats. -/
def costRegression (current_e5 baseline_e5 : ℤ) : Option Float64 :=
  if baseline_e5 ≤ 0 then some (.finite 0)
  else Float64.trueDiv (current_e5 - baseline_e5) baseline_e5

/-- A run's summary, by what the verdict and the next run read of it. -/
structure Summary where
  trajectory_match : Float64
  faithfulness : Option Float64
  mean_cost_usd_e5 : ℕ
  cost_regression : Float64

/-- **`run_eval`** over what the file holds: the summary it writes there, if it gets so far. -/
def runEval (baseline : ℕ) (r : Run) : Option Summary :=
  (costRegression r.mean baseline).map fun cost_regression =>
    { trajectory_match := .nearest (r.matched / SCENARIOS.length)
      faithfulness := r.faithfulness
      mean_cost_usd_e5 := r.mean
      cost_regression := cost_regression }

/-- What the verdict names. -/
inductive Failure
  | trajectory
  | notMeasured
  | faithfulness
  | cost
  deriving DecidableEq, Repr

/-- What the verdict says of the routing and the answers. -/
def qualityFailures (summary : Summary) (allow_unmeasured : Bool) : List Failure :=
  let traj := if Float64.lt summary.trajectory_match TRAJECTORY_FLOOR then [.trajectory] else []
  let faith := match summary.faithfulness with
    | none | some .nan => if allow_unmeasured then [] else [.notMeasured]
    | some faith => if Float64.lt faith FAITHFULNESS_FLOOR then [.faithfulness] else []
  traj ++ faith

/-- **`verdict`**: the failures of a summary. -/
def verdict (summary : Summary) (allow_unmeasured : Bool) : List Failure :=
  qualityFailures summary allow_unmeasured
    ++ if Float64.lt COST_REGRESSION_LIMIT summary.cost_regression then [.cost] else []

/-! ## A sequence of runs -/

/-- **What the runs so far come to**: what the file holds, the run before if it failed the cost
gate, whether a scenario errored out, and the mean of the last run that passed. -/
structure Past where
  baseline : ℕ
  failed : Option Run
  errored : Prop
  passing : Option ℕ

namespace Past

/-- Before any run. -/
def start (baseline : ℕ) : Past := ⟨baseline, none, False, none⟩

/-- **After one more run**: its summary is written whatever the verdict on it. -/
def after (p : Past) (r : Run) : Past :=
  match runEval p.baseline r with
  | none => { p with failed := none, errored := p.errored ∨ r.errored }
  | some summary =>
    let failures := verdict summary r.allow_unmeasured
    { baseline := summary.mean_cost_usd_e5
      failed := if .cost ∈ failures then some r else none
      errored := p.errored ∨ r.errored
      passing := if failures = [] then some summary.mean_cost_usd_e5 else p.passing }

/-- The run fails the cost gate. -/
def FailsCost (p : Past) (r : Run) : Prop :=
  ∃ summary, runEval p.baseline r = some summary ∧ .cost ∈ verdict summary r.allow_unmeasured

/-- The run passes. -/
def Passes (p : Past) (r : Run) : Prop :=
  ∃ summary, runEval p.baseline r = some summary ∧ verdict summary r.allow_unmeasured = []

end Past

/-- **One mean exceeds another by more than the limit**, as the gate measures it; above nothing,
everything does. -/
def Exceeds (current last : ℕ) : Prop :=
  if last = 0 then 0 < current
  else Float64.lt COST_REGRESSION_LIMIT (.finite (binary64.round ((current - last) / last)))

/-- **The gate is not silenced** at a run: with the costs of a run that failed it fails too, and
after a run with errors none passes that costs more than the limit above the last that passed. -/
structure Past.Judged (p : Past) (r : Run) : Prop where
  again : ∀ failed, p.failed = some failed → r.costs = failed.costs → p.FailsCost r
  errors : p.errored → ∀ last, p.passing = some last → Exceeds r.mean last → ¬ p.Passes r

/-- **…and from a state no run can silence it**: the run before did not fail the cost gate, and
past errors the file holds a mean that is something, and no more than that of the last run that
passed. -/
structure Past.Sound (p : Past) : Prop where
  failed : p.failed = none
  errors : p.errored → ∀ last, p.passing = some last → 0 < p.baseline ∧ p.baseline ≤ last

/-- What a sequence of runs comes to. -/
def past (baseline : ℕ) (rs : List Run) : Past := rs.foldl Past.after (.start baseline)

/-- **No run of the sequence silences the gate.** -/
def Unsilenced (baseline : ℕ) (rs : List Run) : Prop :=
  ∀ pre r, pre ++ [r] <+: rs → (past baseline pre).Judged r

/-! ## The limit -/

/-- The float of the limit is an odd multiple of its unit. -/
theorem limit_eq : COST_REGRESSION_LIMIT = .finite ((5404319552844595 : ℤ) * 2 ^ (-55 : ℤ)) := by
  decide +kernel

/-- **Above the limit** is what is half a unit above it. -/
theorem lt_limit_iff (q : ℚ) : Float64.lt COST_REGRESSION_LIMIT (.finite (binary64.round q)) = true
    ↔ 10808639105689191 / 72057594037927936 ≤ q := by
  have hlo : binary64.exponent ((5404319552844595 : ℤ) * 2 ^ (-55 : ℤ)) = -55 := by decide +kernel
  have hmid : binary64.exponent (((5404319552844595 : ℤ) + 1 / 2) * 2 ^ (-55 : ℤ)) = -55 := by
    decide +kernel
  have hhi : binary64.exponent (((5404319552844596 : ℤ) - 1 / 2) * 2 ^ (-55 : ℤ)) = -55 := by
    decide +kernel
  have hunit : (2 : ℚ) ^ (-55 : ℤ) = 1 / 36028797018963968 := by norm_num
  have hbase : (binary64.base : ℚ) = 2 := rfl
  rw [limit_eq, Float64.lt, decide_eq_true_iff]
  constructor
  · intro h
    by_contra hlt
    rcases le_or_gt 0 q with hq | hq
    · refine h.not_ge (Format.round_le_of_lt_half (F := binary64) (by decide) hq hlo hmid ?_)
      rw [hbase, hunit]
      push_cast
      linarith
    · have hneg := Format.round_nonneg (F := binary64) (neg_pos.mpr hq).le
      rw [Format.round_neg] at hneg
      have hpos : (0 : ℚ) < (5404319552844595 : ℤ) * 2 ^ (-55 : ℤ) := by positivity
      linarith
  · intro h
    have hq : 0 < q := lt_of_lt_of_le (by norm_num) h
    have hround := (Format.multiple_le_round_iff (F := binary64) (by decide) hq hhi).mpr (by
      rw [hbase, hunit]
      push_cast
      linarith)
    rw [hbase, hunit] at hround
    rw [hunit]
    push_cast at hround ⊢
    linarith

/-- **The limit in whole numbers.** -/
theorem exceeds_iff {current last : ℕ} : Exceeds current last
    ↔ 0 < current ∧ 82866233143617127 * last ≤ 72057594037927936 * current := by
  unfold Exceeds
  split_ifs with h
  · subst h
    simp
  · have hlast : (0 : ℚ) < last := by exact_mod_cast Nat.pos_of_ne_zero h
    rw [lt_limit_iff, le_div_iff₀ hlast]
    have hcast : 10808639105689191 / 72057594037927936 * (last : ℚ) ≤ current - last
        ↔ (82866233143617127 * last : ℚ) ≤ 72057594037927936 * current := by
      constructor <;> intro h' <;> linarith
    rw [hcast]
    constructor
    · intro h'
      have h'' : 82866233143617127 * last ≤ 72057594037927936 * current := by exact_mod_cast h'
      omega
    · intro h'
      exact_mod_cast h'.2

/-! ## One run -/

/-- Over nothing there is no regression. -/
theorem costRegression_zero (current : ℤ) : costRegression current 0 = some (.finite 0) := rfl

theorem lt_limit_zero : Float64.lt COST_REGRESSION_LIMIT (.finite 0) = false := by decide +kernel

/-- What is no more than the limit above a mean has a float. -/
theorem costRegression_of_not_exceeds {current baseline : ℕ} (hpos : 0 < baseline)
    (h : ¬ Exceeds current baseline) : costRegression current baseline
      = some (.finite (binary64.round ((current - baseline) / baseline))) := by
  have hbaseline : (0 : ℚ) < baseline := by exact_mod_cast hpos
  have hlow : (-1 : ℚ) ≤ (current - baseline) / baseline := by
    rw [le_div_iff₀ hbaseline]
    have hcurrent : (0 : ℚ) ≤ current := Nat.cast_nonneg _
    linarith
  have hhigh : ((current : ℚ) - baseline) / baseline ≤ 1 := by
    rw [Exceeds, if_neg hpos.ne', lt_limit_iff, not_le] at h
    refine h.le.trans (by norm_num)
  have hround := (Float64.abs_round_lt_iff _).mpr
    ((abs_le.mpr ⟨hlow, hhigh⟩).trans_lt Float64.one_lt_limit)
  rw [costRegression, if_neg (by omega), Float64.trueDiv]
  push_cast
  rw [if_pos hround]

/-- **The cost gate is passed** over nothing, and by what is not above the limit. -/
theorem exists_costRegression_iff {current baseline : ℕ} :
    (∃ x, costRegression current baseline = some x ∧ Float64.lt COST_REGRESSION_LIMIT x = false)
      ↔ baseline = 0 ∨ ¬ Exceeds current baseline := by
  rcases Nat.eq_zero_or_pos baseline with rfl | hpos
  · exact iff_of_true ⟨_, costRegression_zero _, lt_limit_zero⟩ (.inl rfl)
  rw [or_iff_right hpos.ne']
  constructor
  · rintro ⟨x, hx, hlt⟩ hexceeds
    rw [costRegression, if_neg (by omega), Float64.trueDiv] at hx
    push_cast at hx
    rw [Exceeds, if_neg hpos.ne'] at hexceeds
    split_ifs at hx
    cases hx
    rw [hexceeds] at hlt
    cases hlt
  · intro h
    refine ⟨_, costRegression_of_not_exceeds hpos h, ?_⟩
    rw [Exceeds, if_neg hpos.ne'] at h
    exact Bool.not_eq_true _ ▸ h

theorem cost_notMem_qualityFailures (summary : Summary) (allow_unmeasured : Bool) :
    .cost ∉ qualityFailures summary allow_unmeasured := by
  unfold qualityFailures
  dsimp only
  split <;> split <;> split <;> simp

/-- The cost is among the failures of a summary exactly above the limit. -/
theorem cost_mem_verdict {summary : Summary} {allow_unmeasured : Bool} :
    .cost ∈ verdict summary allow_unmeasured
      ↔ Float64.lt COST_REGRESSION_LIMIT summary.cost_regression = true := by
  rw [verdict, List.mem_append, or_iff_right (cost_notMem_qualityFailures _ _)]
  split_ifs with h <;> simp [h]

/-- What fails the cost gate costs something. -/
theorem Past.FailsCost.pos {p : Past} {r : Run} (h : p.FailsCost r) : 0 < r.mean := by
  obtain ⟨summary, hrun, hcost⟩ := h
  obtain ⟨x, hx, rfl⟩ := Option.map_eq_some_iff.mp hrun
  rw [cost_mem_verdict] at hcost
  by_contra hmean
  have hwithin : p.baseline = 0 ∨ ¬ Exceeds r.mean p.baseline :=
    .inr fun hexceeds => hmean (exceeds_iff.mp hexceeds).1
  obtain ⟨y, hy, hlt⟩ := exists_costRegression_iff.mpr hwithin
  cases hx.symm.trans hy
  rw [hlt] at hcost
  cases hcost

/-- **What passes** does not exceed what the file holds, if that is something. -/
theorem Past.Passes.not_exceeds {p : Past} {r : Run} (h : p.Passes r) :
    p.baseline = 0 ∨ ¬ Exceeds r.mean p.baseline := by
  obtain ⟨summary, hrun, hnone⟩ := h
  obtain ⟨x, hx, rfl⟩ := Option.map_eq_some_iff.mp hrun
  refine exists_costRegression_iff.mp ⟨x, hx, Bool.eq_false_iff.mpr fun hlt => ?_⟩
  rw [verdict, if_pos hlt] at hnone
  exact absurd hnone (by simp)

/-! ## A run of any cost -/

/-- **A run that goes as expected**, all of its cost at the first scenario. -/
def costing (mean : ℕ) : Run where
  outcomes := .state ["retrieval_agent", "synthesis_agent"] (SCENARIOS.length * mean)
    :: SCENARIOS.tail.map fun s => .state s.expected_nodes 0
  complete := rfl
  faithfulness := some (.finite 1)
  allow_unmeasured := false

@[simp] theorem mean_costing (mean : ℕ) : (costing mean).mean = mean := by
  have hsum : (costing mean).costs.sum = SCENARIOS.length * mean := by
    simp [Run.costs, costing, Outcome.cost, SCENARIOS]
  rw [Run.mean, hsum, Nat.mul_div_cancel_left mean (by decide)]

theorem matched_costing (mean : ℕ) : (costing mean).matched = SCENARIOS.length := rfl

/-- Its routing and its answers are right. -/
theorem qualityFailures_costing (mean : ℕ) (cost_regression : Float64) :
    qualityFailures
      { trajectory_match := .nearest ((costing mean).matched / SCENARIOS.length)
        faithfulness := (costing mean).faithfulness
        mean_cost_usd_e5 := (costing mean).mean
        cost_regression := cost_regression } (costing mean).allow_unmeasured = [] := by
  have htraj : Float64.lt (.nearest ((SCENARIOS.length : ℚ) / SCENARIOS.length)) TRAJECTORY_FLOOR
      = false := by decide +kernel
  have hfaith : Float64.lt (.finite 1) FAITHFULNESS_FLOOR = false := by decide +kernel
  rw [qualityFailures, matched_costing, htraj]
  simp only [costing, hfaith]
  rfl

/-- **It passes** over nothing, and what it does not exceed. -/
theorem passes_costing {p : Past} {mean : ℕ} (h : p.baseline = 0 ∨ ¬ Exceeds mean p.baseline) :
    p.Passes (costing mean) := by
  obtain ⟨x, hx, hlt⟩ := exists_costRegression_iff.mpr h
  refine ⟨_, Option.map_eq_some_iff.mpr ⟨x, by rwa [mean_costing], rfl⟩, ?_⟩
  rw [verdict, qualityFailures_costing]
  simp [hlt]

/-! ## Sequences -/

theorem past_append (baseline : ℕ) (rs : List Run) (r : Run) :
    past baseline (rs ++ [r]) = (past baseline rs).after r := by
  rw [past, List.foldl_append]
  rfl

theorem Past.errored_after (p : Past) (r : Run) : (p.after r).errored ↔ p.errored ∨ r.errored := by
  unfold after
  split <;> rfl

/-- **A run that failed the cost gate** is the baseline of the next. -/
theorem Past.baseline_of_failed {p : Past} {r failed : Run} (h : (p.after r).failed = some failed) :
    failed = r ∧ p.FailsCost r ∧ (p.after r).baseline = r.mean := by
  unfold after at h ⊢
  cases hrun : runEval p.baseline r with
  | none => simp [hrun] at h
  | some summary =>
    simp only [hrun, Option.ite_none_right_eq_some, Option.some.injEq] at h ⊢
    obtain ⟨hcost, rfl⟩ := h
    obtain ⟨x, -, hsummary⟩ := Option.map_eq_some_iff.mp hrun
    exact ⟨rfl, ⟨summary, hrun, hcost⟩, hsummary ▸ rfl⟩

/-- …and cost something. -/
theorem baseline_of_failed {baseline : ℕ} {rs : List Run} {failed : Run}
    (h : (past baseline rs).failed = some failed) :
    (past baseline rs).baseline = failed.mean ∧ 0 < failed.mean := by
  rcases List.eq_nil_or_concat rs with rfl | ⟨rs, r, rfl⟩
  · cases h
  · rw [List.concat_eq_append, past_append] at h ⊢
    obtain ⟨rfl, hfails, hbaseline⟩ := Past.baseline_of_failed h
    exact ⟨hbaseline, hfails.pos⟩

/-- A mean does not exceed itself. -/
theorem not_exceeds_self {mean : ℕ} (h : 0 < mean) : ¬ Exceeds mean mean := by
  rw [exceeds_iff]
  omega

/-- **From a sound state every run is judged right.** -/
theorem Past.Sound.judged {p : Past} (h : p.Sound) (r : Run) : p.Judged r where
  again failed hfailed := by
    rw [h.failed] at hfailed
    cases hfailed
  errors herrored last hlast hexceeds hpasses := by
    obtain ⟨hpos, hle⟩ := h.errors herrored last hlast
    rcases hpasses.not_exceeds with hzero | hnot
    · exact hpos.ne' hzero
    · obtain ⟨hmean, hlimit⟩ := exceeds_iff.mp hexceeds
      exact hnot (exceeds_iff.mpr ⟨hmean, by omega⟩)

/-- **Run again**, a run that failed passes. -/
theorem not_judged_again {baseline : ℕ} {rs : List Run} {failed : Run}
    (h : (past baseline rs).failed = some failed) : ¬ (past baseline rs).Judged failed := by
  intro hjudged
  obtain ⟨hbaseline, hpos⟩ := baseline_of_failed h
  obtain ⟨summary, hrun, hcost⟩ := hjudged.again failed h rfl
  obtain ⟨x, hx, rfl⟩ := Option.map_eq_some_iff.mp hrun
  obtain ⟨y, hy, hlt⟩ := exists_costRegression_iff.mpr (.inr (not_exceeds_self hpos))
  rw [hbaseline] at hx
  cases hx.symm.trans hy
  rw [cost_mem_verdict, hlt] at hcost
  cases hcost

/-- **Past a file that holds nothing, or more** than the last run that passed, some run passes that
exceeds it. -/
theorem exists_passes_exceeds {baseline last : ℕ} (h : ¬ (0 < baseline ∧ baseline ≤ last)) :
    ∃ mean, Exceeds mean last ∧ (baseline = 0 ∨ ¬ Exceeds mean baseline) := by
  rcases Nat.eq_zero_or_pos baseline with h₀ | h₀
  · refine ⟨2 * last + 1, exceeds_iff.mpr ?_, .inl h₀⟩
    omega
  · -- the largest mean that the file's lets pass
    refine ⟨(82866233143617127 * baseline - 1) / 72057594037927936, exceeds_iff.mpr ?_, .inr ?_⟩
    · omega
    · rw [exceeds_iff]
      omega

/-- **Every run is judged right** exactly from a sound state. -/
theorem judged_iff (baseline : ℕ) (rs : List Run) :
    (∀ r, (past baseline rs).Judged r) ↔ (past baseline rs).Sound := by
  refine ⟨fun h => ⟨?_, fun herrored last hlast => ?_⟩, Past.Sound.judged⟩
  · by_contra hne
    obtain ⟨failed, hfailed⟩ := Option.ne_none_iff_exists'.mp hne
    exact not_judged_again hfailed (h failed)
  · by_contra hnot
    obtain ⟨mean, hexceeds, hwithin⟩ := exists_passes_exceeds hnot
    exact (h (costing mean)).errors herrored last hlast (by rwa [mean_costing])
      (passes_costing hwithin)

/-- A sequence goes on without silencing the gate if its last run does not. -/
theorem unsilenced_append {baseline : ℕ} {rs : List Run} {r : Run} :
    Unsilenced baseline (rs ++ [r]) ↔ Unsilenced baseline rs ∧ (past baseline rs).Judged r := by
  constructor
  · intro h
    exact ⟨fun pre r' hpre => h pre r' (hpre.trans (List.prefix_append _ _)),
      h rs r List.prefix_rfl⟩
  · rintro ⟨h, hr⟩ pre r' hpre
    rcases List.prefix_concat_iff.mp hpre with heq | hpre
    · obtain ⟨rfl, hlast⟩ := List.append_inj' heq rfl
      obtain rfl : r' = r := by simpa using hlast
      exact hr
    · exact h pre r' hpre

/-- **A sequence of runs cannot be gone on with, from any of its states, so as to silence the
gate** exactly if all of these are sound. -/
theorem unsilenced_iff (baseline : ℕ) (rs : List Run) :
    (∀ pre, pre <+: rs → ∀ r, Unsilenced baseline (pre ++ [r]))
      ↔ ∀ pre, pre <+: rs → (past baseline pre).Sound := by
  constructor
  · intro h pre hpre
    exact (judged_iff baseline pre).mp fun r => (unsilenced_append.mp (h pre hpre r)).2
  · intro h pre hpre
    induction pre using List.reverseRecOn with
    | nil =>
      intro r
      refine unsilenced_append.mpr ⟨fun pre r' hnil => ?_, (h [] hpre).judged r⟩
      exact absurd (List.prefix_nil.mp hnil) (by simp)
    | append_singleton pre last ih =>
      intro r
      have hshort : pre <+: rs := (List.prefix_append pre [last]).trans hpre
      exact unsilenced_append.mpr ⟨ih hshort last, (h _ hpre).judged r⟩

/-- Nothing of the suite ran. -/
def outage : Run := ⟨SCENARIOS.map fun _ => .error, rfl, some (.finite 1), false⟩

/-- **Run it again, or lose a run**: over the committed baseline a run at twice the cost fails the
gate and then passes it, and past a run in which nothing ran one at ten times the cost passes. -/
theorem silenced : ¬ Unsilenced 508 [costing 1016, costing 1016]
    ∧ ¬ Unsilenced 508 [costing 508, outage, costing 5080] := by
  constructor
  · intro h
    have hfailed : ((past 508 [costing 1016]).failed).isSome = true := by decide +kernel
    obtain ⟨failed, hf⟩ := Option.isSome_iff_exists.mp hfailed
    obtain ⟨rfl, -⟩ := Past.baseline_of_failed hf
    exact not_judged_again hf (h [costing 1016] _ List.prefix_rfl)
  · intro h
    have hpassing : (past 508 [costing 508, outage]).passing = some 508 := by decide +kernel
    have hbaseline : (past 508 [costing 508, outage]).baseline = 0 := by decide +kernel
    have herrored : (past 508 [costing 508, outage]).errored :=
      (Past.errored_after (past 508 [costing 508]) outage).mpr (.inr (List.mem_cons_self ..))
    have hexceeds : Exceeds (costing 5080).mean 508 := by
      rw [mean_costing, exceeds_iff]
      decide
    exact (h [costing 508, outage] _ List.prefix_rfl).errors herrored 508 hpassing hexceeds
      (passes_costing (.inl hbaseline))

end Evals.CostGate
