import TaxLiability.Agent.Threads

/-!
# Agent/ToolCalls — what the tool calls of one visit leave in the prompt

    connecting ──▸ completing ──tool_use──▸ calling ──served, delivered──▸ … ──▸ returned
                       ▴                       │
                       └───── turn is over ────┘            any await ──deadline──▸ cut

A visit of the api node keeps each result under its tool's name, and contributes what it kept, or
the empty sentinel of its deadline; the reducer merges the contribution into what the thread had.
`nothing_lost_iff` says when every call the server completed is in the prompt.
-/

open Machine

namespace Agent.ToolCalls

variable {D V : Type}

/-- Turns the model gets to call tools inside one visit. -/
def MAX_TOOL_ITERATIONS : ℕ := 5

/-! ## The node -/

/-- A block of a completed message. -/
inductive Block
  | toolUse (name : String)
  | other
  deriving DecidableEq

/-- Where the node's coroutine is suspended. -/
inductive Pc (V : Type)
  /-- awaiting `open_session` and `list_tools` -/
  | connecting
  /-- awaiting the completion of this turn -/
  | completing (turn : ℕ)
  /-- awaiting this call, with the blocks after it still to come; `served` is the result once the
  server has completed the call -/
  | calling (turn : ℕ) (name : String) (rest : List Block) (served : Option V)
  | returned
  /-- cut by its deadline -/
  | cut
  | raised
  deriving DecidableEq

/-- One visit of the api node.  `completed` is the history of the calls the server has completed,
with their results. -/
structure Visit (V : Type) where
  pc : Pc V
  guard : BudgetGuard
  tool_results : Dict String V
  completed : List (String × V)

/-- What happens to the node next. -/
inductive Event (V : Type)
  /-- the session is open and the catalogue read -/
  | connected
  /-- the completion arrives -/
  | answered (stop_reason : String) (content : List Block) (usage : Option Usage)
  /-- the server completes the call -/
  | served (content : V)
  /-- its result arrives -/
  | delivered
  /-- the node's deadline fires -/
  | deadline
  /-- what is awaited fails -/
  | fail

namespace Visit

/-- The node as it is entered. -/
def start (guard : BudgetGuard) : Visit V := ⟨.connecting, guard, [], []⟩

/-- **The top of the loop**: leave after the last turn, else check the ceiling and ask the model. -/
def loopTop (s : Visit V) (turn : ℕ) : Visit V :=
  if MAX_TOOL_ITERATIONS ≤ turn then { s with pc := .returned }
  else match s.guard.checkOrRaise with
    | .ok _ => { s with pc := .completing turn }
    | .error _ => { s with pc := .raised }

/-- **Go on to the next tool call of the turn**, or to the next turn after the last. -/
def nextCall (s : Visit V) (turn : ℕ) : List Block → Visit V
  | [] => s.loopTop (turn + 1)
  | .toolUse name :: rest => { s with pc := .calling turn name rest none }
  | .other :: rest => s.nextCall turn rest

/-- **One step of the node.**  A visit is followed until its deadline cuts it: what the server still
completes of an abandoned call is no step here, and no visit waits for it. -/
def step (s : Visit V) : Event V → Option (Visit V)
  | .connected =>
    match s.pc with
    | .connecting => some (s.loopTop 0)
    | _ => none
  | .answered stop_reason content usage =>
    match s.pc with
    | .completing turn =>
      let s := { s with guard := s.guard.recordCall usage }
      if stop_reason = "tool_use" then some (s.nextCall turn content)
      else some { s with pc := .returned }
    | _ => none
  | .served content =>
    match s.pc with
    | .calling turn name rest none =>
      some { s with
        pc := .calling turn name rest (some content)
        completed := s.completed ++ [(name, content)] }
    | _ => none
  | .delivered =>
    match s.pc with
    | .calling turn name rest (some content) =>
      some ({ s with tool_results := s.tool_results.set name content }.nextCall turn rest)
    | _ => none
  | .deadline =>
    match s.pc with
    | .connecting | .completing _ | .calling _ _ _ _ => some { s with pc := .cut }
    | _ => none
  | .fail =>
    match s.pc with
    | .connecting | .completing _ | .calling _ _ _ _ => some { s with pc := .raised }
    | _ => none

/-- **What the visit writes to its channel**: what it kept, or the sentinel of its deadline. -/
def contribution (s : Visit V) : Option (Dict String V) :=
  match s.pc with
  | .returned => some s.tool_results
  | .cut => some []
  | _ => none

/-- **The prompt of the run**, built from the channel after the visit has written to it. -/
def prompt (s : Visit V) (state : AgentState D V) (docs : List D) : Option (Prompt D V) :=
  s.contribution.map fun tool_results => buildUserPrompt (state.gather docs tool_results)

/-! ## What the node keeps -/

/-- The result that has not arrived yet. -/
def undelivered (s : Visit V) : List (String × V) :=
  match s.pc with
  | .calling _ name _ (some content) => [(name, content)]
  | _ => []

/-- **The node keeps what has arrived**: one write per result, in the order of the calls. -/
def Keeps (s : Visit V) : Prop :=
  s.pc ≠ .cut → s.pc ≠ .raised →
    ∃ delivered, s.tool_results = Dict.merge [] delivered
      ∧ s.completed = delivered ++ s.undelivered

/-- Where nothing is awaited from the server, all that was completed has arrived. -/
theorem keeps_of_undelivered {s : Visit V} (h : s.tool_results = Dict.merge [] s.completed)
    (hu : s.undelivered = []) : s.Keeps := fun _ _ =>
  ⟨s.completed, h, by rw [hu, List.append_nil]⟩

/-- …and going on from there keeps it so. -/
theorem keeps_loopTop {s : Visit V} (h : s.tool_results = Dict.merge [] s.completed) (turn : ℕ) :
    (s.loopTop turn).Keeps := by
  unfold loopTop
  split
  · exact keeps_of_undelivered h rfl
  · split
    · exact keeps_of_undelivered h rfl
    · exact fun _ hr => absurd rfl hr

theorem keeps_nextCall {s : Visit V} (h : s.tool_results = Dict.merge [] s.completed) (turn : ℕ)
    (content : List Block) : (s.nextCall turn content).Keeps := by
  induction content with
  | nil => exact keeps_loopTop h (turn + 1)
  | cons b rest ih =>
    cases b with
    | toolUse name => exact keeps_of_undelivered h rfl
    | other => exact ih

/-- What the node keeps where it awaits something else than a result. -/
theorem Keeps.eq_merge {s : Visit V} (hs : s.Keeps) (hc : s.pc ≠ .cut) (hr : s.pc ≠ .raised)
    (hu : s.undelivered = []) : s.tool_results = Dict.merge [] s.completed := by
  obtain ⟨delivered, hd, hcomp⟩ := hs hc hr
  rw [hcomp, hu, List.append_nil, hd]

theorem keeps_start (guard : BudgetGuard) : (start guard : Visit V).Keeps :=
  keeps_of_undelivered rfl rfl

/-- **Every step keeps what has arrived.** -/
theorem keeps_step {s s' : Visit V} {e : Event V} (hs : s.Keeps) (h : s.step e = some s') :
    s'.Keeps := by
  cases e with
  | connected =>
    simp only [step] at h
    split at h <;> cases h
    case h_1 hp =>
      exact keeps_loopTop
        (hs.eq_merge (by simp [hp]) (by simp [hp]) (by simp [undelivered, hp])) 0
  | answered stop_reason content usage =>
    simp only [step] at h
    split at h
    case h_2 => cases h
    case h_1 turn hp =>
      have hm := hs.eq_merge (by simp [hp]) (by simp [hp]) (by simp [undelivered, hp])
      split at h <;> cases h
      · exact keeps_nextCall (s := { s with guard := s.guard.recordCall usage }) hm turn content
      · exact keeps_of_undelivered hm rfl
  | served content =>
    simp only [step] at h
    split at h <;> cases h
    case h_1 turn name rest hp =>
      have hm := hs.eq_merge (by simp [hp]) (by simp [hp]) (by simp [undelivered, hp])
      exact fun _ _ => ⟨s.completed, hm, rfl⟩
  | delivered =>
    simp only [step] at h
    split at h <;> cases h
    case h_1 turn name rest content hp =>
      obtain ⟨delivered, hd, hcomp⟩ := hs (by simp [hp]) (by simp [hp])
      refine keeps_nextCall ?_ turn rest
      simp only [undelivered, hp] at hcomp
      simp only [hcomp, hd, Dict.merge, List.foldl_append, List.foldl_cons, List.foldl_nil]
  | deadline =>
    simp only [step] at h
    split at h <;> cases h
    all_goals exact fun hc => absurd rfl hc
  | fail =>
    simp only [step] at h
    split at h <;> cases h
    all_goals exact fun _ hr => absurd rfl hr

/-! ## What reaches the prompt -/

/-- **Nothing is lost where**, of a visit that returned, the results of one tool are all the same,
and of one that was cut, every result stands in the thread's channel already. -/
def NothingLost (channel : Dict String V) (s : Visit V) : Prop :=
  match s.pc with
  | .returned => ∀ f ∈ s.completed, ∀ g ∈ s.completed, f.1 = g.1 → f.2 = g.2
  | .cut => ∀ f ∈ s.completed, Dict.get? channel f.1 = some f.2
  | _ => True

/-- The prompt shows, of each tool, the result that was kept last, or what the thread had. -/
theorem get?_gather_merge (state : AgentState D V) (docs : List D) (completed : List (String × V))
    (name : String) :
    Dict.get? (state.gather docs (Dict.merge [] completed)).tool_results name
      = (Dict.get? completed.reverse name).or (Dict.get? state.tool_results name) := by
  rw [AgentState.gather, mergeToolResults, Dict.get?_merge,
    (Dict.nodup_nil.merge completed).get?_reverse, Dict.get?_merge, Dict.get?_nil, Option.or_none]

/-- A tool that has answered is shown with its last result. -/
theorem get?_or_of_mem {d channel : Dict String V} {f : String × V} (h : f ∈ d) :
    (Dict.get? d f.1).or (Dict.get? channel f.1) = Dict.get? d f.1 := by
  obtain ⟨v, hv, -⟩ := Dict.exists_get?_of_mem h
  rw [hv]
  rfl

/-- **Every completed call is in the prompt, exactly where nothing is lost.** -/
theorem nothing_lost_iff (guard : BudgetGuard) (state : AgentState D V) (docs : List D)
    (es : List (Event V)) (s : Visit V) (h : exec step (start guard) es = some s) :
    (∀ p ∈ s.prompt state docs, ∀ f ∈ s.completed, Dict.get? p.tool_results f.1 = some f.2)
      ↔ s.NothingLost state.tool_results := by
  have hs : s.Keeps := exec_invariant keeps_step (keeps_start guard) h
  unfold prompt contribution NothingLost
  split
  case h_1 hp =>
    have hm := hs.eq_merge (by simp [hp]) (by simp [hp]) (by simp [undelivered, hp])
    simp only [Option.map_some, Option.mem_some_iff, forall_eq', buildUserPrompt, hm,
      get?_gather_merge]
    have hrev := Dict.forall_get?_iff (d := s.completed.reverse)
    simp only [List.mem_reverse] at hrev
    rw [← hrev]
    refine forall₂_congr fun f hf => ?_
    rw [get?_or_of_mem (List.mem_reverse.mpr hf)]
  case h_2 hp =>
    simp [buildUserPrompt, AgentState.gather, mergeToolResults, Dict.merge]
  case h_3 => simp

/-- A thread without evidence. -/
def freshThread : AgentState String String := ⟨"refund my order", "tenant-a", "t-1", [], []⟩

/-- A visit that makes these calls in one turn, each answered, and then no more. -/
def oneTurn (calls : List (String × String)) : List (Event String) :=
  .connected :: .answered "tool_use" (calls.map fun c => .toolUse c.1) none
    :: calls.flatMap (fun c => [.served c.2, .delivered]) ++ [.answered "end_turn" [] none]

/-- An order is looked up, then refunded. -/
def twoTools : List (Event String) :=
  oneTurn [("orders.get_order", "ord-1: 90.00"), ("orders.create_refund", "ref-1: 20.00")]

/-- Two orders are refunded. -/
def twoRefunds : List (Event String) :=
  oneTurn [("orders.create_refund", "ref-1: 20.00"), ("orders.create_refund", "ref-2: 35.00")]

theorem nothing_lost_twoTools :
    ∃ s, exec step (start ⟨50000, 0, by decide⟩) twoTools = some s
      ∧ s.completed =
        [("orders.get_order", "ord-1: 90.00"), ("orders.create_refund", "ref-1: 20.00")]
      ∧ ∀ p ∈ s.prompt freshThread [], ∀ f ∈ s.completed,
        Dict.get? p.tool_results f.1 = some f.2 := by
  have hrun : (exec step (start ⟨50000, 0, by decide⟩) twoTools).map (fun s => (s.pc, s.completed))
      = some (.returned,
        [("orders.get_order", "ord-1: 90.00"), ("orders.create_refund", "ref-1: 20.00")]) := by
    decide
  obtain ⟨s, hs, hvals⟩ := Option.map_eq_some_iff.mp hrun
  simp only [Prod.mk.injEq] at hvals
  obtain ⟨hpc, hcomp⟩ := hvals
  refine ⟨s, hs, hcomp, (nothing_lost_iff _ freshThread [] twoTools s hs).mpr ?_⟩
  rw [NothingLost, hpc, hcomp]
  decide

/-- **A refund is lost**: the prompt shows the second of two refunds, the first nowhere. -/
theorem first_refund_lost :
    ¬ ∀ (es : List (Event String)) (s : Visit String),
      exec step (start ⟨50000, 0, by decide⟩) es = some s →
      ∀ p ∈ s.prompt freshThread [], ∀ f ∈ s.completed,
        Dict.get? p.tool_results f.1 = some f.2 := by
  intro h
  have hrun : (exec step (start ⟨50000, 0, by decide⟩) twoRefunds).map
      (fun s => (s.prompt freshThread [], s.completed))
      = some (some ⟨"tenant-a", "refund my order", [], [("orders.create_refund", "ref-2: 35.00")]⟩,
        [("orders.create_refund", "ref-1: 20.00"), ("orders.create_refund", "ref-2: 35.00")]) := by
    decide
  obtain ⟨s, hs, hvals⟩ := Option.map_eq_some_iff.mp hrun
  simp only [Prod.mk.injEq] at hvals
  obtain ⟨hprompt, hcomp⟩ := hvals
  have hlost := h twoRefunds s hs _ hprompt ("orders.create_refund", "ref-1: 20.00")
    (hcomp ▸ List.mem_cons_self)
  exact absurd hlost (by decide)

end Visit

end Agent.ToolCalls
