import Mathlib.Algebra.BigOperators.Group.List.Basic
import Mathlib.Algebra.Order.Ring.Int
import Mathlib.Data.Finset.Insert
import Mathlib.Data.Fintype.Defs
import Mathlib.Data.List.Infix
import Mathlib.Logic.Function.Basic
import TaxLiability.Agent.Budgets
import TaxLiability.Machinery.Machine

/-!
# Agent/Graph — one run of the three-node graph, as an interleaving of its coroutines

    supervisor ──▸ { retrieval_agent, api_agent } ──barrier──▸ synthesis_agent ──barrier──▸ end

A node body runs on one event loop and gives way only where it awaits, so a step of the run is the
code between two awaits: `Pc` says where a body is suspended, `Event` what the environment does to
it next.  All bodies of a run charge one `BudgetGuard`.
-/

namespace Agent

/-! ## The supervisor -/

/-- The nodes of the graph. -/
inductive Node
  | retrievalAgent
  | apiAgent
  | synthesisAgent
  deriving DecidableEq, Repr

instance : Fintype Node where
  elems := {.retrievalAgent, .apiAgent, .synthesisAgent}
  complete := fun n => by cases n <;> decide

/-- Keywords routing a question to the corpus. -/
def DOCS_KEYWORDS : List String := ["policy", "docs", "how do i", "rule", "deduction"]

/-- Keywords routing a question to the transactional tools. -/
def API_KEYWORDS : List String := ["order", "refund", "status", "ord-"]

/-- `str.lower` on one code point, as far as an ASCII keyword can see it: outside ASCII only two
code points lower to text that contains an ASCII letter. -/
def lowerChar (c : Char) : List Char :=
  if c = '\u0130' then ['i', '\u0307'] else if c = '\u212A' then ['k'] else [c.toLower]

/-- Whether any of the keywords is a substring of the lower-cased question. -/
def mentions (keywords : List String) (question : String) : Bool :=
  keywords.any fun t => decide (t.toList <:+: question.toList.flatMap lowerChar)

/-- **The fan-out plan**: one entry per worker to run, never empty. -/
def supervisor (question : String) : List Node :=
  let targets := (if mentions DOCS_KEYWORDS question then [Node.retrievalAgent] else [])
    ++ (if mentions API_KEYWORDS question then [Node.apiAgent] else [])
  if targets = [] then [Node.retrievalAgent] else targets

/-- The supervisor sends to workers only. -/
theorem synthesis_notMem_supervisor (question : String) :
    Node.synthesisAgent ∉ supervisor question := by
  unfold supervisor
  cases mentions DOCS_KEYWORDS question <;> cases mentions API_KEYWORDS question <;> simp

/-! ## The state of a run -/

/-- A completed model message: what it is billed, and what the node that awaits it reads. -/
structure Message where
  usage : Option Usage
  /-- `stop_reason == "tool_use"` -/
  tool_use : Bool
  /-- how many `tool_use` blocks the content holds -/
  blocks : ℕ
  /-- whether `FinalAnswer.model_validate` accepts the tool arguments -/
  valid : Bool
  deriving DecidableEq, Repr

/-- The provider's side of one completion: not finished, finished and billed, or finished, billed
and recorded in the guard. -/
inductive Status
  | running
  | finished (m : Message)
  | recorded (m : Message)
  deriving DecidableEq, Repr

/-- What the provider bills for a completion. -/
def Status.bill : Status → ℕ
  | .running => 0
  | .finished m | .recorded m => costOf m.usage

/-- Where a node's coroutine is suspended.  `before` is its `spent_before`. -/
inductive Pc
  /-- not routed to, or its super-step has not begun -/
  | unrouted
  /-- the task exists and has not run -/
  | scheduled
  /-- api: awaiting `open_session` and `list_tools` -/
  | connecting
  /-- awaiting completion `call`; `turn` counts the completions issued before it -/
  | completion (before turn call : ℕ)
  /-- api: awaiting `call_tool`, with `left` calls of the turn to answer -/
  | tools (before turn left : ℕ)
  /-- returned its partial state, contributing `cost_usd_e5` -/
  | returned (cost_usd_e5 : ℤ)
  /-- cut by its deadline; contributes the sentinel, which has no cost -/
  | sentinel
  /-- left with an exception, having seen `unreported` recorded since its `spent_before` -/
  | raised (unreported : ℤ)
  /-- its super-step is over -/
  | closed
  deriving DecidableEq, Repr

/-- The super-step a run is in. -/
inductive Phase
  | workers
  | synthesis
  | ended
  | failed
  deriving DecidableEq, Repr

/-- The nodes that run in a super-step. -/
def Phase.nodes : Phase → List Node
  | .workers => [.retrievalAgent, .apiAgent]
  | .synthesis => [.synthesisAgent]
  | .ended | .failed => []

/-- One run of the graph. -/
structure Run where
  guard : BudgetGuard
  /-- every completion issued so far, in order -/
  calls : List Status
  phase : Phase
  pc : Node → Pc
  /-- the `cost_usd_e5` channel: what the nodes of this run have written -/
  cost_usd_e5 : ℤ

/-- **The run a question starts**, on the request's guard. -/
def Run.start (guard : BudgetGuard) (question : String) : Run where
  guard := guard
  calls := []
  phase := .workers
  pc := fun n => if n ∈ supervisor question then .scheduled else .unrouted
  cost_usd_e5 := 0

namespace Run

/-! ## The code between two awaits -/

/-- Turns the api node gives the model to call tools. -/
def MAX_TOOL_ITERATIONS : ℕ := 5

/-- Repair attempts of the synthesis node. -/
def MAX_RETRIES : ℕ := 2

/-- Suspend node `n` at `p`. -/
def goto (r : Run) (n : Node) (p : Pc) : Run := { r with pc := Function.update r.pc n p }

/-- `guard.spent_usd_e5 - spent_before`. -/
def window (r : Run) (before : ℕ) : ℤ := (r.guard.spent : ℤ) - before

/-- **Check the ceiling, then issue a completion** — no await stands between the two. -/
def attempt (r : Run) (n : Node) (before turn : ℕ) : Run :=
  match r.guard.checkOrRaise with
  | .error _ => r.goto n (.raised (r.window before))
  | .ok () =>
    { r with calls := r.calls ++ [Status.running] }.goto n (.completion before turn r.calls.length)

/-- Return the partial state, with the spend seen since `spent_before`. -/
def finish (r : Run) (n : Node) (before : ℕ) : Run := r.goto n (.returned (r.window before))

/-- The head of the api node's `for _ in range(MAX_TOOL_ITERATIONS)`. -/
def apiTurn (r : Run) (before turn : ℕ) : Run :=
  if turn < MAX_TOOL_ITERATIONS then r.attempt .apiAgent before turn
  else r.finish .apiAgent before

/-- The first slice of a body.  Retrieval and synthesis read `spent_before` at once; the api node
first awaits its session and catalogue. -/
def beginBody (r : Run) : Node → Run
  | .apiAgent => r.goto .apiAgent .connecting
  | n => r.attempt n r.guard.spent 0

/-- The slice that follows a recorded completion. -/
def resume (r : Run) (n : Node) (before turn : ℕ) (m : Message) : Run :=
  match n with
  -- the rewrite is followed by the pipeline, which generates; the pipeline by the return
  | .retrievalAgent => if turn = 0 then r.attempt n before 1 else r.finish n before
  | .apiAgent =>
    if !m.tool_use then r.finish n before
    else if m.blocks = 0 then r.apiTurn before (turn + 1)
    else r.goto n (.tools before turn m.blocks)
  -- an answer that does not validate is repaired, `MAX_RETRIES` times, and then raised
  | .synthesisAgent =>
    if m.valid then r.finish n before
    else if turn < MAX_RETRIES then r.attempt n before (turn + 1)
    else r.goto n (.raised (r.window before))

/-- Charge a finished completion to the guard. -/
def record (r : Run) (call : ℕ) (m : Message) : Run :=
  { r with guard := r.guard.recordCall m.usage, calls := r.calls.set call (.recorded m) }

/-! ## Super-steps -/

end Run

/-- What a node writes to the `cost_usd_e5` channel: the sentinel has no such key. -/
def Pc.contribution : Pc → ℤ
  | .returned c => c
  | _ => 0

/-- A node the barrier need not wait for. -/
def Pc.settled : Pc → Bool
  | .unrouted | .returned _ | .sentinel => true
  | _ => false

def Pc.isRaised : Pc → Bool
  | .raised _ => true
  | _ => false

namespace Run

/-- End the super-step of the nodes `ns`. -/
def close (r : Run) (ns : List Node) : Run :=
  { r with pc := fun n => if n ∈ ns then .closed else r.pc n }

/-- **Apply the writes of a super-step** to the channel's reducer, `operator.add`, and go on. -/
def barrier (r : Run) : Run :=
  let written := (r.phase.nodes.map fun n => (r.pc n).contribution).sum
  let r' := { r.close r.phase.nodes with cost_usd_e5 := r.cost_usd_e5 + written }
  match r.phase with
  | .workers => { r'.goto .synthesisAgent .scheduled with phase := .synthesis }
  | _ => { r' with phase := .ended }

/-! ## Steps -/

end Run

/-- What happens next in a run.  Every choice of the environment is in the event: which body runs,
when the provider finishes, when a deadline fires. -/
inductive Event
  /-- a task gets its first slice -/
  | begin (n : Node)
  /-- the api node's session and catalogue arrive -/
  | connected
  /-- the provider finishes a completion and bills it, whether or not anybody awaits it -/
  | provider (call : ℕ) (m : Message)
  /-- the body awaiting a finished completion resumes with it -/
  | deliver (n : Node)
  /-- an MCP tool call returns -/
  | toolResult
  /-- what the body awaits raises an `Exception` -/
  | error (n : Node)
  /-- `asyncio.wait_for` cancels the body, or the body raises `TimeoutError` itself: the wrapper
  returns the sentinel -/
  | deadline (n : Node)
  /-- every task of the super-step is done -/
  | barrier
  /-- a task of the super-step has raised: the others are cancelled and the run fails -/
  | abort
  deriving DecidableEq, Repr

namespace Run

/-- **One step of a run.** -/
def step (r : Run) : Event → Option Run
  | .begin n => if r.pc n = .scheduled then some (r.beginBody n) else none
  | .connected =>
    if r.pc .apiAgent = .connecting then some (r.apiTurn r.guard.spent 0) else none
  | .provider call m =>
    match r.calls[call]? with
    | some .running => some { r with calls := r.calls.set call (.finished m) }
    | _ => none
  | .deliver n =>
    match r.pc n with
    | .completion before turn call =>
      match r.calls[call]? with
      | some (.finished m) => some ((r.record call m).resume n before turn m)
      | _ => none
    | _ => none
  | .toolResult =>
    match r.pc .apiAgent with
    | .tools before turn left =>
      if left ≤ 1 then some (r.apiTurn before (turn + 1))
      else some (r.goto .apiAgent (.tools before turn (left - 1)))
    | _ => none
  | .error n =>
    match r.pc n with
    | .connecting => some (r.goto n (.raised 0))
    | .completion before turn _ =>
      -- `rewrite_query` is best-effort: it swallows the exception and returns the question
      if n = .retrievalAgent ∧ turn = 0 then some (r.attempt n before 1)
      else some (r.goto n (.raised (r.window before)))
    | .tools before _ _ => some (r.goto n (.raised (r.window before)))
    | _ => none
  | .deadline n =>
    match r.pc n with
    | .scheduled | .connecting | .completion _ _ _ | .tools _ _ _ => some (r.goto n .sentinel)
    | _ => none
  | .barrier =>
    if r.phase.nodes ≠ [] ∧ (r.phase.nodes.all fun n => (r.pc n).settled) then some r.barrier
    else none
  | .abort =>
    if r.phase.nodes.any fun n => (r.pc n).isRaised then
      some { r.close r.phase.nodes with phase := .failed }
    else none

/-! ## What a step can do

`Slice` is everything a body can do between two awaits, `Did` everything a step can do to a run;
the facts about runs are read off these two and unfold no step function. -/

/-- Where a body can stop after a slice without having issued a completion: at a tool call, or out
of the body with the spend its window has seen. -/
def Rests (r : Run) (before : ℕ) (p : Pc) : Prop :=
  (∃ turn left, p = .tools before turn left) ∨ p = .returned (r.window before)
    ∨ p = .raised (r.window before)

/-- **What a slice of node `n`'s body can do**: issue one completion, below the ceiling, or stop
without issuing any. -/
inductive Slice (r : Run) (n : Node) (before : ℕ) : Run → Prop
  | issue (turn : ℕ) (h : r.guard.spent < r.guard.ceiling) :
      Slice r n before
        ({ r with calls := r.calls ++ [Status.running] }.goto n
          (.completion before turn r.calls.length))
  | rest (p : Pc) (h : r.Rests before p) : Slice r n before (r.goto n p)

theorem attempt_slice (r : Run) (n : Node) (before turn : ℕ) :
    Slice r n before (r.attempt n before turn) := by
  unfold attempt
  split
  · exact .rest _ (.inr (.inr rfl))
  · exact .issue turn (BudgetGuard.checkOrRaise_eq_ok.mp ‹_›)

theorem finish_slice (r : Run) (n : Node) (before : ℕ) : Slice r n before (r.finish n before) :=
  .rest _ (.inr (.inl rfl))

theorem apiTurn_slice (r : Run) (before turn : ℕ) :
    Slice r .apiAgent before (r.apiTurn before turn) := by
  unfold apiTurn
  split
  · exact attempt_slice r _ before turn
  · exact finish_slice r _ before

theorem resume_slice (r : Run) (n : Node) (before turn : ℕ) (m : Message) :
    Slice r n before (r.resume n before turn m) := by
  cases n with
  | retrievalAgent =>
    simp only [resume]
    split
    · exact attempt_slice r _ before 1
    · exact finish_slice r _ before
  | apiAgent =>
    simp only [resume]
    split
    · exact finish_slice r _ before
    · split
      · exact apiTurn_slice r before (turn + 1)
      · exact .rest _ (.inl ⟨turn, m.blocks, rfl⟩)
  | synthesisAgent =>
    simp only [resume]
    split
    · exact finish_slice r _ before
    · split
      · exact attempt_slice r _ before (turn + 1)
      · exact .rest _ (.inr (.inr rfl))

/-- **What a step can do to a run.** -/
inductive Did (r : Run) : Event → Run → Prop
  | connecting (h : r.pc .apiAgent = .scheduled) :
      Did r (.begin .apiAgent) (r.goto .apiAgent .connecting)
  | begun {n : Node} {r' : Run} (h : r.pc n = .scheduled) (hs : Slice r n r.guard.spent r') :
      Did r (.begin n) r'
  | connected {r' : Run} (h : r.pc .apiAgent = .connecting)
      (hs : Slice r .apiAgent r.guard.spent r') : Did r .connected r'
  | provider {call : ℕ} {m : Message} (h : r.calls[call]? = some .running) :
      Did r (.provider call m) { r with calls := r.calls.set call (.finished m) }
  | delivered {n : Node} {before turn call : ℕ} {m : Message} {r' : Run}
      (h : r.pc n = .completion before turn call) (hm : r.calls[call]? = some (.finished m))
      (hs : Slice (r.record call m) n before r') : Did r (.deliver n) r'
  | answered {before turn left : ℕ} {r' : Run} (h : r.pc .apiAgent = .tools before turn left)
      (hs : Slice r .apiAgent before r') : Did r .toolResult r'
  | refused {n : Node} (h : r.pc n = .connecting) : Did r (.error n) (r.goto n (.raised 0))
  | erred {n : Node} {before turn call : ℕ} {r' : Run} (h : r.pc n = .completion before turn call)
      (hs : Slice r n before r') : Did r (.error n) r'
  | toolErred {n : Node} {before turn left : ℕ} (h : r.pc n = .tools before turn left) :
      Did r (.error n) (r.goto n (.raised (r.window before)))
  | cut {n : Node} (h : r.pc n = .scheduled ∨ r.pc n = .connecting
        ∨ (∃ b t c, r.pc n = .completion b t c) ∨ ∃ b t l, r.pc n = .tools b t l) :
      Did r (.deadline n) (r.goto n .sentinel)
  | barrier (h : ∀ n ∈ r.phase.nodes, (r.pc n).settled) (hne : r.phase.nodes ≠ []) :
      Did r .barrier r.barrier
  | aborted (h : ∃ n ∈ r.phase.nodes, (r.pc n).isRaised) :
      Did r .abort { r.close r.phase.nodes with phase := .failed }

theorem did_of_step {r r' : Run} {e : Event} (h : r.step e = some r') : Did r e r' := by
  cases e with
  | begin n =>
    simp only [step, Option.ite_none_right_eq_some, Option.some.injEq] at h
    obtain ⟨hn, rfl⟩ := h
    cases n with
    | apiAgent => exact .connecting hn
    | retrievalAgent => exact .begun hn (attempt_slice r _ _ 0)
    | synthesisAgent => exact .begun hn (attempt_slice r _ _ 0)
  | connected =>
    simp only [step, Option.ite_none_right_eq_some, Option.some.injEq] at h
    obtain ⟨hn, rfl⟩ := h
    exact .connected hn (apiTurn_slice r _ 0)
  | provider call m =>
    simp only [step] at h
    split at h <;> cases h
    exact .provider ‹_›
  | deliver n =>
    simp only [step] at h
    split at h
    case h_2 => cases h
    split at h <;> cases h
    exact .delivered ‹_› ‹_› (resume_slice _ n _ _ _)
  | toolResult =>
    simp only [step] at h
    split at h
    case h_2 => cases h
    split at h <;> cases h
    · exact .answered ‹_› (apiTurn_slice r _ _)
    · exact .answered ‹_› (.rest _ (.inl ⟨_, _, rfl⟩))
  | error n =>
    simp only [step] at h
    split at h
    case h_1 => cases h; exact .refused ‹_›
    case h_2 =>
      split at h <;> cases h
      · exact .erred ‹_› (attempt_slice r n _ 1)
      · exact .erred ‹_› (.rest _ (.inr (.inr rfl)))
    case h_3 => cases h; exact .toolErred ‹_›
    case h_4 => cases h
  | deadline n =>
    simp only [step] at h
    split at h <;> cases h
    · exact .cut (.inl ‹_›)
    · exact .cut (.inr (.inl ‹_›))
    · exact .cut (.inr (.inr (.inl ⟨_, _, _, ‹_›⟩)))
    · exact .cut (.inr (.inr (.inr ⟨_, _, _, ‹_›⟩)))
  | barrier =>
    simp only [step, Option.ite_none_right_eq_some, Option.some.injEq, List.all_eq_true] at h
    obtain ⟨⟨hne, hset⟩, rfl⟩ := h
    exact .barrier hset hne
  | abort =>
    simp only [step, Option.ite_none_right_eq_some, Option.some.injEq, List.any_eq_true] at h
    obtain ⟨hr, rfl⟩ := h
    exact .aborted hr

end Run

end Agent
