import TaxLiability.Agent.Graph
import TaxLiability.Machinery.Dict

/-!
# Agent/Threads — what one chat request leaves for the next on its thread

    chat ──restore──▸ working ──gather──▸ gathered ──prompt──▸ synthesis_agent
               ▴          └──────checkpoint──────┐
               └──────── latest by thread_id ◂───┘

A request restores the last state stored under its thread id, overwrites question and tenant in it,
and adds to the documents and tool results already there.  The store is keyed by the thread id
alone, so what a request restores may be another tenant's: `prompt_separated` is the condition under
which it is not.  Documents and tool results are of any types.
-/

open Machine

namespace Agent

variable {D V : Type}

/-! ## The state of a thread -/

/-- The slots of the graph's state that outlive a request or reach the prompt. -/
structure AgentState (D V : Type) where
  question : String
  tenant_id : String
  thread_id : String
  docs : List D
  tool_results : Dict String V
  deriving DecidableEq

/-- The reducer of `tool_results`: key by key, the last write winning. -/
def mergeToolResults (old new : Dict String V) : Dict String V := Dict.merge old new

/-- What the worker super-step of a request wrote, for which tenant. -/
structure Contribution (D V : Type) where
  tenant_id : String
  docs : List D
  tool_results : Dict String V
  deriving DecidableEq

/-- The evidence a synthesis prompt shows. -/
structure Prompt (D V : Type) where
  tenant_id : String
  question : String
  docs : List D
  tool_results : Dict String V
  deriving DecidableEq

/-- **Render the state for the model**: its tenant, its question and all its evidence. -/
def buildUserPrompt (state : AgentState D V) : Prompt D V :=
  ⟨state.tenant_id, state.question, state.docs, state.tool_results⟩

namespace AgentState

/-- **The state a request starts from**: its inputs written over what was restored. -/
def restore (stored : Option (AgentState D V)) (question tenant_id thread_id : String) :
    AgentState D V where
  question := question
  tenant_id := tenant_id
  thread_id := thread_id
  docs := (stored.map docs).getD []
  tool_results := (stored.map tool_results).getD []

/-- Apply the writes of the worker super-step: documents are appended, tool results merged. -/
def gather (state : AgentState D V) (docs : List D) (tool_results : Dict String V) :
    AgentState D V :=
  { state with
    docs := state.docs ++ docs
    tool_results := mergeToolResults state.tool_results tool_results }

end AgentState

/-! ## The service -/

/-- How far a running request has come. -/
inductive Stage
  | working
  | gathered
  | prompted
  deriving DecidableEq, Repr

/-- **The service**: one checkpointer and any number of running requests.  `contributed` and
`prompts` are the history of the workers' writes and of the prompts built. -/
structure Service (D V : Type) where
  checkpoints : String → Option (AgentState D V)
  requests : ℕ → Option (AgentState D V × Stage)
  contributed : List (Contribution D V)
  prompts : List (Prompt D V)

/-- What happens next in the service. -/
inductive ServiceEvent (D V : Type)
  /-- request `i` arrives, with a thread id of its caller's choice -/
  | chat (i : ℕ) (question tenant_id thread_id : String)
  /-- the worker super-step of request `i` ends with these writes -/
  | gather (i : ℕ) (docs : List D) (tool_results : Dict String V)
  /-- the checkpointer stores the state of request `i` under its thread id -/
  | checkpoint (i : ℕ)
  /-- the synthesis node of request `i` renders its prompt -/
  | prompt (i : ℕ)
  /-- request `i` ends, or fails, or its client hangs up -/
  | drop (i : ℕ)

namespace Service

/-- A fresh service. -/
def start : Service D V := ⟨fun _ => none, fun _ => none, [], []⟩

/-- Put request `i` at a state. -/
def put (s : Service D V) (i : ℕ) (r : Option (AgentState D V × Stage)) : Service D V :=
  { s with requests := Function.update s.requests i r }

theorem put_requests_self (s : Service D V) (i : ℕ) (r : Option (AgentState D V × Stage)) :
    (s.put i r).requests i = r := Function.update_self _ _ _

theorem put_requests_ne (s : Service D V) {i j : ℕ} (r : Option (AgentState D V × Stage))
    (h : j ≠ i) : (s.put i r).requests j = s.requests j := Function.update_of_ne h _ _

/-- **One step of the service.**  A worker writes only if the supervisor sends to it. -/
def step (s : Service D V) : ServiceEvent D V → Option (Service D V)
  | .chat i question tenant_id thread_id =>
    match s.requests i with
    | none =>
      some (s.put i (some
        (.restore (s.checkpoints thread_id) question tenant_id thread_id, .working)))
    | some _ => none
  | .gather i docs tool_results =>
    match s.requests i with
    | some (state, .working) =>
      if (docs.isEmpty ∨ .retrievalAgent ∈ supervisor state.question)
          ∧ (tool_results.isEmpty ∨ .apiAgent ∈ supervisor state.question) then
        some { s.put i (some (state.gather docs tool_results, .gathered)) with
          contributed := ⟨state.tenant_id, docs, tool_results⟩ :: s.contributed }
      else none
    | _ => none
  | .checkpoint i =>
    match s.requests i with
    | some (state, _) =>
      some { s with checkpoints := Function.update s.checkpoints state.thread_id (some state) }
    | none => none
  | .prompt i =>
    match s.requests i with
    | some (state, .gathered) =>
      some { s.put i (some (state, .prompted)) with
        prompts := buildUserPrompt state :: s.prompts }
    | _ => none
  | .drop i => some (s.put i none)

/-! ## Whose evidence it is -/

/-- Every document and tool result was contributed for `tenant_id`. -/
structure Owned (log : List (Contribution D V)) (tenant_id : String) (docs : List D)
    (tool_results : Dict String V) : Prop where
  docs : ∀ d ∈ docs, ∃ c ∈ log, c.tenant_id = tenant_id ∧ d ∈ c.docs
  tool_results : ∀ f ∈ tool_results, ∃ c ∈ log, c.tenant_id = tenant_id ∧ f ∈ c.tool_results

theorem Owned.mono {log log' : List (Contribution D V)} {t : String} {docs : List D}
    {results : Dict String V} (h : Owned log t docs results) (hl : log ⊆ log') :
    Owned log' t docs results where
  docs := fun d hd => by
    obtain ⟨c, hc, hx⟩ := h.docs d hd
    exact ⟨c, hl hc, hx⟩
  tool_results := fun f hf => by
    obtain ⟨c, hc, hx⟩ := h.tool_results f hf
    exact ⟨c, hl hc, hx⟩

theorem owned_nil (log : List (Contribution D V)) (t : String) : Owned log t [] [] :=
  ⟨fun _ h => absurd h List.not_mem_nil, fun _ h => absurd h List.not_mem_nil⟩

/-- The reducers keep ownership: what they yield was there or has just been contributed. -/
theorem Owned.gather {log : List (Contribution D V)} {state : AgentState D V}
    (h : Owned log state.tenant_id state.docs state.tool_results) (docs : List D)
    (results : Dict String V) :
    Owned (⟨state.tenant_id, docs, results⟩ :: log) (state.gather docs results).tenant_id
      (state.gather docs results).docs (state.gather docs results).tool_results where
  docs := fun d hd => by
    rcases List.mem_append.mp hd with hd | hd
    · exact (h.mono (List.subset_cons_self _ _)).docs d hd
    · exact ⟨_, List.mem_cons_self, rfl, hd⟩
  tool_results := fun f hf => by
    rcases Dict.mem_merge hf with hf | hf
    · exact (h.mono (List.subset_cons_self _ _)).tool_results f hf
    · exact ⟨_, List.mem_cons_self, rfl, hf⟩

/-- **Nothing has crossed a tenant**: all that is stored, all that is running and every prompt shows
evidence of its own tenant's requests. -/
structure Separated (s : Service D V) : Prop where
  stored : ∀ thread_id state, s.checkpoints thread_id = some state →
    Owned s.contributed state.tenant_id state.docs state.tool_results
  running : ∀ i state stage, s.requests i = some (state, stage) →
    Owned s.contributed state.tenant_id state.docs state.tool_results
  prompts : ∀ p ∈ s.prompts, Owned s.contributed p.tenant_id p.docs p.tool_results

theorem start_separated : (start : Service D V).Separated where
  stored := nofun
  running := nofun
  prompts := fun _ h => absurd h List.not_mem_nil

/-- Putting a request at an owned state, or dropping it, separates as before. -/
theorem Separated.put {s : Service D V} (hs : s.Separated) (i : ℕ)
    {r : Option (AgentState D V × Stage)}
    (h : ∀ state stage, r = some (state, stage) →
      Owned s.contributed state.tenant_id state.docs state.tool_results) :
    (s.put i r).Separated where
  stored := hs.stored
  running := fun j state stage hj => by
    by_cases hij : j = i
    · subst hij
      rw [put_requests_self] at hj
      exact h state stage hj
    · rw [put_requests_ne s r hij] at hj
      exact hs.running j state stage hj
  prompts := hs.prompts

/-- Contributions only widen what is owned. -/
theorem Separated.log {s : Service D V} (hs : s.Separated) (c : Contribution D V) :
    Separated { s with contributed := c :: s.contributed } where
  stored := fun θ state h => (hs.stored θ state h).mono (List.subset_cons_self _ _)
  running := fun i state stage h => (hs.running i state stage h).mono (List.subset_cons_self _ _)
  prompts := fun p h => (hs.prompts p h).mono (List.subset_cons_self _ _)

/-- **A request opened within its tenant**: the state stored under its thread id is its tenant's, or
holds no evidence. -/
def Scoped (s : Service D V) : ServiceEvent D V → Prop
  | .chat _ _ tenant_id thread_id => (s.checkpoints thread_id).all fun state =>
      state.tenant_id = tenant_id || (state.docs.isEmpty && state.tool_results.isEmpty)
  | _ => True

instance (s : Service D V) : (e : ServiceEvent D V) → Decidable (s.Scoped e)
  | .chat _ _ _ _ => inferInstanceAs (Decidable (_ = true))
  | .gather _ _ _ | .checkpoint _ | .prompt _ | .drop _ => inferInstanceAs (Decidable True)

/-- What a request opened within its tenant restores is its tenant's. -/
theorem Separated.restore {s : Service D V} (hs : s.Separated) {i : ℕ}
    {question tenant_id thread_id : String}
    (hc : s.Scoped (.chat i question tenant_id thread_id)) :
    Owned s.contributed tenant_id
      (AgentState.restore (s.checkpoints thread_id) question tenant_id thread_id).docs
      (AgentState.restore (s.checkpoints thread_id) question tenant_id thread_id).tool_results := by
  rcases hst : s.checkpoints thread_id with _ | state
  · exact owned_nil _ _
  · have hown := hs.stored thread_id state hst
    simp only [Scoped, hst, Option.all_some, Bool.or_eq_true, decide_eq_true_eq, Bool.and_eq_true,
      List.isEmpty_iff] at hc
    rcases hc with hc | ⟨hd, hr⟩
    · rw [← hc]
      exact hown
    · simp only [AgentState.restore, Option.map_some, Option.getD_some, hd, hr]
      exact owned_nil _ _

/-- **A step within tenants keeps them apart.** -/
theorem separated_step {s s' : Service D V} {e : ServiceEvent D V} (hc : s.Scoped e)
    (hs : s.Separated) (h : s.step e = some s') : s'.Separated := by
  cases e with
  | chat i question tenant_id thread_id =>
    simp only [step] at h
    split at h <;> cases h
    refine hs.put i fun state stage hr => ?_
    cases hr
    exact hs.restore hc
  | gather i docs results =>
    simp only [step] at h
    split at h
    case h_2 => cases h
    case h_1 state hi =>
      split at h <;> cases h
      have hown := (hs.running i state _ hi).gather docs results
      refine (hs.log ⟨state.tenant_id, docs, results⟩).put i fun state' stage hr => ?_
      cases hr
      exact hown
  | checkpoint i =>
    simp only [step] at h
    split at h <;> cases h
    case h_1 state stage hi =>
      refine ⟨fun θ st hst => ?_, hs.running, hs.prompts⟩
      obtain ⟨rfl, h⟩ | ⟨-, h⟩ := update_eq_some_iff.mp hst
      · cases h
        exact hs.running i state stage hi
      · exact hs.stored θ st h
  | prompt i =>
    simp only [step] at h
    split at h <;> cases h
    case h_1 state hi =>
      have hown := hs.running i state _ hi
      have hput := hs.put i (r := some (state, .prompted)) fun state' stage hr => by
        cases hr
        exact hown
      refine ⟨hput.stored, hput.running, fun p hp => ?_⟩
      rcases List.mem_cons.mp hp with rfl | hp
      · exact hown
      · exact hs.prompts p hp
  | drop i =>
    simp only [step, Option.some.injEq] at h
    subst h
    exact hs.put i fun _ _ hr => nomatch hr

/-- **No conversation crosses a tenant.**  Where each request is opened on a thread of its own
tenant, or on one without evidence, every prompt shows only what requests of its tenant have
contributed. -/
theorem prompt_separated (es : List (ServiceEvent D V)) (s : Service D V)
    (h : exec step start es = some s) (hc : Throughout step Scoped start es) :
    ∀ p ∈ s.prompts, (∀ d ∈ p.docs, ∃ c ∈ s.contributed, c.tenant_id = p.tenant_id ∧ d ∈ c.docs)
      ∧ ∀ f ∈ p.tool_results,
          ∃ c ∈ s.contributed, c.tenant_id = p.tenant_id ∧ f ∈ c.tool_results := by
  intro p hp
  have hown := (exec_invariant_of_throughout separated_step hc start_separated h).prompts p hp
  exact ⟨hown.docs, hown.tool_results⟩

/-- Two requests of one tenant on one thread, the second grounded in the first's document. -/
def sameTenant : List (ServiceEvent String String) :=
  [.chat 0 "tax policy" "tenant-a" "t-1", .gather 0 ["chunk-a-p0"] [], .checkpoint 0, .prompt 0,
    .drop 0, .chat 1 "and the rule?" "tenant-a" "t-1", .gather 1 ["chunk-a-p1"] [], .prompt 1]

theorem prompt_separated_sameTenant :
    ∃ s, exec step start sameTenant = some s ∧ s.prompts.map Prompt.docs
        = [["chunk-a-p0", "chunk-a-p1"], ["chunk-a-p0"]]
      ∧ ∀ p ∈ s.prompts, ∀ d ∈ p.docs,
          ∃ c ∈ s.contributed, c.tenant_id = p.tenant_id ∧ d ∈ c.docs := by
  have hrun : (exec step start sameTenant).map (fun s => s.prompts.map Prompt.docs)
      = some [["chunk-a-p0", "chunk-a-p1"], ["chunk-a-p0"]] := by decide
  obtain ⟨s, hs, hdocs⟩ := Option.map_eq_some_iff.mp hrun
  have h := prompt_separated sameTenant s hs (by decide)
  exact ⟨s, hs, hdocs, fun p hp => (h p hp).1⟩

/-- Another tenant's request on the same thread id. -/
def otherTenant : List (ServiceEvent String String) :=
  [.chat 0 "tax policy" "tenant-a" "t-1", .gather 0 ["chunk-a-p0"] [], .checkpoint 0, .prompt 0,
    .drop 0, .chat 1 "tax policy" "tenant-b" "t-1", .gather 1 [] [], .prompt 1]

/-- **A document crosses**: the prompt of `tenant-b` shows what only `tenant-a` has contributed. -/
theorem prompt_crosses :
    ¬ ∀ (es : List (ServiceEvent String String)) (s : Service String String),
      exec step start es = some s → ∀ p ∈ s.prompts,
        (∀ d ∈ p.docs, ∃ c ∈ s.contributed, c.tenant_id = p.tenant_id ∧ d ∈ c.docs)
        ∧ ∀ f ∈ p.tool_results,
            ∃ c ∈ s.contributed, c.tenant_id = p.tenant_id ∧ f ∈ c.tool_results := by
  intro h
  have hrun : (exec step start otherTenant).map (fun s => (s.prompts, s.contributed))
      = some ([⟨"tenant-b", "tax policy", ["chunk-a-p0"], []⟩,
          ⟨"tenant-a", "tax policy", ["chunk-a-p0"], []⟩],
        [⟨"tenant-b", [], []⟩, ⟨"tenant-a", ["chunk-a-p0"], []⟩]) := by decide
  obtain ⟨s, hs, hvals⟩ := Option.map_eq_some_iff.mp hrun
  simp only [Prod.mk.injEq] at hvals
  obtain ⟨hprompts, hlog⟩ := hvals
  have h' := h otherTenant s hs
  rw [hprompts, hlog] at h'
  exact absurd h' (by decide)

end Service

end Agent
