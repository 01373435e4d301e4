import TaxLiability.Agent.Graph

/-!
# Agent/Trajectory — the record of the nodes that ran

    ask ──▸ workers ──barrier──▸ synthesis ──barrier──▸ ended ──▸ completed
              │  visited_nodes ++ workers │ ++ [synthesis_agent]
              └── deadline: the sentinel has no such key

Each node body writes its own name to the channel as it returns, and the writes of a super-step are
applied in the order of its tasks.  A body cut by its deadline writes nothing, so a completed run
contributes its trajectory less the nodes that were cut (`contribution`).
-/

open Machine

namespace Agent.Trajectory

/-! ## The channel -/

/-- `RETRIEVAL_AGENT`, `API_AGENT` and `SYNTHESIS_AGENT` of the source. -/
def name : Node → String
  | .retrievalAgent => "retrieval_agent"
  | .apiAgent => "api_agent"
  | .synthesisAgent => "synthesis_agent"

/-- What a node writes to the `visited_nodes` channel: the sentinel has no such key. -/
def visited (n : Node) : Pc → List String
  | .returned _ => [name n]
  | _ => []

/-- **The trajectory of a question**: the workers it is routed to, then the synthesis. -/
def trajectory (question : String) : List Node := supervisor question ++ [.synthesisAgent]

/-! ## Where the bodies stand -/

/-- The node has a task in the super-step under way. -/
def isPlaced : Pc → Bool
  | .unrouted | .closed => false
  | _ => true

/-- **What a step tells of a body**: it keeps its place, and lands in its sentinel only by its
deadline. -/
structure Keeps (r : Run) (e : Event) (r' : Run) : Prop where
  phase : r'.phase = r.phase
  placed : ∀ n, isPlaced (r'.pc n) = isPlaced (r.pc n)
  sentinel : ∀ n, r'.pc n = .sentinel ↔ r.pc n = .sentinel ∨ e = .deadline n
  /-- only a body with a place has a deadline -/
  deadline : ∀ n, e = .deadline n → isPlaced (r.pc n)

section Step

variable {r r' : Run} {e : Event}

/-- A step that moves no body. -/
theorem Keeps.of_eq (hphase : r'.phase = r.phase) (hpc : r'.pc = r.pc)
    (he : ∀ n, e ≠ .deadline n) : Keeps r e r' where
  phase := hphase
  placed := fun n => by rw [hpc]
  sentinel := fun n => by rw [hpc, or_iff_left (he n)]
  deadline := fun n hn => absurd hn (he n)

/-- A step that moves the body of one node. -/
theorem Keeps.of_update {n : Node} {p : Pc} (hphase : r'.phase = r.phase)
    (hpc : r'.pc = Function.update r.pc n p) (hn : isPlaced (r.pc n)) (hs : r.pc n ≠ .sentinel)
    (hp : isPlaced p) (hdeadline : p = .sentinel ↔ e = .deadline n)
    (hother : ∀ m, m ≠ n → e ≠ .deadline m) : Keeps r e r' where
  phase := hphase
  placed := by
    intro m
    rw [hpc]
    obtain rfl | hm := eq_or_ne m n
    · rw [Function.update_self, hn, hp]
    · rw [Function.update_of_ne hm]
  sentinel := by
    intro m
    rw [hpc]
    obtain rfl | hm := eq_or_ne m n
    · rw [Function.update_self, hdeadline, or_iff_right hs]
    · rw [Function.update_of_ne hm, or_iff_left (hother m hm)]
  deadline := by
    intro m hm
    obtain rfl | hne := eq_or_ne m n
    · exact hn
    · exact absurd hm (hother m hne)

/-- A slice of a body leaves it in a place that is no sentinel. -/
theorem slice_pc {n : Node} {before : ℕ} (h : r.Slice n before r') :
    r'.phase = r.phase ∧ ∃ p, r'.pc = Function.update r.pc n p ∧ isPlaced p ∧ p ≠ .sentinel := by
  cases h with
  | issue turn _ => exact ⟨rfl, _, rfl, rfl, by simp⟩
  | rest p hrests =>
    refine ⟨rfl, p, rfl, ?_⟩
    rcases hrests with ⟨turn, left, rfl⟩ | rfl | rfl
    · exact ⟨rfl, by simp⟩
    · exact ⟨rfl, by simp⟩
    · exact ⟨rfl, by simp⟩

theorem keeps_slice {n : Node} {before : ℕ} {r₀ : Run} (h : r₀.Slice n before r')
    (hphase : r₀.phase = r.phase) (hpc : r₀.pc = r.pc) (hn : isPlaced (r.pc n))
    (hs : r.pc n ≠ .sentinel) (he : ∀ m, e ≠ .deadline m) : Keeps r e r' := by
  obtain ⟨hphase', p, hpc', hp, hps⟩ := slice_pc h
  exact .of_update (hphase'.trans hphase) (hpc ▸ hpc') hn hs hp (iff_of_false hps (he n))
    fun m _ => he m

theorem keeps_step (h : r.step e = some r') (hbarrier : e ≠ .barrier) (habort : e ≠ .abort) :
    Keeps r e r' := by
  cases Run.did_of_step h with
  | connecting hpc =>
    exact .of_update rfl rfl (by rw [hpc]; rfl) (by simp [hpc]) rfl (by simp) (by simp)
  | begun hpc hslice =>
    exact keeps_slice hslice rfl rfl (by rw [hpc]; rfl) (by simp [hpc]) (by simp)
  | connected hpc hslice =>
    exact keeps_slice hslice rfl rfl (by rw [hpc]; rfl) (by simp [hpc]) (by simp)
  | provider _ => exact .of_eq rfl rfl (by simp)
  | delivered hpc _ hslice =>
    exact keeps_slice hslice rfl rfl (by rw [hpc]; rfl) (by simp [hpc]) (by simp)
  | answered hpc hslice =>
    exact keeps_slice hslice rfl rfl (by rw [hpc]; rfl) (by simp [hpc]) (by simp)
  | refused hpc =>
    exact .of_update rfl rfl (by rw [hpc]; rfl) (by simp [hpc]) rfl (by simp) (by simp)
  | erred hpc hslice =>
    exact keeps_slice hslice rfl rfl (by rw [hpc]; rfl) (by simp [hpc]) (by simp)
  | toolErred hpc =>
    exact .of_update rfl rfl (by rw [hpc]; rfl) (by simp [hpc]) rfl (by simp) (by simp)
  | @cut n hpc =>
    have hn : isPlaced (r.pc n) ∧ r.pc n ≠ .sentinel := by
      rcases hpc with hpc | hpc | ⟨_, _, _, hpc⟩ | ⟨_, _, _, hpc⟩
      all_goals rw [hpc]; exact ⟨rfl, by simp⟩
    exact .of_update rfl rfl hn.1 hn.2 rfl (by simp) fun m hm => by simpa using hm.symm
  | barrier _ _ => exact absurd rfl hbarrier
  | aborted _ => exact absurd rfl habort

end Step

/-! ## A run with its record -/

/-- **A run of the graph on a thread.**  `tasks` are the tasks of its super-step in their order,
`before` is what the channel held as the run began, and `cut` the history of the nodes whose
deadline fired. -/
structure Traced where
  question : String
  run : Run
  tasks : List Node
  before : List String
  visited_nodes : List String
  cut : List Node

namespace Traced

/-- **The run a question starts**, on what its thread holds. -/
def start (question : String) (guard : BudgetGuard) (visited_nodes : List String) : Traced where
  question := question
  run := Run.start guard question
  tasks := supervisor question
  before := visited_nodes
  visited_nodes := visited_nodes
  cut := []

/-- The tasks of a super-step that has just begun. -/
def tasksOf : Phase → List Node
  | .synthesis => [.synthesisAgent]
  | .workers | .ended | .failed => []

/-- **One step of the run**, and what it does to the record. -/
def step (t : Traced) (e : Event) : Option Traced :=
  (t.run.step e).map fun run =>
    match e with
    | .deadline n => { t with run := run, cut := n :: t.cut }
    | .abort => { t with run := run, tasks := tasksOf run.phase }
    | .barrier =>
      { t with
        run := run
        tasks := tasksOf run.phase
        visited_nodes := t.visited_nodes ++ t.tasks.flatMap fun n => visited n (t.run.pc n) }
    | _ => { t with run := run }

/-- The names of the nodes that were not cut. -/
def names (cut : List Node) (ns : List Node) : List String :=
  (ns.filter fun n => n ∉ cut).map name

/-- **The record follows the run**: at each stage it holds the names of the nodes of the super-steps
that are over, less those that were cut. -/
structure Follows (t : Traced) : Prop where
  placed : ∀ n, isPlaced (t.run.pc n) ↔ n ∈ t.tasks
  sentinel : ∀ n ∈ t.tasks, t.run.pc n = .sentinel ↔ n ∈ t.cut
  cut : ∀ n ∈ t.cut, n ∈ trajectory t.question
  stage : match t.run.phase with
    | .workers => t.tasks = supervisor t.question ∧ t.visited_nodes = t.before
        ∧ .synthesisAgent ∉ t.cut
    | .synthesis => t.tasks = [.synthesisAgent]
        ∧ t.visited_nodes = t.before ++ names t.cut (supervisor t.question)
    | .ended => t.tasks = []
        ∧ t.visited_nodes = t.before ++ names t.cut (trajectory t.question)
    | .failed => t.tasks = []

variable {t t' : Traced}

theorem follows_start (question : String) (guard : BudgetGuard) (visited_nodes : List String) :
    (start question guard visited_nodes).Follows where
  placed := by
    intro n
    simp only [start, Run.start]
    split <;> simp_all [isPlaced]
  sentinel := by
    intro n hn
    have hpc : (start question guard visited_nodes).run.pc n = .scheduled := if_pos hn
    exact iff_of_false (by simp [hpc]) List.not_mem_nil
  cut := by rintro n ⟨⟩
  stage := ⟨rfl, rfl, List.not_mem_nil⟩

/-- The tasks of a super-step are among its nodes. -/
theorem Follows.tasks_subset (h : t.Follows) : ∀ n ∈ t.tasks, n ∈ t.run.phase.nodes := by
  intro n hn
  have hstage := h.stage
  cases hphase : t.run.phase with
  | workers =>
    simp only [hphase] at hstage
    rw [hstage.1] at hn
    cases n with
    | retrievalAgent | apiAgent => simp [Phase.nodes]
    | synthesisAgent => exact absurd hn (synthesis_notMem_supervisor t.question)
  | synthesis =>
    simp only [hphase] at hstage
    rwa [hstage.1] at hn
  | ended =>
    simp only [hphase] at hstage
    rw [hstage.1] at hn
    cases hn
  | failed =>
    simp only [hphase] at hstage
    rw [hstage] at hn
    cases hn

/-- The tasks of a super-step are on the trajectory. -/
theorem Follows.tasks_trajectory (h : t.Follows) : ∀ n ∈ t.tasks, n ∈ trajectory t.question := by
  intro n hn
  have hstage := h.stage
  cases hphase : t.run.phase with
  | workers =>
    simp only [hphase] at hstage
    exact List.mem_append_left _ (hstage.1 ▸ hn)
  | synthesis =>
    simp only [hphase] at hstage
    exact List.mem_append_right _ (hstage.1 ▸ hn)
  | ended =>
    simp only [hphase] at hstage
    exact absurd (hstage.1 ▸ hn) List.not_mem_nil
  | failed =>
    simp only [hphase] at hstage
    exact absurd (hstage ▸ hn) List.not_mem_nil

theorem names_cons_of_notMem {n : Node} {cut ns : List Node} (h : n ∉ ns) :
    names (n :: cut) ns = names cut ns := by
  refine congrArg (List.map name) (List.filter_congr fun m hm => ?_)
  have hne : m ≠ n := fun heq => h (heq ▸ hm)
  simp [hne]

/-- **What the tasks of a super-step write**, each done or cut. -/
theorem Follows.writes (h : t.Follows) (hset : ∀ n ∈ t.run.phase.nodes, (t.run.pc n).settled) :
    (t.tasks.flatMap fun n => visited n (t.run.pc n)) = names t.cut t.tasks := by
  have hwrite : ∀ n ∈ t.tasks,
      visited n (t.run.pc n) = if n ∈ t.cut then [] else [name n] := by
    intro n hn
    have hplaced : isPlaced (t.run.pc n) := (h.placed n).mpr hn
    have hsettled : (t.run.pc n).settled := hset n (h.tasks_subset n hn)
    have hcut := h.sentinel n hn
    cases hpc : t.run.pc n with
    | returned c => simp [visited, ← hcut, hpc]
    | sentinel => simp [visited, ← hcut, hpc]
    | unrouted | closed => cases hpc ▸ hplaced
    | scheduled | connecting | completion | tools | raised => cases hpc ▸ hsettled
  generalize t.tasks = ns at hwrite
  induction ns with
  | nil => rfl
  | cons n ns ih =>
    rw [List.flatMap_cons, hwrite n List.mem_cons_self,
      ih fun m hm => hwrite m (List.mem_cons_of_mem n hm)]
    by_cases hn : n ∈ t.cut <;> simp [names, hn]

/-- A step within a super-step leaves the record as it is. -/
theorem Follows.keeps (h : t.Follows) {e : Event} {run : Run} (hk : Keeps t.run e run)
    (hd : ∀ n, e ≠ .deadline n) : { t with run := run }.Follows where
  placed := fun n => by rw [hk.placed]; exact h.placed n
  sentinel := fun n hn => by
    rw [hk.sentinel, or_iff_left (hd n)]
    exact h.sentinel n hn
  cut := h.cut
  stage := by
    have hstage := h.stage
    simpa only [hk.phase] using hstage

/-- **A deadline cuts one task of the super-step.** -/
theorem Follows.deadline (h : t.Follows) {n : Node} {run : Run}
    (hk : Keeps t.run (.deadline n) run) :
    { t with run := run, cut := n :: t.cut }.Follows := by
  have hn : n ∈ t.tasks := (h.placed n).mp (hk.deadline n rfl)
  have hstage := h.stage
  refine ⟨fun m => by rw [hk.placed]; exact h.placed m, fun m hm => ?_, ?_, ?_⟩
  · rw [hk.sentinel, h.sentinel m hm, List.mem_cons, or_comm, Event.deadline.injEq]
    exact or_congr_left eq_comm
  · intro m hm
    rcases List.mem_cons.mp hm with rfl | hm
    · exact h.tasks_trajectory m hn
    · exact h.cut m hm
  · simp only [hk.phase]
    cases hphase : t.run.phase with
    | workers =>
      simp only [hphase] at hstage
      refine ⟨hstage.1, hstage.2.1, fun hs => ?_⟩
      rcases List.mem_cons.mp hs with rfl | hs
      · exact synthesis_notMem_supervisor t.question (hstage.1 ▸ hn)
      · exact hstage.2.2 hs
    | synthesis =>
      simp only [hphase] at hstage
      rw [hstage.1, List.mem_singleton] at hn
      subst hn
      rw [names_cons_of_notMem (synthesis_notMem_supervisor t.question)]
      exact hstage
    | ended =>
      simp only [hphase] at hstage
      exact absurd (hstage.1 ▸ hn) List.not_mem_nil
    | failed =>
      simp only [hphase] at hstage
      exact absurd (hstage ▸ hn) List.not_mem_nil

/-- The state past a super-step: what its tasks wrote is appended, and the next ones are set. -/
def pastBarrier (t : Traced) : Traced :=
  { t with
    run := t.run.barrier
    tasks := tasksOf t.run.barrier.phase
    visited_nodes := t.visited_nodes ++ t.tasks.flatMap fun n => visited n (t.run.pc n) }

/-- **The workers end**, and the synthesis is set. -/
theorem Follows.workers_end (h : t.Follows) (hphase : t.run.phase = .workers)
    (hset : ∀ n ∈ t.run.phase.nodes, (t.run.pc n).settled) : t.pastBarrier.Follows := by
  have hstage := h.stage
  simp only [hphase] at hstage
  obtain ⟨htasks, hbefore, hs⟩ := hstage
  have hpc : ∀ n, t.run.barrier.pc n
      = if n = .synthesisAgent then Pc.scheduled else Pc.closed := by
    intro n
    cases n <;> simp [Run.barrier, hphase, Run.goto, Run.close, Phase.nodes]
  have hphase' : t.run.barrier.phase = .synthesis := by simp [Run.barrier, hphase]
  unfold pastBarrier
  refine ⟨fun n => ?_, fun n hn => ?_, h.cut, ?_⟩
  · simp only [hpc, hphase', tasksOf, List.mem_singleton]
    split <;> simp_all [isPlaced]
  · simp only [hphase', tasksOf, List.mem_singleton] at hn
    subst hn
    exact iff_of_false (by simp [hpc]) hs
  · simp only [hphase', tasksOf]
    exact ⟨trivial, by rw [h.writes hset, hbefore, htasks]⟩

/-- **The synthesis ends**, and nothing is set. -/
theorem Follows.synthesis_ends (h : t.Follows) (hphase : t.run.phase = .synthesis)
    (hset : ∀ n ∈ t.run.phase.nodes, (t.run.pc n).settled) : t.pastBarrier.Follows := by
  have hstage := h.stage
  simp only [hphase] at hstage
  obtain ⟨htasks, hbefore⟩ := hstage
  have hphase' : t.run.barrier.phase = .ended := by simp [Run.barrier, hphase]
  have hidle : ∀ n, n ≠ .synthesisAgent → isPlaced (t.run.pc n) = false := by
    intro n hn
    refine Bool.eq_false_iff.mpr fun hp => hn ?_
    exact List.mem_singleton.mp (htasks ▸ (h.placed n).mp hp)
  have hpc : ∀ n, isPlaced (t.run.barrier.pc n) = false := by
    intro n
    by_cases hn : n = .synthesisAgent
    · subst hn
      simp [Run.barrier, hphase, Run.close, Phase.nodes, isPlaced]
    · simpa [Run.barrier, hphase, Run.close, Phase.nodes, hn] using hidle n hn
  unfold pastBarrier
  refine ⟨fun n => ?_, fun n hn => ?_, h.cut, ?_⟩
  · simp [hpc, hphase', tasksOf]
  · simp [hphase', tasksOf] at hn
  · simp only [hphase', tasksOf]
    refine ⟨trivial, ?_⟩
    rw [h.writes hset, hbefore, htasks, List.append_assoc, trajectory, names, names, names,
      List.filter_append, List.map_append]

/-- **A super-step ends**: what its tasks wrote is appended. -/
theorem Follows.barrier (h : t.Follows) (hset : ∀ n ∈ t.run.phase.nodes, (t.run.pc n).settled)
    (hne : t.run.phase.nodes ≠ []) : t.pastBarrier.Follows := by
  cases hphase : t.run.phase with
  | workers => exact h.workers_end hphase hset
  | synthesis => exact h.synthesis_ends hphase hset
  | ended | failed => exact absurd (by rw [hphase]; rfl) hne

/-- A run that fails has no tasks left. -/
theorem Follows.abort (h : t.Follows) :
    { t with
      run := { t.run.close t.run.phase.nodes with phase := .failed }
      tasks := [] }.Follows where
  placed := by
    intro n
    by_cases hn : n ∈ t.run.phase.nodes
    · have hpc : (t.run.close t.run.phase.nodes).pc n = .closed := if_pos hn
      simp [hpc, isPlaced]
    · have hpc : (t.run.close t.run.phase.nodes).pc n = t.run.pc n := if_neg hn
      have hplaced := h.placed n
      have hnot : n ∉ t.tasks := fun hmem => hn (h.tasks_subset n hmem)
      simp only [hpc, List.not_mem_nil, iff_false]
      exact fun hp => hnot (hplaced.mp hp)
  sentinel := by rintro n ⟨⟩
  cut := h.cut
  stage := rfl

theorem follows_step {e : Event} (h : t.Follows) (hstep : t.step e = some t') : t'.Follows := by
  obtain ⟨run, hrun, rfl⟩ := Option.map_eq_some_iff.mp hstep
  cases e with
  | deadline n => exact h.deadline (keeps_step hrun (by simp) (by simp))
  | barrier =>
    cases Run.did_of_step hrun with
    | barrier hset hne => exact h.barrier hset hne
  | abort =>
    cases Run.did_of_step hrun with
    | aborted _ => exact h.abort
  | begin | connected | provider | deliver | toolResult | error =>
    exact h.keeps (keeps_step hrun (by simp) (by simp)) (by simp)

end Traced

/-! ## The requests of a thread -/

/-- A run that ended: what the channel held before and after, and the nodes whose deadline fired. -/
structure Completed where
  question : String
  before : List String
  after : List String
  cut : List Node
  deriving DecidableEq, Repr

/-- **A thread**: the channel as it is checkpointed, the run under way, and the history of the runs
that ended. -/
structure Thread where
  visited_nodes : List String
  current : Option Traced
  completed : List Completed

/-- What happens next on the thread. -/
inductive ThreadEvent
  /-- a request starts a run -/
  | ask (question : String) (guard : BudgetGuard)
  /-- its run takes a step; the checkpointer stores the channel -/
  | run (e : Event)
  /-- the run has ended -/
  | complete
  /-- the run failed, or its client hung up -/
  | drop

namespace Thread

def start : Thread := ⟨[], none, []⟩

/-- **One step of the thread.** -/
def step (s : Thread) : ThreadEvent → Option Thread
  | .ask question guard =>
    match s.current with
    | none => some { s with current := some (.start question guard s.visited_nodes) }
    | some _ => none
  | .run e =>
    match s.current with
    | some t =>
      (t.step e).map fun t' => { s with current := some t', visited_nodes := t'.visited_nodes }
    | none => none
  | .complete =>
    match s.current with
    | some t =>
      if t.run.phase = .ended then
        some { s with
          current := none
          completed := s.completed ++ [⟨t.question, t.before, t.visited_nodes, t.cut⟩] }
      else none
    | none => none
  | .drop => some { s with current := none }

/-- **What holds on a thread**: the run under way keeps its record, and every run that ended
contributed its trajectory less the nodes that were cut. -/
structure Inv (s : Thread) : Prop where
  current : ∀ t ∈ s.current, t.Follows ∧ s.visited_nodes = t.visited_nodes
  completed : ∀ r ∈ s.completed, (∀ n ∈ r.cut, n ∈ trajectory r.question)
    ∧ r.after = r.before ++ Traced.names r.cut (trajectory r.question)

variable {s s' : Thread}

theorem inv_start : start.Inv where
  current := by rintro t ⟨⟩
  completed := by rintro r ⟨⟩

theorem inv_step {e : ThreadEvent} (h : s.Inv) (hstep : s.step e = some s') : s'.Inv := by
  cases e with
  | ask question guard =>
    simp only [step] at hstep
    split at hstep
    · cases hstep
      refine ⟨?_, h.completed⟩
      rintro t ⟨⟩
      exact ⟨Traced.follows_start question guard s.visited_nodes, rfl⟩
    · cases hstep
  | run e =>
    simp only [step] at hstep
    split at hstep
    · next t ht =>
      obtain ⟨t', ht', rfl⟩ := Option.map_eq_some_iff.mp hstep
      refine ⟨?_, h.completed⟩
      rintro u ⟨⟩
      exact ⟨Traced.follows_step (h.current t ht).1 ht', rfl⟩
    · cases hstep
  | complete =>
    simp only [step] at hstep
    split at hstep
    · next t ht =>
      obtain ⟨hended, hstep⟩ := Option.ite_none_right_eq_some.mp hstep
      cases hstep
      refine ⟨by rintro u ⟨⟩, fun r hr => ?_⟩
      rcases List.mem_append.mp hr with hold | hnew
      · exact h.completed r hold
      · obtain rfl := List.mem_singleton.mp hnew
        have hfollows : t.Follows := (h.current t ht).1
        have hstage := hfollows.stage
        simp only [hended] at hstage
        exact ⟨hfollows.cut, hstage.2⟩
    · cases hstep
  | drop =>
    cases hstep
    exact ⟨by rintro u ⟨⟩, h.completed⟩

end Thread

/-! ## The contribution of a run -/

/-- **What a completed run contributes**: its trajectory, in order, less the nodes that were cut. -/
theorem contribution {es : List ThreadEvent} {s : Thread}
    (h : exec Thread.step .start es = some s) {r : Completed} (hr : r ∈ s.completed) :
    r.after = r.before ++ Traced.names r.cut (trajectory r.question) :=
  ((exec_invariant Thread.inv_step Thread.inv_start h).completed r hr).2

/-- Nothing is missing from a list of names exactly if no node of it was cut. -/
theorem names_eq_iff {cut ns : List Node} (h : ∀ n ∈ cut, n ∈ ns) :
    Traced.names cut ns = ns.map name ↔ cut = [] := by
  constructor
  · intro heq
    have hlen : (ns.filter fun n => n ∉ cut).length = ns.length := by
      simpa [Traced.names] using congrArg List.length heq
    have hall := List.length_filter_eq_length_iff.mp hlen
    refine List.eq_nil_iff_forall_not_mem.mpr fun n hn => ?_
    exact of_decide_eq_true (hall n (h n hn)) hn
  · rintro rfl
    simp [Traced.names]

/-- **The record is the trajectory**: a completed run contributes the workers its question is routed
to, in their order, and the synthesis, exactly if no deadline fired in it. -/
theorem visited_iff (es : List ThreadEvent) (s : Thread)
    (h : exec Thread.step .start es = some s) (r : Completed) (hr : r ∈ s.completed) :
    r.after = r.before ++ (trajectory r.question).map name ↔ r.cut = [] := by
  obtain ⟨hcut, hafter⟩ := (exec_invariant Thread.inv_step Thread.inv_start h).completed r hr
  rw [hafter, List.append_cancel_left_eq]
  exact names_eq_iff hcut

/-- A reply without usage, tool calls or faults. -/
def reply : Message := ⟨none, false, 0, true⟩

/-- A question for both workers. -/
def docsRun : List ThreadEvent :=
  [.ask "refund policy" ⟨100000, 0, by decide⟩, .run (.begin .retrievalAgent),
    .run (.begin .apiAgent), .run .connected, .run (.provider 1 reply), .run (.deliver .apiAgent),
    .run (.provider 0 reply), .run (.deliver .retrievalAgent), .run (.provider 2 reply),
    .run (.deliver .retrievalAgent), .run .barrier, .run (.begin .synthesisAgent),
    .run (.provider 3 reply), .run (.deliver .synthesisAgent), .run .barrier, .complete]

theorem visited_docsRun : ∃ s, exec Thread.step .start docsRun = some s
    ∧ ∀ r ∈ s.completed, r.after = r.before ++ (trajectory r.question).map name := by
  have hrun : (exec Thread.step .start docsRun).map (fun s => s.completed.map Completed.cut)
      = some [[]] := by decide
  obtain ⟨s, hs, hcut⟩ := Option.map_eq_some_iff.mp hrun
  refine ⟨s, hs, fun r hr => (visited_iff docsRun s hs r hr).mpr ?_⟩
  have hmem : r.cut ∈ s.completed.map Completed.cut := List.mem_map_of_mem hr
  exact List.mem_singleton.mp (hcut ▸ hmem)

/-- The retrieval misses its deadline, and the rest of the graph completes. -/
def cutRun : List ThreadEvent :=
  [.ask "refund policy" ⟨100000, 0, by decide⟩, .run (.begin .retrievalAgent),
    .run (.begin .apiAgent), .run .connected, .run (.provider 1 reply), .run (.deliver .apiAgent),
    .run (.deadline .retrievalAgent), .run .barrier, .run (.begin .synthesisAgent),
    .run (.provider 2 reply), .run (.deliver .synthesisAgent), .run .barrier, .complete]

/-- The worker that was routed to and cut is missing from the record. -/
theorem visited_without_cut : ∃ s, exec Thread.step .start cutRun = some s
    ∧ ∃ r ∈ s.completed, r.after = ["api_agent", "synthesis_agent"]
      ∧ ¬ r.after = r.before ++ (trajectory r.question).map name := by
  have hrun : (exec Thread.step .start cutRun).map (fun s => s.completed)
      = some [⟨"refund policy", [], ["api_agent", "synthesis_agent"], [.retrievalAgent]⟩] := by
    decide
  obtain ⟨s, hs, hcompleted⟩ := Option.map_eq_some_iff.mp hrun
  refine ⟨s, hs, _, hcompleted ▸ List.mem_singleton_self _, rfl, ?_⟩
  decide

end Agent.Trajectory
