import TaxLiability.Machinery.Machine

/-!
# Agent/Checkpointer — the graph's connection pool, from its opening to the shutdown

    graph() ──lock──▸ entering ──▸ settingUp ──▸ push, publish ──▸ returned
                        ▴ │            │
              sleeping ─┘ ▾            ▾
                  ▴── attemptFails ────┘   (OPEN_ATTEMPTS)   ──▸ DependencyUnavailable

The pool of an attempt is entered by hand and reaches the exit stack only when its schema is set up.
A pool whose set-up fails, or is cancelled, is held by nobody, and no later step exits it
(`leaked_forever`); along the other runs every pool is accounted for (`accounted_iff`).
-/

open Machine

namespace Agent.Checkpointer

/-! ## The callers of `graph` -/

/-- `OPEN_ATTEMPTS` of the source. -/
def OPEN_ATTEMPTS : ℕ := 3

/-- A caller of `graph`: a request, the warmup, or a round of `reconnect_forever`. -/
inductive Caller
  /-- it waits for `_graph_lock` -/
  | queued
  /-- it holds the lock, and opens the graph -/
  | opening
  /-- it returned the graph compiled over this pool -/
  | returned (graph : ℕ)
  /-- it raised `DependencyUnavailable` -/
  | raised (message : String)
  | cancelled
  deriving DecidableEq, Repr

/-- Where the attempt under way stands. -/
inductive Stage
  /-- in `cm.__aenter__()` -/
  | entering
  /-- in `cp.setup()`, with its pool entered -/
  | settingUp (pool : ℕ)
  /-- waiting for the next attempt -/
  | sleeping
  deriving DecidableEq, Repr

/-- The caller that holds the lock, how many of its attempts have failed, and the current one. -/
structure Opening where
  caller : ℕ
  failures : ℕ
  stage : Stage
  deriving DecidableEq, Repr

/-- The pool entered by the current attempt. -/
def Opening.pool? (o : Opening) : Option ℕ :=
  match o.stage with
  | .settingUp pool => some pool
  | .entering | .sleeping => none

/-- How far `aclose` has come. -/
inductive Shutdown
  | running
  | closing
  | returned
  deriving DecidableEq, Repr

/-- **The dependencies**, as far as the graph goes.  A pool is known by its place among those
entered, of which `pools` has whether it is still open; a graph is known by its pool.  `published`
is the history of what was assigned to `_graph`. -/
structure Dependencies where
  graph : Option ℕ
  published : List ℕ
  lock : Option Opening
  stack : List ℕ
  pools : List Bool
  callers : ℕ → Option Caller
  shutdown : Shutdown

/-- What happens next. -/
inductive Event
  /-- `graph` is called, for the `i`-th time -/
  | call (i : ℕ)
  /-- caller `i` gets the lock -/
  | enter (i : ℕ)
  /-- the pool is entered, or entering it raises -/
  | entered
  | enterFails (exc : String)
  /-- the schema is set up and the graph compiled, or that raises -/
  | setUp
  | setUpFails (exc : String)
  /-- the wait between two attempts is over -/
  | retry
  /-- the task of caller `i` is cancelled -/
  | cancel (i : ℕ)
  /-- `aclose` is called, and waits for the MCP session to end -/
  | aclose
  /-- it unwinds the stack, and returns -/
  | unwind
  deriving DecidableEq, Repr

namespace Dependencies

def start : Dependencies := ⟨none, [], none, [], [], fun _ => none, .running⟩

/-- Put caller `i` somewhere. -/
def put (s : Dependencies) (i : ℕ) (c : Caller) : Dependencies :=
  { s with callers := Function.update s.callers i (some c) }

/-- **`graph`**, up to the lock. -/
def call (s : Dependencies) (i : ℕ) : Dependencies :=
  match s.graph with
  | some g => s.put i (.returned g)
  | none => s.put i .queued

/-- **`graph`**, with the lock: checked again, then the first attempt. -/
def enter (s : Dependencies) (i : ℕ) : Dependencies :=
  match s.graph with
  | some g => s.put i (.returned g)
  | none => { s.put i .opening with lock := some ⟨i, 0, .entering⟩ }

/-- **An attempt fails**: the next is waited for, or the last one's exception is reported. -/
def attemptFails (s : Dependencies) (o : Opening) (exc : String) : Dependencies :=
  if o.failures + 1 < OPEN_ATTEMPTS then
    { s with lock := some { o with failures := o.failures + 1, stage := .sleeping } }
  else { s.put o.caller (.raised ("checkpointer unavailable: " ++ exc)) with lock := none }

/-- **An attempt succeeds**: its pool is pushed on the stack, its graph published and returned. -/
def publish (s : Dependencies) (o : Opening) (pool : ℕ) : Dependencies :=
  { s.put o.caller (.returned pool) with
    stack := pool :: s.stack, graph := some pool, published := s.published ++ [pool],
    lock := none }

/-- The pools once every context manager on the stack is unwound. -/
def unwound (s : Dependencies) : List Bool := s.pools.mapIdx fun p isOpen => isOpen && p ∉ s.stack

/-- **One step.** -/
def step (s : Dependencies) : Event → Option Dependencies
  | .call i => if s.callers i = none then some (s.call i) else none
  | .enter i => if s.callers i = some .queued ∧ s.lock = none then some (s.enter i) else none
  | .entered =>
    match s.lock with
    | some ⟨i, failures, .entering⟩ =>
      some { s with
        pools := s.pools ++ [true], lock := some ⟨i, failures, .settingUp s.pools.length⟩ }
    | _ => none
  | .enterFails exc =>
    match s.lock with
    | some ⟨i, failures, .entering⟩ => some (s.attemptFails ⟨i, failures, .entering⟩ exc)
    | _ => none
  | .setUp =>
    match s.lock with
    | some ⟨i, failures, .settingUp pool⟩ =>
      some (s.publish ⟨i, failures, .settingUp pool⟩ pool)
    | _ => none
  | .setUpFails exc =>
    match s.lock with
    | some ⟨i, failures, .settingUp pool⟩ =>
      some (s.attemptFails ⟨i, failures, .settingUp pool⟩ exc)
    | _ => none
  | .retry =>
    match s.lock with
    | some ⟨i, failures, .sleeping⟩ => some { s with lock := some ⟨i, failures, .entering⟩ }
    | _ => none
  | .cancel i =>
    match s.callers i with
    | some .queued => some (s.put i .cancelled)
    | some .opening => some { s.put i .cancelled with lock := none }
    | _ => none
  | .aclose => if s.shutdown = .running then some { s with shutdown := .closing } else none
  | .unwind =>
    if s.shutdown = .closing then
      some { s with pools := s.unwound, stack := [], shutdown := .returned }
    else none

/-! ## The property and the condition -/

/-- The pool `p` has been entered, and not been exited. -/
def IsOpen (s : Dependencies) (p : ℕ) : Prop := s.pools[p]? = some true

instance (s : Dependencies) (p : ℕ) : Decidable (s.IsOpen p) :=
  inferInstanceAs (Decidable (_ = _))

/-- The pool of the attempt under way, once it is entered. -/
def settingUp (s : Dependencies) : Option ℕ := s.lock.bind Opening.pool?

/-- **Every pool is accounted for.** -/
structure Accounted (s : Dependencies) : Prop where
  /-- at most one graph is published… -/
  once : s.published.length ≤ 1
  /-- …and every successful caller got that one -/
  shared : ∀ i g, s.callers i = some (.returned g) → g ∈ s.published
  /-- an open pool is the graph's, or that of an attempt not yet reported -/
  held : ∀ p, s.IsOpen p → s.graph = some p ∨ s.settingUp = some p
  /-- once `aclose` has returned, no pool is open -/
  closed : s.shutdown = .returned → ∀ p, ¬ s.IsOpen p

/-- **The steps that lose no pool.**  No set-up raises, or is cancelled; no pool is entered after
`aclose` has returned, and none is being set up as it returns. -/
def Clean (s : Dependencies) : Event → Prop
  | .entered => s.shutdown ≠ .returned
  | .setUpFails _ => False
  | .cancel i => s.callers i = some .opening → s.settingUp = none
  | .unwind => s.settingUp = none
  | _ => True

instance (s : Dependencies) : (e : Event) → Decidable (s.Clean e)
  | .entered => inferInstanceAs (Decidable (s.shutdown ≠ .returned))
  | .setUpFails _ => isFalse id
  | .cancel i => inferInstanceAs (Decidable (s.callers i = some .opening → s.settingUp = none))
  | .unwind => inferInstanceAs (Decidable (s.settingUp = none))
  | .call _ | .enter _ | .enterFails _ | .setUp | .retry | .aclose => isTrue trivial

/-! ## The invariant -/

/-- **One caller opens at a time**, and only while there is no graph. -/
structure Inv (s : Dependencies) : Prop where
  published : s.published = s.graph.toList
  stack : ∀ p ∈ s.stack, s.graph = some p
  pushed : s.shutdown ≠ .returned → ∀ p, s.graph = some p → p ∈ s.stack
  unopened : s.lock ≠ none → s.graph = none
  isOpen : ∀ p, s.settingUp = some p → s.IsOpen p
  returned : ∀ i g, s.callers i = some (.returned g) → s.graph = some g
  opening : ∀ i, s.callers i = some .opening → ∃ o, s.lock = some o ∧ o.caller = i

theorem inv_start : start.Inv where
  published := rfl
  stack := by rintro p ⟨⟩
  pushed := by rintro - p ⟨⟩
  unopened := fun _ => rfl
  isOpen := by rintro p ⟨⟩
  returned := by rintro i g ⟨⟩
  opening := by rintro i ⟨⟩

section Step

variable {s s' : Dependencies} {o : Opening}

/-- The lock is free, so nobody is opening. -/
theorem Inv.not_opening (h : s.Inv) (hlock : s.lock = none) (i : ℕ) :
    s.callers i ≠ some .opening := by
  intro hi
  obtain ⟨o, ho, -⟩ := h.opening i hi
  exact nomatch hlock.symm.trans ho

/-- **A caller moves** that is not to open the graph. -/
theorem Inv.put (h : s.Inv) {c : Caller} (i : ℕ) (hc : c ≠ .opening)
    (hg : ∀ g, c = .returned g → s.graph = some g) : (s.put i c).Inv where
  published := h.published
  stack := h.stack
  pushed := h.pushed
  unopened := h.unopened
  isOpen := h.isOpen
  returned := by
    intro j g hj
    obtain ⟨-, hcg⟩ | ⟨-, hold⟩ := update_eq_some_iff.mp hj
    · exact hg g (Option.some.inj hcg)
    · exact h.returned j g hold
  opening := by
    intro j hj
    obtain ⟨-, hco⟩ | ⟨-, hold⟩ := update_eq_some_iff.mp hj
    · exact absurd (Option.some.inj hco) hc
    · exact h.opening j hold

/-- **The lock is released** by the caller that held it. -/
theorem Inv.release (h : s.Inv) (ho : s.lock = some o) {c : Caller} (hc : c ≠ .opening)
    (hg : ∀ g, c ≠ .returned g) : { s.put o.caller c with lock := none }.Inv where
  published := h.published
  stack := h.stack
  pushed := h.pushed
  unopened := fun hlock => absurd rfl hlock
  isOpen := by rintro p ⟨⟩
  returned := (h.put o.caller hc fun g hcg => absurd hcg (hg g)).returned
  opening := by
    intro j hj
    obtain ⟨-, hco⟩ | ⟨hne, hold⟩ := update_eq_some_iff.mp hj
    · exact absurd (Option.some.inj hco) hc
    · obtain ⟨o', ho', hcaller⟩ := h.opening j hold
      cases ho.symm.trans ho'
      exact absurd hcaller.symm hne

/-- **The attempt moves on**, the lock kept. -/
theorem Inv.move (h : s.Inv) (ho : s.lock = some o) {pools : List Bool} {o' : Opening}
    (hcaller : o'.caller = o.caller) (hopen : ∀ p ∈ o'.pool?, pools[p]? = some true) :
    { s with pools := pools, lock := some o' }.Inv where
  published := h.published
  stack := h.stack
  pushed := h.pushed
  unopened := fun _ => h.unopened (by simp [ho])
  isOpen := hopen
  returned := h.returned
  opening := by
    intro j hj
    obtain ⟨o₁, ho₁, hj⟩ := h.opening j hj
    cases ho.symm.trans ho₁
    exact ⟨o', rfl, hcaller.trans hj⟩

theorem Inv.call (h : s.Inv) (i : ℕ) : (s.call i).Inv := by
  unfold Dependencies.call
  split
  · next g hgraph => exact h.put i (by simp) fun g' hg' => by cases hg'; exact hgraph
  · exact h.put i (by simp) (by simp)

theorem Inv.enter (h : s.Inv) {i : ℕ} (hlock : s.lock = none) : (s.enter i).Inv := by
  unfold Dependencies.enter
  split
  · next g hgraph => exact h.put i (by simp) fun g' hg' => by cases hg'; exact hgraph
  · next hgraph =>
    refine ⟨h.published, h.stack, h.pushed, fun _ => hgraph, by rintro p ⟨⟩, ?_, ?_⟩
    · intro j g hj
      obtain ⟨-, hcg⟩ | ⟨-, hold⟩ := update_eq_some_iff.mp hj
      · cases hcg
      · exact h.returned j g hold
    · intro j hj
      obtain ⟨rfl, -⟩ | ⟨-, hold⟩ := update_eq_some_iff.mp hj
      · exact ⟨_, rfl, rfl⟩
      · exact absurd hold (h.not_opening hlock j)

theorem Inv.attemptFails (h : s.Inv) (ho : s.lock = some o) (exc : String) :
    (s.attemptFails o exc).Inv := by
  unfold Dependencies.attemptFails
  split
  · exact h.move ho rfl (by rintro p ⟨⟩)
  · exact h.release ho (by simp) (by simp)

/-- **The graph is published**, the first one. -/
theorem Inv.publish (h : s.Inv) (ho : s.lock = some o) (pool : ℕ) : (s.publish o pool).Inv := by
  have hgraph : s.graph = none := h.unopened (by simp [ho])
  refine ⟨?_, ?_, ?_, fun hlock => absurd rfl hlock, by rintro p ⟨⟩, ?_, ?_⟩
  · simp [Dependencies.publish, h.published, hgraph]
  · intro p hp
    rcases List.mem_cons.mp hp with rfl | hold
    · rfl
    · exact nomatch hgraph.symm.trans (h.stack p hold)
  · rintro - p ⟨⟩
    exact List.mem_cons_self
  · intro j g hj
    obtain ⟨-, hcg⟩ | ⟨-, hold⟩ := update_eq_some_iff.mp hj
    · cases hcg
      rfl
    · exact nomatch hgraph.symm.trans (h.returned j g hold)
  · intro j hj
    obtain ⟨-, hco⟩ | ⟨hne, hold⟩ := update_eq_some_iff.mp hj
    · cases hco
    · obtain ⟨o', ho', hcaller⟩ := h.opening j hold
      cases ho.symm.trans ho'
      exact absurd hcaller.symm hne

/-- **What one step is**, with what it rests on. -/
inductive Does (s : Dependencies) : Event → Dependencies → Prop
  | call (i : ℕ) : Does s (.call i) (s.call i)
  | enter (i : ℕ) : s.lock = none → Does s (.enter i) (s.enter i)
  | entered (o : Opening) : s.lock = some o → o.stage = .entering →
    Does s .entered { s with
      pools := s.pools ++ [true], lock := some { o with stage := .settingUp s.pools.length } }
  | enterFails (o : Opening) (exc : String) : s.lock = some o → o.stage = .entering →
    Does s (.enterFails exc) (s.attemptFails o exc)
  | setUp (o : Opening) (pool : ℕ) : s.lock = some o → o.stage = .settingUp pool →
    Does s .setUp (s.publish o pool)
  | setUpFails (o : Opening) (pool : ℕ) (exc : String) : s.lock = some o →
    o.stage = .settingUp pool → Does s (.setUpFails exc) (s.attemptFails o exc)
  | retry (o : Opening) : s.lock = some o → o.stage = .sleeping →
    Does s .retry { s with lock := some { o with stage := .entering } }
  | leave (i : ℕ) : s.callers i ≠ some .opening → Does s (.cancel i) (s.put i .cancelled)
  | interrupt (i : ℕ) : s.callers i = some .opening →
    Does s (.cancel i) { s.put i .cancelled with lock := none }
  | aclose : s.shutdown = .running → Does s .aclose { s with shutdown := .closing }
  | unwind : s.shutdown = .closing →
    Does s .unwind { s with pools := s.unwound, stack := [], shutdown := .returned }

theorem does_of_step {e : Event} (h : s.step e = some s') : s.Does e s' := by
  cases e with
  | call i =>
    obtain ⟨-, h⟩ := Option.ite_none_right_eq_some.mp h
    cases h
    exact .call i
  | enter i =>
    obtain ⟨⟨-, hlock⟩, h⟩ := Option.ite_none_right_eq_some.mp h
    cases h
    exact .enter i hlock
  | entered =>
    simp only [step] at h
    split at h
    · next hlock => cases h; exact .entered _ hlock rfl
    · cases h
  | enterFails exc =>
    simp only [step] at h
    split at h
    · next hlock => cases h; exact .enterFails _ exc hlock rfl
    · cases h
  | setUp =>
    simp only [step] at h
    split at h
    · next hlock => cases h; exact .setUp _ _ hlock rfl
    · cases h
  | setUpFails exc =>
    simp only [step] at h
    split at h
    · next hlock => cases h; exact .setUpFails _ _ exc hlock rfl
    · cases h
  | retry =>
    simp only [step] at h
    split at h
    · next hlock => cases h; exact .retry _ hlock rfl
    · cases h
  | cancel i =>
    simp only [step] at h
    split at h
    · next hi => cases h; exact .leave i (by simp [hi])
    · next hi => cases h; exact .interrupt i hi
    · cases h
  | aclose =>
    obtain ⟨hrunning, h⟩ := Option.ite_none_right_eq_some.mp h
    cases h
    exact .aclose hrunning
  | unwind =>
    obtain ⟨hclosing, h⟩ := Option.ite_none_right_eq_some.mp h
    cases h
    exact .unwind hclosing

theorem settingUp_of_lock (ho : s.lock = some o) : s.settingUp = o.pool? := by
  simp [settingUp, ho]

theorem pool?_of_settingUp {pool : ℕ} (h : o.stage = .settingUp pool) : o.pool? = some pool := by
  simp [Opening.pool?, h]

/-- A pool no longer open was on the stack; the others are as they were. -/
theorem unwound_eq_true_iff {p : ℕ} : s.unwound[p]? = some true ↔ s.IsOpen p ∧ p ∉ s.stack := by
  simp [unwound, IsOpen]

/-- Entering a pool leaves the others as they were. -/
theorem isOpen_append {p : ℕ} (hne : p ≠ s.pools.length) :
    (s.pools ++ [true])[p]? = some true ↔ s.IsOpen p := by
  rcases Nat.lt_or_gt_of_ne hne with hlt | hgt
  · rw [List.getElem?_append_left hlt, IsOpen]
  · have hnone : s.pools[p]? = none := List.getElem?_eq_none (Nat.le_of_lt hgt)
    have hnone' : (s.pools ++ [true])[p]? = none := List.getElem?_eq_none (by simp; omega)
    rw [hnone', IsOpen, hnone]

theorem inv_step {e : Event} (h : s.Inv) (hstep : s.step e = some s') : s'.Inv := by
  cases does_of_step hstep with
  | call i => exact h.call i
  | enter i hlock => exact h.enter hlock
  | entered o ho _ =>
    refine h.move ho rfl fun p hp => ?_
    cases hp
    simp
  | enterFails o exc ho _ | setUpFails o _ exc ho _ => exact h.attemptFails ho exc
  | setUp o pool ho _ => exact h.publish ho pool
  | retry o ho _ => exact h.move ho rfl (by rintro p ⟨⟩)
  | leave i _ => exact h.put i (by simp) (by simp)
  | interrupt i hi =>
    obtain ⟨o, ho, rfl⟩ := h.opening i hi
    exact h.release ho (by simp) (by simp)
  | aclose hrunning =>
    exact ⟨h.published, h.stack, fun _ => h.pushed (by simp [hrunning]), h.unopened, h.isOpen,
      h.returned, h.opening⟩
  | unwind hclosing =>
    refine ⟨h.published, by rintro p ⟨⟩, fun hnot => absurd rfl hnot, h.unopened, fun p hp => ?_,
      h.returned, h.opening⟩
    refine unwound_eq_true_iff.mpr ⟨h.isOpen p hp, fun hstack => ?_⟩
    have hlock : s.lock ≠ none := by
      intro hnone
      simp [settingUp, hnone] at hp
    exact nomatch (h.unopened hlock).symm.trans (h.stack p hstack)

/-! ## The pools of a step -/

/-- With one caller opening at a time, what is left to say is where the open pools are. -/
theorem Inv.accounted_iff_held (h : s.Inv) : s.Accounted
    ↔ (∀ p, s.IsOpen p → s.graph = some p ∨ s.settingUp = some p)
      ∧ (s.shutdown = .returned → ∀ p, ¬ s.IsOpen p) := by
  refine ⟨fun ha => ⟨ha.held, ha.closed⟩, fun ha => ⟨?_, fun i g hi => ?_, ha.1, ha.2⟩⟩
  · rw [h.published]
    cases s.graph <;> simp
  · rw [h.published, h.returned i g hi]
    exact List.mem_singleton_self g

/-- A step that touches no pool leaves them accounted for. -/
theorem Accounted.of_eq (ha : s.Accounted) (h' : s'.Inv) (hp : s'.pools = s.pools)
    (hg : s'.graph = s.graph) (hu : s'.settingUp = s.settingUp)
    (hd : s'.shutdown = .returned → s.shutdown = .returned) : s'.Accounted := by
  refine h'.accounted_iff_held.mpr ⟨fun p hopen => ?_, fun hreturned p => ?_⟩
  · rw [hg, hu]
    exact ha.held p (by simpa only [IsOpen, hp] using hopen)
  · simpa only [IsOpen, hp] using ha.closed (hd hreturned) p

/-- **A pool nobody holds**: open, not the graph's, not being set up. -/
def Leaked (s : Dependencies) (p : ℕ) : Prop :=
  s.IsOpen p ∧ s.graph ≠ some p ∧ s.settingUp ≠ some p

theorem Leaked.not_accounted {p : ℕ} (h : s.Leaked p) : ¬ s.Accounted := fun ha =>
  (ha.held p h.1).elim h.2.1 h.2.2

/-- **An attempt that is given up** with its pool entered loses it. -/
theorem Inv.leaks (h : s.Inv) {p : ℕ} (hu : s.settingUp = some p) (hp : s'.pools = s.pools)
    (hg : s'.graph = s.graph) (hu' : s'.settingUp = none) : s'.Leaked p := by
  have hgraph : s.graph = none := by
    refine h.unopened fun hlock => ?_
    simp [settingUp, hlock] at hu
  refine ⟨?_, by simp [hg, hgraph], by simp [hu']⟩
  simpa only [IsOpen, hp] using h.isOpen p hu

theorem attemptFails_pools (s : Dependencies) (o : Opening) (exc : String) :
    (s.attemptFails o exc).pools = s.pools := by
  unfold attemptFails
  split <;> rfl

theorem attemptFails_graph (s : Dependencies) (o : Opening) (exc : String) :
    (s.attemptFails o exc).graph = s.graph := by
  unfold attemptFails
  split <;> rfl

theorem attemptFails_shutdown (s : Dependencies) (o : Opening) (exc : String) :
    (s.attemptFails o exc).shutdown = s.shutdown := by
  unfold attemptFails
  split <;> rfl

theorem attemptFails_settingUp (s : Dependencies) (o : Opening) (exc : String) :
    (s.attemptFails o exc).settingUp = none := by
  unfold attemptFails
  split <;> rfl

/-- **A pool that is entered** is being set up, and is too late where `aclose` has returned. -/
theorem accounted_entered {o : Opening} (ha : s.Accounted) (ho : s.lock = some o)
    (hstage : o.stage = .entering) {t : Dependencies} (h' : t.Inv)
    (ht : t = { s with
      pools := s.pools ++ [true], lock := some { o with stage := .settingUp s.pools.length } }) :
    t.Accounted ↔ s.shutdown ≠ .returned := by
  rw [h'.accounted_iff_held]
  subst ht
  refine ⟨fun hacc hreturned => hacc.2 hreturned s.pools.length (by simp [IsOpen]),
    fun hnot => ⟨fun p hopen => ?_, fun hreturned => absurd hreturned hnot⟩⟩
  obtain rfl | hne := eq_or_ne p s.pools.length
  · exact .inr rfl
  · rcases ha.held p ((isOpen_append hne).mp hopen) with hgraph | hup
    · exact .inl hgraph
    · simp [settingUp_of_lock ho, Opening.pool?, hstage] at hup

/-- **`aclose` exits the pools on the stack**: all there are, unless one is being set up. -/
theorem accounted_unwind (h : s.Inv) (ha : s.Accounted) (hclosing : s.shutdown = .closing)
    {t : Dependencies} (h' : t.Inv)
    (ht : t = { s with pools := s.unwound, stack := [], shutdown := .returned }) :
    t.Accounted ↔ s.settingUp = none := by
  rw [h'.accounted_iff_held]
  subst ht
  constructor
  · rintro ⟨-, hclosed⟩
    cases hup : s.settingUp with
    | none => rfl
    | some p => exact absurd (h'.isOpen p hup) (hclosed rfl p)
  · intro hup
    have hnone : ∀ p : ℕ, s.unwound[p]? ≠ some true := by
      intro p hopen
      obtain ⟨hold, hstack⟩ := (unwound_eq_true_iff (p := p)).mp hopen
      rcases ha.held p hold with hgraph | hp
      · exact hstack (h.pushed (by simp [hclosing]) p hgraph)
      · exact nomatch hup.symm.trans hp
    exact ⟨fun p hopen => absurd hopen (hnone p), fun _ => hnone⟩

/-- **A step keeps the pools accounted for** exactly if it is clean. -/
theorem accounted_step {e : Event} (h : s.Inv) (ha : s.Accounted) (hstep : s.step e = some s') :
    s'.Accounted ↔ s.Clean e := by
  have h' : s'.Inv := inv_step h hstep
  cases does_of_step hstep with
  | call i =>
    refine iff_of_true (ha.of_eq h' ?_ ?_ ?_ ?_) trivial
    all_goals unfold Dependencies.call; split <;> first | rfl | exact id
  | enter i hlock =>
    refine iff_of_true (ha.of_eq h' ?_ ?_ ?_ ?_) trivial
    · unfold Dependencies.enter; split <;> rfl
    · unfold Dependencies.enter; split <;> rfl
    · unfold Dependencies.enter; split <;> simp [settingUp, hlock, put, Opening.pool?]
    · unfold Dependencies.enter; split <;> exact id
  | entered o ho hstage => exact accounted_entered ha ho hstage h' rfl
  | enterFails o exc ho hstage =>
    refine iff_of_true (ha.of_eq h' (attemptFails_pools s o exc) (attemptFails_graph s o exc) ?_
      (by rw [attemptFails_shutdown]; exact id)) trivial
    rw [attemptFails_settingUp, settingUp_of_lock ho, Opening.pool?, hstage]
  | setUp o pool ho hstage =>
    have hup : s.settingUp = some pool := (settingUp_of_lock ho).trans (pool?_of_settingUp hstage)
    refine iff_of_true (h'.accounted_iff_held.mpr ⟨fun p hopen => .inl ?_, ha.closed⟩) trivial
    rcases ha.held p hopen with hgraph | hp
    · exact nomatch (h.unopened (by simp [ho])).symm.trans hgraph
    · exact hup.symm.trans hp
  | setUpFails o pool exc ho hstage =>
    refine iff_of_false (Leaked.not_accounted (p := pool) ?_) id
    exact h.leaks ((settingUp_of_lock ho).trans (pool?_of_settingUp hstage))
      (attemptFails_pools s o exc) (attemptFails_graph s o exc) (attemptFails_settingUp s o exc)
  | retry o ho hstage =>
    refine iff_of_true (ha.of_eq h' rfl rfl ?_ id) trivial
    simp [settingUp, ho, Opening.pool?, hstage]
  | leave i hi => exact iff_of_true (ha.of_eq h' rfl rfl rfl id) fun hopening => absurd hopening hi
  | interrupt i hi =>
    cases hup : s.settingUp with
    | none => exact iff_of_true (ha.of_eq h' rfl rfl hup.symm id) fun _ => hup
    | some p =>
      have hleaked : { s.put i .cancelled with lock := none }.Leaked p :=
        h.leaks hup rfl rfl rfl
      exact iff_of_false hleaked.not_accounted fun hc => nomatch hup.symm.trans (hc hi)
  | aclose hrunning => exact iff_of_true (ha.of_eq h' rfl rfl rfl (by rintro ⟨⟩)) trivial
  | unwind hclosing => exact accounted_unwind h ha hclosing h' rfl

/-- **A leaked pool stays leaked**, whatever the step. -/
theorem leaked_step {e : Event} {p : ℕ} (h : s.Inv ∧ s.Leaked p) (hstep : s.step e = some s') :
    s'.Inv ∧ s'.Leaked p := by
  obtain ⟨h, hopen, hgraph, hup⟩ := h
  refine ⟨inv_step h hstep, ?_⟩
  cases does_of_step hstep with
  | call i =>
    unfold Dependencies.call
    split <;> exact ⟨hopen, hgraph, hup⟩
  | enter i hlock =>
    unfold Dependencies.enter
    split
    · exact ⟨hopen, hgraph, hup⟩
    · exact ⟨hopen, hgraph, by simp [settingUp, Opening.pool?]⟩
  | entered o ho hstage =>
    obtain ⟨hlt, -⟩ := List.getElem?_eq_some_iff.mp hopen
    refine ⟨(isOpen_append (Nat.ne_of_lt hlt)).mpr hopen, hgraph, ?_⟩
    simpa [settingUp, Opening.pool?] using Nat.ne_of_gt hlt
  | enterFails o exc _ _ | setUpFails o _ exc _ _ =>
    refine ⟨?_, by rwa [attemptFails_graph], by simp [attemptFails_settingUp]⟩
    rwa [IsOpen, attemptFails_pools]
  | setUp o pool ho hstage =>
    refine ⟨hopen, fun hp => hup ?_, by rintro ⟨⟩⟩
    rw [settingUp_of_lock ho, pool?_of_settingUp hstage, ← Option.some.inj hp]
  | retry o _ _ => exact ⟨hopen, hgraph, by simp [settingUp, Opening.pool?]⟩
  | leave i _ => exact ⟨hopen, hgraph, hup⟩
  | interrupt i _ => exact ⟨hopen, hgraph, by rintro ⟨⟩⟩
  | aclose _ => exact ⟨hopen, hgraph, hup⟩
  | unwind _ =>
    exact ⟨unwound_eq_true_iff.mpr ⟨hopen, fun hstack => hgraph (h.stack p hstack)⟩, hgraph, hup⟩

theorem accounted_start : start.Accounted :=
  inv_start.accounted_iff_held.mpr ⟨by rintro p ⟨⟩, by rintro ⟨⟩⟩

end Step

end Dependencies

open Dependencies

/-! ## The pools of every run -/

/-- **Every pool is accounted for in every state of a run**, exactly if its steps lose none. -/
theorem accounted_iff {es : List Event} {s : Dependencies} (h : exec step start es = some s) :
    Always step Accounted start es ↔ Throughout step Clean start es :=
  always_iff_throughout inv_step accounted_step inv_start accounted_start h

/-- Two callers wait while a pool cannot be entered; the second attempt's graph is shared, and
`aclose` exits its pool. -/
def docsRun : List Event :=
  [.call 0, .call 1, .enter 0, .enterFails "timed out", .retry, .entered, .setUp, .enter 1,
    .call 2, .aclose, .unwind]

theorem accounted_docsRun : Always step Accounted start docsRun := by
  have hrun : (exec step start docsRun).isSome = true := by decide
  obtain ⟨s, hs⟩ := Option.isSome_iff_exists.mp hrun
  exact (accounted_iff hs).mpr (by decide)

/-- **A pool once leaked is never exited**, by `aclose` no more than by a later attempt. -/
theorem leaked_forever {es es' : List Event} {s t : Dependencies}
    (h : exec step start es = some s) {p : ℕ} (hp : s.Leaked p) (h' : exec step s es' = some t) :
    t.Leaked p :=
  (exec_invariant (I := fun s => s.Inv ∧ s.Leaked p) leaked_step
    ⟨exec_invariant inv_step inv_start h, hp⟩ h').2

/-- One round whose three pools are entered and then fail their set-up, and the shutdown. -/
def leakyRun : List Event :=
  [.call 0, .enter 0, .entered, .setUpFails "permission denied", .retry, .entered,
    .setUpFails "permission denied", .retry, .entered, .setUpFails "permission denied", .aclose,
    .unwind]

/-- The caller is told of the failure, `aclose` has returned, and three pools are open. -/
theorem pools_left_open : ∃ s, exec step start leakyRun = some s ∧ s.shutdown = .returned
    ∧ s.callers 0 = some (.raised "checkpointer unavailable: permission denied")
    ∧ s.pools = [true, true, true] ∧ ¬ s.Accounted := by
  refine ⟨_, rfl, rfl, rfl, by decide, fun h => ?_⟩
  exact h.closed rfl 0 (by decide)

end Agent.Checkpointer
