import TaxLiability.Agent.Checkpointer
import TaxLiability.Agent.Session
import TaxLiability.Machinery.Progress
import TaxLiability.Machinery.Simulation

/-!
# Agent/Readiness — the pod that gets no requests until it is ready

    lifespan: warmup: graph() ──▸ session() ──▸ reconnect_forever ─▸ graph() ──returned──▸ settled
                                                      ▴                 │ raised
                     readyz = 200 ⟺ a graph is up     └── sleeping ◂────┘

The probe opens nothing, and an unready pod is sent nothing; nothing is served before the warmup is
over, and the warmup is over once its attempts at the MCP session are answered, if only by their
failure (`session_of_serve`).  What opens the graph is the warmup's call, and then the loop's:
whatever the requests, the failures and the cancelled callers before, once the attempts succeed the
pod is ready within five steps of its own, eleven with the warmup's, in whichever order they come
(`ready_of_up`).
-/

open Machine

namespace Agent.Readiness

open Checkpointer

/-! ## The lifespan -/

/-- How far the lifespan's own tasks have come. -/
inductive Loop
  /-- `warmup`, at the call of `graph` -/
  | warmup (call : ℕ)
  /-- …and at that of `session` after it, which waits for its task -/
  | warmupSession (task : Session.SessionTask)
  /-- `reconnect_forever`, at a call of `graph` -/
  | calling (call : ℕ)
  /-- …and between two of them -/
  | sleeping
  /-- it found a graph, and returned -/
  | settled
  | cancelled
  deriving DecidableEq, Repr

/-- The call that is awaited. -/
def Loop.call? : Loop → Option ℕ
  | .warmup i | .calling i => some i
  | .warmupSession _ | .sleeping | .settled | .cancelled => none

def Loop.isWarmup : Loop → Bool
  | .warmup _ | .warmupSession _ => true
  | .calling _ | .sleeping | .settled | .cancelled => false

/-- **The service**, as far as its readiness goes: the dependencies, how many calls of `graph`
there have been, and the lifespan's tasks. -/
structure Service where
  deps : Dependencies
  calls : ℕ
  loop : Loop

/-- What happens next. -/
inductive Event
  /-- a step of a call of `graph`, of a request's task, or of `aclose` -/
  | deps (e : Checkpointer.Event)
  /-- the warmup gets the answer of its call of `graph`, and calls `session` -/
  | warmed
  /-- a step of the task of that call -/
  | served (e : Session.Served)
  /-- the call is answered, `warmup` is over, and `reconnect_forever` begins -/
  | started
  /-- the loop gets the answer of its call -/
  | resumed
  /-- the loop's sleep is over -/
  | woken
  /-- the lifespan ends: the loop is cancelled -/
  | stop
  deriving DecidableEq, Repr

/-- **The pod's own steps, while attempts at the checkpointer succeed** and those at the MCP server
are answered, be it by a failure: no request comes, and nothing else fails, is cancelled or
stopped. -/
def Event.Up : Event → Prop
  | .deps (.enter _) | .deps .entered | .deps .setUp | .deps .retry => True
  | .served .connect | .served (.refuse _) | .served .initialized | .served (.reject _) => True
  | .warmed | .started | .resumed | .woken => True
  | .deps (.call _) | .deps (.enterFails _) | .deps (.setUpFails _) | .deps (.cancel _) => False
  | .served (.lose _) | .served (.snap _) | .served (.unwind _) => False
  | .deps .aclose | .deps .unwind | .stop => False

/-! ## The warmup's session -/

/-- A step of the task of the warmup's call, before anything could close the session. -/
def serve (task : Session.SessionTask) (e : Session.Served) : Option Session.SessionTask :=
  (task.step false e).map Prod.fst

/-- **The warmup's call of `session` ends with its task's attempts**: it waits for the first task
there is, and can come back as soon as that is no longer opening. -/
theorem session_of_serve {es : List Session.Served} {task : Session.SessionTask}
    (h : exec serve .new es = some task) :
    ∃ s, exec Session.Dependencies.step Session.Dependencies.start
        (.call 0 :: .enter 0 :: trace serve (fun _ e _ => [.served 0 e]) .new es) = some s
      ∧ s.calls 0 = some (.waiting 0) ∧ s.tasks = [task]
      ∧ ((s.step (.resume 0)).isSome ↔ task.stage.isOpening = false) := by
  have hsimulates : Simulates serve Session.Dependencies.step (fun _ e _ => [.served 0 e])
      (fun _ => True) fun task s => s.calls 0 = some (.waiting 0) ∧ s.tasks = [task]
        ∧ s.closing = false ∧ s.up = !task.stage.isOpening := by
    rintro task e task' s - ⟨hcall, htasks, hclosing, hup⟩ hserve
    obtain ⟨⟨next, signal⟩, hstep, rfl⟩ := Option.map_eq_some_iff.mp hserve
    have hserved : s.step (.served 0 e) = some ((s.setTask 0 next).publish 0 signal) := by
      simp [Session.Dependencies.step, htasks, hclosing, hstep]
    have htasks' : ((s.setTask 0 next).publish 0 signal).tasks = [next] := by
      simp [Session.Dependencies.setTask, htasks]
    refine ⟨_, exec_cons_eq_some.mpr ⟨_, hserved, rfl⟩, ?_, htasks', ?_, ?_⟩
    · rw [Session.Dependencies.publish_calls]
      exact hcall
    · cases signal <;> exact hclosing
    · cases Session.SessionTask.moves_of_step hstep with
      | opening hopening hopening' => exact hup.trans (by rw [hopening, hopening'])
      | loses _ _ hparked hparked' => exact hup.trans (by rw [hparked, hparked'])
      | opens _ hparked' _ => rw [hparked']; rfl
      | fails _ _ hfailed _ => rw [hfailed]; rfl
      | ends _ _ _ hended _ => rcases hended with hlost | hclosed <;> simp [*] <;> rfl
  have hstart : exec Session.Dependencies.step Session.Dependencies.start [.call 0, .enter 0]
      = some ((Session.Dependencies.start.call 0).enter 0) := rfl
  obtain ⟨s, hs, hcall, htasks, -, hup⟩ := hsimulates.exec
    (t := (Session.Dependencies.start.call 0).enter 0) (fun _ _ => trivial)
    ⟨rfl, rfl, rfl, rfl⟩ h
  refine ⟨s, exec_append_eq_some.mpr ⟨_, hstart, hs⟩, hcall, htasks, ?_⟩
  simp [Session.Dependencies.step, hcall, hup]

namespace Service

/-- The lifespan has begun with the warmup's call. -/
def start : Service := ⟨Dependencies.start.call 0, 1, .warmup 0⟩

/-- **`Dependencies.graph_ready`.** -/
def graph_ready (s : Service) : Bool := s.deps.graph.isSome

/-- The warmup is over, and requests are answered. -/
def serving (s : Service) : Bool := !s.loop.isWarmup

/-- **The status of `/readyz`**, once there is anything to answer it. -/
def readyz (s : Service) : Option ℕ :=
  if s.serving then some (if s.graph_ready then 200 else 503) else none

/-- **The head of the loop**: it ends with a graph, and calls for one else. -/
def whileHead (s : Service) : Service :=
  match s.deps.graph with
  | some _ => { s with loop := .settled }
  | none => ⟨s.deps.call s.calls, s.calls + 1, .calling s.calls⟩

/-- **What else may happen to the dependencies**: requests call once the warmup is over, their tasks
alone are cancelled from without, and `aclose` follows the loop. -/
def Admits (s : Service) : Checkpointer.Event → Prop
  | .call i => i = s.calls ∧ ¬ s.loop.isWarmup
  | .cancel i => s.loop.call? ≠ some i
  | .aclose => s.loop = .settled ∨ s.loop = .cancelled
  | _ => True

instance (s : Service) : (e : Checkpointer.Event) → Decidable (s.Admits e)
  | .call i => inferInstanceAs (Decidable (i = s.calls ∧ ¬ s.loop.isWarmup))
  | .cancel i => inferInstanceAs (Decidable (s.loop.call? ≠ some i))
  | .aclose => inferInstanceAs (Decidable (s.loop = .settled ∨ s.loop = .cancelled))
  | .enter _ | .entered | .enterFails _ | .setUp | .setUpFails _ | .retry | .unwind =>
    isTrue trivial

/-- The number of calls after it. -/
def callsAfter (s : Service) : Checkpointer.Event → ℕ
  | .call _ => s.calls + 1
  | _ => s.calls

/-- **One step.** -/
def step (s : Service) : Event → Option Service
  | .deps e =>
    if s.Admits e then (s.deps.step e).map fun deps => ⟨deps, s.callsAfter e, s.loop⟩ else none
  | .warmed =>
    match s.loop with
    | .warmup i =>
      match s.deps.callers i with
      | some (.returned _) | some (.raised _) => some { s with loop := .warmupSession .new }
      | _ => none
    | _ => none
  | .served e =>
    match s.loop with
    | .warmupSession task =>
      (serve task e).map fun task' => { s with loop := .warmupSession task' }
    | _ => none
  | .started =>
    match s.loop with
    | .warmupSession task => if task.stage.isOpening then none else some s.whileHead
    | _ => none
  | .resumed =>
    match s.loop with
    | .calling i =>
      match s.deps.callers i with
      | some (.returned _) => some s.whileHead
      -- `except DependencyUnavailable`
      | some (.raised _) => some { s with loop := .sleeping }
      | _ => none
    | _ => none
  | .woken =>
    match s.loop with
    | .sleeping => some s.whileHead
    | _ => none
  | .stop =>
    match s.loop with
    | .calling i =>
      match s.deps.step (.cancel i) with
      | some deps => some { s with deps := deps, loop := .cancelled }
      -- its call is answered, and not resumed
      | none => some { s with loop := .cancelled }
    | .sleeping => some { s with loop := .cancelled }
    | .warmup _ | .warmupSession _ | .settled | .cancelled => none

/-! ## The invariant -/

/-- **In the warmup** there is no call but its own, so none is left in the queue once there is a
graph; and the attempts of its session's task are not used up. -/
structure Warming (s : Service) : Prop where
  alone : s.loop.isWarmup → s.calls = 1
  early : s.loop.isWarmup → s.deps.graph.isSome → ∀ i, s.deps.callers i ≠ some .queued
  attempts : ∀ task, s.loop = .warmupSession task → task.failures < Session.OPEN_ATTEMPTS

/-- **The lifespan's call is under way or answered**, and whoever holds the lock opens the graph. -/
structure Inv (s : Service) : Prop where
  deps : s.deps.Inv
  holder : ∀ o, s.deps.lock = some o → s.deps.callers o.caller = some .opening
  fresh : ∀ i, s.calls ≤ i → s.deps.callers i = none
  called : ∀ i ∈ s.loop.call?, ∃ c, s.deps.callers i = some c ∧ c ≠ .cancelled
  settled : s.loop = .settled → s.deps.graph.isSome
  warming : s.Warming

/-- After the warmup nothing is asked of it. -/
theorem Warming.of_serving {s : Service} (h : s.loop.isWarmup = false) : s.Warming where
  alone hwarmup := absurd (hwarmup.symm.trans h) (by decide)
  early hwarmup := absurd (hwarmup.symm.trans h) (by decide)
  attempts task hloop := by
    rw [hloop] at h
    cases h

/-- **What a step of the dependencies leaves of the callers**: nobody is forgotten, nobody who has
not called is known, and nobody is cancelled but who is. -/
structure Kept (d d' : Dependencies) (e : Checkpointer.Event) : Prop where
  inv : d'.Inv
  holder : ∀ o, d'.lock = some o → d'.callers o.caller = some .opening
  fresh : ∀ i, d.callers i = none → e ≠ .call i → d'.callers i = none
  called : ∀ i c, d.callers i = some c → c ≠ .cancelled → e ≠ .cancel i →
    ∃ c', d'.callers i = some c' ∧ c' ≠ .cancelled
  graph : d.graph.isSome → d'.graph = d.graph ∧ d'.pools.length = d.pools.length

section Kept

variable {d d' : Dependencies} {e : Checkpointer.Event} {i : ℕ} {c : Caller}

theorem Kept.of_eq (hinv : d'.Inv) (hcallers : d'.callers = d.callers)
    (hholder : ∀ o, d'.lock = some o → d.callers o.caller = some .opening)
    (hgraph : d.graph.isSome → d'.graph = d.graph ∧ d'.pools.length = d.pools.length) :
    Kept d d' e where
  inv := hinv
  holder o ho := by rw [hcallers, hholder o ho]
  fresh j hj _ := by rw [hcallers, hj]
  called j c hj hc _ := ⟨c, by rw [hcallers, hj], hc⟩
  graph := hgraph

/-- One caller moves. -/
theorem Kept.of_update (hinv : d'.Inv)
    (hcallers : d'.callers = Function.update d.callers i (some c))
    (hlock : ∀ o, d'.lock = some o → (o.caller = i → c = .opening)
      ∧ (o.caller ≠ i → d.callers o.caller = some .opening))
    (hi : e ≠ .call i → d.callers i ≠ none) (hc : e ≠ .cancel i → c ≠ .cancelled)
    (hgraph : d.graph.isSome → d'.graph = d.graph ∧ d'.pools.length = d.pools.length) :
    Kept d d' e where
  inv := hinv
  holder o ho := by
    rw [hcallers]
    by_cases hcaller : o.caller = i
    · rw [hcaller, Function.update_self, (hlock o ho).1 hcaller]
    · rw [Function.update_of_ne hcaller, (hlock o ho).2 hcaller]
  fresh j hj he := by
    have hne : j ≠ i := by
      rintro rfl
      exact hi he hj
    rw [hcallers, Function.update_of_ne hne, hj]
  called j c' hj hc' he := by
    rw [hcallers]
    by_cases hji : j = i
    · subst hji
      exact ⟨c, Function.update_self .., hc he⟩
    · exact ⟨c', by rw [Function.update_of_ne hji, hj], hc'⟩
  graph := hgraph

/-- A call is queued, or answered at once with the graph. -/
theorem kept_call (hinv : (d.call i).Inv)
    (hholder : ∀ o, d.lock = some o → d.callers o.caller = some .opening)
    (hi : d.callers i = none) : Kept d (d.call i) (.call i) := by
  have hlock (c : Caller) (o : Opening) (ho : d.lock = some o) :
      (o.caller = i → c = .opening) ∧ (o.caller ≠ i → d.callers o.caller = some .opening) := by
    refine ⟨?_, fun _ => hholder o ho⟩
    rintro rfl
    cases hi.symm.trans (hholder o ho)
  unfold Dependencies.call at hinv ⊢
  split at hinv
  · exact .of_update hinv rfl (hlock _) (fun he => absurd rfl he) (fun _ hc => by cases hc)
      fun _ => ⟨rfl, rfl⟩
  · exact .of_update hinv rfl (hlock _) (fun he => absurd rfl he) (fun _ hc => by cases hc)
      fun _ => ⟨rfl, rfl⟩

/-- Whoever gets the lock finds the graph, or opens it. -/
theorem kept_enter (hinv : (d.enter i).Inv) (hi : d.callers i ≠ none) (hlock : d.lock = none) :
    Kept d (d.enter i) e := by
  unfold Dependencies.enter at hinv ⊢
  split at hinv
  · exact .of_update hinv rfl (fun o ho => by cases hlock.symm.trans ho) (fun _ => hi)
      (fun _ hc => by cases hc) fun _ => ⟨rfl, rfl⟩
  · refine .of_update hinv rfl (fun o ho => ?_) (fun _ => hi) (fun _ hc => by cases hc)
      fun _ => ⟨rfl, rfl⟩
    cases ho
    exact ⟨fun _ => rfl, fun hne => absurd rfl hne⟩

/-- A task is cancelled while it waits for the lock, or with the lock, which it releases. -/
theorem kept_cancel (hinv : d'.Inv)
    (hholder : ∀ o, d.lock = some o → d.callers o.caller = some .opening)
    (h : d.step (.cancel i) = some d') : Kept d d' (.cancel i) := by
  simp only [Dependencies.step] at h
  split at h
  · next hi =>
    cases h
    refine .of_update hinv rfl (fun o ho => ⟨?_, fun _ => hholder o ho⟩)
      (fun _ => by rw [hi]; exact Option.some_ne_none _) (fun he => absurd rfl he)
      fun _ => ⟨rfl, rfl⟩
    rintro rfl
    cases hi.symm.trans (hholder o ho)
  · next hi =>
    cases h
    exact .of_update hinv rfl (fun _ ho => by cases ho)
      (fun _ => by rw [hi]; exact Option.some_ne_none _) (fun he => absurd rfl he)
      fun _ => ⟨rfl, rfl⟩
  · cases h

/-- An attempt that fails is tried again, or its caller raises. -/
theorem kept_attemptFails {o : Opening} {exc : String} (hinv : (d.attemptFails o exc).Inv)
    (hholder : d.callers o.caller = some .opening) (hopening : ¬ d.graph.isSome) :
    Kept d (d.attemptFails o exc) e := by
  unfold Dependencies.attemptFails at hinv ⊢
  split_ifs at hinv ⊢
  · refine .of_eq hinv rfl (fun o' ho' => ?_) fun hg => absurd hg hopening
    cases ho'
    exact hholder
  · exact .of_update hinv rfl (fun _ ho' => by cases ho')
      (fun _ => by rw [hholder]; exact Option.some_ne_none _) (fun _ hc => by cases hc)
      fun hg => absurd hg hopening

end Kept

/-- **A step keeps the callers.** -/
theorem kept_of_step {d d' : Dependencies} {e : Checkpointer.Event} (hinv : d.Inv)
    (hholder : ∀ o, d.lock = some o → d.callers o.caller = some .opening)
    (h : d.step e = some d') : Kept d d' e := by
  have hinv' : d'.Inv := Dependencies.inv_step hinv h
  -- while somebody opens the graph, there is none
  have hopening : ∀ {o}, d.lock = some o → ¬ d.graph.isSome := by
    intro o ho
    rw [hinv.unopened (by rw [ho]; exact Option.some_ne_none o)]
    exact Bool.false_ne_true
  cases e with
  | call i =>
    obtain ⟨hi, h⟩ := Option.ite_none_right_eq_some.mp h
    cases h
    exact kept_call hinv' hholder hi
  | enter i =>
    obtain ⟨⟨hi, hlock⟩, h⟩ := Option.ite_none_right_eq_some.mp h
    cases h
    exact kept_enter hinv' (by rw [hi]; exact Option.some_ne_none _) hlock
  | cancel i => exact kept_cancel hinv' hholder h
  | entered =>
    cases Dependencies.does_of_step h with
    | entered o ho _ =>
      refine .of_eq hinv' rfl (fun o' ho' => ?_) fun hg => absurd hg (hopening ho)
      cases ho'
      exact hholder o ho
  | retry =>
    cases Dependencies.does_of_step h with
    | retry o ho _ =>
      refine .of_eq hinv' rfl (fun o' ho' => ?_) fun hg => absurd hg (hopening ho)
      cases ho'
      exact hholder o ho
  | enterFails exc =>
    cases Dependencies.does_of_step h with
    | enterFails o _ ho _ => exact kept_attemptFails hinv' (hholder o ho) (hopening ho)
  | setUpFails exc =>
    cases Dependencies.does_of_step h with
    | setUpFails o _ _ ho _ => exact kept_attemptFails hinv' (hholder o ho) (hopening ho)
  | setUp =>
    cases Dependencies.does_of_step h with
    | setUp o pool ho _ =>
      exact .of_update hinv' rfl (fun _ ho' => by cases ho')
        (fun _ => by rw [hholder o ho]; exact Option.some_ne_none _) (fun _ hc => by cases hc)
        fun hg => absurd hg (hopening ho)
  | aclose =>
    cases Dependencies.does_of_step h with
    | aclose => exact .of_eq hinv' rfl hholder fun _ => ⟨rfl, rfl⟩
  | unwind =>
    cases Dependencies.does_of_step h with
    | unwind =>
      refine .of_eq hinv' rfl hholder fun _ => ⟨rfl, ?_⟩
      exact List.length_mapIdx

/-- Nobody is queued who was not, but who calls. -/
theorem queued_of_step {d d' : Dependencies} {e : Checkpointer.Event} {i : ℕ}
    (h : d.step e = some d') (hi : d'.callers i = some .queued) :
    d.callers i = some .queued ∨ e = .call i := by
  have hput : ∀ {j c}, Function.update d.callers j (some c) i = some .queued → c ≠ .queued →
      d.callers i = some .queued := by
    intro j c hupdate hc
    obtain ⟨-, hqueued⟩ | ⟨-, hold⟩ := update_eq_some_iff.mp hupdate
    · exact absurd (Option.some.inj hqueued) hc
    · exact hold
  cases Dependencies.does_of_step h with
  | call j =>
    by_cases hij : j = i
    · exact .inr (hij ▸ rfl)
    · unfold Dependencies.call at hi
      split at hi <;> exact .inl ((Function.update_of_ne (Ne.symm hij) _ _).symm.trans hi)
  | enter j =>
    unfold Dependencies.enter at hi
    split at hi <;> exact .inl (hput hi (by simp))
  | enterFails | setUpFails =>
    unfold Dependencies.attemptFails at hi
    split at hi
    · exact .inl hi
    · exact .inl (hput hi (by simp))
  | setUp | leave | interrupt => exact .inl (hput hi (by simp))
  | entered | retry | aclose | unwind => exact .inl hi

/-- A graph is opened under the lock. -/
theorem graph_of_step {d d' : Dependencies} {e : Checkpointer.Event} (h : d.step e = some d') :
    d'.graph = d.graph ∨ ∃ o, d.lock = some o := by
  cases Dependencies.does_of_step h with
  | setUp o pool ho _ => exact .inr ⟨o, ho⟩
  | call =>
    unfold Dependencies.call
    split <;> exact .inl rfl
  | enter =>
    unfold Dependencies.enter
    split <;> exact .inl rfl
  | enterFails | setUpFails =>
    unfold Dependencies.attemptFails
    split <;> exact .inl rfl
  | entered | retry | leave | interrupt | aclose | unwind => exact .inl rfl

/-! ## The invariant is kept -/

theorem inv_start : start.Inv where
  deps := Dependencies.inv_start.call 0
  holder o ho := by cases ho
  fresh i hi := Function.update_of_ne (Nat.one_le_iff_ne_zero.mp hi) ..
  called i hi := by
    cases hi
    exact ⟨.queued, rfl, fun hc => by cases hc⟩
  settled h := by cases h
  warming := ⟨fun _ => rfl, fun _ hgraph => (by cases hgraph), fun task hloop => by cases hloop⟩

section Step

variable {s s' : Service}

/-- In the warmup a step of the dependencies is one of its own call. -/
theorem Inv.warming_of_step (h : s.Inv) {e : Checkpointer.Event} {deps : Dependencies}
    (hadmits : s.Admits e) (hstep : s.deps.step e = some deps) :
    Warming ⟨deps, s.callsAfter e, s.loop⟩ := by
  have hcalls : s.loop.isWarmup → ∀ i, e ≠ .call i := by
    rintro hwarmup i rfl
    exact hadmits.2 hwarmup
  refine ⟨fun hwarmup => ?_, fun hwarmup hgraph i hi => ?_, h.warming.attempts⟩
  · have hafter : s.callsAfter e = s.calls := by
      cases e with
      | call i => exact absurd rfl (hcalls hwarmup i)
      | _ => rfl
    exact hafter.trans (h.warming.alone hwarmup)
  · have hqueued : s.deps.callers i = some .queued :=
      (queued_of_step hstep hi).resolve_right (hcalls hwarmup i)
    obtain hsame | ⟨o, ho⟩ := graph_of_step hstep
    · exact h.warming.early hwarmup (hsame ▸ hgraph) i hqueued
    · -- the caller with the lock and the one in the queue would be two
      have hknown : ∀ j c, s.deps.callers j = some c → j = 0 := by
        intro j c hj
        by_contra hne
        have hlate : s.calls ≤ j := by
          rw [h.warming.alone hwarmup]
          exact Nat.one_le_iff_ne_zero.mpr hne
        cases (h.fresh j hlate).symm.trans hj
      have hopening := h.holder o ho
      rw [hknown _ _ hopening] at hopening
      rw [hknown _ _ hqueued] at hqueued
      cases hqueued.symm.trans hopening

/-- **A step of the dependencies** keeps what the lifespan waits for. -/
theorem Inv.of_step (h : s.Inv) {e : Checkpointer.Event} {deps : Dependencies}
    (hadmits : s.Admits e) (hstep : s.deps.step e = some deps) :
    Inv ⟨deps, s.callsAfter e, s.loop⟩ :=
  have hkept := kept_of_step h.deps h.holder hstep
  { deps := hkept.inv
    holder := hkept.holder
    fresh := fun i hi => by
      refine hkept.fresh i (h.fresh i (Nat.le_trans ?_ hi)) ?_
      · cases e <;> simp [callsAfter]
      · rintro rfl
        obtain ⟨rfl, -⟩ := hadmits
        exact absurd hi (Nat.not_succ_le_self _)
    called := fun i hi => by
      obtain ⟨c, hc, hne⟩ := h.called i hi
      refine hkept.called i c hc hne ?_
      rintro rfl
      exact hadmits hi
    settled := fun hsettled => by
      have hgraph := h.settled hsettled
      rw [(hkept.graph hgraph).1]
      exact hgraph
    warming := h.warming_of_step hadmits hstep }

/-- **The loop's head** keeps the invariant: its call is a new one. -/
theorem Inv.whileHead (h : s.Inv) : s.whileHead.Inv := by
  unfold Service.whileHead
  split
  · next g hgraph =>
    refine ⟨h.deps, h.holder, h.fresh, fun i hi => (by cases hi), fun _ => ?_, .of_serving rfl⟩
    rw [hgraph]
    rfl
  · next hgraph =>
    have hstep : s.deps.step (.call s.calls) = some (s.deps.call s.calls) :=
      if_pos (h.fresh s.calls (Nat.le_refl _))
    have hkept := kept_of_step h.deps h.holder hstep
    refine ⟨hkept.inv, hkept.holder, fun i hi => ?_, fun i hi => ?_, fun h => (by cases h),
      .of_serving rfl⟩
    · refine hkept.fresh i (h.fresh i (Nat.le_of_succ_le hi)) ?_
      rintro ⟨⟩
      exact Nat.not_succ_le_self _ hi
    · cases hi
      refine ⟨.queued, ?_, fun hc => by cases hc⟩
      rw [Dependencies.call, hgraph]
      exact Function.update_self ..

/-- The lifespan awaits no graph. -/
theorem Inv.rest (h : s.Inv) {loop : Loop} (hcall : loop.call? = none) (hloop : loop ≠ .settled)
    (hwarming : Warming { s with loop := loop }) : Inv { s with loop := loop } :=
  ⟨h.deps, h.holder, h.fresh, fun i hi => (Option.some_ne_none i (hi.symm.trans hcall)).elim,
    fun hsettled => absurd hsettled hloop, hwarming⟩

/-- A failed attempt leaves another, or ends the task. -/
theorem attempts_of_serve {task task' : Session.SessionTask} {e : Session.Served}
    (h : serve task e = some task') (hattempts : task.failures < Session.OPEN_ATTEMPTS) :
    task'.failures < Session.OPEN_ATTEMPTS := by
  have hfails : ∀ exc, (task.attemptFails exc).1.failures < Session.OPEN_ATTEMPTS := by
    intro exc
    unfold Session.SessionTask.attemptFails
    split
    · assumption
    · exact hattempts
  obtain ⟨⟨next, signal⟩, hstep, rfl⟩ := Option.map_eq_some_iff.mp h
  cases e with
  | refuse exc | reject exc =>
    obtain ⟨-, hstep⟩ := Option.ite_none_right_eq_some.mp hstep
    have hfailed := hfails exc
    rwa [Option.some.inj hstep] at hfailed
  | connect | initialized | lose | unwind =>
    obtain ⟨-, hstep⟩ := Option.ite_none_right_eq_some.mp hstep
    cases hstep
    exact hattempts
  | snap exc =>
    obtain ⟨-, hstep⟩ := Option.ite_none_left_eq_some.mp hstep
    split at hstep <;> cases hstep <;> exact hattempts

/-- **The warmup's call of `session`** moves, or begins. -/
theorem Inv.warmupSession (h : s.Inv) (hwarmup : s.loop.isWarmup) {task : Session.SessionTask}
    (hattempts : task.failures < Session.OPEN_ATTEMPTS) :
    Inv { s with loop := .warmupSession task } :=
  h.rest rfl (fun hloop => by cases hloop)
    ⟨fun _ => h.warming.alone hwarmup, fun _ => h.warming.early hwarmup, fun task' hloop => by
      cases hloop
      exact hattempts⟩

/-- **What a step is.** -/
inductive Does (s : Service) : Event → Service → Prop
  | deps (e : Checkpointer.Event) (deps : Dependencies) : s.Admits e → s.deps.step e = some deps →
    Does s (.deps e) ⟨deps, s.callsAfter e, s.loop⟩
  | warmed (i : ℕ) : s.loop = .warmup i → Does s .warmed { s with loop := .warmupSession .new }
  | served (e : Session.Served) (task task' : Session.SessionTask) : s.loop = .warmupSession task →
    serve task e = some task' → Does s (.served e) { s with loop := .warmupSession task' }
  | started (task : Session.SessionTask) : s.loop = .warmupSession task →
    task.stage.isOpening = false → Does s .started s.whileHead
  | resumed (i g : ℕ) : s.loop = .calling i → s.deps.callers i = some (.returned g) →
    Does s .resumed s.whileHead
  | sleep (i : ℕ) (message : String) : s.loop = .calling i →
    s.deps.callers i = some (.raised message) → Does s .resumed { s with loop := .sleeping }
  | woken : s.loop = .sleeping → Does s .woken s.whileHead
  | interrupt (i : ℕ) (deps : Dependencies) : s.loop = .calling i →
    s.deps.step (.cancel i) = some deps →
    Does s .stop { s with deps := deps, loop := .cancelled }
  | stop : Does s .stop { s with loop := .cancelled }

theorem does_of_step {e : Event} (h : s.step e = some s') : s.Does e s' := by
  cases e with
  | deps e =>
    obtain ⟨hadmits, h⟩ := Option.ite_none_right_eq_some.mp h
    obtain ⟨deps, hdeps, rfl⟩ := Option.map_eq_some_iff.mp h
    exact .deps e deps hadmits hdeps
  | warmed =>
    simp only [step] at h
    split at h
    · next i hloop =>
      split at h
      · cases h; exact .warmed i hloop
      · cases h; exact .warmed i hloop
      · cases h
    · cases h
  | served e =>
    simp only [step] at h
    split at h
    · next task hloop =>
      obtain ⟨task', hserve, rfl⟩ := Option.map_eq_some_iff.mp h
      exact .served e task task' hloop hserve
    · cases h
  | started =>
    simp only [step] at h
    split at h
    · next task hloop =>
      obtain ⟨hopening, h⟩ := Option.ite_none_left_eq_some.mp h
      cases h
      exact .started task hloop (Bool.eq_false_iff.mpr hopening)
    · cases h
  | resumed =>
    simp only [step] at h
    split at h
    · next i hloop =>
      split at h
      · next g hi => cases h; exact .resumed i g hloop hi
      · next message hi => cases h; exact .sleep i message hloop hi
      · cases h
    · cases h
  | woken =>
    simp only [step] at h
    split at h
    · next hloop => cases h; exact .woken hloop
    · cases h
  | stop =>
    simp only [step] at h
    split at h
    · next i hloop =>
      split at h
      · next deps hdeps => cases h; exact .interrupt i deps hloop hdeps
      · cases h; exact .stop
    · cases h; exact .stop
    · cases h
    · cases h
    · cases h
    · cases h

theorem inv_step {e : Event} (h : s.Inv) (hstep : s.step e = some s') : s'.Inv := by
  cases does_of_step hstep with
  | deps e deps hadmits hdeps => exact h.of_step hadmits hdeps
  | warmed i hloop => exact h.warmupSession (by rw [hloop]; rfl) (by decide)
  | served e task task' hloop hserve =>
    exact h.warmupSession (by rw [hloop]; rfl)
      (attempts_of_serve hserve (h.warming.attempts task hloop))
  | started | resumed | woken => exact h.whileHead
  | sleep | stop => exact h.rest rfl (fun hloop => by cases hloop) (.of_serving rfl)
  | interrupt i deps _ hdeps =>
    have hkept := kept_of_step h.deps h.holder hdeps
    exact ⟨hkept.inv, hkept.holder,
      fun j hj => hkept.fresh j (h.fresh j hj) (fun he => by cases he),
      fun j hj => (by cases hj), fun hloop => (by cases hloop), .of_serving rfl⟩

end Step

/-! ## What leads to a graph -/

/-- How many steps an attempt is from its graph. -/
def stageRank : Checkpointer.Stage → ℕ
  | .settingUp _ => 1
  | .entering => 2
  | .sleeping => 3

/-- …and whoever holds the lock, or is to get it. -/
def lockRank (d : Dependencies) : ℕ :=
  match d.lock with
  | some o => stageRank o.stage
  | none => 3

/-- How many steps there are to a graph. -/
def graphRank (d : Dependencies) : ℕ := if d.graph.isSome then 0 else lockRank d

/-- How many steps a task of a session is from its last attempt's answer: two an attempt. -/
def taskRank (task : Session.SessionTask) : ℕ :=
  match task.stage with
  | .connecting => 2 * (Session.OPEN_ATTEMPTS - task.failures)
  | .initializing => 2 * (Session.OPEN_ATTEMPTS - task.failures) - 1
  | .parked | .failed | .lost | .closed => 0

/-- How many steps the loop is from calling again. -/
def callRank : Option Caller → ℕ
  | some (.raised _) => 2
  | _ => 0

/-- How many steps the lifespan is from its loop's call. -/
def loopRank (d : Dependencies) : Loop → ℕ
  | .warmup _ => 8
  | .warmupSession task => taskRank task + 1
  | .calling i => callRank (d.callers i)
  | .sleeping => 1
  | .settled | .cancelled => 0

/-- **How many steps the pod is from being ready.** -/
def rank (s : Service) : ℕ := graphRank s.deps + loopRank s.deps s.loop

/-- **Ready**: there is a graph, and the warmup is over. -/
def Ready (s : Service) : Prop := s.serving = true ∧ s.deps.graph ≠ none

variable {s s' : Service}

theorem readyz_eq_iff : s.readyz = some 200 ↔ s.Ready := by
  unfold readyz graph_ready Ready
  cases s.serving <;> cases s.deps.graph <;> simp

theorem graphRank_of_none {d : Dependencies} (h : d.graph = none) : graphRank d = lockRank d := by
  simp [graphRank, h]

theorem lockRank_of_lock {d : Dependencies} {o : Opening} (h : d.lock = some o) :
    lockRank d = stageRank o.stage := by
  rw [lockRank, h]

theorem stageRank_bounds (stage : Checkpointer.Stage) :
    1 ≤ stageRank stage ∧ stageRank stage ≤ 3 := by
  cases stage <;> simp [stageRank]

theorem lockRank_bounds (d : Dependencies) : 1 ≤ lockRank d ∧ lockRank d ≤ 3 := by
  unfold lockRank
  split
  · exact stageRank_bounds _
  · decide

theorem graphRank_le (d : Dependencies) : graphRank d ≤ 3 := by
  unfold graphRank
  split
  · exact Nat.zero_le _
  · exact (lockRank_bounds d).2

theorem callRank_le (c : Option Caller) : callRank c ≤ 2 := by
  unfold callRank
  split <;> decide

theorem taskRank_le (task : Session.SessionTask) : taskRank task ≤ 6 := by
  unfold taskRank Session.OPEN_ATTEMPTS
  split <;> omega

theorem loopRank_le (s : Service) : loopRank s.deps s.loop ≤ if s.serving then 2 else 8 := by
  unfold serving
  cases s.loop with
  | warmup i => exact Nat.le_refl 8
  | warmupSession task => exact Nat.succ_le_succ (Nat.le_succ_of_le (taskRank_le task))
  | calling i => exact callRank_le _
  | sleeping => exact Nat.le_succ 1
  | settled | cancelled => exact Nat.zero_le 2

/-- A pod that is not ready is at least one step from it, at most five once the warmup is over and
eleven before. -/
theorem rank_le (s : Service) : s.rank ≤ if s.serving then 5 else 11 := by
  have hgraph := graphRank_le s.deps
  have hloop := s.loopRank_le
  unfold rank
  split_ifs at hloop ⊢ <;> omega

theorem rank_pos (h : ¬ s.Ready) : 1 ≤ s.rank := by
  cases hgraph : s.deps.graph with
  | none =>
    rw [rank, graphRank_of_none hgraph]
    exact Nat.le_add_right_of_le (lockRank_bounds s.deps).1
  | some g =>
    have hwarmup : s.loop.isWarmup = true := by
      by_contra hserving
      exact h ⟨by rw [serving, Bool.eq_false_iff.mpr hserving]; rfl,
        by rw [hgraph]; exact Option.some_ne_none g⟩
    refine Nat.le_add_left_of_le ?_
    cases hloop : s.loop with
    | warmup i => exact (by decide : 1 ≤ 8)
    | warmupSession task => exact Nat.le_add_left 1 _
    | calling i | sleeping | settled | cancelled => rw [hloop] at hwarmup; cases hwarmup

/-- The loop's head calls, where there is no graph. -/
theorem rank_whileHead (hgraph : s.deps.graph = none) : s.whileHead.rank = lockRank s.deps := by
  have hcall : s.deps.call s.calls = s.deps.put s.calls .queued := by
    rw [Dependencies.call, hgraph]
  unfold whileHead
  rw [hgraph]
  simp [hcall, rank, loopRank, Dependencies.put, callRank, graphRank, lockRank, hgraph]

/-- Whoever gets the lock opens the graph: it was queued, so it has not raised, and does not now. -/
theorem rank_enter {i : ℕ} (calls : ℕ) (hlock : s.deps.lock = none) (hgraph : s.deps.graph = none) :
    rank ⟨s.deps.enter i, calls, s.loop⟩ < s.rank := by
  have hrank : graphRank s.deps = 3 := by
    rw [graphRank_of_none hgraph, lockRank, hlock]
  have henter : s.deps.enter i
      = { s.deps.put i .opening with lock := some ⟨i, 0, .entering⟩ } := by
    rw [Dependencies.enter, hgraph]
  have hrank' : graphRank (s.deps.enter i) = 2 := by
    rw [henter, graphRank_of_none (by exact hgraph), lockRank]
    rfl
  rw [rank, rank, hrank, hrank']
  refine Nat.add_lt_add_of_lt_of_le (Nat.lt_succ_self 2) ?_
  cases s.loop with
  | calling j =>
    rw [henter]
    by_cases hji : j = i
    · subst hji
      simp [loopRank, callRank, Dependencies.put]
    · simp [loopRank, Dependencies.put, Function.update_of_ne hji]
  | _ => exact Nat.le_refl _

/-- **A step of the attempts** that succeeds is one step less, unless the pod is ready. -/
theorem rank_deps (h : s.Inv) {e : Checkpointer.Event} {deps : Dependencies} (calls : ℕ)
    (hup : (Event.deps e).Up) (hready : ¬ Ready ⟨deps, calls, s.loop⟩)
    (hstep : s.deps.step e = some deps) : rank ⟨deps, calls, s.loop⟩ < s.rank := by
  have hloop (hcallers : deps.callers = s.deps.callers) :
      loopRank deps s.loop = loopRank s.deps s.loop := by
    cases s.loop <;> simp only [loopRank, hcallers]
  -- while somebody opens the graph, there is none
  have hnone : ∀ {o}, s.deps.lock = some o → s.deps.graph = none := fun ho =>
    h.deps.unopened (by rw [ho]; exact Option.some_ne_none _)
  unfold rank
  cases e with
  | entered =>
    cases Dependencies.does_of_step hstep with
    | entered o ho hstage =>
      rw [hloop rfl, graphRank_of_none (hnone ho), graphRank_of_none (by exact hnone ho),
        lockRank_of_lock ho, hstage]
      exact Nat.add_lt_add_right (Nat.lt_succ_self 1) _
  | retry =>
    cases Dependencies.does_of_step hstep with
    | retry o ho hstage =>
      rw [hloop rfl, graphRank_of_none (hnone ho), graphRank_of_none (by exact hnone ho),
        lockRank_of_lock ho, hstage]
      exact Nat.add_lt_add_right (Nat.lt_succ_self 2) _
  | setUp =>
    cases Dependencies.does_of_step hstep with
    | setUp o pool ho hstage =>
      -- ready, but in the warmup
      have hwarmup : s.loop.isWarmup = true := by
        by_contra hserving
        exact hready ⟨by rw [serving, Bool.eq_false_iff.mpr hserving]; rfl, Option.some_ne_none _⟩
      have hsame : loopRank (s.deps.publish o pool) s.loop = loopRank s.deps s.loop := by
        cases hcase : s.loop with
        | warmup i | warmupSession task => rfl
        | calling i | sleeping | settled | cancelled => rw [hcase] at hwarmup; cases hwarmup
      rw [hsame, graphRank_of_none (hnone ho), lockRank_of_lock ho, hstage]
      exact Nat.add_lt_add_right (Nat.lt_succ_self 0) _
  | enter i =>
    obtain ⟨⟨hi, hlock⟩, hstep⟩ := Option.ite_none_right_eq_some.mp hstep
    cases hstep
    cases hgraph : s.deps.graph with
    | none => exact rank_enter calls hlock hgraph
    | some g =>
      have hgraph' : (s.deps.enter i).graph = some g := by
        rw [Dependencies.enter, hgraph]
        exact hgraph
      have hserving : ¬ s.serving = true := fun hserving =>
        hready ⟨hserving, by rw [hgraph']; exact Option.some_ne_none g⟩
      have hwarmup : s.loop.isWarmup = true := by
        simpa [serving] using hserving
      exact absurd hi (h.warming.early hwarmup (by rw [hgraph]; rfl) i)
  | _ => cases hup

/-- **A step of the session's task** that is answered is one step less. -/
theorem taskRank_serve {task task' : Session.SessionTask} {e : Session.Served}
    (hup : (Event.served e).Up) (hattempts : task.failures < Session.OPEN_ATTEMPTS)
    (h : serve task e = some task') : taskRank task' < taskRank task := by
  have hfails : ∀ exc, 2 * (Session.OPEN_ATTEMPTS - task.failures) - 1 ≤ taskRank task →
      taskRank (task.attemptFails exc).1 < taskRank task := by
    intro exc hrank
    refine Nat.lt_of_lt_of_le ?_ hrank
    unfold Session.SessionTask.attemptFails
    split
    · simp only [taskRank]
      omega
    · simp only [taskRank, Session.SessionTask.ends]
      omega
  obtain ⟨⟨next, signal⟩, hstep, rfl⟩ := Option.map_eq_some_iff.mp h
  cases e with
  | connect =>
    obtain ⟨hstage, hstep⟩ := Option.ite_none_right_eq_some.mp hstep
    cases hstep
    simp only [taskRank, hstage]
    omega
  | initialized =>
    obtain ⟨⟨hstage, -⟩, hstep⟩ := Option.ite_none_right_eq_some.mp hstep
    cases hstep
    simp only [taskRank, hstage]
    omega
  | refuse exc =>
    obtain ⟨hstage, hstep⟩ := Option.ite_none_right_eq_some.mp hstep
    have hrank := hfails exc (by simp only [taskRank, hstage]; omega)
    rwa [Option.some.inj hstep] at hrank
  | reject exc =>
    obtain ⟨hstage, hstep⟩ := Option.ite_none_right_eq_some.mp hstep
    have hrank := hfails exc (by simp only [taskRank, hstage]; omega)
    rwa [Option.some.inj hstep] at hrank
  | lose | snap | unwind => cases hup

/-- **Each of the pod's own steps** is one less to its being ready. -/
theorem rank_lt {e : Event} (h : s.Inv) (hup : e.Up) (hready : ¬ s'.Ready)
    (hstep : s.step e = some s') (hunready : ¬ s.Ready) : s'.rank < s.rank := by
  -- the loop's head finds no graph, for it would be ready
  have hhead (hunready' : ¬ s.whileHead.Ready) (hloop : 1 ≤ loopRank s.deps s.loop) :
      s.whileHead.rank < s.rank := by
    have hnone : s.deps.graph = none := by
      by_contra hgraph
      obtain ⟨g, hg⟩ := Option.ne_none_iff_exists'.mp hgraph
      exact hunready' (by simp [Ready, whileHead, hg, serving, Loop.isWarmup])
    rw [rank_whileHead hnone, rank, graphRank_of_none hnone]
    exact Nat.lt_add_of_pos_right hloop
  cases does_of_step hstep with
  | deps e deps _ hdeps => exact rank_deps h _ hup hready hdeps
  | warmed i hloop =>
    rw [rank, rank, hloop]
    exact Nat.add_lt_add_left (Nat.lt_succ_of_le (Nat.succ_le_succ (taskRank_le _))) _
  | served e task task' hloop hserve =>
    rw [rank, rank, hloop]
    exact Nat.add_lt_add_left
      (Nat.succ_lt_succ (taskRank_serve hup (h.warming.attempts task hloop) hserve)) _
  | started task hloop _ => exact hhead hready (by rw [hloop]; exact Nat.le_add_left 1 _)
  | woken hloop => exact hhead hready (by rw [hloop]; exact Nat.le_refl 1)
  | resumed i g hloop hi =>
    exact absurd ⟨by rw [serving, hloop]; rfl,
      by rw [h.deps.returned i g hi]; exact Option.some_ne_none g⟩ hunready
  | sleep i message hloop hi =>
    have hrank : loopRank s.deps s.loop = 2 := by rw [hloop, loopRank, hi]; rfl
    rw [rank, rank, hrank]
    exact Nat.add_lt_add_left (Nat.lt_succ_self 1) _
  | interrupt | stop => cases hup

/-- The warmup's or the loop's call, while nobody holds the lock: it waits, or is answered. -/
theorem Inv.call_of_unlocked (h : s.Inv) (hlock : s.deps.lock = none) {i : ℕ}
    (hi : s.loop.call? = some i) : s.deps.callers i = some .queued
      ∨ (∃ message, s.deps.callers i = some (.raised message))
      ∨ ∃ g, s.deps.callers i = some (.returned g) := by
  obtain ⟨c, hc, hne⟩ := h.called i hi
  cases c with
  | queued => exact .inl hc
  | raised message => exact .inr (.inl ⟨message, hc⟩)
  | cancelled => exact absurd rfl hne
  | returned g => exact .inr (.inr ⟨g, hc⟩)
  | opening => exact absurd hc (h.deps.not_opening hlock i)

/-- **One of them is possible**, until the pod is ready, unless the loop is cancelled. -/
theorem exists_up (h : s.Inv) (hunready : ¬ s.Ready) (hloop : s.loop ≠ .cancelled) :
    ∃ e : Event, e.Up ∧ (s.step e).isSome := by
  cases hlock : s.deps.lock with
  | some o =>
    obtain ⟨i, failures, stage⟩ := o
    cases stage with
    | entering => exact ⟨.deps .entered, trivial, by simp [step, Admits, Dependencies.step, hlock]⟩
    | settingUp pool =>
      exact ⟨.deps .setUp, trivial, by simp [step, Admits, Dependencies.step, hlock]⟩
    | sleeping => exact ⟨.deps .retry, trivial, by simp [step, Admits, Dependencies.step, hlock]⟩
  | none =>
    have henter : ∀ i, s.deps.callers i = some .queued → (s.step (.deps (.enter i))).isSome := by
      intro i hi
      simp [step, Admits, Dependencies.step, hi, hlock]
    cases hs : s.loop with
    | warmup i =>
      obtain hi | ⟨message, hi⟩ | ⟨g, hi⟩ := h.call_of_unlocked hlock (by rw [hs]; rfl)
      · exact ⟨.deps (.enter i), trivial, henter i hi⟩
      · exact ⟨.warmed, trivial, by simp [step, hs, hi]⟩
      · exact ⟨.warmed, trivial, by simp [step, hs, hi]⟩
    | warmupSession task =>
      cases hstage : task.stage with
      | connecting =>
        exact ⟨.served .connect, trivial, by
          simp [step, hs, serve, Session.SessionTask.step, hstage]⟩
      | initializing =>
        exact ⟨.served (.reject ""), trivial, by
          simp [step, hs, serve, Session.SessionTask.step, hstage]⟩
      | parked | failed | lost | closed =>
        exact ⟨.started, trivial, by simp [step, hs, hstage, Session.Stage.isOpening]⟩
    | calling i =>
      obtain hi | ⟨message, hi⟩ | ⟨g, hi⟩ := h.call_of_unlocked hlock (by rw [hs]; rfl)
      · exact ⟨.deps (.enter i), trivial, henter i hi⟩
      · exact ⟨.resumed, trivial, by simp [step, hs, hi]⟩
      · exact ⟨.resumed, trivial, by simp [step, hs, hi]⟩
    | sleeping => exact ⟨.woken, trivial, by simp [step, hs]⟩
    | settled =>
      have hready : s.Ready :=
        ⟨by rw [serving, hs]; rfl, Option.isSome_iff_ne_none.mp (h.settled hs)⟩
      exact absurd hready hunready
    | cancelled => exact absurd hs hloop

/-! ## Ready, and for good -/

theorem whileHead_serving (s : Service) : s.whileHead.serving = true := by
  unfold whileHead
  split <;> rfl

/-- **A ready pod stays so**: it keeps its graph, and no pool is entered after it. -/
theorem ready_step {e : Event} (h : s.Inv) (hstep : s.step e = some s') (hready : s.Ready) :
    s'.Ready ∧ s'.deps.graph = s.deps.graph ∧ s'.deps.pools.length = s.deps.pools.length := by
  obtain ⟨hserving, hgraph⟩ := hready
  have hsome := Option.isSome_iff_ne_none.mpr hgraph
  have hhead : s.whileHead.deps = s.deps := by
    unfold whileHead
    split
    · rfl
    · next hnone => exact absurd hnone hgraph
  have hwarmup : s.loop.isWarmup = false := by simpa [serving] using hserving
  cases does_of_step hstep with
  | deps e deps _ hdeps =>
    obtain ⟨hsame, hpools⟩ := (kept_of_step h.deps h.holder hdeps).graph hsome
    exact ⟨⟨hserving, hsame ▸ hgraph⟩, hsame, hpools⟩
  | interrupt i deps _ hdeps =>
    obtain ⟨hsame, hpools⟩ := (kept_of_step h.deps h.holder hdeps).graph hsome
    exact ⟨⟨rfl, hsame ▸ hgraph⟩, hsame, hpools⟩
  | warmed i hloop => rw [hloop] at hwarmup; cases hwarmup
  | served e task task' hloop _ => rw [hloop] at hwarmup; cases hwarmup
  | started | resumed | woken =>
    exact ⟨⟨s.whileHead_serving, by rw [hhead]; exact hgraph⟩, by rw [hhead], by rw [hhead]⟩
  | sleep | stop => exact ⟨⟨rfl, hgraph⟩, rfl, rfl⟩

/-- The loop is cancelled by the lifespan's end alone. -/
theorem loop_step {e : Event} (hup : e.Up) (hstep : s.step e = some s')
    (hloop : s.loop ≠ .cancelled) : s'.loop ≠ .cancelled := by
  have hhead : s.whileHead.loop ≠ .cancelled := by
    unfold whileHead
    split <;> rintro ⟨⟩
  cases does_of_step hstep with
  | deps => exact hloop
  | started | resumed | woken => exact hhead
  | warmed | served | sleep => rintro ⟨⟩
  | interrupt | stop => cases hup

/-- **The pod's own steps lead to its being ready.** -/
theorem leadsTo_ready :
    LeadsTo step (fun s => s.Inv ∧ s.loop ≠ .cancelled) Ready Event.Up rank where
  keeps hs hup hstep := ⟨inv_step hs.1 hstep, loop_step hup hstep hs.2⟩
  stays hs hready _ hstep := (ready_step hs.1 hstep hready).1
  falls hs hunready hup hstep hunready' := rank_lt hs.1 hup hunready' hstep hunready
  goes hs hunready := exists_up hs.1 hunready hs.2

/-- **The pod gets ready on its own, and stays so.**  After any run, and until the lifespan ends, at
most four of its own steps leave it unready once the warmup is over, and at most ten before,
whichever they are, and another is then possible; and once it is ready it has its graph for good,
and enters no other pool. -/
theorem ready_of_up {es : List Event} (h : exec step start es = some s) :
    (s.loop ≠ .cancelled → ∀ us t, (∀ e ∈ us, e.Up) → exec step s us = some t →
        t.readyz ≠ some 200 →
        us.length ≤ (if s.serving then 4 else 10) ∧ ∃ e : Event, e.Up ∧ (t.step e).isSome)
      ∧ (s.readyz = some 200 → ∀ us t, exec step s us = some t → t.readyz = some 200
        ∧ t.deps.graph = s.deps.graph ∧ t.deps.pools.length = s.deps.pools.length) := by
  have hs : s.Inv := exec_invariant inv_step inv_start h
  refine ⟨fun hloop us t hup ht hunready => ?_, fun hready us t ht => ?_⟩
  · have hunready' : ¬ t.Ready := fun hready => hunready (readyz_eq_iff.mpr hready)
    obtain ⟨hle, hgoes⟩ := leadsTo_ready.length_le ⟨hs, hloop⟩ hup ht hunready'
    have hbound := s.rank_le
    have hpos := rank_pos hunready'
    refine ⟨?_, hgoes⟩
    split_ifs at hbound ⊢ <;> omega
  · have hkept : t.Inv ∧ t.Ready ∧ t.deps.graph = s.deps.graph
        ∧ t.deps.pools.length = s.deps.pools.length := by
      refine exec_invariant (I := fun r => r.Inv ∧ r.Ready ∧ r.deps.graph = s.deps.graph
        ∧ r.deps.pools.length = s.deps.pools.length) ?_
        ⟨hs, readyz_eq_iff.mp hready, rfl, rfl⟩ ht
      rintro r e r' ⟨hr, hrready, hrgraph, hrpools⟩ hstep
      obtain ⟨hready', hgraph', hpools'⟩ := ready_step hr hstep hrready
      exact ⟨inv_step hr hstep, hready', hgraph'.trans hrgraph, hpools'.trans hrpools⟩
    exact ⟨readyz_eq_iff.mpr hkept.2.1, hkept.2.2⟩

/-- The warmup's three attempts at the checkpointer fail, its session is opened at the second, and
the loop calls. -/
def docsEvents : List Event :=
  [.deps (.enter 0), .deps (.enterFails "refused"), .deps .retry, .deps (.enterFails "refused"),
    .deps .retry, .deps (.enterFails "refused"), .warmed, .served (.refuse "refused"),
    .served .connect, .served .initialized, .started]

/-- The database is up. -/
def docsUp : List Event := [.deps (.enter 1), .deps .entered, .deps .setUp]

theorem ready_docsEvents : ∃ s t, exec step start docsEvents = some s ∧ s.readyz = some 503
    ∧ (∃ e : Event, e.Up ∧ (s.step e).isSome) ∧ exec step s docsUp = some t ∧ t.readyz = some 200
    ∧ ∀ us r, exec step t us = some r → r.readyz = some 200 := by
  have hrun : (exec step start docsEvents).map (fun s => (s.readyz, s.loop))
      = some (some 503, .calling 1) := by decide
  have hrun' : (exec step start (docsEvents ++ docsUp)).map readyz = some (some 200) := by decide
  obtain ⟨s, hs, hstate⟩ := Option.map_eq_some_iff.mp hrun
  obtain ⟨hunready, hloop⟩ := Prod.mk.inj hstate
  obtain ⟨t, ht, hready⟩ := Option.map_eq_some_iff.mp hrun'
  obtain ⟨s', hs', hst⟩ := exec_append_eq_some.mp ht
  obtain rfl : s = s' := Option.some.inj (hs.symm.trans hs')
  have hgoes := ((ready_of_up hs).1 (by rw [hloop]; decide) [] s (by simp) rfl
    (by rw [hunready]; decide)).2
  exact ⟨s, t, hs, hunready, hgoes, hst, hready,
    fun us r hr => ((ready_of_up ht).2 hready us r hr).1⟩

end Service

end Agent.Readiness
