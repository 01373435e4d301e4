import Mathlib.Algebra.Order.Ring.Int
import Mathlib.Data.List.Basic
import TaxLiability.Machinery.Machine

/-!
# Agent/Session — the MCP session: one task opens it, many calls wait for it

    session() ──lock──▸ create_task ──▸ connect ──▸ initialize ──▸ parked ──closing──▸ closed
        ▴                                  ▴─ OPEN_ATTEMPTS ─┘        │
        └────────────── _session_up ◂─────────────────────────────────┘

The handshake of a call with its task can be used once: the event is never cleared, the error never
reset, and the handle of a task is overwritten by the next.  The session's lifecycle is kept along
the runs that use it once, hold one transport of it at a time, and neither break nor close an open
transport before its call resumes (`exec_lifecycle`).
-/

open Machine

namespace Agent.Session

/-! ## The task -/

/-- `OPEN_ATTEMPTS` of the source. -/
def OPEN_ATTEMPTS : ℕ := 3

/-- How far `_serve_session` has come. -/
inductive Stage
  /-- the next attempt has no transport yet -/
  | connecting
  /-- the attempt's transport is entered, and `initialize` sent -/
  | initializing
  /-- the session is published, and the task waits for `_session_closing` -/
  | parked
  /-- no attempt succeeded, and the failure is published -/
  | failed
  /-- the session was published, and its transport broke -/
  | lost
  /-- asked to close, the task has unwound -/
  | closed
  deriving DecidableEq, Repr

namespace Stage

def isOpening : Stage → Bool
  | .connecting | .initializing => true
  | _ => false

/-- The open attempt succeeded, whatever has come of the session since. -/
def isOpened : Stage → Bool
  | .parked | .lost | .closed => true
  | _ => false

def isFailed : Stage → Bool
  | .failed => true
  | _ => false

def isDone : Stage → Bool
  | .failed | .lost | .closed => true
  | _ => false

end Stage

/-- **A session task**: how many attempts have failed, and the transports on its stack, latest
first, each with whether it lives. -/
structure SessionTask where
  failures : ℕ
  transports : List Bool
  stage : Stage
  deriving DecidableEq, Repr

/-- What happens to a task. -/
inductive Served
  /-- `sse_client` is entered, or raises -/
  | connect
  | refuse (exc : String)
  /-- the server answers `initialize`, or `initialize` raises -/
  | initialized
  | reject (exc : String)
  /-- the `j`-th transport dies, and nothing tells the task -/
  | lose (j : ℕ)
  /-- a transport dies, and its task group throws that into the task -/
  | snap (exc : String)
  /-- the task, asked to close, unwinds its stack, which may raise -/
  | unwind (exc : Option String)
  deriving DecidableEq, Repr

/-- What the task does to the fields the calls read: it publishes its session, or it ends, with or
without an exception. -/
inductive Signal
  | quiet
  | up
  | down (exc : Option String)
  deriving DecidableEq, Repr

namespace SessionTask

def new : SessionTask := ⟨0, [], .connecting⟩

/-- How many transports of the task live. -/
def live (task : SessionTask) : ℕ := task.transports.count true

/-- The stack unwinds, and the task is over. -/
def ends (task : SessionTask) (stage : Stage) : SessionTask :=
  { task with transports := [], stage := stage }

/-- **An attempt fails.**  What it had entered stays on the stack; the last one's exception leaves
the task. -/
def attemptFails (task : SessionTask) (exc : String) : SessionTask × Signal :=
  if task.failures + 1 < OPEN_ATTEMPTS then
    ({ task with failures := task.failures + 1, stage := .connecting }, .quiet)
  else (task.ends .failed, .down (some exc))

/-- **`_serve_session`**, from one await to the next. -/
def step (closing : Bool) (task : SessionTask) : Served → Option (SessionTask × Signal)
  | .connect =>
    if task.stage = .connecting then
      some ({ task with transports := true :: task.transports, stage := .initializing }, .quiet)
    else none
  | .refuse exc => if task.stage = .connecting then some (task.attemptFails exc) else none
  | .initialized =>
    if task.stage = .initializing ∧ task.transports.head? = some true then
      some ({ task with stage := .parked }, .up)
    else none
  | .reject exc => if task.stage = .initializing then some (task.attemptFails exc) else none
  | .lose j =>
    if task.stage.isDone = false ∧ task.transports[j]? = some true then
      some ({ task with transports := task.transports.set j false }, .quiet)
    else none
  | .snap exc =>
    if task.transports = [] then none
    else match task.stage with
      | .connecting | .initializing => some (task.ends .failed, .down (some exc))
      | .parked => some (task.ends .lost, .down (some exc))
      | _ => none
  | .unwind exc =>
    if task.stage = .parked ∧ closing then some (task.ends .closed, .down exc) else none

/-- **What one step of a task is.** -/
inductive Moves (task : SessionTask) (e : Served) : SessionTask → Signal → Prop
  /-- it is still opening -/
  | opening {task'} : task.stage.isOpening → task'.stage.isOpening → Moves task e task' .quiet
  /-- its open transport dies unnoticed -/
  | loses {task'} (j : ℕ) : e = .lose j → task.stage = .parked → task'.stage = .parked →
    Moves task e task' .quiet
  /-- it publishes a session that lives -/
  | opens {task'} : task.stage.isOpening → task'.stage = .parked →
    task'.transports.head? = some true → Moves task e task' .up
  | fails {task'} (exc : String) : task.stage.isOpening → task'.stage = .failed →
    task'.transports = [] → Moves task e task' (.down (some exc))
  /-- its session breaks or closes -/
  | ends {task'} (exc : Option String) : (∃ exc', e = .snap exc') ∨ e = .unwind exc →
    task.stage = .parked → task'.stage = .lost ∨ task'.stage = .closed → task'.transports = [] →
    Moves task e task' (.down exc)

theorem moves_attemptFails {task : SessionTask} {e : Served} (exc : String)
    (h : task.stage.isOpening) :
    Moves task e (task.attemptFails exc).1 (task.attemptFails exc).2 := by
  unfold attemptFails
  split
  · exact .opening h rfl
  · exact .fails exc h rfl rfl

theorem moves_of_step {closing : Bool} {task task' : SessionTask} {e : Served} {signal : Signal}
    (h : task.step closing e = some (task', signal)) : Moves task e task' signal := by
  cases e with
  | connect =>
    obtain ⟨hstage, h⟩ := Option.ite_none_right_eq_some.mp h
    cases h
    exact .opening (by rw [hstage]; rfl) rfl
  | refuse exc =>
    obtain ⟨hstage, h⟩ := Option.ite_none_right_eq_some.mp h
    have hmoves : Moves task (.refuse exc) (task.attemptFails exc).1 (task.attemptFails exc).2 :=
      moves_attemptFails exc (by rw [hstage]; rfl)
    rwa [Option.some.inj h] at hmoves
  | initialized =>
    obtain ⟨⟨hstage, hhead⟩, h⟩ := Option.ite_none_right_eq_some.mp h
    cases h
    exact .opens (by rw [hstage]; rfl) rfl hhead
  | reject exc =>
    obtain ⟨hstage, h⟩ := Option.ite_none_right_eq_some.mp h
    have hmoves : Moves task (.reject exc) (task.attemptFails exc).1 (task.attemptFails exc).2 :=
      moves_attemptFails exc (by rw [hstage]; rfl)
    rwa [Option.some.inj h] at hmoves
  | lose j =>
    obtain ⟨⟨hstage, -⟩, h⟩ := Option.ite_none_right_eq_some.mp h
    cases h
    cases hs : task.stage with
    | connecting | initializing => exact .opening (by rw [hs]; rfl) rfl
    | parked => exact .loses j rfl hs rfl
    | failed | lost | closed => exact absurd hstage (by rw [hs]; decide)
  | snap exc =>
    obtain ⟨-, h⟩ := Option.ite_none_left_eq_some.mp h
    split at h
    · next hs => cases h; exact .fails exc (by rw [hs]; rfl) rfl rfl
    · next hs => cases h; exact .fails exc (by rw [hs]; rfl) rfl rfl
    · next hs => cases h; exact .ends _ (.inl ⟨exc, rfl⟩) hs (.inl rfl) rfl
    · cases h
  | unwind exc =>
    obtain ⟨⟨hstage, -⟩, h⟩ := Option.ite_none_right_eq_some.mp h
    cases h
    exact .ends exc (.inr rfl) hstage (.inr rfl) rfl

/-- A task that is over holds no transport. -/
theorem Moves.unwound {task task' : SessionTask} {e : Served} {signal : Signal}
    (h : Moves task e task' signal) (hdone : task'.stage.isDone) : task'.transports = [] := by
  cases h with
  | opening _ hopening =>
    cases hstage : task'.stage with
    | connecting | initializing => cases hstage ▸ hdone
    | parked | failed | lost | closed => cases hstage ▸ hopening
  | loses _ _ _ hparked | opens _ hparked _ => cases hparked ▸ hdone
  | fails _ _ _ hnil | ends _ _ _ _ hnil => exact hnil

theorem Moves.not_done {task task' : SessionTask} {e : Served} {signal : Signal}
    (h : Moves task e task' signal) : task.stage.isDone = false := by
  cases h with
  | opening hopening _ | opens hopening _ _ | fails _ hopening _ _ =>
    cases hstage : task.stage with
    | connecting | initializing | parked => rfl
    | failed | lost | closed => cases hstage ▸ hopening
  | loses _ _ hparked _ | ends _ _ hparked _ _ => rw [hparked]; rfl

theorem live_attemptFails (task : SessionTask) (exc : String) :
    (task.attemptFails exc).1.live ≤ task.live := by
  unfold attemptFails
  split
  · exact le_rfl
  · exact Nat.zero_le _

theorem live_set_false (task : SessionTask) (j : ℕ) :
    { task with transports := task.transports.set j false }.live ≤ task.live := by
  by_cases hj : j < task.transports.length
  · simp [live, List.count_set hj]
  · simp [live, List.set_eq_of_length_le (not_lt.mp hj)]

/-- **One transport of a task lives** as long as it enters none over one that does. -/
theorem live_step {closing : Bool} {task task' : SessionTask} {e : Served} {signal : Signal}
    (hlive : task.live ≤ 1) (he : e = .connect → true ∉ task.transports)
    (h : task.step closing e = some (task', signal)) : task'.live ≤ 1 := by
  cases e with
  | connect =>
    obtain ⟨-, h⟩ := Option.ite_none_right_eq_some.mp h
    cases h
    simp [live, List.count_eq_zero_of_not_mem (he rfl)]
  | refuse exc | reject exc =>
    obtain ⟨-, h⟩ := Option.ite_none_right_eq_some.mp h
    have hfails : (task.attemptFails exc).1.live ≤ 1 := (task.live_attemptFails exc).trans hlive
    rwa [Option.some.inj h] at hfails
  | initialized =>
    obtain ⟨-, h⟩ := Option.ite_none_right_eq_some.mp h
    cases h
    exact hlive
  | lose j =>
    obtain ⟨-, h⟩ := Option.ite_none_right_eq_some.mp h
    cases h
    exact (task.live_set_false j).trans hlive
  | snap exc =>
    obtain ⟨-, h⟩ := Option.ite_none_left_eq_some.mp h
    split at h
    · cases h; exact Nat.zero_le _
    · cases h; exact Nat.zero_le _
    · cases h; exact Nat.zero_le _
    · cases h
  | unwind exc =>
    obtain ⟨-, h⟩ := Option.ite_none_right_eq_some.mp h
    cases h
    exact Nat.zero_le _

end SessionTask

/-! ## The calls and the fields they share -/

/-- How a call of `session` ends. -/
inductive Answer
  /-- it returns the session of task `t`, whose transport lived then or did not -/
  | session (t : ℕ) (lives : Bool)
  /-- it raises `DependencyUnavailable` -/
  | unavailable (message : String)
  | assertionError
  | cancelled
  deriving DecidableEq, Repr

/-- A call of `session`, and the task it created for itself, if it did. -/
inductive Call
  /-- it waits for `_session_lock` -/
  | queued
  /-- it holds the lock, and waits for `_session_up` -/
  | waiting (own : ℕ)
  | ended (own : Option ℕ) (answer : Answer)
  deriving DecidableEq, Repr

/-- How far `aclose` has come. -/
inductive Shutdown
  | running
  | waiting (t : ℕ)
  | returned
  deriving DecidableEq, Repr

/-- **The dependencies**, as far as the session goes.  A task is known by its place among those
created. -/
structure Dependencies where
  session : Option ℕ
  lock : Option ℕ
  sessionTask : Option ℕ
  up : Bool
  closing : Bool
  error : Option String
  tasks : List SessionTask
  calls : ℕ → Option Call
  shutdown : Shutdown

/-- What happens next. -/
inductive Event
  /-- `session` is called, for the `i`-th time -/
  | call (i : ℕ)
  /-- call `i` gets the lock -/
  | enter (i : ℕ)
  /-- call `i` comes back from `_session_up` -/
  | resume (i : ℕ)
  /-- the task of call `i`'s caller is cancelled -/
  | cancel (i : ℕ)
  | served (t : ℕ) (e : Served)
  | aclose
  | acloseReturns
  /-- the task that awaits `aclose` is cancelled -/
  | acloseCancelled
  deriving DecidableEq, Repr

namespace Dependencies

def start : Dependencies := ⟨none, none, none, false, false, none, [], fun _ => none, .running⟩

/-- Task `t` has been created, and is at such a stage. -/
def taskIs (s : Dependencies) (p : Stage → Bool) (t : ℕ) : Bool :=
  s.tasks[t]?.any fun task => p task.stage

/-- Task `t` serves a session, and its transport lives. -/
def lives (s : Dependencies) (t : ℕ) : Bool :=
  s.tasks[t]?.any fun task => task.stage = .parked ∧ task.transports.head? = some true

/-- Put call `i` somewhere. -/
def put (s : Dependencies) (i : ℕ) (c : Call) : Dependencies :=
  { s with calls := Function.update s.calls i (some c) }

/-- What a call finds once `_session_up` is set. -/
def answer (s : Dependencies) : Answer :=
  match s.error, s.session with
  | some exc, _ => .unavailable ("MCP server unavailable: " ++ exc)
  | none, none => .assertionError
  | none, some t => .session t (s.lives t)

/-- `create_task`, over the handle of the task before. -/
def createTask (s : Dependencies) : Dependencies :=
  { s with tasks := s.tasks ++ [.new], sessionTask := some s.tasks.length }

/-- **`session`**, up to the lock. -/
def call (s : Dependencies) (i : ℕ) : Dependencies :=
  match s.session with
  | some t => s.put i (.ended none (.session t (s.lives t)))
  | none => s.put i .queued

/-- **`session`**, with the lock.  An event already set is not waited for. -/
def enter (s : Dependencies) (i : ℕ) : Dependencies :=
  match s.session with
  | some t => s.put i (.ended none (.session t (s.lives t)))
  | none =>
    if s.up then s.createTask.put i (.ended (some s.tasks.length) s.createTask.answer)
    else { s.createTask.put i (.waiting s.tasks.length) with lock := some i }

/-- A task writes the shared fields. -/
def publish (s : Dependencies) (t : ℕ) : Signal → Dependencies
  | .quiet => s
  | .up => { s with session := some t, up := true }
  | .down exc => { s with session := none, up := true, error := exc.or s.error }

/-- Put task `t` somewhere. -/
def setTask (s : Dependencies) (t : ℕ) (task : SessionTask) : Dependencies :=
  { s with tasks := s.tasks.set t task }

/-- The end of `aclose`. -/
def shutDown (s : Dependencies) : Dependencies :=
  { s with sessionTask := none, shutdown := .returned }

/-- **`aclose`**, up to its wait for the task. -/
def aclose (s : Dependencies) : Dependencies :=
  match s.sessionTask with
  | none => s.shutDown
  | some t =>
    if s.taskIs Stage.isDone t then { s.shutDown with closing := true }
    else { s with closing := true, shutdown := .waiting t }

/-- **One step.** -/
def step (s : Dependencies) : Event → Option Dependencies
  | .call i => if s.calls i = none then some (s.call i) else none
  | .enter i => if s.calls i = some .queued ∧ s.lock = none then some (s.enter i) else none
  | .resume i =>
    match s.calls i with
    | some (.waiting t) =>
      if s.up then some { s.put i (.ended (some t) s.answer) with lock := none } else none
    | _ => none
  | .cancel i =>
    match s.calls i with
    | some .queued => some (s.put i (.ended none .cancelled))
    | some (.waiting t) => some { s.put i (.ended (some t) .cancelled) with lock := none }
    | _ => none
  | .served t e =>
    match s.tasks[t]? with
    | some task => (task.step s.closing e).map fun r => (s.setTask t r.1).publish t r.2
    | none => none
  | .aclose => if s.shutdown = .running then some s.aclose else none
  | .acloseReturns =>
    match s.shutdown with
    | .waiting t => if s.taskIs Stage.isDone t then some s.shutDown else none
    | _ => none
  | .acloseCancelled =>
    match s.shutdown with
    | .waiting _ => some s.shutDown
    | _ => none

/-- **What one step is.** -/
inductive Does (s : Dependencies) : Event → Dependencies → Prop
  | call {i : ℕ} : s.Does (.call i) (s.call i)
  | enter {i : ℕ} (hlock : s.lock = none) : s.Does (.enter i) (s.enter i)
  | resume {i t : ℕ} (hi : s.calls i = some (.waiting t)) (hup : s.up = true) :
      s.Does (.resume i) { s.put i (.ended (some t) s.answer) with lock := none }
  /-- a call is cancelled before the lock, or with it -/
  | leaves {i : ℕ} : s.Does (.cancel i) (s.put i (.ended none .cancelled))
  | releases {i t : ℕ} (hi : s.calls i = some (.waiting t)) :
      s.Does (.cancel i) { s.put i (.ended (some t) .cancelled) with lock := none }
  | served {t : ℕ} {e : Served} {task task' : SessionTask} {signal : Signal}
      (htask : s.tasks[t]? = some task) (hserved : task.step s.closing e = some (task', signal)) :
      s.Does (.served t e) ((s.setTask t task').publish t signal)
  | aclose (hrunning : s.shutdown = .running) : s.Does .aclose s.aclose
  | acloseReturns {t : ℕ} (hdone : s.taskIs Stage.isDone t) : s.Does .acloseReturns s.shutDown
  | acloseCancelled {t : ℕ} (hwait : s.shutdown = .waiting t) : s.Does .acloseCancelled s.shutDown

theorem does_of_step {s s' : Dependencies} {e : Event} (h : s.step e = some s') : s.Does e s' := by
  cases e with
  | call i =>
    obtain ⟨-, h⟩ := Option.ite_none_right_eq_some.mp h
    cases h
    exact .call
  | enter i =>
    obtain ⟨⟨-, hlock⟩, h⟩ := Option.ite_none_right_eq_some.mp h
    cases h
    exact .enter hlock
  | resume i =>
    simp only [step] at h
    split at h
    · next t hi =>
      obtain ⟨hup, h⟩ := Option.ite_none_right_eq_some.mp h
      cases h
      exact .resume hi hup
    · cases h
  | cancel i =>
    simp only [step] at h
    split at h
    · cases h
      exact .leaves
    · next t hi =>
      cases h
      exact .releases hi
    · cases h
  | served t e =>
    simp only [step] at h
    split at h
    · next task htask =>
      obtain ⟨⟨task', signal⟩, hserved, rfl⟩ := Option.map_eq_some_iff.mp h
      exact .served htask hserved
    · cases h
  | aclose =>
    obtain ⟨hrunning, h⟩ := Option.ite_none_right_eq_some.mp h
    cases h
    exact .aclose hrunning
  | acloseReturns =>
    simp only [step] at h
    split at h
    · obtain ⟨hdone, h⟩ := Option.ite_none_right_eq_some.mp h
      cases h
      exact .acloseReturns hdone
    · cases h
  | acloseCancelled =>
    simp only [step] at h
    split at h
    · next t hwait =>
      cases h
      exact .acloseCancelled hwait
    · cases h

/-! ## The property and the condition -/

/-- **The session's lifecycle.** -/
structure Lifecycle (s : Dependencies) : Prop where
  /-- at most one transport lives -/
  one_live : (s.tasks.map SessionTask.live).sum ≤ 1
  /-- a call whose own attempt succeeded returned a session that lived -/
  returns : ∀ i t a, s.calls i = some (.ended (some t) a) → a ≠ .cancelled →
    s.taskIs Stage.isOpened t → ∃ u, a = .session u true
  /-- a call that raised `DependencyUnavailable` made an attempt, which failed -/
  raises : ∀ i own message, s.calls i = some (.ended own (.unavailable message)) →
    ∃ t ∈ own, s.taskIs Stage.isFailed t
  /-- once `aclose` has returned, every task is over, and none holds a transport -/
  closed : s.shutdown = .returned → ∀ task ∈ s.tasks, task.stage.isDone ∧ task.transports = []

/-- The call that holds the lock waits for task `t`. -/
def WaitedFor (s : Dependencies) (t : ℕ) : Prop :=
  ∃ i ∈ s.lock, s.calls i = some (.waiting t)

instance (s : Dependencies) (t : ℕ) : Decidable (s.WaitedFor t) :=
  inferInstanceAs (Decidable (∃ i ∈ s.lock, _))

/-- **The steps of a handshake used once.**  A task is created only if none has been and `aclose`
has not been called; a transport is entered only if the task holds none that lives; an open
transport breaks or closes only once its call has resumed; `aclose` is not cancelled while its task
runs. -/
def Once (s : Dependencies) : Event → Prop
  | .enter _ => s.session = none → s.tasks = [] ∧ s.shutdown = .running
  | .served t .connect => ∀ task ∈ s.tasks[t]?, true ∉ task.transports
  | .served t (.lose _) | .served t (.snap _) | .served t (.unwind _) =>
    s.taskIs Stage.isOpened t → ¬ s.WaitedFor t
  | .acloseCancelled => ∀ t, s.shutdown = .waiting t → s.taskIs Stage.isDone t
  | _ => True

instance (s : Dependencies) : (e : Event) → Decidable (s.Once e)
  | .enter _ =>
    inferInstanceAs (Decidable (s.session = none → s.tasks = [] ∧ s.shutdown = .running))
  | .served t .connect =>
    inferInstanceAs (Decidable (∀ task ∈ s.tasks[t]?, true ∉ task.transports))
  | .served t (.lose _) | .served t (.snap _) | .served t (.unwind _) =>
    inferInstanceAs (Decidable (s.taskIs Stage.isOpened t → ¬ s.WaitedFor t))
  | .acloseCancelled =>
    match hs : s.shutdown with
    | .waiting t => decidable_of_iff (s.taskIs Stage.isDone t)
        ⟨fun h _ hu => by cases hs.symm.trans hu; exact h, fun h => h t hs⟩
    | .running | .returned => isTrue fun _ hu => nomatch hs.symm.trans hu
  | .call _ | .resume _ | .cancel _ | .aclose | .acloseReturns | .served _ (.refuse _)
  | .served _ .initialized | .served _ (.reject _) => isTrue trivial

/-! ## The invariant -/

/-- What the calls read, at each stage of task `t`. -/
def Handshake (s : Dependencies) (t : ℕ) : Stage → Prop
  | .connecting | .initializing => s.session = none ∧ s.up = false ∧ s.error = none
  | .parked => s.session = some t ∧ s.up = true ∧ s.error = none
  | .failed => s.session = none ∧ s.up = true ∧ s.error.isSome
  | .lost | .closed => s.session = none ∧ s.up = true

/-- **There is one task at most**, and the fields it shares say how far it has come. -/
structure Serves (s : Dependencies) : Prop where
  one : s.tasks.length ≤ 1
  unopened : s.tasks = [] → s.session = none ∧ s.up = false ∧ s.error = none
  handshake : ∀ t task, s.tasks[t]? = some task → s.Handshake t task.stage
  live : ∀ task ∈ s.tasks, task.live ≤ 1
  unwound : ∀ task ∈ s.tasks, task.stage.isDone → task.transports = []

/-- **What a call waits for or has got.** -/
def CallOk (s : Dependencies) (i : ℕ) : Call → Prop
  | .queued | .ended _ .cancelled => True
  | .waiting t => s.lock = some i
    ∧ (s.taskIs Stage.isOpening t ∨ s.taskIs Stage.isFailed t ∨ s.lives t)
  | .ended own (.session _ lives) => own = none ∨ lives = true
  | .ended own (.unavailable _) => ∃ t ∈ own, s.taskIs Stage.isFailed t
  | .ended _ .assertionError => False

/-- **`aclose` waits for every task** there is. -/
structure Closes (s : Dependencies) : Prop where
  handle : s.shutdown = .running → s.sessionTask = none → s.tasks = []
  closed : s.shutdown = .returned → ∀ task ∈ s.tasks, task.stage.isDone

structure Inv (s : Dependencies) : Prop where
  serves : s.Serves
  calls : ∀ i c, s.calls i = some c → s.CallOk i c
  closes : s.Closes

theorem inv_start : start.Inv where
  serves := ⟨Nat.zero_le _, fun _ => ⟨rfl, rfl, rfl⟩, by rintro t task ⟨⟩, by rintro task ⟨⟩,
    by rintro task ⟨⟩⟩
  calls := by rintro i c ⟨⟩
  closes := ⟨fun _ _ => rfl, by rintro ⟨⟩⟩

section Frame

variable {s s' : Dependencies}

theorem Serves.of_eq (h : s.Serves) (ht : s'.tasks = s.tasks) (hs : s'.session = s.session)
    (hu : s'.up = s.up) (he : s'.error = s.error) : s'.Serves where
  one := ht ▸ h.one
  unopened := by
    rw [ht, hs, hu, he]
    exact h.unopened
  handshake := by
    intro t task htask
    have hold : s.Handshake t task.stage := h.handshake t task (ht ▸ htask)
    cases hstage : task.stage with
    | connecting | initializing | parked | failed | lost | closed =>
      rw [hstage] at hold
      simpa only [Handshake, hs, hu, he] using hold
  live := ht ▸ h.live
  unwound := ht ▸ h.unwound

theorem Closes.of_eq (h : s.Closes) (ht : s'.tasks = s.tasks)
    (hh : s'.sessionTask = s.sessionTask) (hd : s'.shutdown = s.shutdown) : s'.Closes where
  handle := by
    rw [ht, hh, hd]
    exact h.handle
  closed := by
    rw [ht, hd]
    exact h.closed

/-- What a call has got stays true as long as failed tasks stay failed. -/
theorem CallOk.mono {i : ℕ} {c : Call} (h : s.CallOk i c)
    (hw : ∀ t, c = .waiting t → s'.CallOk i c)
    (hf : ∀ t, s.taskIs Stage.isFailed t → s'.taskIs Stage.isFailed t) : s'.CallOk i c := by
  cases c with
  | queued => trivial
  | waiting t => exact hw t rfl
  | ended own a =>
    cases a with
    | session u lives => exact h
    | unavailable message =>
      obtain ⟨t, ht, hfailed⟩ := h
      exact ⟨t, ht, hf t hfailed⟩
    | assertionError => exact h
    | cancelled => trivial

/-- **A call moves.**  Nobody else waits, or the lock stays where it was. -/
theorem Inv.put (h : s.Inv) {i : ℕ} {c : Call} (hs : s'.Serves) (hd : s'.Closes)
    (ht : s'.tasks = s.tasks) (hc : s'.calls = Function.update s.calls i (some c))
    (hnew : s'.CallOk i c)
    (hlock : s'.lock = s.lock ∨ ∀ j t, j ≠ i → s.calls j ≠ some (.waiting t)) : s'.Inv where
  serves := hs
  calls := by
    intro j c' hj
    rw [hc] at hj
    obtain ⟨rfl, hc'⟩ | ⟨hne, hold⟩ := update_eq_some_iff.mp hj
    · cases hc'
      exact hnew
    · have hok : s.CallOk j c' := h.calls j c' hold
      refine hok.mono (fun t hwait => ?_)
        (fun t hfailed => by simpa only [taskIs, ht] using hfailed)
      subst hwait
      rcases hlock with hl | hnone
      · simpa only [CallOk, taskIs, lives, hl, ht] using hok
      · exact absurd hold (hnone j t hne)
  closes := hd

end Frame

/-! ## One step -/

section Step

variable {s s' : Dependencies}

/-- A task that failed is over. -/
theorem isDone_of_isFailed {stage : Stage} (h : stage.isFailed) : stage.isDone := by
  cases stage with
  | failed => rfl
  | connecting | initializing | parked | lost | closed => cases h

theorem handshake_opening_iff {s : Dependencies} {t : ℕ} {stage : Stage} (h : stage.isOpening) :
    s.Handshake t stage ↔ s.session = none ∧ s.up = false ∧ s.error = none := by
  cases stage with
  | connecting | initializing => exact Iff.rfl
  | parked | failed | lost | closed => cases h

theorem taskIs_iff {p : Stage → Bool} {t : ℕ} :
    s.taskIs p t ↔ ∃ task, s.tasks[t]? = some task ∧ p task.stage :=
  Option.any_eq_true _ _

/-- A task there is, is the only one. -/
theorem Serves.only (h : s.Serves) {t : ℕ} {task : SessionTask} (ht : s.tasks[t]? = some task) :
    t = 0 ∧ s.tasks = [task] := by
  have hone : s.tasks.length ≤ 1 := h.one
  obtain ⟨hlt, htask⟩ := List.getElem?_eq_some_iff.mp ht
  obtain rfl : t = 0 := by omega
  obtain ⟨only, honly⟩ := List.length_eq_one_iff.mp (by omega : s.tasks.length = 1)
  simp only [honly, List.getElem_cons_zero] at htask
  exact ⟨rfl, by rw [honly, htask]⟩

theorem Serves.all (h : s.Serves) {p : Stage → Bool} {t : ℕ} (ht : s.taskIs p t) :
    ∀ task ∈ s.tasks, p task.stage := by
  obtain ⟨task, htask, hp⟩ := taskIs_iff.mp ht
  rw [(h.only htask).2]
  exact List.forall_mem_singleton.mpr hp

theorem serves_single {task : SessionTask} (ht : s.tasks = [task])
    (hh : s.Handshake 0 task.stage) (hl : task.live ≤ 1)
    (hu : task.stage.isDone → task.transports = []) : s.Serves where
  one := by rw [ht]; exact le_rfl
  unopened := fun hnil => nomatch ht.symm.trans hnil
  handshake := by
    intro t other hother
    obtain ⟨hlt, rfl⟩ := List.getElem?_eq_some_iff.mp hother
    simp only [ht, List.length_singleton, Nat.lt_one_iff] at hlt
    subst hlt
    simpa only [ht, List.getElem_cons_zero] using hh
  live := by rw [ht]; exact List.forall_mem_singleton.mpr hl
  unwound := by rw [ht]; exact List.forall_mem_singleton.mpr hu

theorem Inv.call (h : s.Inv) (i : ℕ) : (s.call i).Inv := by
  unfold Dependencies.call
  split
  · exact h.put (h.serves.of_eq rfl rfl rfl rfl) (h.closes.of_eq rfl rfl rfl) rfl rfl (.inl rfl)
      (.inl rfl)
  · exact h.put (h.serves.of_eq rfl rfl rfl rfl) (h.closes.of_eq rfl rfl rfl) rfl rfl trivial
      (.inl rfl)

/-- Nobody waits unless the lock is held. -/
theorem Inv.lock (h : s.Inv) {i t : ℕ} (hi : s.calls i = some (.waiting t)) : s.lock = some i :=
  (h.calls i _ hi).1

/-- **A call gets the lock**: if it finds no session, it creates the first task. -/
theorem Inv.enter (h : s.Inv) {i : ℕ} (hlock : s.lock = none)
    (honce : s.session = none → s.tasks = [] ∧ s.shutdown = .running) : (s.enter i).Inv := by
  have hnone : ∀ j t, s.calls j ≠ some (.waiting t) := fun j t hj =>
    nomatch hlock.symm.trans (h.lock hj)
  unfold Dependencies.enter
  split
  · exact h.put (h.serves.of_eq rfl rfl rfl rfl) (h.closes.of_eq rfl rfl rfl) rfl rfl (.inl rfl)
      (.inl rfl)
  · next hsession =>
    obtain ⟨htasks, hrunning⟩ := honce hsession
    obtain ⟨-, hup, herror⟩ := h.serves.unopened htasks
    rw [if_neg (by rw [hup]; decide)]
    have htasks' : (s.createTask.put i (.waiting s.tasks.length)).tasks = [SessionTask.new] := by
      simp [createTask, Dependencies.put, htasks]
    refine ⟨?_, ?_, ⟨?_, ?_⟩⟩
    · exact serves_single htasks' ⟨hsession, hup, herror⟩ (Nat.zero_le _) (by rintro ⟨⟩)
    · intro j c hj
      obtain ⟨rfl, hc⟩ | ⟨-, hold⟩ := update_eq_some_iff.mp hj
      · cases hc
        exact ⟨rfl, .inl (taskIs_iff.mpr ⟨.new, by simp [createTask, Dependencies.put], rfl⟩)⟩
      · refine (h.calls j c hold).mono (fun t hwait => ?_) (fun t hfailed => ?_)
        · exact absurd (hwait ▸ hold) (hnone j t)
        · obtain ⟨task, htask, -⟩ := taskIs_iff.mp hfailed
          simp [htasks] at htask
    · rintro - ⟨⟩
    · exact fun hreturned => nomatch hrunning.symm.trans hreturned

/-- What a call finds while its task serves a session that lives… -/
theorem Serves.answer_of_lives (h : s.Serves) {t : ℕ} (ht : s.lives t) :
    s.answer = .session t true := by
  obtain ⟨task, htask, hlives⟩ := (Option.any_eq_true _ _).mp ht
  have hparked : task.stage = .parked := (of_decide_eq_true hlives).1
  have hand : s.Handshake t task.stage := h.handshake t task htask
  rw [hparked] at hand
  obtain ⟨hsession, -, herror⟩ := hand
  simp only [answer, hsession, herror, ht]

/-- …and once it has failed. -/
theorem Serves.answer_of_failed (h : s.Serves) {t : ℕ} (ht : s.taskIs Stage.isFailed t) :
    ∃ message, s.answer = .unavailable message := by
  obtain ⟨task, htask, hfailed⟩ := taskIs_iff.mp ht
  have hand : s.Handshake t task.stage := h.handshake t task htask
  cases hstage : task.stage with
  | failed =>
    rw [hstage] at hand
    obtain ⟨exc, hexc⟩ := Option.isSome_iff_exists.mp hand.2.2
    exact ⟨"MCP server unavailable: " ++ exc, by simp only [answer, hexc]⟩
  | connecting | initializing | parked | lost | closed => cases hstage ▸ hfailed

/-- **A call comes back** to a session that lives, or to the failure of its own attempt. -/
theorem Inv.resume (h : s.Inv) {i t : ℕ} (hi : s.calls i = some (.waiting t)) (hup : s.up = true) :
    { s.put i (.ended (some t) s.answer) with lock := none }.Inv := by
  have hlock : s.lock = some i := h.lock hi
  refine h.put (h.serves.of_eq rfl rfl rfl rfl) (h.closes.of_eq rfl rfl rfl) rfl rfl ?_
    (.inr fun j u hne hj => hne (Option.some.inj ((h.lock hj).symm.trans hlock)))
  obtain ⟨-, hopening | hfailed | hlives⟩ := h.calls i _ hi
  · obtain ⟨task, htask, hstage⟩ := taskIs_iff.mp hopening
    obtain ⟨-, hdown, -⟩ := (handshake_opening_iff hstage).mp (h.serves.handshake t task htask)
    exact absurd (hup.symm.trans hdown) (by decide)
  · obtain ⟨message, hmessage⟩ := h.serves.answer_of_failed hfailed
    rw [hmessage]
    exact ⟨t, rfl, hfailed⟩
  · rw [h.serves.answer_of_lives hlives]
    exact .inr rfl

theorem Inv.leaves (h : s.Inv) (i : ℕ) : (s.put i (.ended none .cancelled)).Inv :=
  h.put (h.serves.of_eq rfl rfl rfl rfl) (h.closes.of_eq rfl rfl rfl) rfl rfl trivial (.inl rfl)

theorem Inv.releases (h : s.Inv) {i t : ℕ} (hi : s.calls i = some (.waiting t)) :
    ({ s.put i (.ended (some t) .cancelled) with lock := none } : Dependencies).Inv := by
  have hlock : s.lock = some i := h.lock hi
  exact h.put (h.serves.of_eq rfl rfl rfl rfl) (h.closes.of_eq rfl rfl rfl) rfl rfl trivial
    (.inr fun j u hne hj => hne (Option.some.inj ((h.lock hj).symm.trans hlock)))

@[simp] theorem publish_tasks (s : Dependencies) (t : ℕ) (signal : Signal) :
    (s.publish t signal).tasks = s.tasks := by
  cases signal <;> rfl

@[simp] theorem publish_calls (s : Dependencies) (t : ℕ) (signal : Signal) :
    (s.publish t signal).calls = s.calls := by
  cases signal <;> rfl

@[simp] theorem publish_lock (s : Dependencies) (t : ℕ) (signal : Signal) :
    (s.publish t signal).lock = s.lock := by
  cases signal <;> rfl

@[simp] theorem publish_sessionTask (s : Dependencies) (t : ℕ) (signal : Signal) :
    (s.publish t signal).sessionTask = s.sessionTask := by
  cases signal <;> rfl

@[simp] theorem publish_shutdown (s : Dependencies) (t : ℕ) (signal : Signal) :
    (s.publish t signal).shutdown = s.shutdown := by
  cases signal <;> rfl

/-- **What a task publishes says how far it has come.** -/
theorem Serves.served (h : s.Serves) {t : ℕ} {e : Served} {task task' : SessionTask}
    {signal : Signal} (htask : s.tasks[t]? = some task)
    (hmoves : task.Moves e task' signal) (hlive : task'.live ≤ 1) :
    ((s.setTask t task').publish t signal).Serves := by
  obtain ⟨rfl, htasks⟩ := h.only htask
  have hand : s.Handshake 0 task.stage := h.handshake 0 task htask
  have htasks' : ((s.setTask 0 task').publish 0 signal).tasks = [task'] := by
    simp [setTask, htasks]
  refine serves_single htasks' ?_ hlive hmoves.unwound
  cases hmoves with
  | opening hopening hopening' =>
    exact (handshake_opening_iff hopening').mpr ((handshake_opening_iff hopening).mp hand)
  | loses j he hparked hparked' =>
    rw [hparked']
    rw [hparked] at hand
    exact hand
  | opens hopening hparked' hhead =>
    rw [hparked']
    exact ⟨rfl, rfl, ((handshake_opening_iff hopening).mp hand).2.2⟩
  | fails exc hopening hfailed hnil =>
    rw [hfailed]
    exact ⟨rfl, rfl, rfl⟩
  | ends exc he hparked hended hnil =>
    rcases hended with hlost | hclosed
    · rw [hlost]
      exact ⟨rfl, rfl⟩
    · rw [hclosed]
      exact ⟨rfl, rfl⟩

theorem getElem?_setTask {t : ℕ} {task task' : SessionTask} (htask : s.tasks[t]? = some task) :
    (s.setTask t task').tasks[t]? = some task' :=
  List.getElem?_set_self (List.getElem?_eq_some_iff.mp htask).1

/-- **A call waits** for a task that is opening, has failed, or serves a session that lives. -/
theorem CallOk.moved {i t : ℕ} {e : Served} {task task' : SessionTask} {signal : Signal}
    (h : s.CallOk i (.waiting t)) (hi : s.calls i = some (.waiting t))
    (htask : s.tasks[t]? = some task) (hmoves : task.Moves e task' signal)
    (honce : s.Once (.served t e)) :
    ((s.setTask t task').publish t signal).CallOk i (.waiting t) := by
  have hself : ((s.setTask t task').publish t signal).tasks[t]? = some task' := by
    rw [publish_tasks, getElem?_setTask htask]
  have hwaited : s.WaitedFor t := ⟨i, h.1, hi⟩
  refine ⟨by rw [publish_lock]; exact h.1, ?_⟩
  cases hmoves with
  | opening _ hopening => exact .inl (taskIs_iff.mpr ⟨task', hself, hopening⟩)
  | opens _ hparked hhead =>
    exact .inr (.inr ((Option.any_eq_true _ _).mpr ⟨task', hself, by simp [hparked, hhead]⟩))
  | fails _ _ hfailed _ =>
    exact .inr (.inl (taskIs_iff.mpr ⟨task', hself, by rw [hfailed]; rfl⟩))
  | loses j he hparked _ =>
    subst he
    exact absurd hwaited (honce (taskIs_iff.mpr ⟨task, htask, by rw [hparked]; rfl⟩))
  | ends _ he hparked _ _ =>
    have hopened : s.taskIs Stage.isOpened t := taskIs_iff.mpr ⟨task, htask, by rw [hparked]; rfl⟩
    rcases he with ⟨exc, rfl⟩ | rfl
    · exact absurd hwaited (honce hopened)
    · exact absurd hwaited (honce hopened)

/-- **A task moves** while no call waits for a session it has opened. -/
theorem Inv.served (h : s.Inv) {t : ℕ} {e : Served} {task task' : SessionTask} {signal : Signal}
    (htask : s.tasks[t]? = some task) (hstep : task.step s.closing e = some (task', signal))
    (honce : s.Once (.served t e)) : ((s.setTask t task').publish t signal).Inv := by
  have hmoves : task.Moves e task' signal := SessionTask.moves_of_step hstep
  have hmem : task ∈ s.tasks := List.mem_of_getElem? htask
  have hlive : task'.live ≤ 1 := by
    refine SessionTask.live_step (h.serves.live task hmem) (fun he => ?_) hstep
    subst he
    exact honce task htask
  refine ⟨h.serves.served htask hmoves hlive, fun i c hi => ?_, ⟨?_, ?_⟩⟩
  · rw [publish_calls] at hi
    have hok : s.CallOk i c := h.calls i c hi
    refine hok.mono (fun u hwait => ?_) (fun u hfailed => ?_)
    · subst hwait
      obtain ⟨other, hother⟩ : ∃ other, s.tasks[u]? = some other := by
        obtain ⟨-, hopening | hfailed | hlives⟩ := hok
        · exact (taskIs_iff.mp hopening).imp fun _ => And.left
        · exact (taskIs_iff.mp hfailed).imp fun _ => And.left
        · exact ((Option.any_eq_true _ _).mp hlives).imp fun _ => And.left
      obtain rfl : u = t := (h.serves.only hother).1.trans (h.serves.only htask).1.symm
      exact hok.moved hi htask hmoves honce
    · have hfailed' : task.stage.isFailed := h.serves.all hfailed task hmem
      exact absurd ((isDone_of_isFailed hfailed').symm.trans hmoves.not_done) (by decide)
  · rw [publish_shutdown, publish_sessionTask]
    intro hrunning hhandle
    exact absurd (h.closes.handle hrunning hhandle) (List.ne_nil_of_mem hmem)
  · rw [publish_shutdown]
    intro hreturned
    have hdone : task.stage.isDone := h.closes.closed hreturned task hmem
    exact absurd (hdone.symm.trans hmoves.not_done) (by decide)

/-- `aclose` touches nothing of the tasks and the calls. -/
theorem Inv.of_eq (h : s.Inv) (ht : s'.tasks = s.tasks) (hs : s'.session = s.session)
    (hu : s'.up = s.up) (he : s'.error = s.error) (hl : s'.lock = s.lock)
    (hc : s'.calls = s.calls) (hd : s'.Closes) : s'.Inv where
  serves := h.serves.of_eq ht hs hu he
  calls := by
    intro i c hi
    have hold : s.calls i = some c := hc ▸ hi
    refine (h.calls i c hold).mono (fun t hwait => ?_)
      (fun t hfailed => by simpa only [taskIs, ht] using hfailed)
    subst hwait
    simpa only [CallOk, taskIs, lives, hl, ht] using h.calls i _ hold
  closes := hd

theorem Inv.shutDown (h : s.Inv) {t : ℕ} (hdone : s.taskIs Stage.isDone t) : s.shutDown.Inv :=
  h.of_eq rfl rfl rfl rfl rfl rfl ⟨by rintro ⟨⟩, fun _ => h.serves.all hdone⟩

/-- **`aclose` is called**: with a handle it waits for the task, and without one there is none. -/
theorem Inv.aclose (h : s.Inv) (hrunning : s.shutdown = .running) : s.aclose.Inv := by
  unfold Dependencies.aclose
  split
  · next hhandle =>
    have hnil : s.tasks = [] := h.closes.handle hrunning hhandle
    refine h.of_eq rfl rfl rfl rfl rfl rfl ⟨by rintro ⟨⟩, fun _ task htask => ?_⟩
    exact absurd (hnil ▸ htask : task ∈ []) List.not_mem_nil
  · next t hhandle =>
    split
    · next hdone =>
      exact h.of_eq rfl rfl rfl rfl rfl rfl ⟨by rintro ⟨⟩, fun _ => h.serves.all hdone⟩
    · exact h.of_eq rfl rfl rfl rfl rfl rfl ⟨by rintro ⟨⟩, by rintro ⟨⟩⟩

/-- **What one step keeps.** -/
theorem inv_step {e : Event} (honce : s.Once e) (h : s.Inv) (hstep : s.step e = some s') :
    s'.Inv := by
  cases does_of_step hstep with
  | call => exact h.call _
  | enter hlock => exact h.enter hlock honce
  | resume hi hup => exact h.resume hi hup
  | leaves => exact h.leaves _
  | releases hi => exact h.releases hi
  | served htask hserved => exact h.served htask hserved honce
  | aclose hrunning => exact h.aclose hrunning
  | acloseReturns hdone => exact h.shutDown hdone
  | acloseCancelled hwait => exact h.shutDown (honce _ hwait)

theorem sum_live_le {l : List SessionTask} (hone : l.length ≤ 1)
    (hlive : ∀ task ∈ l, task.live ≤ 1) : (l.map SessionTask.live).sum ≤ 1 := by
  match l with
  | [] => exact Nat.zero_le _
  | [task] => simpa using hlive task (List.mem_singleton_self task)
  | _ :: _ :: _ => simp at hone

/-- **The invariant has the lifecycle**: a call with an attempt of its own that ended got a session
that lives, or its own attempt failed. -/
theorem Inv.lifecycle (h : s.Inv) : s.Lifecycle where
  one_live := sum_live_le h.serves.one h.serves.live
  returns := by
    intro i t a hi hnot hopened
    have hok : s.CallOk i (.ended (some t) a) := h.calls i _ hi
    cases a with
    | session u lives =>
      obtain hown | rfl := hok
      · cases hown
      · exact ⟨u, rfl⟩
    | unavailable message =>
      obtain ⟨u, hu, hfailed⟩ := hok
      cases hu
      obtain ⟨task, htask, hstage⟩ := taskIs_iff.mp hopened
      have hisFailed : task.stage.isFailed := h.serves.all hfailed task (List.mem_of_getElem? htask)
      cases hs : task.stage with
      | failed => cases hs ▸ hstage
      | connecting | initializing | parked | lost | closed => cases hs ▸ hisFailed
    | assertionError => exact hok.elim
    | cancelled => exact absurd rfl hnot
  raises := fun i own message hi => h.calls i _ hi
  closed := fun hreturned task htask =>
    have hdone : task.stage.isDone := h.closes.closed hreturned task htask
    ⟨hdone, h.serves.unwound task htask hdone⟩

end Step

end Dependencies

open Dependencies

/-! ## The lifecycle of every run -/

/-- **The session's lifecycle is kept** in every state reached along the runs whose handshake is
used once. -/
theorem exec_lifecycle {es : List Event} {s : Dependencies} (h : exec step start es = some s)
    (honce : Throughout step Once start es) : s.Lifecycle :=
  (exec_invariant_of_throughout inv_step honce inv_start h).lifecycle

/-- Two calls share the session the second attempt opens; its transport dies and a third call is
handed it; `aclose` closes it. -/
def docsRun : List Event :=
  [.call 0, .call 1, .enter 0, .served 0 (.refuse "timed out"), .served 0 .connect,
    .served 0 .initialized, .resume 0, .enter 1, .served 0 (.lose 0), .call 2, .aclose,
    .served 0 (.unwind none), .acloseReturns]

theorem lifecycle_docsRun : ∃ s, exec step start docsRun = some s ∧ s.Lifecycle := by
  have hrun : (exec step start docsRun).isSome = true := by decide
  obtain ⟨s, hs⟩ := Option.isSome_iff_exists.mp hrun
  exact ⟨s, hs, exec_lifecycle hs (by decide)⟩

/-- The first call's three attempts are refused; the second call finds the event set and the error
kept, and raises it before its own task has tried. -/
theorem later_call_refused : ∃ es s, exec step start es = some s ∧ ¬ s.Lifecycle := by
  let refuse : Event := .served 0 (.refuse "connection refused")
  refine ⟨[.call 0, .enter 0, refuse, refuse, refuse, .resume 0, .call 1, .enter 1], _, rfl,
    fun h => ?_⟩
  obtain ⟨t, ht, hfailed⟩ := h.raises 1 (some 1) "MCP server unavailable: connection refused" rfl
  cases ht
  exact absurd hfailed (by decide)

/-! ## Every call is released -/

namespace Dependencies

/-- **The event is set** once a task is no longer opening. -/
def Released (s : Dependencies) : Prop :=
  ∀ task ∈ s.tasks, task.stage.isOpening = false → s.up = true

variable {s s' : Dependencies}

/-- **What a step does to the tasks** and to the event. -/
theorem tasks_step {e : Event} (h : s.step e = some s') :
    (s'.tasks = s.tasks ∧ s'.up = s.up) ∨ (s'.tasks = s.tasks ++ [.new] ∧ s'.up = s.up)
      ∨ ∃ t e' task task' signal, s.tasks[t]? = some task ∧ task.Moves e' task' signal
        ∧ s' = (s.setTask t task').publish t signal := by
  cases does_of_step h with
  | call =>
    unfold Dependencies.call
    split <;> exact .inl ⟨rfl, rfl⟩
  | enter =>
    unfold Dependencies.enter
    split
    · exact .inl ⟨rfl, rfl⟩
    · split <;> exact .inr (.inl ⟨rfl, rfl⟩)
  | served htask hserved =>
    exact .inr (.inr ⟨_, _, _, _, _, htask, SessionTask.moves_of_step hserved, rfl⟩)
  | aclose =>
    unfold Dependencies.aclose
    split
    · exact .inl ⟨rfl, rfl⟩
    · split <;> exact .inl ⟨rfl, rfl⟩
  | resume | leaves | releases | acloseReturns | acloseCancelled => exact .inl ⟨rfl, rfl⟩

theorem released_step {e : Event} (h : s.Released) (hstep : s.step e = some s') : s'.Released := by
  rcases tasks_step hstep with
    ⟨ht, hu⟩ | ⟨ht, hu⟩ | ⟨t, e', task, task', signal, htask, hmoves, rfl⟩
  · intro other hother
    rw [hu]
    exact h other (ht ▸ hother)
  · intro other hother hended
    rw [ht] at hother
    rw [hu]
    rcases List.mem_append.mp hother with hold | hnew
    · exact h other hold hended
    · cases List.mem_singleton.mp hnew
      cases hended
  · have hkeeps : s.up = true → ((s.setTask t task').publish t signal).up = true := by
      intro hup
      cases signal with
      | quiet => exact hup
      | up | down exc => rfl
    intro other hother hended
    rw [publish_tasks] at hother
    rcases List.mem_or_eq_of_mem_set hother with hold | rfl
    · exact hkeeps (h other hold hended)
    · cases hmoves with
      | opening _ hopening => exact absurd (hended.symm.trans hopening) (by decide)
      | loses _ _ hparked _ =>
        exact hkeeps (h task (List.mem_of_getElem? htask) (by rw [hparked]; rfl))
      | opens _ _ _ | fails _ _ _ _ | ends _ _ _ _ _ => rfl

end Dependencies

/-- **No call waits for a task that is no longer opening**: it can resume. -/
theorem resume_enabled {es : List Event} {s : Dependencies} (h : exec step start es = some s)
    {i t : ℕ} (hi : s.calls i = some (.waiting t)) {task : SessionTask}
    (htask : s.tasks[t]? = some task) (hended : task.stage.isOpening = false) :
    (s.step (.resume i)).isSome := by
  have hreleased : s.Released :=
    exec_invariant (I := Released) released_step (by rintro task ⟨⟩) h
  simp only [step, hi, hreleased task (List.mem_of_getElem? htask) hended, if_true,
    Option.isSome_some]

end Agent.Session
