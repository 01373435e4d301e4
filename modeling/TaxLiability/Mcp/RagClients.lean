import TaxLiability.Machinery.Machine

/-!
# Mcp/RagClients — three clients behind an emptiness check

    looking ──empty──▸ Anthropic() ──▸ connect ──▸ from_url ──▸ reading ──▸ running ──▸ ended
        └───────────────not empty─────────────────────────────────▴

Worker threads share one dictionary, filled key by key without a lock, and the one connection in it
is never rolled back.  `calls_survive_iff`: every call ends by returning or with a failure of its
own, exactly along the runs where no call that found the dictionary begun reads a client before it
is there, and none is on a connection that a query has failed on (`Unbroken`).
-/

open Machine

namespace Mcp.RagClients

/-! ## The dictionary and its connections -/

/-- What a connection is in: no error has reached it, a transaction that an error has aborted and
only a rollback would end, or no connection any more. -/
inductive ConnStatus
  | usable
  | aborted
  | closed
  deriving DecidableEq, Repr

/-- **`_RAG_CLIENTS`**, key by key; a connection goes by the order in which it was opened. -/
structure Clients where
  anthropic : Bool
  conn : Option ℕ
  redis : Bool
  deriving DecidableEq, Repr

/-- `not _RAG_CLIENTS`. -/
def Clients.isEmpty (c : Clients) : Bool := !c.anthropic && c.conn.isNone && !c.redis

/-- Where a call stands.  `opener` says that it found the dictionary empty. -/
inductive Pc
  | looking
  | openAnthropic
  | openConn
  | openRedis
  | readConn (opener : Bool)
  | readRedis (opener : Bool) (conn : ℕ)
  | running (conn : ℕ)
  | ended
  deriving DecidableEq, Repr

/-- How a call ends. -/
inductive Outcome
  | returned
  /-- with the failure of an opening or a query of its own -/
  | raisedOwn
  /-- with a `KeyError` for a client that is not there yet -/
  | keyError
  /-- with an error for what an earlier failure has left of the connection -/
  | stale
  deriving DecidableEq, Repr

/-- **The process**: the dictionary, the state of every connection, and the calls.  `began` and
`ended` are histories: the state of the connection each call began to run with, and how the calls
have ended. -/
structure Process where
  clients : Clients
  opened : ℕ
  status : ℕ → ConnStatus
  calls : ℕ → Option Pc
  began : List ConnStatus
  ended : List (ℕ × Outcome)

/-- What the backend makes of a query. -/
inductive Answer
  | rows
  | error
  | disconnect
  deriving DecidableEq, Repr

/-- What is left of a connection after a query. -/
def Answer.leaves : Answer → ConnStatus
  | .rows => .usable
  | .error => .aborted
  | .disconnect => .closed

/-- What happens next, to call `i`. -/
inductive Event
  | call (i : ℕ)
  /-- the emptiness check -/
  | look (i : ℕ)
  | openAnthropic (i : ℕ) (ok : Bool)
  | openConn (i : ℕ) (ok : Bool)
  | openRedis (i : ℕ) (ok : Bool)
  | readConn (i : ℕ)
  | readRedis (i : ℕ)
  /-- a query on the connection -/
  | query (i : ℕ) (answer : Answer)
  /-- a failure of the model, of Redis or of the generation -/
  | fail (i : ℕ)
  | finish (i : ℕ)
  deriving DecidableEq, Repr

/-- The call whose own opening or query fails. -/
def Event.failing? : Event → Option ℕ
  | .openAnthropic i false | .openConn i false | .openRedis i false | .query i .error
  | .query i .disconnect | .fail i => some i
  | _ => none

namespace Process

/-- A process that has served no call. -/
def start : Process := ⟨⟨false, none, false⟩, 0, fun _ => .usable, fun _ => none, [], []⟩

/-- Move a call on. -/
def goto (s : Process) (i : ℕ) (pc : Pc) : Process :=
  { s with calls := Function.update s.calls i (some pc) }

/-- End a call. -/
def leave (s : Process) (i : ℕ) (outcome : Outcome) : Process :=
  { s.goto i .ended with ended := (i, outcome) :: s.ended }

/-- **One step of one call.** -/
def step (s : Process) : Event → Option Process
  | .call i =>
    match s.calls i with
    | none => some (s.goto i .looking)
    | some _ => none
  | .look i =>
    match s.calls i with
    | some .looking =>
      some (s.goto i (if s.clients.isEmpty then .openAnthropic else .readConn false))
    | _ => none
  | .openAnthropic i ok =>
    match s.calls i with
    | some .openAnthropic =>
      if ok then some { s.goto i .openConn with clients := { s.clients with anthropic := true } }
      else some (s.leave i .raisedOwn)
    | _ => none
  | .openConn i ok =>
    match s.calls i with
    | some .openConn =>
      if ok then
        some { s.goto i .openRedis with
          clients := { s.clients with conn := some s.opened }
          opened := s.opened + 1 }
      else some (s.leave i .raisedOwn)
    | _ => none
  | .openRedis i ok =>
    match s.calls i with
    | some .openRedis =>
      if ok then some { s.goto i (.readConn true) with clients := { s.clients with redis := true } }
      else some (s.leave i .raisedOwn)
    | _ => none
  | .readConn i =>
    match s.calls i with
    | some (.readConn opener) =>
      match s.clients.conn with
      | some conn => some (s.goto i (.readRedis opener conn))
      | none => some (s.leave i .keyError)
    | _ => none
  | .readRedis i =>
    match s.calls i with
    | some (.readRedis _ conn) =>
      if s.clients.redis && s.clients.anthropic then
        some { s.goto i (.running conn) with began := s.status conn :: s.began }
      else some (s.leave i .keyError)
    | _ => none
  | .query i answer =>
    match s.calls i with
    | some (.running conn) =>
      if s.status conn = .usable then
        let s := { s with status := Function.update s.status conn (answer.leaves) }
        if answer = .rows then some s else some (s.leave i .raisedOwn)
      else some (s.leave i .stale)
    | _ => none
  | .fail i =>
    match s.calls i with
    | some (.running _) => some (s.leave i .raisedOwn)
    | _ => none
  | .finish i =>
    match s.calls i with
    | some (.running _) => some (s.leave i .returned)
    | _ => none

/-! ## What a step does -/

/-- **What a step does**, by its event, with what it needs. -/
inductive Does (s : Process) : Event → Process → Prop
  | call {i : ℕ} : s.Does (.call i) (s.goto i .looking)
  | look {i : ℕ} : s.Does (.look i)
      (s.goto i (if s.clients.isEmpty then .openAnthropic else .readConn false))
  | openAnthropic {i : ℕ} : s.Does (.openAnthropic i true)
      { s.goto i .openConn with clients := { s.clients with anthropic := true } }
  | openConn {i : ℕ} (hi : s.calls i = some .openConn) : s.Does (.openConn i true)
      { s.goto i .openRedis with
        clients := { s.clients with conn := some s.opened }
        opened := s.opened + 1 }
  | openRedis {i : ℕ} (hi : s.calls i = some .openRedis) : s.Does (.openRedis i true)
      { s.goto i (.readConn true) with clients := { s.clients with redis := true } }
  /-- an opening or the work of the call fails -/
  | fails {i : ℕ} {e : Event} (he : e = .openAnthropic i false ∨ e = .openConn i false
      ∨ e = .openRedis i false ∨ e = .fail i) : s.Does e (s.leave i .raisedOwn)
  | readConn {i conn : ℕ} {opener : Bool} (hi : s.calls i = some (.readConn opener))
      (hc : s.clients.conn = some conn) : s.Does (.readConn i) (s.goto i (.readRedis opener conn))
  | noConn {i : ℕ} {opener : Bool} (hi : s.calls i = some (.readConn opener))
      (hc : s.clients.conn = none) : s.Does (.readConn i) (s.leave i .keyError)
  | readRedis {i conn : ℕ} {opener : Bool} (hi : s.calls i = some (.readRedis opener conn))
      (hr : s.clients.redis) : s.Does (.readRedis i)
      { s.goto i (.running conn) with began := s.status conn :: s.began }
  | noRedis {i conn : ℕ} {opener : Bool} (hi : s.calls i = some (.readRedis opener conn))
      (hr : s.clients.anthropic → ¬ s.clients.redis) : s.Does (.readRedis i) (s.leave i .keyError)
  | rows {i conn : ℕ} (hi : s.calls i = some (.running conn)) (hu : s.status conn = .usable) :
      s.Does (.query i .rows) { s with status := Function.update s.status conn .usable }
  | refused {i conn : ℕ} {answer : Answer} (hi : s.calls i = some (.running conn))
      (hu : s.status conn = .usable) (hanswer : answer ≠ .rows) : s.Does (.query i answer)
      (leave { s with status := Function.update s.status conn answer.leaves } i .raisedOwn)
  | stale {i conn : ℕ} {answer : Answer} (hi : s.calls i = some (.running conn))
      (hu : s.status conn ≠ .usable) : s.Does (.query i answer) (s.leave i .stale)
  | finish {i : ℕ} : s.Does (.finish i) (s.leave i .returned)

section Step

variable {s s' : Process} {i : ℕ}

theorem does_openAnthropic {ok : Bool} (h : s.step (.openAnthropic i ok) = some s') :
    s.Does (.openAnthropic i ok) s' := by
  simp only [step] at h
  split at h
  case h_2 => cases h
  case h_1 =>
    cases ok <;> cases h
    · exact .fails (.inl rfl)
    · exact .openAnthropic

theorem does_openConn {ok : Bool} (h : s.step (.openConn i ok) = some s') :
    s.Does (.openConn i ok) s' := by
  simp only [step] at h
  split at h
  case h_2 => cases h
  case h_1 hi =>
    cases ok <;> cases h
    · exact .fails (.inr (.inl rfl))
    · exact .openConn hi

theorem does_openRedis {ok : Bool} (h : s.step (.openRedis i ok) = some s') :
    s.Does (.openRedis i ok) s' := by
  simp only [step] at h
  split at h
  case h_2 => cases h
  case h_1 hi =>
    cases ok <;> cases h
    · exact .fails (.inr (.inr (.inl rfl)))
    · exact .openRedis hi

theorem does_readConn (h : s.step (.readConn i) = some s') : s.Does (.readConn i) s' := by
  simp only [step] at h
  split at h
  case h_2 => cases h
  case h_1 hi =>
    split at h <;> cases h
    case h_1 hc => exact .readConn hi hc
    case h_2 hc => exact .noConn hi hc

theorem does_readRedis (h : s.step (.readRedis i) = some s') : s.Does (.readRedis i) s' := by
  simp only [step] at h
  split at h
  case h_2 => cases h
  case h_1 hi =>
    split at h <;> cases h
    case isTrue hr => exact .readRedis hi (Bool.and_eq_true_iff.mp hr).1
    case isFalse hr =>
      exact .noRedis hi fun ha hredis => hr (Bool.and_eq_true_iff.mpr ⟨hredis, ha⟩)

theorem does_query {answer : Answer} (h : s.step (.query i answer) = some s') :
    s.Does (.query i answer) s' := by
  simp only [step] at h
  split at h
  case h_2 => cases h
  case h_1 hi =>
    split at h
    case isFalse hu =>
      cases h
      exact .stale hi hu
    case isTrue hu =>
      split at h
      case isTrue hrows =>
        subst hrows
        cases h
        exact .rows hi hu
      case isFalse hrows =>
        cases h
        exact .refused hi hu hrows

/-- **The step, taken apart.** -/
theorem does_of_step {e : Event} (h : s.step e = some s') : s.Does e s' := by
  cases e with
  | openAnthropic i ok => exact does_openAnthropic h
  | openConn i ok => exact does_openConn h
  | openRedis i ok => exact does_openRedis h
  | readConn i => exact does_readConn h
  | readRedis i => exact does_readRedis h
  | query i answer => exact does_query h
  | call i =>
    simp only [step] at h
    split at h <;> cases h
    exact .call
  | look i =>
    simp only [step] at h
    split at h <;> cases h
    exact .look
  | fail i =>
    simp only [step] at h
    split at h <;> cases h
    exact .fails (.inr (.inr (.inr rfl)))
  | finish i =>
    simp only [step] at h
    split at h <;> cases h
    exact .finish

end Step

/-! ## What the filling call may count on -/

/-- **The clients a call may count on** at each point, whatever the other calls do. -/
def Filled (c : Clients) : Pc → Prop
  | .openConn => c.anthropic
  | .openRedis => c.anthropic ∧ c.conn.isSome
  | .readConn opener => c.anthropic ∧ (opener → c.conn.isSome ∧ c.redis)
  | .readRedis opener _ => c.anthropic ∧ (opener → c.redis)
  | _ => True

/-- No client is taken out again. -/
structure Grown (c c' : Clients) : Prop where
  anthropic : c.anthropic → c'.anthropic
  conn : c.conn.isSome → c'.conn.isSome
  redis : c.redis → c'.redis

theorem Grown.refl (c : Clients) : Grown c c := ⟨id, id, id⟩

theorem Filled.mono {c c' : Clients} {pc : Pc} (h : Filled c pc) (hg : Grown c c') :
    Filled c' pc := by
  cases pc with
  | openConn => exact hg.anthropic h
  | openRedis => exact ⟨hg.anthropic h.1, hg.conn h.2⟩
  | readConn opener =>
    exact ⟨hg.anthropic h.1, fun ho => ⟨hg.conn (h.2 ho).1, hg.redis (h.2 ho).2⟩⟩
  | readRedis opener conn => exact ⟨hg.anthropic h.1, fun ho => hg.redis (h.2 ho)⟩
  | looking | openAnthropic | running conn | ended => trivial

/-- **The dictionary is filled in order.** -/
structure InOrder (s : Process) : Prop where
  first : s.clients.conn.isSome ∨ s.clients.redis → s.clients.anthropic
  calls : ∀ i pc, s.calls i = some pc → Filled s.clients pc

theorem start_inOrder : start.InOrder := ⟨by simp [start], nofun⟩

/-- A call that moves on with the dictionary no emptier. -/
theorem InOrder.move {s s' : Process} (hs : s.InOrder) {i : ℕ} {pc : Pc}
    (hcalls : s'.calls = Function.update s.calls i (some pc))
    (hg : Grown s.clients s'.clients) (hfirst : s'.clients.anthropic ∨ s'.clients = s.clients)
    (hpc : Filled s'.clients pc) : s'.InOrder where
  first := fun h => by
    rcases hfirst with hfirst | hfirst
    · exact hfirst
    · rw [hfirst] at h ⊢
      exact hs.first h
  calls := fun j pc' hj => by
    rw [hcalls] at hj
    obtain ⟨-, h⟩ | ⟨-, h⟩ := update_eq_some_iff.mp hj
    · cases h
      exact hpc
    · exact (hs.calls j pc' h).mono hg

theorem InOrder.leave {s : Process} (hs : s.InOrder) (i : ℕ) (outcome : Outcome) :
    (s.leave i outcome).InOrder :=
  hs.move rfl (.refl _) (.inr rfl) trivial

/-- A dictionary that is not empty has its first client. -/
theorem InOrder.anthropic_of_not_isEmpty {s : Process} (hs : s.InOrder)
    (h : ¬ s.clients.isEmpty) : s.clients.anthropic := by
  have h' : s.clients.anthropic = false → s.clients.conn = none → s.clients.redis = true := by
    simpa [Clients.isEmpty] using h
  by_contra ha
  cases hc : s.clients.conn with
  | none => exact ha (hs.first (.inr (h' (by simpa using ha) hc)))
  | some conn => exact ha (hs.first (.inl (by simp [hc])))

/-- **Every step fills the dictionary in order.** -/
theorem inOrder_step {s s' : Process} {e : Event} (hs : s.InOrder) (h : s.step e = some s') :
    s'.InOrder := by
  cases does_of_step h with
  | call => exact hs.move rfl (.refl _) (.inr rfl) trivial
  | look =>
    refine hs.move rfl (.refl _) (.inr rfl) ?_
    split
    · trivial
    · exact ⟨hs.anthropic_of_not_isEmpty ‹_›, nofun⟩
  | openAnthropic => exact hs.move rfl ⟨fun _ => rfl, id, id⟩ (.inl rfl) rfl
  | openConn hi =>
    have ha := hs.calls _ _ hi
    exact hs.move rfl ⟨id, fun _ => rfl, id⟩ (.inl ha) ⟨ha, rfl⟩
  | openRedis hi =>
    obtain ⟨ha, hc⟩ := hs.calls _ _ hi
    exact hs.move rfl ⟨id, id, fun _ => rfl⟩ (.inl ha) ⟨ha, fun _ => ⟨hc, rfl⟩⟩
  | readConn hi hc =>
    obtain ⟨ha, hr⟩ := hs.calls _ _ hi
    exact hs.move rfl (.refl _) (.inr rfl) ⟨ha, fun ho => (hr ho).2⟩
  | readRedis hi hr => exact hs.move rfl (.refl _) (.inr rfl) trivial
  | rows hi hu => exact ⟨hs.first, hs.calls⟩
  | refused hi hu hanswer =>
    exact InOrder.leave (s := { s with status := Function.update s.status _ _ })
      ⟨hs.first, hs.calls⟩ _ _
  | fails | noConn | noRedis | stale | finish => exact hs.leave _ _

/-! ## Calls that survive -/

/-- **No call gets ahead of the one that fills the dictionary, or onto a connection that has
failed**: one that found the dictionary begun reads only clients that are there, and a call begins
and queries only on a connection in which no query has failed. -/
def Unbroken (s : Process) : Event → Prop
  | .readConn i => s.calls i = some (.readConn false) → s.clients.conn.isSome
  | .readRedis i => ∀ pc ∈ s.calls i, match pc with
    | .readRedis opener conn => (opener = false → s.clients.redis) ∧ s.status conn = .usable
    | _ => True
  | .query i _ => ∀ pc ∈ s.calls i, match pc with
    | .running conn => s.status conn = .usable
    | _ => True
  | _ => True

/-- No call has ended for another's failure, and none began on a connection not usable. -/
def Survived (s : Process) : Prop :=
  (∀ x ∈ s.ended, x.2 = .returned ∨ x.2 = .raisedOwn) ∧ ∀ status ∈ s.began, status = .usable

theorem start_survived : start.Survived := ⟨nofun, nofun⟩

/-- A call ends as its own doing, or the survival ends with it. -/
theorem survived_leave {s : Process} {i : ℕ} {outcome : Outcome} :
    (s.leave i outcome).Survived
      ↔ s.Survived ∧ (outcome = .returned ∨ outcome = .raisedOwn) := by
  simp only [Survived, leave, goto, List.forall_mem_cons]
  tauto

/-- **A step keeps the calls alive exactly if it is unbroken.** -/
theorem survived_step {s s' : Process} {e : Event} (hs : s.InOrder) (h : s.step e = some s') :
    s'.Survived ↔ s.Survived ∧ s.Unbroken e := by
  cases does_of_step h with
  | call | look | openAnthropic | openConn | openRedis => exact (and_iff_left trivial).symm
  | fails he =>
    have hun : s.Unbroken e := by
      obtain rfl | rfl | rfl | rfl := he <;> trivial
    rw [survived_leave]
    exact and_congr_right fun _ => iff_of_true (.inr rfl) hun
  | readConn hi hc =>
    refine (and_iff_left fun _ => ?_).symm
    rw [hc]
    rfl
  | @noConn i opener hi hc =>
    have hopener := (hs.calls i _ hi).2
    rw [survived_leave]
    cases opener with
    | true => simp [hc] at hopener
    | false => simp [Unbroken, hi, hc]
  | readRedis hi hr =>
    simp only [Survived, goto, List.forall_mem_cons, Unbroken, hi, Option.mem_some_iff,
      forall_eq']
    tauto
  | @noRedis i conn opener hi hr =>
    obtain ⟨ha, hopener⟩ := hs.calls i _ hi
    rw [survived_leave]
    cases opener with
    | true => exact absurd (hopener rfl) (hr ha)
    | false => simp [Unbroken, hi, hr ha]
  | rows hi hu =>
    refine (and_iff_left ?_).symm
    simpa [Unbroken, hi] using hu
  | @refused i conn answer hi hu hanswer =>
    have hun : s.Unbroken (.query i answer) := by simpa [Unbroken, hi] using hu
    rw [survived_leave]
    exact and_congr_right fun _ => iff_of_true (.inr rfl) hun
  | stale hi hu =>
    rw [survived_leave]
    simp [Unbroken, hi, hu]
  | finish =>
    rw [survived_leave]
    simp [Unbroken]

/-- A call that ends is the one recorded, or was recorded before. -/
theorem mem_ended_leave {s : Process} {i j : ℕ} {outcome o : Outcome}
    (h : (j, o) ∈ (s.leave i outcome).ended) : (j = i ∧ o = outcome) ∨ (j, o) ∈ s.ended := by
  rcases List.mem_cons.mp h with h | h
  · cases h
    exact .inl ⟨rfl, rfl⟩
  · exact .inr h

/-- **A step ends a call with a failure of its own only where a backend fails that call.** -/
theorem failing_of_step {s s' : Process} {e : Event} (h : s.step e = some s') {j : ℕ}
    (hj : (j, .raisedOwn) ∈ s'.ended) : (j, .raisedOwn) ∈ s.ended ∨ e.failing? = some j := by
  cases does_of_step h with
  | call | look | openAnthropic | openConn | openRedis | readConn | readRedis | rows =>
    exact .inl hj
  | fails he =>
    obtain ⟨rfl, -⟩ | hj := mem_ended_leave hj
    · obtain rfl | rfl | rfl | rfl := he <;> exact .inr rfl
    · exact .inl hj
  | @refused i conn answer hi hu hanswer =>
    obtain ⟨rfl, -⟩ | hj := mem_ended_leave hj
    · cases answer with
      | rows => exact absurd rfl hanswer
      | error | disconnect => exact .inr rfl
    · exact .inl hj
  | noConn | noRedis | stale | finish =>
    obtain ⟨-, ho⟩ | hj := mem_ended_leave hj
    · cases ho
    · exact .inl hj

/-- …and so along a run. -/
theorem failing_of_exec {s t : Process} {es : List Event} (h : exec step s es = some t) {j : ℕ}
    (hj : (j, .raisedOwn) ∈ t.ended) :
    (j, .raisedOwn) ∈ s.ended ∨ ∃ e ∈ es, e.failing? = some j := by
  induction es generalizing s with
  | nil =>
    cases h
    exact .inl hj
  | cons e es ih =>
    obtain ⟨m, hm, h'⟩ := exec_cons_eq_some.mp h
    rcases ih h' with hmem | ⟨e', he', hf⟩
    · refine (failing_of_step hm hmem).imp_right fun hf => ?_
      exact ⟨e, List.mem_cons_self, hf⟩
    · exact .inr ⟨e', List.mem_cons_of_mem _ he', hf⟩

/-- **RAG clients survive failure exactly along the unbroken runs**: every call that has ended has
returned, or raised a failure that a backend made of its own opening or query, and every call began
with a usable connection. -/
theorem calls_survive_iff (es : List Event) (s : Process) (h : exec step start es = some s) :
    ((∀ x ∈ s.ended, x.2 = .returned ∨ (x.2 = .raisedOwn ∧ ∃ e ∈ es, e.failing? = some x.1))
        ∧ ∀ status ∈ s.began, status = .usable)
      ↔ Throughout step Unbroken start es := by
  have hiff := exec_iff_throughout inOrder_step survived_step start_inOrder h
  rw [and_iff_right start_survived] at hiff
  rw [← hiff, Survived]
  refine and_congr_left' ⟨fun hall x hx => (hall x hx).imp_right And.left, fun hall x hx => ?_⟩
  refine (hall x hx).imp_right fun ho => ⟨ho, ?_⟩
  have hfail := failing_of_exec h (ho ▸ hx : (x.1, .raisedOwn) ∈ s.ended)
  exact hfail.resolve_left List.not_mem_nil

/-- One call, from its opening to its answer. -/
def oneCall (i : ℕ) : List Event :=
  [.call i, .look i, .openAnthropic i true, .openConn i true, .openRedis i true, .readConn i,
    .readRedis i, .query i .rows, .query i .rows, .finish i]

theorem calls_survive_oneCall :
    ∃ s, exec step start (oneCall 0) = some s ∧ s.ended = [(0, .returned)]
      ∧ Throughout step Unbroken start (oneCall 0) := by
  have hrun : (exec step start (oneCall 0)).map (fun s => (s.ended, s.began))
      = some ([(0, .returned)], [.usable]) := by decide
  obtain ⟨s, hs, hvals⟩ := Option.map_eq_some_iff.mp hrun
  simp only [Prod.mk.injEq] at hvals
  obtain ⟨hended, hbegan⟩ := hvals
  refine ⟨s, hs, hended, (calls_survive_iff (oneCall 0) s hs).mp ⟨?_, ?_⟩⟩
  · rw [hended]
    simp
  · rw [hbegan]
    simp

/-- A first call whose connection is refused, and a call after everything is well again. -/
def refusedOnce : List Event :=
  [.call 0, .look 0, .openAnthropic 0 true, .openConn 0 false, .call 1, .look 1, .readConn 1]

/-- **A call fails for ever after**: the dictionary is no longer empty, and will never be full. -/
theorem later_call_fails :
    ¬ ∀ (es : List Event) (s : Process), exec step start es = some s →
      (∀ x ∈ s.ended, x.2 = .returned ∨ (x.2 = .raisedOwn ∧ ∃ e ∈ es, e.failing? = some x.1))
        ∧ ∀ status ∈ s.began, status = .usable := by
  intro h
  have hrun : (exec step start refusedOnce).map ended
      = some [(1, .keyError), (0, .raisedOwn)] := by decide
  obtain ⟨s, hs, hended⟩ := Option.map_eq_some_iff.mp hrun
  have hcall := (h refusedOnce s hs).1 (1, .keyError) (hended ▸ List.mem_cons_self)
  exact absurd hcall (by simp)

end Process

end Mcp.RagClients
